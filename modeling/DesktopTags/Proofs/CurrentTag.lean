import DesktopTags.Desktop.CurrentTag
import DesktopTags.Proofs.Activation
import Mathlib.Order.Bounds.Basic

/-!
# The current tag

Two searches of the registry, one after the other, and index 0 after both. Index
0 is also what a search may find, so the index is described by the registry
positions that each search looks for. A search tells nothing about tags outside
the registry, and on a sound desktop none of those is shown.
-/

namespace DesktopTags.Desktop

/-- The registry positions of the live tags with a property. -/
def positions (desktop : Desktop) (property : Tag → Prop) : Set Nat :=
  {index | ∃ ref tag,
    desktop.registry.get? index = some ref ∧
      desktop.tags.get? ref = some tag ∧ property tag}

/-- The registry positions of the tags that are shown. -/
def shownPositions (desktop : Desktop) : Set Nat :=
  desktop.positions fun tag => tag.selected = true

/-- The registry positions of the tags that are shown and hold the focused
client. -/
def focusedPositions (desktop : Desktop) : Set Nat :=
  desktop.positions fun tag =>
    tag.selected = true ∧
      ∃ client, desktop.focus.current? = some client ∧ client ∈ tag.clients

/-- What a search finds among some positions: the least one, or that there is
none. -/
def FindsLeast (places : Set Nat) : Option Nat → Prop
  | some index => IsLeast places index
  | none => places = ∅

/-- An index that is the least one of the best kind there is. -/
structure Points (desktop : Desktop) (index : Nat) : Prop where
  focused :
    desktop.focusedPositions.Nonempty → IsLeast desktop.focusedPositions index
  shown :
    desktop.focusedPositions = ∅ → desktop.shownPositions.Nonempty →
      IsLeast desktop.shownPositions index
  fallback : desktop.shownPositions = ∅ → index = 0

section Searches

variable (desktop : Desktop)

theorem focusedPositions_subset :
    desktop.focusedPositions ⊆ desktop.shownPositions := by
  rintro index ⟨ref, tag, listed, found, shown, _⟩
  exact ⟨ref, tag, listed, found, shown⟩

theorem lt_length_of_mem_positions
    {desktop : Desktop} {property : Tag → Prop} {index : Nat}
    (placed : index ∈ desktop.positions property) :
    index < desktop.registry.tags.length := by
  obtain ⟨ref, _, listed, _⟩ := placed
  exact (List.getElem?_eq_some_iff.1 listed).1

/-- A test of the registry's entries that is right about a property of tags
finds the first tag with it. -/
theorem findIdx?_finds
    {test : TagRef → Bool} {property : Tag → Prop}
    (right : ∀ ref, test ref = true ↔
      ∃ tag, desktop.tags.get? ref = some tag ∧ property tag) :
    FindsLeast (desktop.positions property)
      (desktop.registry.tags.findIdx? test) := by
  -- A position is one that passes the test.
  have passes :
      ∀ index, index ∈ desktop.positions property ↔
        ∃ inside : index < desktop.registry.tags.length,
          test desktop.registry.tags[index] = true := by
    intro index
    constructor
    · rintro ⟨ref, tag, listed, found⟩
      obtain ⟨inside, same⟩ := List.getElem?_eq_some_iff.1 listed
      exact ⟨inside, (right _).2 ⟨tag, by rw [same]; exact found⟩⟩
    · rintro ⟨inside, passed⟩
      obtain ⟨tag, found⟩ := (right _).1 passed
      exact ⟨_, tag, List.getElem?_eq_getElem inside, found⟩
  cases search : desktop.registry.tags.findIdx? test with
  | some index =>
      obtain ⟨inside, passed, earlier⟩ :=
        List.findIdx?_eq_some_iff_getElem.1 search
      refine ⟨(passes index).2 ⟨inside, passed⟩, ?_⟩
      intro other placed
      obtain ⟨_, other_passed⟩ := (passes other).1 placed
      by_contra before
      exact earlier other (Nat.lt_of_not_le before) other_passed
  | none =>
      refine Set.eq_empty_iff_forall_notMem.2 ?_
      intro index placed
      obtain ⟨inside, passed⟩ := (passes index).1 placed
      have failed :=
        List.findIdx?_eq_none_iff.1 search _ (List.getElem_mem inside)
      rw [passed] at failed
      contradiction

theorem isSelected_iff (ref : TagRef) :
    desktop.isSelected ref = true ↔
      ∃ tag, desktop.tags.get? ref = some tag ∧ tag.selected = true := by
  rw [isSelected, Option.any_eq_true]

/-- The two tests of a registry entry are about one tag. -/
theorem isSelected_and_isTagged_iff (client : ClientId) (ref : TagRef) :
    (desktop.isSelected ref && desktop.isTagged client ref) = true ↔
      ∃ tag, desktop.tags.get? ref = some tag ∧
        tag.selected = true ∧ client ∈ tag.clients := by
  rw [isSelected, isTagged]
  cases desktop.tags.get? ref <;> simp [Tag.hasClient_iff]

theorem selectedPosition?_finds :
    FindsLeast desktop.shownPositions desktop.selectedPosition? :=
  desktop.findIdx?_finds desktop.isSelected_iff

theorem focusedPosition?_finds :
    FindsLeast desktop.focusedPositions desktop.focusedPosition? := by
  rw [focusedPosition?]
  cases focus : desktop.focus.current? with
  | none =>
      refine Set.eq_empty_iff_forall_notMem.2 ?_
      rintro index ⟨_, _, _, _, _, client, focused, _⟩
      rw [focus] at focused
      contradiction
  | some client =>
      refine desktop.findIdx?_finds ?_
      intro ref
      rw [isSelected_and_isTagged_iff, focus]
      simp only [Option.some.injEq, exists_eq_left']

theorem currentIndex_points : desktop.Points desktop.currentIndex := by
  have first := desktop.focusedPosition?_finds
  have second := desktop.selectedPosition?_finds
  rw [currentIndex]
  cases focused : desktop.focusedPosition? with
  | some index =>
      rw [focused] at first
      have least : IsLeast desktop.focusedPositions index := first
      have shown : desktop.shownPositions.Nonempty :=
        least.nonempty.mono desktop.focusedPositions_subset
      constructor
      · exact fun _ => least
      · exact fun lacking => absurd lacking least.nonempty.ne_empty
      · exact fun hidden => absurd hidden shown.ne_empty
  | none =>
      rw [focused] at first
      have lacking : desktop.focusedPositions = ∅ := first
      cases selected : desktop.selectedPosition? with
      | some index =>
          rw [selected] at second
          have least : IsLeast desktop.shownPositions index := second
          constructor
          · exact fun held => absurd lacking held.ne_empty
          · exact fun _ _ => least
          · exact fun hidden => absurd hidden least.nonempty.ne_empty
      | none =>
          rw [selected] at second
          have hidden : desktop.shownPositions = ∅ := second
          constructor
          · exact fun held => absurd lacking held.ne_empty
          · exact fun _ shown => absurd hidden shown.ne_empty
          · exact fun _ => rfl

end Searches

namespace Points

variable {desktop : Desktop} {index : Nat}

theorem mem_shown
    (points : desktop.Points index)
    (some_shown : desktop.shownPositions.Nonempty) :
    index ∈ desktop.shownPositions := by
  rcases desktop.focusedPositions.eq_empty_or_nonempty with
    lacking | focused
  · exact (points.shown lacking some_shown).1
  · exact desktop.focusedPositions_subset (points.focused focused).1

theorem lt_length
    (points : desktop.Points index) (nonempty : desktop.registry.tags ≠ []) :
    index < desktop.registry.tags.length := by
  rcases desktop.shownPositions.eq_empty_or_nonempty with
    hidden | some_shown
  · rw [points.fallback hidden]
    exact List.length_pos_iff.2 nonempty
  · exact lt_length_of_mem_positions (points.mem_shown some_shown)

end Points

theorem current?_eq_none_iff (desktop : Desktop) :
    desktop.current? = none ↔ desktop.registry.tags = [] := by
  rw [current?, Registry.get?, List.getElem?_eq_none_iff]
  constructor
  · intro outside
    by_contra nonempty
    have inside := desktop.currentIndex_points.lt_length nonempty
    omega
  · intro empty
    simp [empty]

/-- A shown tag has a registry position. -/
theorem Agrees.shownPositions_nonempty
    {desktop : Desktop} (agrees : desktop.Agrees)
    {ref : TagRef} {tag : Tag} (found : desktop.tags.get? ref = some tag)
    (shown : tag.selected = true) :
    desktop.shownPositions.Nonempty := by
  have active := agrees.active_of_selected ref tag found shown
  have listed := (agrees.listed_iff ref).2 ⟨tag, found, active⟩
  obtain ⟨index, position⟩ := List.mem_iff_getElem?.1 listed
  exact ⟨index, ref, tag, position, found, shown⟩

/-- The current tag of a desktop: it is live and activated, and it is shown if
any live tag is. -/
structure IsCurrent (desktop : Desktop) (ref : TagRef) (tag : Tag) : Prop where
  current : desktop.current? = some ref
  found : desktop.tags.get? ref = some tag
  active : tag.activated = true
  shown :
    (∃ other shown, desktop.tags.get? other = some shown ∧
      shown.selected = true) → tag.selected = true

theorem Agrees.exists_current
    {desktop : Desktop} (agrees : desktop.Agrees)
    (nonempty : desktop.registry.tags ≠ []) :
    ∃ ref tag, desktop.IsCurrent ref tag := by
  have points := desktop.currentIndex_points
  have inside := points.lt_length nonempty
  obtain ⟨ref, position⟩ :
      ∃ ref, desktop.registry.get? desktop.currentIndex = some ref :=
    ⟨_, List.getElem?_eq_getElem inside⟩
  have listed : ref ∈ desktop.registry.tags := List.mem_of_getElem? position
  obtain ⟨tag, found, active⟩ := (agrees.listed_iff ref).1 listed
  refine ⟨ref, tag, position, found, active, ?_⟩
  rintro ⟨other, shown, other_found, other_shown⟩
  have some_shown := agrees.shownPositions_nonempty other_found other_shown
  obtain ⟨same, again, same_position, same_found, same_shown⟩ :=
    points.mem_shown some_shown
  obtain rfl : ref = same :=
    Option.some.inj (position.symm.trans same_position)
  obtain rfl : tag = again := Option.some.inj (found.symm.trans same_found)
  exact same_shown

/-- The current index is the least registry position of a shown tag that holds
the focused client, else the least one of a shown tag, else 0. It is in range
and leads to a tag unless the registry is empty. On a desktop that a run comes
to this tag is activated, and shown if any tag is. -/
theorem current_is_least_match (desktop : Desktop) :
    desktop.Points desktop.currentIndex ∧
      (desktop.registry.tags ≠ [] →
        desktop.currentIndex < desktop.registry.tags.length) ∧
      (desktop.current? = none ↔ desktop.registry.tags = []) ∧
      (desktop.Reachable → desktop.registry.tags ≠ [] →
        ∃ ref tag, desktop.IsCurrent ref tag) := by
  refine ⟨desktop.currentIndex_points, desktop.currentIndex_points.lt_length,
    desktop.current?_eq_none_iff, ?_⟩
  intro reachable nonempty
  exact reachable.sound.agrees.exists_current nonempty

/-- Both later tags are shown, and the last one holds the focused client. -/
theorem current_is_least_match_of_focused_last :
    let desktop := (start { tags := ["main", "mail", "web"] }).desktop.after
      [.addScreen "DP-1", .setSelected ⟨0, 0⟩ false, .setSelected ⟨1, 0⟩ true,
        .setSelected ⟨2, 0⟩ true, .manageClient ⟨7⟩ ⟨0⟩,
        .tagClient ⟨2, 0⟩ ⟨7⟩, .focusClient ⟨7⟩]
    let unfocused := (Call.run .unfocus desktop).desktop
    desktop.Reachable ∧ IsLeast desktop.focusedPositions 2 ∧
      desktop.current? = some ⟨2, 0⟩ ∧
      unfocused.focusedPositions = ∅ ∧ IsLeast unfocused.shownPositions 1 ∧
      ∃ tag, unfocused.IsCurrent ⟨1, 0⟩ tag ∧ tag.selected = true := by
  intro desktop unfocused
  have reachable : desktop.Reachable := (Reachable.start _).after _
  obtain ⟨points, _, _, _⟩ := current_is_least_match desktop
  obtain ⟨later_points, _, _, exists_current⟩ :=
    current_is_least_match unfocused
  have focused : desktop.focusedPositions.Nonempty :=
    ⟨2, ⟨2, 0⟩, ⟨"web", true, true, [⟨7⟩]⟩, by decide, by decide, rfl, ⟨7⟩,
      by decide, by decide⟩
  have lacking : unfocused.focusedPositions = ∅ := by
    refine Set.eq_empty_iff_forall_notMem.2 ?_
    rintro index ⟨_, _, _, _, _, client, focus, _⟩
    have none_focused : unfocused.focus.current? = none := by decide
    rw [none_focused] at focus
    contradiction
  have found :
      unfocused.tags.get? ⟨1, 0⟩ = some ⟨"mail", true, true, []⟩ := by
    decide
  have shown : unfocused.shownPositions.Nonempty :=
    ⟨1, ⟨1, 0⟩, _, by decide, found, rfl⟩
  have index : unfocused.currentIndex = 1 := by decide
  obtain ⟨ref, tag, current⟩ :=
    exists_current (reachable.call .unfocus) (by decide)
  have same : ref = ⟨1, 0⟩ := by
    have resolved : unfocused.current? = some ⟨1, 0⟩ := by decide
    exact Option.some.inj (current.current.symm.trans resolved)
  subst same
  have second := later_points.shown lacking shown
  rw [index] at second
  exact ⟨reachable, points.focused focused, by decide, lacking, second,
    tag, current, current.shown ⟨_, _, found, rfl⟩⟩

end DesktopTags.Desktop
