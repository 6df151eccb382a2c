import DesktopTags.Overview
import DesktopTags.Proofs.CurrentTag
import DesktopTags.Proofs.Mentions
import Mathlib.Data.List.Nodup
import Mathlib.Data.List.Perm.Subperm

/-!
# Overviews

An overview passes over registry entries that lead to no tag, and finds the place
of the current tag by the tag's name. On a sound desktop every entry leads to a
tag and no tag is registered twice. So nothing is passed over, and each tag is
shown at its place in the registry.
-/

namespace DesktopTags

/-- An entry that shows a tag at its place in the registry. -/
structure TagOverview.Portrays
    (entry : TagOverview) (place : Nat) (tag : Tag) : Prop where
  index : entry.index = place
  name : entry.name = tag.name
  selected : entry.selected = tag.selected
  clients : entry.clients = tag.clients

/-- An overview that shows what is on a desktop. -/
structure Overview.Portrays (overview : Overview) (desktop : Desktop) : Prop where
  length : overview.tags.length = desktop.registry.tags.length
  entry :
    ∀ (place : Nat) (ref : TagRef),
      desktop.registry.get? place = some ref →
      ∃ tag entry, desktop.tags.get? ref = some tag ∧
        overview.tags[place]? = some entry ∧ entry.Portrays place tag
  names : overview.desktopNames = overview.tags.map TagOverview.name
  currentTag :
    overview.currentTag =
      if desktop.registry.tags = [] then none else some desktop.currentIndex
  current_iff :
    ∀ (place : Nat) (entry : TagOverview),
      overview.tags[place]? = some entry →
      (entry.current = true ↔ overview.currentTag = some place)
  /-- Only one place is current, whatever the names of the tags. -/
  current_unique :
    desktop.registry.tags ≠ [] →
      ∃! place : Nat, ∃ entry, overview.tags[place]? = some entry ∧
        entry.current = true
  members_managed :
    ∀ entry ∈ overview.tags, ∀ client ∈ entry.clients,
      desktop.clients.contains client = true
  focused : overview.focusedClient = desktop.focus.current?
  focus_managed :
    ∀ client, overview.focusedClient = some client →
      desktop.clients.contains client = true
  length_le_instances : overview.tags.length ≤ overview.instances
  length_eq_instances_iff :
    overview.tags.length = overview.instances ↔
      ∀ ref tag, desktop.tags.get? ref = some tag → tag.activated = true

/-! ## Entries that all lead to a tag -/

section Resolving

variable {resolve : TagRef → Option Tag} {refs : List TagRef}
  (portray : Nat → Tag → TagOverview)

theorem length_filterMap_of_resolved
    (resolved : ∀ ref ∈ refs, (resolve ref).isSome = true) (start : Nat) :
    ((refs.zipIdx start).filterMap fun (ref, index) =>
        (resolve ref).map (portray index)).length =
      refs.length := by
  have kept :
      ∀ entry ∈ refs.zipIdx start,
        ((resolve entry.1).map (portray entry.2)).isSome = true := by
    intro entry isEntry
    rw [Option.isSome_map]
    exact resolved entry.1 (List.fst_mem_of_mem_zipIdx isEntry)
  exact (List.filterMap_length_eq_length.2 kept).trans List.length_zipIdx

/-- If every entry leads to a tag, each tag is shown at the place of its entry. -/
theorem getElem?_filterMap_of_resolved
    (resolved : ∀ ref ∈ refs, (resolve ref).isSome = true)
    (start place : Nat) :
    ((refs.zipIdx start).filterMap fun (ref, index) =>
        (resolve ref).map (portray index))[place]? =
      (refs[place]?.bind resolve).map (portray (start + place)) := by
  induction refs generalizing start place with
  | nil =>
      rfl
  | cons ref rest inductionHypothesis =>
      obtain ⟨tag, found⟩ :=
        Option.isSome_iff_exists.1 (resolved ref List.mem_cons_self)
      have later := inductionHypothesis fun other isOther =>
        resolved other (List.mem_cons_of_mem ref isOther)
      have shown : (resolve ref).map (portray start) = some (portray start tag) := by
        rw [found, Option.map_some]
      rw [List.zipIdx_cons,
        List.filterMap_cons_some (b := portray start tag) (by exact shown)]
      cases place with
      | zero =>
          simp [found]
      | succ place =>
          rw [List.getElem?_cons_succ, List.getElem?_cons_succ, later,
            Nat.add_assoc, Nat.add_comm 1 place]

end Resolving

/-- A tag that is registered once is found at its place. -/
theorem Registry.position?_of_get?
    {registry : Registry} (nodup : registry.tags.Nodup)
    {place : Nat} {ref : TagRef}
    (listed : registry.get? place = some ref) :
    registry.position? ref = some place := by
  obtain ⟨inside, same⟩ := List.getElem?_eq_some_iff.1 listed
  refine List.findIdx?_eq_some_iff_getElem.2
    ⟨inside, decide_eq_true same, ?_⟩
  intro other before found
  have again := of_decide_eq_true found
  have equal := (List.Nodup.getElem_inj_iff nodup).1 (again.trans same.symm)
  omega

namespace Desktop

variable {desktop : Desktop}

/-! ## The entries -/

/-- How a tag is shown at a place of the registry. -/
def portrait (desktop : Desktop) (place : Nat) (tag : Tag) : TagOverview where
  index := place
  name := tag.name
  selected := tag.selected
  current := desktop.currentPosition? = some place
  clients := tag.clients

theorem Agrees.resolved (agrees : desktop.Agrees) :
    ∀ ref ∈ desktop.registry.tags,
      (desktop.tags.get? ref).isSome = true := by
  intro ref listed
  obtain ⟨tag, found, _⟩ := (agrees.listed_iff ref).1 listed
  rw [found, Option.isSome_some]

theorem Agrees.length_tagOverviews (agrees : desktop.Agrees) :
    desktop.tagOverviews.length = desktop.registry.tags.length :=
  length_filterMap_of_resolved desktop.portrait agrees.resolved 0

/-- The entry at a place shows the tag that is registered there. -/
theorem Agrees.getElem?_tagOverviews
    (agrees : desktop.Agrees) (place : Nat) :
    desktop.tagOverviews[place]? =
      ((desktop.registry.get? place).bind desktop.tags.get?).map
        (desktop.portrait place) := by
  have shown :=
    getElem?_filterMap_of_resolved desktop.portrait agrees.resolved 0 place
  rw [Nat.zero_add] at shown
  exact shown

theorem Agrees.exists_entry
    (agrees : desktop.Agrees) {place : Nat} {ref : TagRef}
    (listed : desktop.registry.get? place = some ref) :
    ∃ tag, desktop.tags.get? ref = some tag ∧
      desktop.tagOverviews[place]? = some (desktop.portrait place tag) := by
  obtain ⟨tag, found, _⟩ :=
    (agrees.listed_iff ref).1 (List.mem_of_getElem? listed)
  refine ⟨tag, found, ?_⟩
  rw [agrees.getElem?_tagOverviews, listed, Option.bind_some, found,
    Option.map_some]

/-- Every entry shows a live tag. -/
theorem Agrees.eq_portrait
    (agrees : desktop.Agrees) {place : Nat} {entry : TagOverview}
    (shown : desktop.tagOverviews[place]? = some entry) :
    ∃ ref tag, desktop.registry.get? place = some ref ∧
      desktop.tags.get? ref = some tag ∧
      entry = desktop.portrait place tag := by
  rw [agrees.getElem?_tagOverviews] at shown
  obtain ⟨tag, resolved, portrayed⟩ := Option.map_eq_some_iff.1 shown
  obtain ⟨ref, listed, found⟩ := Option.bind_eq_some_iff.1 resolved
  exact ⟨ref, tag, listed, found, portrayed.symm⟩

/-! ## The current place -/

/-- The way over the tag's name leads back to the current index. -/
theorem Agrees.currentPosition?_eq (agrees : desktop.Agrees) :
    desktop.currentPosition? =
      if desktop.registry.tags = [] then none
      else some desktop.currentIndex := by
  rw [currentPosition?]
  split_ifs with empty
  · rw [(desktop.current?_eq_none_iff).2 empty, Option.bind_none]
  · obtain ⟨ref, _, current⟩ := agrees.exists_current empty
    rw [current.current, Option.bind_some]
    exact Registry.position?_of_get? agrees.registry_nodup current.current

theorem Agrees.existsUnique_current
    (agrees : desktop.Agrees) (nonempty : desktop.registry.tags ≠ []) :
    ∃! place : Nat, ∃ entry, desktop.tagOverviews[place]? = some entry ∧
      entry.current = true := by
  have position := agrees.currentPosition?_eq
  rw [if_neg nonempty] at position
  obtain ⟨ref, _, current⟩ := agrees.exists_current nonempty
  obtain ⟨tag, _, shown⟩ := agrees.exists_entry current.current
  refine ⟨desktop.currentIndex,
    ⟨_, shown, decide_eq_true position⟩, ?_⟩
  rintro place ⟨entry, isEntry, marked⟩
  obtain ⟨_, tag, _, _, rfl⟩ := agrees.eq_portrait isEntry
  have here := of_decide_eq_true marked
  exact Option.some.inj (here.symm.trans position)

/-! ## The number of tags -/

theorem Agrees.registry_subset (agrees : desktop.Agrees) :
    desktop.registry.tags ⊆ desktop.tags.refList := by
  intro ref listed
  rw [Arena.mem_refList_iff, Arena.contains, ← Option.isSome_map]
  exact agrees.resolved ref listed

theorem Agrees.length_registry_le (agrees : desktop.Agrees) :
    desktop.registry.tags.length ≤ desktop.instances := by
  rw [instances, ← Arena.length_refList]
  exact (agrees.registry_nodup.subperm agrees.registry_subset).length_le

/-- The registry is as long as there are live tags exactly if it lists them all. -/
theorem Agrees.length_registry_eq_iff (agrees : desktop.Agrees) :
    desktop.registry.tags.length = desktop.instances ↔
      ∀ ref tag, desktop.tags.get? ref = some tag → tag.activated = true := by
  have listed_of_live :
      ∀ ref tag, desktop.tags.get? ref = some tag →
        ref ∈ desktop.tags.refList := by
    intro ref tag found
    rw [Arena.mem_refList_iff, Arena.contains, ← Option.isSome_map]
    exact Option.isSome_of_mem found
  rw [instances, ← Arena.length_refList]
  constructor
  · intro full ref tag found
    have all := (agrees.registry_nodup.subperm
      agrees.registry_subset).perm_of_length_le full.ge
    have listed := all.mem_iff.2 (listed_of_live ref tag found)
    obtain ⟨same, again, active⟩ := (agrees.listed_iff ref).1 listed
    cases found.symm.trans again
    exact active
  · intro active
    have back : desktop.tags.refList ⊆ desktop.registry.tags := by
      intro ref isLive
      rw [Arena.mem_refList_iff, Arena.contains, ← Option.isSome_map] at isLive
      obtain ⟨tag, found⟩ := Option.isSome_iff_exists.1 isLive
      exact (agrees.listed_iff ref).2 ⟨tag, found, active ref tag found⟩
    exact Nat.le_antisymm
      (agrees.registry_nodup.subperm agrees.registry_subset).length_le
      (desktop.tags.refList_nodup.subperm back).length_le

/-! ## The whole overview -/

theorem Sound.overview_portrays (sound : desktop.Sound) :
    desktop.overview.Portrays desktop where
  length := sound.agrees.length_tagOverviews
  entry := by
    intro place ref listed
    obtain ⟨tag, found, shown⟩ := sound.agrees.exists_entry listed
    exact ⟨tag, _, found, shown, rfl, rfl, rfl, rfl⟩
  names := rfl
  currentTag := sound.agrees.currentPosition?_eq
  current_iff := by
    intro place entry shown
    obtain ⟨_, tag, _, _, rfl⟩ := sound.agrees.eq_portrait shown
    exact decide_eq_true_iff
  current_unique := sound.agrees.existsUnique_current
  members_managed := by
    intro entry isEntry client member
    obtain ⟨place, shown⟩ := List.mem_iff_getElem?.1 isEntry
    obtain ⟨ref, tag, _, found, rfl⟩ := sound.agrees.eq_portrait shown
    exact sound.grounded.members_managed ref tag found client member
  focused := rfl
  focus_managed := by
    intro client focused
    exact sound.focus_managed client (FocusHistory.mem_of_current? focused)
  length_le_instances :=
    sound.agrees.length_tagOverviews.trans_le sound.agrees.length_registry_le
  length_eq_instances_iff := by
    change desktop.tagOverviews.length = desktop.instances ↔ _
    rw [sound.agrees.length_tagOverviews]
    exact sound.agrees.length_registry_eq_iff

/-- On every desktop that a run comes to, the overview shows each registered tag
at its place, marks the current one alone, and mentions managed clients only. It
counts the tags that are not activated, but does not show them. -/
theorem overview_agrees
    {desktop : Desktop} (reachable : desktop.Reachable) :
    desktop.overview.Portrays desktop :=
  reachable.sound.overview_portrays

/-- Two tags share a name, the second is current, and a third is not activated. -/
theorem overview_agrees_of_shared_name :
    let desktop := (start { tags := ["web", "web"] }).desktop.after
      [.addScreen "DP-1", .manageClient ⟨7⟩ ⟨0⟩, .tagClient ⟨1, 0⟩ ⟨7⟩,
        .setSelected ⟨1, 0⟩ true, .focusClient ⟨7⟩, .newTag "notes"]
    desktop.Reachable ∧
      desktop.overview.desktopNames = ["web", "web"] ∧
      desktop.overview.currentTag = some 1 ∧
      desktop.overview.tags[1]? = some ⟨1, "web", true, true, [⟨7⟩]⟩ ∧
      desktop.clients.contains ⟨7⟩ = true ∧
      (∃! place : Nat, ∃ entry, desktop.overview.tags[place]? = some entry ∧
        entry.current = true) ∧
      desktop.overview.tags.length < desktop.overview.instances := by
  intro desktop
  have reachable : desktop.Reachable := (Reachable.start _).after _
  have portrays := overview_agrees reachable
  have shown :
      desktop.overview.tags[1]? = some ⟨1, "web", true, true, [⟨7⟩]⟩ := by
    decide
  have inactive :
      desktop.tags.get? ⟨2, 0⟩ = some ⟨"notes", false, false, []⟩ := by
    decide
  have fewer : desktop.overview.tags.length ≠ desktop.overview.instances := by
    intro same
    have active := portrays.length_eq_instances_iff.1 same _ _ inactive
    contradiction
  exact ⟨reachable, by decide, (portrays.current_iff 1 _ shown).1 rfl, shown,
    portrays.members_managed _ (List.mem_of_getElem? shown) ⟨7⟩
      List.mem_cons_self,
    portrays.current_unique (by decide),
    Nat.lt_of_le_of_ne portrays.length_le_instances fewer⟩

end Desktop

end DesktopTags
