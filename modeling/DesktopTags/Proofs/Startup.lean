import DesktopTags.Desktop.Startup
import DesktopTags.Proofs.Calls

namespace DesktopTags

/-! ## The last slot of a compact arena -/

/-- Slots without generations behind them, and one more occupant. -/
def Arena.extended (slots : List Slot) (occupant : Occupant) : Arena where
  slots := slots ++ [⟨0, some occupant⟩]

/-- The name of the occupant behind the slots. -/
def TagRef.behind (slots : List Slot) : TagRef :=
  ⟨slots.length, 0⟩

namespace Arena

variable (slots : List Slot) (old new : Occupant)

theorem insert_compact (tag : Tag) :
    Arena.insert { slots } tag =
      (.behind slots, extended slots ⟨tag, 1, 1⟩) :=
  rfl

theorem occupant?_extended :
    (extended slots old).occupant? (.behind slots) = some old := by
  simp [extended, occupant?, TagRef.behind]

theorem modify_extended (change : Slot → Slot) (last : Slot) :
    (slots ++ [last]).modify slots.length change =
      slots ++ [change last] := by
  induction slots with
  | nil =>
      rfl
  | cons slot rest inductionHypothesis =>
      rw [List.cons_append, List.length_cons, List.modify_succ_cons,
        inductionHypothesis, List.cons_append]

theorem settle_extended (referred : 0 < new.refs) :
    (extended slots old).settle (.behind slots) new =
      extended slots new := by
  rw [settle_of_pos _ _ referred]
  simp only [put, extended, TagRef.behind, modify_extended]

end Arena

namespace Desktop

open Operation

/-! ## Building one tag -/

/-- A desktop with a compact arena and one more occupant. -/
def extended (desktop : Desktop) (slots : List Slot) (occupant : Occupant) :
    Desktop :=
  { desktop with tags := .extended slots occupant }

/-- What `addStartupTag` leaves behind. -/
def founded (desktop : Desktop) (slots : List Slot) (name : String) :
    Desktop :=
  ((desktop.extended slots ⟨{ name, activated := true }, 1, 0⟩).enlist
    (desktop.registry.push (.behind slots))).announce
      (desktopListChanged (.behind slots))

section Founding

variable {desktop : Desktop} {slots : List Slot}

theorem newTag_compact
    (compact : desktop.tags = { slots }) (name : String) :
    newTag name desktop =
      ⟨.ok (.behind slots), desktop.extended slots ⟨{ name }, 1, 1⟩,
        [.created (.behind slots) name]⟩ := by
  rw [newTag_apply, compact, Arena.insert_compact, extended]

theorem activate_extended (name : String) :
    activate (.behind slots) (desktop.extended slots ⟨{ name }, 1, 1⟩) =
      ⟨.ok (),
        ((desktop.extended slots ⟨{ name, activated := true }, 2, 1⟩).enlist
          (desktop.registry.push (.behind slots))).announce
            (desktopListChanged (.behind slots)),
        []⟩ := by
  have live :
      (desktop.extended slots ⟨{ name }, 1, 1⟩).tags.occupant?
          (.behind slots) =
        some ⟨{ name }, 1, 1⟩ :=
    Arena.occupant?_extended slots _
  rw [activate_of_inactive live Nat.one_pos rfl, settle, extended,
    Arena.settle_extended _ _ _ (Nat.succ_pos _)]
  rfl

theorem releaseTag_extended (name : String) :
    releaseTag (.behind slots)
        (((desktop.extended slots
          ⟨{ name, activated := true }, 2, 1⟩).enlist
            (desktop.registry.push (.behind slots))).announce
              (desktopListChanged (.behind slots))) =
      ⟨.ok (), desktop.founded slots name, []⟩ := by
  have live :
      (((desktop.extended slots
        ⟨{ name, activated := true }, 2, 1⟩).enlist
          (desktop.registry.push (.behind slots))).announce
            (desktopListChanged (.behind slots))).tags.occupant?
              (.behind slots) =
        some ⟨{ name, activated := true }, 2, 1⟩ :=
    Arena.occupant?_extended slots _
  rw [releaseTag_of_held live Nat.two_pos Nat.one_pos, settle,
    announce_tags]
  simp only [enlist, extended]
  rw [Arena.settle_extended _ _ _ Nat.one_pos]
  rfl

theorem addStartupTag_compact
    (compact : desktop.tags = { slots }) (name : String) :
    addStartupTag name desktop =
      ⟨.ok (), desktop.founded slots name,
        [.created (.behind slots) name]⟩ := by
  rw [addStartupTag, bind_of_ok (newTag_compact compact name),
    bind_of_quiet (activate_extended name), releaseTag_extended]
  rfl

end Founding

/-! ## Building all tags -/

/-- The slot of a tag that only the registry holds. -/
def foundedSlot (name : String) : Slot :=
  ⟨0, some ⟨{ name, activated := true }, 1, 0⟩⟩

/-- The desktop that holds activated tags of some names and nothing else. -/
def stocked (names : List String) : Desktop where
  tags := { slots := names.map foundedSlot }
  registry := ⟨(List.range names.length).map fun slot => ⟨slot, 0⟩⟩
  queue :=
    (List.range names.length).flatMap fun slot =>
      desktopListChanged ⟨slot, 0⟩

theorem founded_stocked (names : List String) (name : String) :
    (stocked names).founded (names.map foundedSlot) name =
      stocked (names ++ [name]) := by
  simp [founded, stocked, extended, Arena.extended, enlist, announce,
    Registry.push, TagRef.behind, foundedSlot, List.range_succ]

theorem addStartupTag_stocked (names : List String) (name : String) :
    addStartupTag name (stocked names) =
      ⟨.ok (), stocked (names ++ [name]),
        [.created ⟨names.length, 0⟩ name]⟩ := by
  rw [addStartupTag_compact rfl, founded_stocked]
  simp [TagRef.behind]

theorem forAll_addStartupTag (names rest : List String) :
    forAll addStartupTag rest (stocked names) =
      ⟨.ok (), stocked (names ++ rest),
        (rest.zipIdx names.length).map fun (name, slot) =>
          .created ⟨slot, 0⟩ name⟩ := by
  induction rest generalizing names with
  | nil =>
      simp [forAll]
  | cons name rest inductionHypothesis =>
      have later := inductionHypothesis (names ++ [name])
      rw [List.length_append, List.length_singleton, List.append_assoc,
        List.singleton_append] at later
      rw [forAll, bind_of_ok (addStartupTag_stocked names name), later,
        List.zipIdx_cons, List.map_cons, List.singleton_append]

theorem first?_stocked (names : List String) :
    (stocked names).registry.first? =
      if names = [] then none else some ⟨0, 0⟩ := by
  cases names with
  | nil =>
      rfl
  | cons name rest =>
      simp [stocked, Registry.first?, List.range_succ_eq_map]

/-- The desktop that settings open. Each tag is activated and held by the
registry alone, and the first one is shown if the settings ask for it. -/
def opened (settings : Settings) : Desktop where
  tags :=
    { slots := settings.tags.mapIdx fun place name =>
        ⟨0, some
          { tag :=
              { name
                selected := settings.selectFirstTag && place == 0
                activated := true }
            refs := 1
            handles := 0 }⟩ }
  registry := ⟨(List.range settings.tags.length).map fun slot => ⟨slot, 0⟩⟩
  queue :=
    ((List.range settings.tags.length).flatMap fun slot =>
        desktopListChanged ⟨slot, 0⟩) ++
      if settings.selectFirstTag = true ∧ settings.tags ≠ [] then
        [.display .invalidateBanning, Effect.property ⟨0, 0⟩ .selectedChanged]
      else []

theorem mapIdx_fun_const {α β : Type} (f : α → β) (list : List α) :
    (list.mapIdx fun _ element => f element) = list.map f := by
  rw [List.mapIdx_eq_zipIdx_map]
  exact List.map_map.symm.trans (congrArg (List.map f) (List.zipIdx_map_fst 0 list))

theorem opened_of_hidden
    {settings : Settings}
    (hidden : ¬(settings.selectFirstTag = true ∧ settings.tags ≠ [])) :
    opened settings = stocked settings.tags := by
  cases names : settings.tags with
  | nil =>
      simp [opened, stocked, names]
  | cons name rest =>
      have unshown : settings.selectFirstTag = false := by
        simpa [names] using hidden
      simp only [opened, stocked, names, unshown, Bool.false_and,
        mapIdx_fun_const, Bool.false_eq_true, false_and, if_false,
        List.append_nil]
      rfl

/-- Showing the first tag changes its slot alone. -/
theorem setSelected_stocked
    {settings : Settings}
    (shown : settings.selectFirstTag = true ∧ settings.tags ≠ []) :
    setSelected ⟨0, 0⟩ true (stocked settings.tags) =
      ⟨.ok (), opened settings, []⟩ := by
  obtain ⟨name, rest, names⟩ := List.exists_cons_of_ne_nil shown.2
  have live :
      (stocked settings.tags).tags.occupant? ⟨0, 0⟩ =
        some ⟨{ name, activated := true }, 1, 0⟩ := by
    rw [names]
    rfl
  rw [setSelected_of_change live Nat.one_pos (by simp) (fun _ => rfl)]
  simp only [opened, names, shown, List.mapIdx_cons, Bool.true_and]
  simp [stocked, announce, settle, Arena.settle, Arena.put, foundedSlot,
    mapIdx_fun_const, selectionChanged]

/-- The start of a session: nothing is refused, and no tag ends. -/
theorem start_eq (settings : Settings) :
    start settings =
      ⟨.ok (), opened settings,
        (settings.tags.zipIdx.map fun (name, slot) =>
            .created ⟨slot, 0⟩ name) ++
          [.started settings.tags.length]⟩ := by
  have built := forAll_addStartupTag [] settings.tags
  have empty : stocked [] = {} := rfl
  have listed :
      (opened settings).registry.tags.length = settings.tags.length := by
    simp [opened]
  rw [empty, List.nil_append, List.length_nil] at built
  rw [start, Operation.run, startup, bind_of_ok built]
  by_cases shown : settings.selectFirstTag = true ∧ settings.tags ≠ []
  · have chosen := setSelected_stocked shown
    simp only [shown.1, if_true, read_bind, first?_stocked, shown.2, if_false]
    rw [bind_of_quiet chosen, read_bind, report_apply, listed]
  · rw [opened_of_hidden shown] at listed ⊢
    cases selects : settings.selectFirstTag with
    | false =>
        simp only [Bool.false_eq_true, if_false, read_bind, report_apply,
          listed]
    | true =>
        have none : settings.tags = [] := by
          simpa [selects] using shown
        simp only [if_true, read_bind, first?_stocked, none, report_apply]
        rfl

/-- The desktop at the start of a session. The first tag is shown if the
settings ask for it. -/
theorem start_desktop (settings : Settings) :
    (start settings).desktop =
      if settings.selectFirstTag = true ∧ settings.tags ≠ [] then
        (setSelected ⟨0, 0⟩ true (stocked settings.tags)).desktop
      else stocked settings.tags := by
  rw [start_eq]
  split
  · rename_i shown
    rw [setSelected_stocked shown]
  · rename_i hidden
    exact opened_of_hidden hidden

end Desktop

end DesktopTags
