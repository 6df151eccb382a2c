import DesktopTags.Proofs.Generations

/-!
# A tag that leaves the registry

Deactivating a tag takes away its place in the registry, its flags and one
reference. If that was the last one the tag is destroyed, and otherwise it stays
as it is and may be activated again.
-/

namespace DesktopTags.Desktop

open Operation

/-- A tag that is destroyed. Its slot is vacant, one generation on and the next
to be taken, and its name leads nowhere, though what is queued still bears it. -/
structure Vacates
    (desktop : Desktop) (ref : TagRef) (after : Desktop) : Prop where
  slot : after.tags.slots[ref.slot]? = some ⟨ref.generation + 1, none⟩
  free : after.tags.free = ref.slot :: desktop.tags.free
  stale : after.Stale ref
  named : Effect.property ref .activatedChanged ∈ after.queue

/-- A tag that stays without its place in the registry. -/
structure Outlasts
    (desktop : Desktop) (ref : TagRef) (old : Occupant) (after : Desktop) :
    Prop where
  tag :
    ∃ new, after.tags.occupant? ref = some new ∧
      new.tag = { old.tag with activated := false, selected := false } ∧
      new.handles = old.handles ∧ new.refs + 1 = old.refs
  free : after.tags.free = desktop.tags.free

/-- A desktop on which a tag has left the registry, and that keeps everything
else. -/
structure Retires
    (desktop : Desktop) (ref : TagRef) (old : Occupant) (after : Desktop) :
    Prop where
  queue :
    after.queue =
      desktop.queue ++
        (if old.tag.selected = true then
          [Effect.property ref .selectedChanged, .display .invalidateBanning]
        else []) ++
        [.display .updateDesktopCount, .display .updateDesktopNames,
          Effect.property ref .activatedChanged]
  listed : ref ∈ desktop.registry.tags
  registry :
    after.registry.tags =
      desktop.registry.tags.filter fun other => other ≠ ref
  destroyed :
    old.handles = 0 → old.tag.clients = [] → desktop.Vacates ref after
  kept :
    ¬ (old.handles = 0 ∧ old.tag.clients = []) →
      desktop.Outlasts ref old after
  slots :
    ∀ slot, slot ≠ ref.slot →
      after.tags.slots[slot]? = desktop.tags.slots[slot]?
  others :
    ∀ other, other ≠ ref →
      after.tags.occupant? other = desktop.tags.occupant? other
  screens : after.screens = desktop.screens
  clients : after.clients = desktop.clients
  focus : after.focus = desktop.focus

section Retires

variable {desktop : Desktop} {ref : TagRef} {old : Occupant}

/-- The occupant of a tag that leaves the registry, before it is settled. -/
def discharged (old : Occupant) : Occupant :=
  { old with tag := retired old.tag, refs := old.refs - 1 }

/-- The registry was the last to hold a tag without handles and members. -/
theorem Sound.discharged_refs_eq_zero_iff
    (sound : desktop.Sound) (live : desktop.tags.occupant? ref = some old)
    (active : old.tag.activated = true) :
    (discharged old).refs = 0 ↔ old.handles = 0 ∧ old.tag.clients = [] := by
  have count := sound.refs_eq live
  rw [active, Bool.toNat_true] at count
  rw [discharged, ← List.length_eq_zero_iff]
  simp only
  omega

/-- The desktop after a tag has left the registry. -/
def discharge (desktop : Desktop) (ref : TagRef) (old : Occupant) : Desktop :=
  ((desktop.settle ref (discharged old)).enlist
    (desktop.registry.erase ref)).announce
      (hidden ref old.tag ++ desktopListChanged ref)

theorem Sound.deactivate_discharges
    (sound : desktop.Sound) (live : desktop.tags.occupant? ref = some old)
    (active : old.tag.activated = true) :
    (Call.deactivate ref).run desktop =
      ⟨.ok .done, desktop.discharge ref old,
        parting ref (discharged old)⟩ := by
  have registered := (sound.registered_iff live).2 active
  exact Call.thenDone_of
    (deactivate_of_active live (sound.referred live) active registered)

theorem discharge_vacates
    (live : desktop.tags.occupant? ref = some old)
    (spent : (discharged old).refs = 0) :
    desktop.Vacates ref (desktop.discharge ref old) := by
  have gone : (desktop.discharge ref old).tags.occupant? ref = none := by
    have settled := Arena.occupant?_settle live (discharged old) ref
    rw [if_pos rfl, (Arena.remains_eq_none_iff _).2 spent] at settled
    exact settled
  constructor
  · have settled := Arena.slot_settle_self live (discharged old)
    rw [Arena.settledSlot, if_pos spent] at settled
    exact settled
  · have freed := Arena.free_settle desktop.tags ref (discharged old)
    rw [Arena.freed, if_pos spent] at freed
    exact freed
  · exact stale_of_gone gone
  · simp [discharge, announce, desktopListChanged]

theorem discharge_outlasts
    (live : desktop.tags.occupant? ref = some old)
    (kept : (discharged old).refs ≠ 0) :
    desktop.Outlasts ref old (desktop.discharge ref old) := by
  constructor
  · refine ⟨discharged old, ?_, rfl, rfl, ?_⟩
    · exact occupant?_settle_self live _ (Nat.pos_of_ne_zero kept)
    · rw [discharged] at kept ⊢
      simp only at kept ⊢
      omega
  · have freed := Arena.free_settle desktop.tags ref (discharged old)
    rw [Arena.freed, if_neg kept] at freed
    exact freed

theorem Sound.discharge_retires
    (sound : desktop.Sound) (live : desktop.tags.occupant? ref = some old)
    (active : old.tag.activated = true) :
    desktop.Retires ref old (desktop.discharge ref old) where
  queue := by
    simp only [discharge, announce, enlist, settle, hidden, desktopListChanged,
      List.append_assoc]
  listed := (sound.registered_iff live).2 active
  registry := by
    have erased := sound.registry_nodup.erase_eq_filter ref
    simpa [discharge, announce, enlist, Registry.erase, bne, beq_eq_decide]
      using erased
  destroyed := by
    intro returned empty
    exact discharge_vacates live
      ((sound.discharged_refs_eq_zero_iff live active).2 ⟨returned, empty⟩)
  kept := by
    intro held
    apply discharge_outlasts live
    rwa [ne_eq, sound.discharged_refs_eq_zero_iff live active]
  slots := by
    intro slot elsewhere
    exact desktop.tags.slot_settle_of_ne elsewhere.symm (discharged old)
  others := by
    intro other different
    have settled := Arena.occupant?_settle live (discharged old) other
    rw [if_neg different] at settled
    exact settled
  screens := rfl
  clients := rfl
  focus := rfl

end Retires

end DesktopTags.Desktop

namespace DesktopTags

/-! ## What comes later -/

/-- A name whose tag is destroyed leads nowhere before 2 ^ 32 tags have been
destroyed in its slot. -/
theorem Moment.Reached.stale_later
    {moment middle later : Moment} {ref : TagRef}
    (reached : moment.Reached)
    (lives : moment.desktop.tags.contains ref = true)
    (toMiddle : moment.Leads middle) (fromMiddle : middle.Leads later)
    (gone : middle.desktop.tags.contains ref = false)
    (bounded :
      later.destroyed ref.slot <
        moment.destroyed ref.slot + UInt32.size) :
    later.desktop.Stale ref := by
  have resolves := reached.resolves lives (toMiddle.trans fromMiddle)
  have ended := resolves.ended middle toMiddle fromMiddle gone
  apply Desktop.stale_of_gone
  rw [← Desktop.contains_eq_false_iff, ← Bool.not_eq_true,
    resolves.contains_iff]
  rintro ⟨_, divides⟩
  have round := Nat.le_of_dvd (by omega) divides
  omega

namespace Desktop

/-- A live tag that is not activated goes to the end of the registry. -/
theorem Sound.activate_appends
    {desktop : Desktop} (sound : desktop.Sound)
    {ref : TagRef} {old : Occupant}
    (live : desktop.tags.occupant? ref = some old)
    (inactive : old.tag.activated = false) :
    ((Call.activate ref).run desktop).answer = .ok .done ∧
      ((Call.activate ref).run desktop).desktop.registry.tags =
        desktop.registry.tags ++ [ref] := by
  have done :=
    Call.thenDone_of (activate_of_inactive live (sound.referred live) inactive)
  rw [Call.run, done]
  exact ⟨rfl, rfl⟩

/-- Deactivating an activated tag succeeds, and takes away its place in the
registry, its flags and one reference, and the tag with its last reference.
However the run goes on, the name of a tag that is destroyed leads nowhere until
its slot has gone through all generations, and a tag that stays goes to the end
of the registry when it is activated again. -/
theorem deactivate_exact
    {desktop : Desktop} (reachable : desktop.Reachable)
    {ref : TagRef} {old : Occupant}
    (live : desktop.tags.occupant? ref = some old)
    (active : old.tag.activated = true) :
    ((Call.deactivate ref).run desktop).answer = .ok .done ∧
      desktop.Retires ref old ((Call.deactivate ref).run desktop).desktop ∧
      ∀ moment : Moment, moment.Reached → moment.desktop = desktop →
        ∀ later, (moment.call (.deactivate ref)).Leads later →
          (old.handles = 0 → old.tag.clients = [] →
            later.destroyed ref.slot <
                moment.destroyed ref.slot + UInt32.size →
              later.desktop.Stale ref) ∧
          ∀ now, later.desktop.tags.occupant? ref = some now →
            now.tag.activated = false →
              ((Call.activate ref).run later.desktop).answer = .ok .done ∧
                ((Call.activate ref).run later.desktop).desktop.registry.tags =
                  later.desktop.registry.tags ++ [ref] := by
  have sound := reachable.sound
  have retires := sound.discharge_retires live active
  rw [sound.deactivate_discharges live active]
  refine ⟨rfl, retires, ?_⟩
  intro moment reached now later leads
  subst now
  have step : moment.Leads (moment.call (.deactivate ref)) :=
    .single (.call moment (.deactivate ref))
  constructor
  · intro returned empty bounded
    have vacates := retires.destroyed returned empty
    refine reached.stale_later (contains_of_live live) step leads ?_ bounded
    rw [Moment.call, sound.deactivate_discharges live active]
    exact vacates.stale.contains
  · intro now lives inactive
    exact ((reached.leads step).leads leads).sound.activate_appends lives
      inactive

/-- A tag that is shown and has a member stays, and one that only the registry
holds is destroyed. -/
theorem deactivate_exact_of_shown_and_last :
    let moment := (Moment.start { tags := ["main", "mail"] }).calls
      [.addScreen "DP-1", .manageClient ⟨7⟩ ⟨0⟩, .tagClient ⟨0, 0⟩ ⟨7⟩]
    let without := ((Call.deactivate ⟨0, 0⟩).run moment.desktop).desktop
    let last := moment.call (.deactivate ⟨1, 0⟩)
    moment.desktop.Reachable ∧
      moment.desktop.tags.occupant? ⟨0, 0⟩ =
        some ⟨⟨"main", true, true, [⟨7⟩]⟩, 2, 0⟩ ∧
      moment.desktop.tags.occupant? ⟨1, 0⟩ =
        some ⟨⟨"mail", false, true, []⟩, 1, 0⟩ ∧
      moment.desktop.Retires ⟨0, 0⟩ ⟨⟨"main", true, true, [⟨7⟩]⟩, 2, 0⟩
        without ∧
      without.tags.occupant? ⟨0, 0⟩ =
        some ⟨⟨"main", false, false, [⟨7⟩]⟩, 1, 0⟩ ∧
      moment.desktop.Vacates ⟨1, 0⟩ last.desktop ∧
      (last.call (.newTag "web")).desktop.tags.contains ⟨1, 1⟩ = true ∧
      (last.call (.newTag "web")).desktop.Stale ⟨1, 0⟩ := by
  intro moment without last
  have reached : moment.Reached :=
    (Moment.Reached.start _).leads (Moment.leads_calls _ _)
  have reachable : moment.desktop.Reachable := by
    rw [Moment.desktop_calls]
    exact (Reachable.start _).after _
  have shown :
      moment.desktop.tags.occupant? ⟨0, 0⟩ =
        some ⟨⟨"main", true, true, [⟨7⟩]⟩, 2, 0⟩ := by
    decide
  have lone :
      moment.desktop.tags.occupant? ⟨1, 0⟩ =
        some ⟨⟨"mail", false, true, []⟩, 1, 0⟩ := by
    decide
  obtain ⟨_, stays, _⟩ := deactivate_exact reachable shown rfl
  obtain ⟨_, ends, after⟩ := deactivate_exact reachable lone rfl
  have path : last.Leads (last.call (.newTag "web")) :=
    .single (.call last (.newTag "web"))
  obtain ⟨stale, _⟩ := after moment reached rfl _ path
  exact ⟨reachable, shown, lone, stays, by decide, ends.destroyed rfl rfl,
    by decide, stale rfl rfl (by decide)⟩

end Desktop

end DesktopTags
