import DesktopTags.Proofs.Run
import DesktopTags.Proofs.SlotUse
import Mathlib.Order.Bounds.Defs

/-!
# The slots of a run

A slot holds a live tag or waits on the stack of vacant slots, never both, so a new tag disturbs
no other. A slot is added only while none is vacant. So there are just as many slots as
there were live tags at the fullest moment of the run: `slots_reach_peak`.
-/

namespace DesktopTags

namespace Arena

variable {arena : Arena}

/-! ## Counting slots -/

/-- The places of the vacant slots, in slot order. -/
def vacancies (arena : Arena) : List Nat :=
  (arena.slots.zipIdx.filter fun entry => !entry.1.occupant.isSome).map Prod.snd

theorem mem_vacancies_iff (arena : Arena) (index : Nat) :
    index ∈ arena.vacancies ↔
      ∃ slot, arena.slots[index]? = some slot ∧ slot.occupant = none := by
  simp [vacancies, List.mem_zipIdx_iff_getElem?]

theorem vacancies_nodup (arena : Arena) : arena.vacancies.Nodup := by
  have places : (arena.slots.zipIdx.map Prod.snd).Nodup := by
    rw [List.zipIdx_map_snd]
    exact List.nodup_range'
  exact places.sublist (List.filter_sublist.map Prod.snd)

/-- A slot is vacant, or it holds a live tag. -/
theorem size_add_length_vacancies (arena : Arena) :
    arena.size + arena.vacancies.length = arena.slots.length := by
  have vacant :
      arena.vacancies.length = arena.slots.countP fun slot => !slot.occupant.isSome := by
    rw [vacancies, List.length_map, ← List.countP_eq_length_filter]
    exact countP_zipIdx arena.slots fun slot => !slot.occupant.isSome
  rw [vacant, size, List.length_eq_countP_add_countP fun slot : Slot => slot.occupant.isSome]
  simp only [decide_not, Bool.decide_eq_true]

theorem Tidy.free_perm (tidy : arena.Tidy) : arena.free.Perm arena.vacancies := by
  rw [List.perm_ext_iff_of_nodup tidy.nodup arena.vacancies_nodup]
  intro index
  rw [tidy.mem_free_iff, mem_vacancies_iff]

theorem Tidy.size_add_length_free (tidy : arena.Tidy) :
    arena.size + arena.free.length = arena.slots.length := by
  rw [tidy.free_perm.length_eq, size_add_length_vacancies]

/-! ## Adding a slot -/

theorem free_insert (arena : Arena) (tag : Tag) :
    (arena.insert tag).2.free = arena.free.tail := by
  unfold Arena.insert
  split
  · rename_i index rest free
    simp [free]
  · rename_i free
    simp [free]

/-- A slot is added only while none is vacant. -/
theorem length_slots_insert (arena : Arena) (tag : Tag) :
    (arena.insert tag).2.slots.length =
      arena.slots.length + if arena.free = [] then 1 else 0 := by
  unfold Arena.insert
  split
  · rename_i index rest free
    simp [free, Arena.put]
  · rename_i free
    simp [free]

/-- The stack and the list of live tags tell of the same slots. -/
structure InStep (arena : Arena) : Prop extends arena.Tidy where
  free_lt : ∀ index ∈ arena.free, index < arena.slots.length
  mem_refList_iff : ∀ ref, ref ∈ arena.refList ↔ arena.contains ref = true
  refList_nodup : arena.refList.Nodup
  refList_sorted : arena.refList.Pairwise fun left right => left.slot < right.slot
  size_eq : arena.size = arena.refList.length
  size_add : arena.size + arena.free.length = arena.slots.length

theorem Tidy.inStep (tidy : arena.Tidy) : arena.InStep where
  toTidy := tidy
  free_lt := by
    intro index listed
    obtain ⟨slot, stored, _⟩ := (tidy.mem_free_iff index).1 listed
    exact (List.getElem?_eq_some_iff.1 stored).1
  mem_refList_iff := arena.mem_refList_iff
  refList_nodup := arena.refList_nodup
  refList_sorted := arena.refList_sorted
  size_eq := arena.length_refList.symm
  size_add := tidy.size_add_length_free

end Arena

/-! ## A new tag -/

/-- What making a tag does to the arena. The tag gets the slot on top of the stack, or one
behind all others if none is vacant, and every other tag stays as it is. -/
structure Desktop.Houses (desktop : Desktop) (name : String) (ref : TagRef) : Prop where
  answer : ((Call.newTag name).run desktop).answer = .ok (.tag ref)
  slot : ref.slot = desktop.tags.free.headD desktop.tags.slots.length
  vacant : desktop.tags.occupied ref.slot = false
  grows :
    ((Call.newTag name).run desktop).desktop.tags.slots.length =
      desktop.tags.slots.length + if desktop.tags.free = [] then 1 else 0
  occupant? :
    ∀ other,
      ((Call.newTag name).run desktop).desktop.tags.occupant? other =
        if other = ref then some ⟨{ name }, 1, 1⟩ else desktop.tags.occupant? other

namespace Desktop

theorem run_newTag (desktop : Desktop) (name : String) :
    (Call.newTag name).run desktop =
      ⟨.ok (.tag (desktop.tags.insert { name }).1),
        { desktop with tags := (desktop.tags.insert { name }).2 },
        [.created (desktop.tags.insert { name }).1 name]⟩ := by
  rw [Call.run, Operation.bind_pure_apply, newTag_apply]
  rfl

theorem Sound.houses {desktop : Desktop} (sound : desktop.Sound) (name : String) :
    desktop.Houses name (desktop.tags.insert { name }).1 where
  answer := by rw [run_newTag]
  slot := by
    unfold Arena.insert
    split
    · rename_i index rest free
      simp [free]
    · rename_i free
      simp [free]
  vacant := (sound.tidy.insert_vacant { name }).1
  grows := by
    rw [run_newTag]
    exact Arena.length_slots_insert desktop.tags { name }
  occupant? := by
    rw [run_newTag]
    exact sound.tidy.occupant?_insert { name }

end Desktop

/-! ## One happening -/

theorem length_slots_admits :
    Rule.Admits fun before after _ =>
      after.tags.slots.length = before.tags.slots.length where
  elsewhere := fun same => by rw [same]
  event := fun _ _ _ => rfl
  put := fun _ _ => by simp [Arena.put]
  vacate := fun _ => by simp [Arena.vacate]
  chain := fun left right => right.trans left

namespace Moment

variable {before after first middle moment later : Moment}

/-- A happening that adds a slot leaves none vacant. -/
theorem Step.length_slots (step : Step before after) (sound : before.desktop.Sound) :
    after.desktop.tags.slots.length = before.desktop.tags.slots.length ∨
      before.desktop.tags.slots.length ≤ after.desktop.tags.slots.length ∧
        after.desktop.instances = after.desktop.tags.slots.length := by
  cases step with
  | deliver => exact .inl rfl
  | call call =>
      by_cases makes : ∃ name, call = .newTag name
      · obtain ⟨name, rfl⟩ := makes
        have grows := (sound.houses name).grows
        by_cases full : before.desktop.tags.free = []
        · have counted := (sound.run (.newTag name)).tidy.size_add_length_free
          rw [Desktop.run_newTag, Arena.free_insert, full] at counted
          rw [if_pos full] at grows
          refine .inr ⟨by rw [Moment.call, grows]; omega, ?_⟩
          rw [Moment.call, Desktop.run_newTag]
          exact counted
        · rw [if_neg full] at grows
          exact .inl grows
      · refine .inl (Call.run_obeys length_slots_admits call ?_ ?_ before.desktop)
        · exact fun name same => makes ⟨name, same⟩
        · exact fun ref _ =>
            Desktop.deactivate_obeys length_slots_admits ref fun _ => rfl

/-! ## Whole runs -/

/-- The moments that a run can start from. -/
inductive Opening : Moment → Prop
  | empty : Opening {}
  | start (settings : Settings) : Opening (.start settings)

/-- How many tags live at the moments from one to another. A moment knows its history, so these
are the moments of one run. -/
def instancesUntil (first last : Moment) : Set Nat :=
  { count | ∃ middle, first.Leads middle ∧ middle.Leads last ∧
      middle.desktop.instances = count }

theorem Opening.reached (opening : first.Opening) : first.Reached := by
  cases opening with
  | empty => exact .empty
  | start settings => exact .start settings

theorem Reached.instances_add (reached : moment.Reached) :
    moment.desktop.instances + moment.desktop.tags.free.length =
      moment.desktop.tags.slots.length :=
  reached.sound.tidy.size_add_length_free

/-- At the start no slot is vacant. -/
theorem Opening.instances_eq (opening : first.Opening) :
    first.desktop.instances = first.desktop.tags.slots.length := by
  have full : first.desktop.tags.free = [] := by
    cases opening with
    | empty => rfl
    | start settings =>
        rw [Moment.start, Desktop.start_eq]
        rfl
  have counted := opening.reached.instances_add
  rwa [full, List.length_nil, Nat.add_zero] at counted

/-- In the course of a run, slots are only added. -/
theorem Reached.length_slots_le (reached : before.Reached) (leads : before.Leads after) :
    before.desktop.tags.slots.length ≤ after.desktop.tags.slots.length := by
  induction leads with
  | refl => exact Nat.le_refl _
  | tail path step inductionHypothesis =>
      rcases step.length_slots (reached.leads path).sound with same | ⟨grows, _⟩
      · exact Nat.le_trans inductionHypothesis (Nat.le_of_eq same.symm)
      · exact Nat.le_trans inductionHypothesis grows

/-- When the last slot was added, every slot held a tag. -/
theorem Opening.exists_full (opening : first.Opening) (leads : first.Leads moment) :
    ∃ middle, first.Leads middle ∧ middle.Leads moment ∧
      middle.desktop.instances = moment.desktop.tags.slots.length := by
  induction leads with
  | refl => exact ⟨first, .refl, .refl, opening.instances_eq⟩
  | @tail before after path step inductionHypothesis =>
      rcases step.length_slots (opening.reached.leads path).sound with same | ⟨_, full⟩
      · obtain ⟨middle, earlier, later, count⟩ := inductionHypothesis
        exact ⟨middle, earlier, later.tail step, count.trans same.symm⟩
      · exact ⟨after, path.tail step, .refl, full⟩

theorem Opening.isGreatest (opening : first.Opening) (leads : first.Leads moment) :
    IsGreatest (first.instancesUntil moment) moment.desktop.tags.slots.length := by
  constructor
  · exact opening.exists_full leads
  · rintro count ⟨middle, earlier, later, rfl⟩
    have reached := opening.reached.leads earlier
    exact Nat.le_trans (Nat.le.intro reached.instances_add) (reached.length_slots_le later)

/-- At every moment of every run the stack holds just the vacant slots, the live tags are listed
once each in the order of their slots, and a new tag takes no slot of a live one. There
are as many slots as there were live tags at the fullest moment so far. A dispatch is a part
of a run, whatever its handlers call. -/
theorem slots_reach_peak (opening : first.Opening) (leads : first.Leads moment) :
    moment.desktop.tags.InStep ∧
      (∀ name, ∃ ref, moment.desktop.Houses name ref) ∧
      IsGreatest (first.instancesUntil moment) moment.desktop.tags.slots.length ∧
      ∀ {σ μ : Type} (session : Session σ μ),
        session.desktop = moment.desktop →
        (∀ handler ∈ session.handlers, handler.Reenters) →
          ∃ after : Moment, first.Leads after ∧ moment.Leads after ∧
            after.desktop = session.dispatch.session.desktop ∧
            after.desktop.tags.InStep ∧
            IsGreatest (first.instancesUntil after) after.desktop.tags.slots.length := by
  have reached := opening.reached.leads leads
  refine ⟨reached.sound.tidy.inStep, fun name => ⟨_, reached.sound.houses name⟩,
    opening.isGreatest leads, ?_⟩
  intro σ μ session now reenter
  obtain ⟨after, later, last, _⟩ := session.dispatch_leads reenter moment now.symm
  have whole := leads.trans later
  exact ⟨after, whole, later, last, (opening.reached.leads whole).sound.tidy.inStep,
    opening.isGreatest whole⟩

/-- Of three tags two are given back, and the next one takes the slot given back last. A slot
is added only when a handler makes two more. -/
theorem slots_reach_peak_of_returned_tags :
    let first := start { tags := ["main"] }
    let moment := first.calls
      [.newTag "mail", .newTag "web", .releaseTag ⟨1, 0⟩, .releaseTag ⟨2, 0⟩, .newTag "chat"]
    let session := Session.answering moment.desktop SignalKind.activatedChanged.name
      [.newTag "left", .newTag "right"]
    first.Opening ∧ first.Leads moment ∧
      moment.desktop.tags.free = [1] ∧
      moment.desktop.tags.refList = [⟨0, 0⟩, ⟨2, 1⟩] ∧
      moment.desktop.instances = 2 ∧
      moment.desktop.tags.InStep ∧
      (∃ ref, moment.desktop.Houses "left" ref ∧ ref.slot = 1) ∧
      IsGreatest (first.instancesUntil moment) 3 ∧
      (∀ handler ∈ session.handlers, handler.Reenters) ∧
      ∃ after : Moment, first.Leads after ∧
        after.desktop = session.dispatch.session.desktop ∧
        IsGreatest (first.instancesUntil after) 4 := by
  intro first moment session
  have opening : first.Opening := .start _
  have leads : first.Leads moment := leads_calls _ _
  have reenter : ∀ handler ∈ session.handlers, handler.Reenters :=
    Session.answering_reenter _ _ _
  obtain ⟨inStep, houses, peak, dispatched⟩ := slots_reach_peak opening leads
  obtain ⟨ref, housed⟩ := houses "left"
  have now : session.desktop = moment.desktop := by
    simp only [session, Session.answering]
  obtain ⟨after, whole, _, last, _, later⟩ := dispatched session now reenter
  have free : moment.desktop.tags.free = [1] := by decide
  have slots : moment.desktop.tags.slots.length = 3 := by decide
  have moreSlots : session.dispatch.session.desktop.tags.slots.length = 4 := by decide
  have slot : ref.slot = 1 := by rw [housed.slot, free, List.headD_cons]
  rw [slots] at peak
  rw [last, moreSlots] at later
  exact ⟨opening, leads, free, by decide, by decide, inStep, ⟨ref, housed, slot⟩, peak, reenter,
    after, whole, last, later⟩

end Moment

end DesktopTags
