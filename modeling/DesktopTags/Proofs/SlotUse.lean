import DesktopTags.Proofs.Arena
import DesktopTags.Proofs.Footprint

/-!
# The use of slots

A call that makes no tag leaves a slot as it is, or ends the tag in it and so
moves it to its next generation. A new tag takes a vacant slot and the
generation that it finds there.
-/

namespace DesktopTags

namespace Arena

variable {arena before middle after : Arena} {ref : TagRef} {old : Occupant}
  {slot : Nat}

/-- The generation of a slot, zero if there is no such slot yet. -/
def generationAt (arena : Arena) (slot : Nat) : UInt32 :=
  (arena.slots[slot]?.map Slot.generation).getD 0

/-- Whether a tag lives in a slot. -/
def occupied (arena : Arena) (slot : Nat) : Bool :=
  arena.slots[slot]?.any fun stored => stored.occupant.isSome

/-- A name leads to the tag in its slot as long as the generations agree. -/
theorem contains_iff_occupied (arena : Arena) (ref : TagRef) :
    arena.contains ref = true ↔
      arena.occupied ref.slot = true ∧
        arena.generationAt ref.slot = ref.generation := by
  unfold contains occupant? occupied generationAt
  cases arena.slots[ref.slot]? with
  | none =>
      simp
  | some stored =>
      by_cases same : stored.generation = ref.generation
      · simp [same]
      · simp [same]

theorem occupant?_eq_none_of_generationAt_ne
    (different : arena.generationAt ref.slot ≠ ref.generation) :
    arena.occupant? ref = none := by
  cases live : arena.occupant? ref with
  | none =>
      rfl
  | some old =>
      have contained : arena.contains ref = true := by
        simp [contains, live]
      have same := ((contains_iff_occupied arena ref).1 contained).2
      exact absurd same different

/-! ## Edits of a slot -/

@[simp]
theorem generationAt_put
    (arena : Arena) (edited : Nat) (occupant : Option Occupant) (slot : Nat) :
    (arena.put edited occupant).generationAt slot =
      arena.generationAt slot := by
  by_cases same : edited = slot
  · subst same
    cases stored : arena.slots[edited]? <;> simp [generationAt, put, stored]
  · simp [generationAt, put, same]

theorem occupied_put_of_ne
    (occupant : Option Occupant) {edited : Nat} (different : edited ≠ slot) :
    (arena.put edited occupant).occupied slot = arena.occupied slot := by
  simp [occupied, put, different]

theorem occupied_of_live (live : arena.occupant? ref = some old) :
    arena.occupied ref.slot = true := by
  simp [occupied, (occupant?_eq_some_iff arena ref old).1 live]

theorem occupied_put
    (live : arena.occupant? ref = some old) (new : Occupant) (slot : Nat) :
    (arena.put ref.slot (some new)).occupied slot = arena.occupied slot := by
  by_cases same : ref.slot = slot
  · subst same
    have found := (occupant?_eq_some_iff arena ref old).1 live
    simp [occupied, put, found]
  · exact occupied_put_of_ne _ same

/-- What becomes of a slot as long as no tag is made. -/
inductive Wears (before after : Arena) (slot : Nat) : Prop
  | stays
      (occupied : after.occupied slot = before.occupied slot)
      (generation : after.generationAt slot = before.generationAt slot)
  | ends
      (lived : before.occupied slot = true)
      (gone : after.occupied slot = false)
      (generation :
        after.generationAt slot = before.generationAt slot + 1)

theorem Wears.of_eq (same : after = before) (slot : Nat) :
    Wears before after slot := by
  rw [same]
  exact .stays rfl rfl

theorem Wears.trans
    (left : Wears before middle slot) (right : Wears middle after slot) :
    Wears before after slot := by
  cases left with
  | stays occupied generation =>
      cases right with
      | stays later next =>
          exact .stays (later.trans occupied) (next.trans generation)
      | ends lived gone next =>
          exact .ends (occupied.symm.trans lived) gone
            (by rw [next, generation])
  | ends lived gone generation =>
      cases right with
      | stays later next =>
          exact .ends lived (later.trans gone) (next.trans generation)
      | ends again =>
          exact absurd (gone.symm.trans again) Bool.false_ne_true

theorem wears_put
    (live : arena.occupant? ref = some old) (new : Occupant) (slot : Nat) :
    Wears arena (arena.put ref.slot (some new)) slot :=
  .stays (occupied_put live new slot) (generationAt_put ..)

theorem wears_vacate
    (live : arena.occupant? ref = some old) (slot : Nat) :
    Wears arena (arena.vacate ref.slot) slot := by
  by_cases same : ref.slot = slot
  · subst same
    have found := (occupant?_eq_some_iff arena ref old).1 live
    exact .ends (occupied_of_live live)
      (by simp [occupied, vacate, found])
      (by simp [generationAt, vacate, found])
  · exact .stays (by simp [occupied, vacate, same])
      (by simp [generationAt, vacate, same])

/-! ## A new tag -/

/-- A new tag takes a vacant slot, and the generation of that slot. -/
theorem Tidy.insert_vacant (tidy : arena.Tidy) (tag : Tag) :
    arena.occupied (arena.insert tag).1.slot = false ∧
      (arena.insert tag).1.generation =
        arena.generationAt (arena.insert tag).1.slot := by
  unfold Arena.insert
  split
  · rename_i index rest free
    obtain ⟨generation, stored⟩ := tidy.free_cons free
    simp [occupied, generationAt, stored]
  · simp [occupied, generationAt]

theorem generationAt_insert (arena : Arena) (tag : Tag) (slot : Nat) :
    (arena.insert tag).2.generationAt slot = arena.generationAt slot := by
  unfold Arena.insert
  split
  · rename_i index rest free
    exact generationAt_put arena index _ slot
  · simp only [generationAt, List.getElem?_append]
    split
    · rfl
    · rename_i beyond
      rw [List.getElem?_eq_none (by omega : arena.slots.length ≤ slot)]
      cases behind :
        [(⟨0, some ⟨tag, 1, 1⟩⟩ : Slot)][slot - arena.slots.length]? with
      | none =>
          rfl
      | some stored =>
          rw [List.mem_singleton.1 (List.mem_of_getElem? behind)]
          rfl

theorem Tidy.occupied_insert
    (tidy : arena.Tidy) (tag : Tag) (slot : Nat) :
    (arena.insert tag).2.occupied slot =
      (arena.occupied slot || decide ((arena.insert tag).1.slot = slot)) := by
  unfold Arena.insert
  split
  · rename_i index rest free
    obtain ⟨generation, stored⟩ := tidy.free_cons free
    by_cases same : index = slot
    · subst same
      simp [occupied, Arena.put, stored]
    · simp [occupied, Arena.put, same]
  · by_cases same : arena.slots.length = slot
    · subst same
      simp [occupied]
    · simp only [same, decide_false, Bool.or_false, occupied,
        List.getElem?_append]
      split
      · rfl
      · rename_i beyond
        rw [List.getElem?_eq_none (by omega : arena.slots.length ≤ slot),
          List.getElem?_eq_none (by simp only [List.length_singleton]; omega)]

end Arena

/-! ## Calls that make no tag -/

theorem wears_admits :
    Rule.Admits fun before after _ =>
      ∀ slot, Arena.Wears before.tags after.tags slot where
  elsewhere := fun same slot => .of_eq same slot
  event := fun _ _ _ slot => .of_eq rfl slot
  put := fun live new slot => Arena.wears_put live new slot
  vacate := fun live slot => Arena.wears_vacate live slot
  chain := fun left right slot => (left slot).trans (right slot)

theorem Call.run_wears
    (call : Call) (makesNone : ∀ name, call ≠ .newTag name)
    (desktop : Desktop) (slot : Nat) :
    Arena.Wears desktop.tags (call.run desktop).desktop.tags slot :=
  Call.run_obeys wears_admits call makesNone
    (fun ref _ =>
      Desktop.deactivate_obeys wears_admits ref fun _ slot => .of_eq rfl slot)
    desktop slot

end DesktopTags
