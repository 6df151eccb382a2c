import DesktopTags.Tag.Arena

namespace DesktopTags.Arena

/-! ## What a name leads to after an edit -/

section Lookup

variable {arena : Arena} {ref : TagRef} {old : Occupant}

theorem occupant?_eq_some_iff
    (arena : Arena) (ref : TagRef) (occupant : Occupant) :
    arena.occupant? ref = some occupant ↔
      arena.slots[ref.slot]? = some ⟨ref.generation, some occupant⟩ := by
  unfold occupant?
  cases found : arena.slots[ref.slot]? with
  | none =>
      simp
  | some slot =>
      cases slot with
      | mk generation occupied =>
          by_cases same : generation = ref.generation
          · simp [same]
          · simp [same]

theorem occupant?_eq_none_of_generation_ne
    {slot : Slot}
    (found : arena.slots[ref.slot]? = some slot)
    (different : slot.generation ≠ ref.generation) :
    arena.occupant? ref = none := by
  simp [occupant?, found, different]

/-- Edits of one slot leave the names of all other slots alone. -/
theorem occupant?_congr_slot
    {left right : Arena}
    (same : left.slots[ref.slot]? = right.slots[ref.slot]?) :
    left.occupant? ref = right.occupant? ref := by
  simp only [occupant?, same]

theorem occupant?_put
    (live : arena.occupant? ref = some old)
    (new : Occupant) (other : TagRef) :
    (arena.put ref.slot (some new)).occupant? other =
      if other = ref then some new else arena.occupant? other := by
  have found := (occupant?_eq_some_iff arena ref old).1 live
  by_cases sameSlot : other.slot = ref.slot
  · have stored :
        (arena.put ref.slot (some new)).slots[other.slot]? =
          some ⟨ref.generation, some new⟩ := by
      simp [put, sameSlot, found]
    by_cases sameGeneration : ref.generation = other.generation
    · have same : other = ref := by
        cases other
        cases ref
        simp_all
      subst same
      rw [if_pos rfl]
      exact (occupant?_eq_some_iff _ _ _).2 stored
    · have different : other ≠ ref := by
        intro equal
        exact sameGeneration (by rw [equal])
      rw [if_neg different,
        occupant?_eq_none_of_generation_ne stored sameGeneration,
        occupant?_eq_none_of_generation_ne
          (sameSlot ▸ found) sameGeneration]
  · have different : other ≠ ref := by
      intro equal
      exact sameSlot (by rw [equal])
    rw [if_neg different]
    apply occupant?_congr_slot
    simp [put, Ne.symm sameSlot]

theorem occupant?_vacate
    (live : arena.occupant? ref = some old) (other : TagRef) :
    (arena.vacate ref.slot).occupant? other =
      if other = ref then none else arena.occupant? other := by
  have found := (occupant?_eq_some_iff arena ref old).1 live
  by_cases sameSlot : other.slot = ref.slot
  · have stored :
        (arena.vacate ref.slot).slots[other.slot]? =
          some ⟨ref.generation + 1, none⟩ := by
      simp [vacate, sameSlot, found]
    have vacant : (arena.vacate ref.slot).occupant? other = none := by
      simp [occupant?, stored]
    by_cases same : other = ref
    · rw [if_pos same, vacant]
    · have sameGeneration : ref.generation ≠ other.generation := by
        intro equal
        apply same
        cases other
        cases ref
        simp_all
      rw [if_neg same, vacant,
        occupant?_eq_none_of_generation_ne
          (sameSlot ▸ found) sameGeneration]
  · have different : other ≠ ref := by
      intro equal
      exact sameSlot (by rw [equal])
    rw [if_neg different]
    apply occupant?_congr_slot
    simp [vacate, Ne.symm sameSlot]

theorem put_put (arena : Arena) (slot : Nat) (first second : Option Occupant) :
    (arena.put slot first).put slot second = arena.put slot second := by
  simp [put, List.modify_modify_eq, Function.comp_def]

theorem vacate_put (arena : Arena) (slot : Nat) (occupant : Option Occupant) :
    (arena.put slot occupant).vacate slot = arena.vacate slot := by
  simp [put, vacate, List.modify_modify_eq, Function.comp_def]

theorem put_self (live : arena.occupant? ref = some old) :
    arena.put ref.slot (some old) = arena := by
  have found := (occupant?_eq_some_iff arena ref old).1 live
  cases arena with
  | mk slots free =>
      simp only [put, Arena.mk.injEq, and_true]
      apply List.ext_getElem?
      intro index
      by_cases same : ref.slot = index
      · subst same
        simp_all
      · rw [List.getElem?_modify_ne _ _ same]

end Lookup

/-! ## Settling a live tag -/

/-- Give a live tag its new occupant, which is destroyed if nothing refers to
it. -/
def settle (arena : Arena) (ref : TagRef) (occupant : Occupant) : Arena :=
  if occupant.refs = 0 then
    arena.vacate ref.slot
  else
    arena.put ref.slot (some occupant)

/-- What is left of an occupant once it is settled. -/
def remains (occupant : Occupant) : Option Occupant :=
  if occupant.refs = 0 then none else some occupant

theorem remains_eq_none_iff (occupant : Occupant) :
    remains occupant = none ↔ occupant.refs = 0 := by
  simp [remains]

section Settle

variable {arena : Arena} {ref : TagRef} {old : Occupant}

theorem settle_of_pos
    (arena : Arena) (ref : TagRef) {occupant : Occupant}
    (referred : 0 < occupant.refs) :
    arena.settle ref occupant = arena.put ref.slot (some occupant) := by
  rw [settle, if_neg (by omega)]

theorem settle_put
    (arena : Arena) (ref : TagRef) (first : Option Occupant)
    (second : Occupant) :
    (arena.put ref.slot first).settle ref second = arena.settle ref second := by
  unfold settle
  split
  · exact vacate_put arena ref.slot first
  · exact put_put arena ref.slot first (some second)

theorem settle_settle
    (arena : Arena) (ref : TagRef) {first : Occupant}
    (referred : 0 < first.refs) (second : Occupant) :
    (arena.settle ref first).settle ref second = arena.settle ref second := by
  rw [settle_of_pos arena ref referred, settle_put]

theorem settle_self
    (live : arena.occupant? ref = some old) (referred : 0 < old.refs) :
    arena.settle ref old = arena := by
  rw [settle_of_pos arena ref referred, put_self live]

theorem occupant?_settle
    (live : arena.occupant? ref = some old)
    (new : Occupant) (other : TagRef) :
    (arena.settle ref new).occupant? other =
      if other = ref then remains new else arena.occupant? other := by
  unfold settle remains
  split
  · rw [occupant?_vacate live]
  · rw [occupant?_put live]

theorem occupant?_settle_self
    (live : arena.occupant? ref = some old)
    (new : Occupant) (referred : 0 < new.refs) :
    (arena.settle ref new).occupant? ref = some new := by
  rw [occupant?_settle live, if_pos rfl, remains, if_neg (by omega)]

theorem get?_settle
    (live : arena.occupant? ref = some old)
    (new : Occupant) (other : TagRef) :
    (arena.settle ref new).get? other =
      if other = ref then (remains new).map Occupant.tag
      else arena.get? other := by
  unfold get?
  rw [occupant?_settle live]
  split <;> rfl

theorem update_of_live
    (live : arena.occupant? ref = some old)
    (change : Occupant → Occupant) :
    arena.update ref change =
      .ok (arena.put ref.slot (some (change old))) := by
  simp [update, live]

theorem update_of_gone
    (gone : arena.occupant? ref = none)
    (change : Occupant → Occupant) :
    arena.update ref change = .error (.unknownTag ref) := by
  simp [update, gone]

/-- A release settles the tag with one reference less. -/
theorem release_of_live
    (live : arena.occupant? ref = some old) (referred : 0 < old.refs) :
    arena.release ref =
      .ok (if old.refs = 1 then some old.tag else none,
        arena.settle ref { old with refs := old.refs - 1 }) := by
  have notSpent : old.refs ≠ 0 := by omega
  by_cases last : old.refs = 1
  · simp [release, live, last, settle]
  · have remaining : old.refs - 1 ≠ 0 := by omega
    simp only [release, live, settle, if_neg notSpent, if_neg last,
      if_neg remaining]

/-- A handle given back is a release with one handle less. -/
theorem releaseHandle_of_held
    (live : arena.occupant? ref = some old)
    (referred : 0 < old.refs) (held : 0 < old.handles) :
    arena.releaseHandle ref =
      .ok (if old.refs = 1 then some old.tag else none,
        arena.settle ref
          { old with refs := old.refs - 1, handles := old.handles - 1 }) := by
  have notReturned : old.handles ≠ 0 := by omega
  have lowered :
      (arena.put ref.slot
          (some { old with handles := old.handles - 1 })).occupant? ref =
        some { old with handles := old.handles - 1 } := by
    rw [occupant?_put live, if_pos rfl]
  have released := release_of_live lowered referred
  rw [settle_put] at released
  simpa only [releaseHandle, live, if_neg notReturned] using released

end Settle

/-! ## What settling a tag leaves of its slot and the other slots -/

section Slots

variable {arena : Arena} {left right : TagRef}

/-- Two live tags live in different slots. -/
theorem slot_ne_of_live
    {old other : Occupant}
    (leftLive : arena.occupant? left = some old)
    (rightLive : arena.occupant? right = some other)
    (different : left ≠ right) : left.slot ≠ right.slot := by
  intro same
  have foundLeft := (occupant?_eq_some_iff arena left old).1 leftLive
  have foundRight := (occupant?_eq_some_iff arena right other).1 rightLive
  rw [same, foundRight] at foundLeft
  have generations := congrArg (Option.map Slot.generation) foundLeft
  apply different
  cases left
  cases right
  simp_all

/-- What settling a tag puts on top of the vacant slots. -/
def freed (ref : TagRef) (occupant : Occupant) : List Nat :=
  if occupant.refs = 0 then [ref.slot] else []

theorem free_settle (arena : Arena) (ref : TagRef) (occupant : Occupant) :
    (arena.settle ref occupant).free = freed ref occupant ++ arena.free := by
  unfold settle freed
  split <;> rfl

/-- What settling a tag makes of its slot. -/
def settledSlot (occupant : Occupant) (slot : Slot) : Slot :=
  if occupant.refs = 0 then ⟨slot.generation + 1, none⟩
  else { slot with occupant := some occupant }

theorem slots_settle (arena : Arena) (ref : TagRef) (occupant : Occupant) :
    (arena.settle ref occupant).slots =
      arena.slots.modify ref.slot (settledSlot occupant) := by
  unfold settle settledSlot
  split <;> rfl

theorem slot_settle_of_ne
    (arena : Arena) {ref : TagRef} {slot : Nat}
    (elsewhere : ref.slot ≠ slot) (occupant : Occupant) :
    (arena.settle ref occupant).slots[slot]? = arena.slots[slot]? := by
  rw [slots_settle, List.getElem?_modify_ne _ _ elsewhere]

/-- Slots keep no memory of the order in which others were settled. -/
theorem slots_settle_comm
    (arena : Arena) (apart : left.slot ≠ right.slot)
    (first second : Occupant) :
    ((arena.settle left first).settle right second).slots =
      ((arena.settle right second).settle left first).slots := by
  simp only [slots_settle]
  exact List.modify_modify_ne _ _ _ apart

/-- The slot of a settled tag. -/
theorem slot_settle_self
    {ref : TagRef} {old : Occupant}
    (live : arena.occupant? ref = some old) (new : Occupant) :
    (arena.settle ref new).slots[ref.slot]? =
      some (settledSlot new ⟨ref.generation, some old⟩) := by
  rw [slots_settle, List.getElem?_modify_eq,
    (occupant?_eq_some_iff arena ref old).1 live]
  rfl

end Slots

/-! ## The stack of vacant slots -/

/-- The stack holds exactly the vacant slots, each once. -/
structure Tidy (arena : Arena) : Prop where
  nodup : arena.free.Nodup
  mem_free_iff :
    ∀ index, index ∈ arena.free ↔
      ∃ slot, arena.slots[index]? = some slot ∧ slot.occupant = none

section Tidy

variable {arena : Arena} {ref : TagRef} {old : Occupant}

theorem tidy_empty : Tidy {} :=
  ⟨List.nodup_nil, by simp⟩

theorem Tidy.put
    (tidy : arena.Tidy) (live : arena.occupant? ref = some old)
    (new : Occupant) :
    (arena.put ref.slot (some new)).Tidy := by
  have found := (occupant?_eq_some_iff arena ref old).1 live
  refine ⟨tidy.nodup, fun index => ?_⟩
  have before := tidy.mem_free_iff index
  by_cases same : ref.slot = index
  · subst same
    simp_all [Arena.put]
  · simp_all [Arena.put]

theorem Tidy.vacate
    (tidy : arena.Tidy) (live : arena.occupant? ref = some old) :
    (arena.vacate ref.slot).Tidy := by
  have found := (occupant?_eq_some_iff arena ref old).1 live
  have occupied : ref.slot ∉ arena.free := by
    intro member
    obtain ⟨slot, stored, vacant⟩ := (tidy.mem_free_iff ref.slot).1 member
    simp_all
  refine ⟨List.nodup_cons.2 ⟨occupied, tidy.nodup⟩, fun index => ?_⟩
  have before := tidy.mem_free_iff index
  by_cases same : ref.slot = index
  · subst same
    simp [Arena.vacate, found]
  · have different : index ≠ ref.slot := Ne.symm same
    simp_all [Arena.vacate]

theorem Tidy.settle
    (tidy : arena.Tidy) (live : arena.occupant? ref = some old)
    (new : Occupant) :
    (arena.settle ref new).Tidy := by
  unfold Arena.settle
  split
  · exact tidy.vacate live
  · exact tidy.put live new

end Tidy

/-! ## Inserting a tag -/

section Insert

variable {arena : Arena}

/-- The next slot that takes a tag is vacant, or does not exist yet. -/
theorem Tidy.free_cons
    {index : Nat} {rest : List Nat}
    (tidy : arena.Tidy) (free : arena.free = index :: rest) :
    ∃ generation, arena.slots[index]? = some ⟨generation, none⟩ := by
  obtain ⟨slot, stored, vacant⟩ :=
    (tidy.mem_free_iff index).1 (by simp [free])
  cases slot with
  | mk generation occupant =>
      subst vacant
      exact ⟨generation, stored⟩

/-- A new tag takes a name that leads nowhere so far. -/
theorem Tidy.occupant?_insert_ref
    (tidy : arena.Tidy) (tag : Tag) :
    arena.occupant? (arena.insert tag).1 = none := by
  unfold insert
  split
  · rename_i index rest free
    obtain ⟨generation, stored⟩ := tidy.free_cons free
    simp [occupant?, stored]
  · simp [occupant?]

theorem Tidy.occupant?_insert
    (tidy : arena.Tidy) (tag : Tag) (other : TagRef) :
    (arena.insert tag).2.occupant? other =
      if other = (arena.insert tag).1 then some ⟨tag, 1, 1⟩
      else arena.occupant? other := by
  unfold insert
  split
  · rename_i index rest free
    obtain ⟨generation, stored⟩ := tidy.free_cons free
    simp only [stored, Option.map_some, Option.getD_some]
    by_cases sameSlot : other.slot = index
    · by_cases sameGeneration : generation = other.generation
      · have same : other = ⟨index, generation⟩ := by
          cases other
          simp_all
        simp [same, occupant?, Arena.put, stored]
      · have different : other ≠ ⟨index, generation⟩ := by
          intro equal
          exact sameGeneration (by rw [equal])
        simp [different, occupant?, Arena.put, sameSlot, stored,
          sameGeneration]
    · have different : other ≠ ⟨index, generation⟩ := by
        intro equal
        exact sameSlot (by rw [equal])
      simp [different, occupant?, Arena.put, Ne.symm sameSlot]
  · by_cases same : other = ⟨arena.slots.length, 0⟩
    · simp [same, occupant?]
    · by_cases sameSlot : other.slot = arena.slots.length
      · have sameGeneration : (0 : UInt32) ≠ other.generation := by
          intro equal
          apply same
          cases other
          simp_all
        simp [same, occupant?, sameSlot, sameGeneration]
      · rw [if_neg same]
        apply occupant?_congr_slot
        rw [List.getElem?_append]
        split
        · rfl
        · rename_i beyond
          have afterLast :
              ([⟨0, some ⟨tag, 1, 1⟩⟩] :
                List Slot)[other.slot - arena.slots.length]? = none := by
            apply List.getElem?_eq_none
            rw [List.length_singleton]
            omega
          rw [afterLast, List.getElem?_eq_none (by omega)]

theorem Tidy.insert
    (tidy : arena.Tidy) (tag : Tag) :
    (arena.insert tag).2.Tidy := by
  unfold Arena.insert
  split
  · rename_i index rest free
    obtain ⟨generation, stored⟩ := tidy.free_cons free
    have nodup : (index :: rest).Nodup := free ▸ tidy.nodup
    have notRest := (List.nodup_cons.1 nodup).1
    refine ⟨(List.nodup_cons.1 nodup).2, fun other => ?_⟩
    have before := tidy.mem_free_iff other
    by_cases same : index = other
    · subst same
      simp [Arena.put, notRest, stored]
    · have different : other ≠ index := Ne.symm same
      simp_all [Arena.put]
  · rename_i free
    refine ⟨by simp [free], fun other => ?_⟩
    have before := tidy.mem_free_iff other
    rw [List.getElem?_append]
    split
    · exact before
    · rename_i beyond
      have outside : arena.slots[other]? = none :=
        List.getElem?_eq_none (by omega)
      have last : ∀ slot : Slot,
          [(⟨0, some ⟨tag, 1, 1⟩⟩ : Slot)][other - arena.slots.length]? =
              some slot →
            slot.occupant ≠ none := by
        intro slot stored
        have member := List.mem_of_getElem? stored
        rw [List.mem_singleton.1 member]
        simp
      simp only [free, List.not_mem_nil, false_iff]
      rintro ⟨slot, stored, vacant⟩
      exact last slot stored vacant

end Insert

/-! ## The list of live tags -/

theorem mem_toList_iff
    (arena : Arena) (ref : TagRef) (tag : Tag) :
    (ref, tag) ∈ arena.toList ↔ arena.get? ref = some tag := by
  unfold toList get?
  simp only [List.mem_filterMap, List.mem_zipIdx_iff_getElem?,
    Option.map_eq_some_iff, Prod.exists, Prod.mk.injEq,
    occupant?_eq_some_iff]
  constructor
  · rintro ⟨slot, index, stored, occupant, occupied, refEqual, tagEqual⟩
    refine ⟨occupant, ?_, tagEqual⟩
    subst refEqual
    cases slot
    simp_all
  · rintro ⟨occupant, stored, tagEqual⟩
    exact ⟨_, ref.slot, stored, occupant, rfl, rfl, tagEqual⟩

theorem mem_refList_iff (arena : Arena) (ref : TagRef) :
    ref ∈ arena.refList ↔ arena.contains ref = true := by
  simp only [refList, List.mem_map, Prod.exists, mem_toList_iff,
    exists_and_right, exists_eq_right, get?, contains,
    Option.isSome_iff_exists, Option.map_eq_some_iff]
  constructor
  · rintro ⟨tag, occupant, live, _⟩
    exact ⟨occupant, live⟩
  · rintro ⟨occupant, live⟩
    exact ⟨occupant.tag, occupant, live, rfl⟩

/-- Counting elements takes no notice of their places. -/
theorem countP_zipIdx {α : Type} (list : List α) (holds : α → Bool) :
    (list.zipIdx.countP fun entry => holds entry.1) = list.countP holds :=
  List.countP_map.symm.trans
    (congrArg (List.countP holds) (List.zipIdx_map_fst 0 list))

theorem length_refList (arena : Arena) :
    arena.refList.length = arena.size := by
  simp only [refList, toList, size, List.length_map,
    List.length_filterMap_eq_countP, Option.isSome_map]
  exact countP_zipIdx arena.slots fun slot => slot.occupant.isSome

/-- Live tags live in different slots, and are listed in slot order. -/
theorem refList_sorted (arena : Arena) :
    arena.refList.Pairwise fun left right => left.slot < right.slot := by
  have indices :
      (arena.slots.zipIdx.map Prod.snd).Pairwise fun left right =>
        left < right := by
    rw [List.zipIdx_map_snd]
    exact List.pairwise_lt_range'
  have apart := List.pairwise_map.1 indices
  unfold refList toList
  apply List.pairwise_map.2
  apply List.pairwise_filterMap.2
  refine apart.imp ?_
  intro first second before left leftListed right rightListed
  obtain ⟨_, _, rfl⟩ := Option.map_eq_some_iff.1 leftListed
  obtain ⟨_, _, rfl⟩ := Option.map_eq_some_iff.1 rightListed
  exact before

/-- No live tag is listed twice. -/
theorem refList_nodup (arena : Arena) : arena.refList.Nodup := by
  refine arena.refList_sorted.imp ?_
  intro left right before same
  exact Nat.ne_of_lt before (congrArg TagRef.slot same)

end DesktopTags.Arena
