import DesktopTags.Settings.Check
import Mathlib.Data.List.Nodup
import Mathlib.Data.List.Sort
import Mathlib.Data.String.Basic

/-!
# Repeated names

Sorting makes neighbours of equal names, so keeping one of each run of neighbours shortens a
list exactly if some name stands at two positions. The check of the tags notes just that,
whatever the order of the tags, and does not fail for it: `checkTags_notes_repeats`.
-/

namespace DesktopTags

/-! ## Runs of equal neighbours -/

theorem collapseRuns_sublist (names : List String) : (collapseRuns names).Sublist names := by
  fun_induction collapseRuns names with
  | case1 => exact .refl []
  | case2 name => exact .refl [name]
  | case3 name rest inductionHypothesis => exact inductionHypothesis.cons name
  | case4 name next rest _ inductionHypothesis => exact inductionHypothesis.cons_cons name

/-- Collapsing the runs leaves a list as it is exactly if no neighbours are equal. -/
theorem collapseRuns_eq_self_iff (names : List String) :
    collapseRuns names = names ↔ names.IsChain (· ≠ ·) := by
  fun_induction collapseRuns names with
  | case1 => simp
  | case2 name => simp
  | case3 name rest =>
      have shorter := (collapseRuns_sublist (name :: rest)).length_le
      constructor
      · intro same
        rw [same, List.length_cons] at shorter
        omega
      · intro apart
        exact absurd rfl (List.isChain_cons_cons.mp apart).1
  | case4 name next rest different inductionHypothesis =>
      simp [List.isChain_cons_cons, inductionHypothesis, different]

/-- In a sorted list equal names are neighbours. -/
theorem nodup_iff_isChain_ne
    {names : List String} (sorted : names.SortedLE) :
    names.Nodup ↔ names.IsChain (· ≠ ·) := by
  constructor
  · exact List.Pairwise.isChain
  · intro apart
    have rising : names.IsChain (· < ·) := by
      have ordered := sorted.isChain
      rw [List.isChain_iff_getElem] at apart ordered ⊢
      intro index inside
      exact lt_of_le_of_ne (ordered index inside) (apart index inside)
    exact (List.sortedLT_iff_isChain.mpr rising).nodup

/-! ## Repeated names -/

theorem length_distinctNames_eq_iff (names : List String) :
    (distinctNames names).length = names.length ↔ names.Nodup := by
  have reordered := names.mergeSort_perm fun a b => decide (a ≤ b)
  have sorted : (names.mergeSort fun a b => decide (a ≤ b)).SortedLE := List.sortedLE_mergeSort
  rw [distinctNames, ← reordered.length_eq, ← reordered.nodup_iff, nodup_iff_isChain_ne sorted,
    ← collapseRuns_eq_self_iff]
  exact ⟨(collapseRuns_sublist _).eq_of_length, congrArg List.length⟩

theorem hasRepeatedName_iff (names : List String) :
    hasRepeatedName names = true ↔ ¬names.Nodup := by
  rw [hasRepeatedName, decide_eq_true_iff, ne_eq, length_distinctNames_eq_iff]

theorem hasRepeatedName_of_perm
    {names others : List String} (reordered : names.Perm others) :
    hasRepeatedName names = hasRepeatedName others := by
  rw [Bool.eq_iff_iff, hasRepeatedName_iff, hasRepeatedName_iff, reordered.nodup_iff]

namespace Settings

/-! ## The check of the tags -/

theorem checkTags_of_empty
    {settings : Settings} (empty : settings.tags = []) (verbose : Bool) :
    settings.checkTags verbose =
      ⟨false, (if verbose then ["Checking the tag list."] else []) ++
        ["No tags are configured, nothing can be shown until a tag is created."]⟩ := by
  rw [checkTags, empty]
  rfl

/-- The note stands between the lines about the check itself, whether the budget passes or
not. -/
theorem checkTags_of_filled
    {settings : Settings} (filled : settings.tags ≠ []) (verbose : Bool) :
    settings.checkTags verbose =
      ⟨decide (settings.dispatchBudget ≠ 0),
        (if verbose then ["Checking the tag list."] else []) ++
          (if hasRepeatedName settings.tags then [repeatedNamesNote] else []) ++
          if settings.dispatchBudget = 0 then
            ["dispatch_budget is 0, no signal will ever be delivered."]
          else if verbose then ["Tags are okay."] else []⟩ := by
  rw [checkTags, if_neg (by rwa [List.isEmpty_iff])]
  by_cases spent : settings.dispatchBudget = 0
  · simp only [spent, if_true, ne_eq, not_true_eq_false, decide_false]
  · simp only [spent, if_false, ne_eq, not_false_eq_true, decide_true]

theorem note_mem_checkTags_iff (settings : Settings) (verbose : Bool) :
    repeatedNamesNote ∈ (settings.checkTags verbose).lines ↔
      settings.tags ≠ [] ∧ hasRepeatedName settings.tags = true := by
  by_cases empty : settings.tags = []
  · rw [checkTags_of_empty empty]
    cases verbose <;> simp [empty, repeatedNamesNote]
  · rw [checkTags_of_filled empty]
    by_cases spent : settings.dispatchBudget = 0
    · cases verbose <;> simp [empty, spent, repeatedNamesNote]
    · cases verbose <;> simp [empty, spent, repeatedNamesNote]

theorem checkTags_of_perm
    {settings : Settings} {names : List String} (reordered : names.Perm settings.tags)
    (verbose : Bool) :
    { settings with tags := names }.checkTags verbose = settings.checkTags verbose := by
  have empty : names.isEmpty = settings.tags.isEmpty := reordered.isEmpty_eq
  simp only [checkTags, empty, hasRepeatedName_of_perm reordered]

theorem checkTags_passed_iff (settings : Settings) (verbose : Bool) :
    (settings.checkTags verbose).passed = true ↔
      settings.tags ≠ [] ∧ settings.dispatchBudget ≠ 0 := by
  by_cases empty : settings.tags = []
  · rw [checkTags_of_empty empty]
    simp [empty]
  · rw [checkTags_of_filled empty]
    simp [empty]

/-- The note is printed if two different positions of the list hold the same name. What the
check answers and prints does not depend on the order of the names, and it fails only for
an empty list or a budget of zero. -/
theorem checkTags_notes_repeats (settings : Settings) (verbose : Bool) :
    (repeatedNamesNote ∈ (settings.checkTags verbose).lines ↔
      settings.tags ≠ [] ∧
        ∃ first second : Fin settings.tags.length,
          first ≠ second ∧ settings.tags.get first = settings.tags.get second) ∧
    (∀ names : List String, names.Perm settings.tags →
      { settings with tags := names }.checkTags verbose = settings.checkTags verbose) ∧
    ((settings.checkTags verbose).passed = true ↔
      settings.tags ≠ [] ∧ settings.dispatchBudget ≠ 0) := by
  refine ⟨?_, fun names reordered => checkTags_of_perm reordered verbose,
    settings.checkTags_passed_iff verbose⟩
  rw [note_mem_checkTags_iff, hasRepeatedName_iff, List.nodup_iff_injective_get,
    Function.not_injective_iff]
  exact and_congr_right fun _ => exists₂_congr fun _ _ => and_comm

/-- Equal names that stand apart are noted, beside the complaint about the budget too, and in
every order. -/
theorem checkTags_notes_repeats_that_stand_apart :
    let settings : Settings := { tags := ["web", "", "mail", "web"], dispatchBudget := 0 }
    repeatedNamesNote ∈ (settings.checkTags true).lines ∧
      ["web", "web", "mail", ""].Perm settings.tags ∧
      ({ settings with tags := ["web", "web", "mail", ""] }.checkTags true =
        settings.checkTags true) ∧
      (settings.checkTags true).passed = false ∧
      ({ settings with dispatchBudget := 1 }.checkTags true).passed = true := by
  intro settings
  have reordered : ["web", "web", "mail", ""].Perm settings.tags := by decide
  obtain ⟨noted, same, passes⟩ := settings.checkTags_notes_repeats true
  have funded := { settings with dispatchBudget := 1 }.checkTags_notes_repeats true
  refine ⟨noted.mpr ⟨by decide, 0, 3, by decide, rfl⟩, reordered, same _ reordered, ?_,
    funded.2.2.mpr ⟨by decide, by decide⟩⟩
  rw [← Bool.not_eq_true, passes]
  decide

end Settings

end DesktopTags
