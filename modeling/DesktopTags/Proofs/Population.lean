import DesktopTags.ClientTable
import DesktopTags.FocusHistory

namespace DesktopTags

/-! ## The client table as a list of ids -/

namespace ClientTable

theorem contains_iff_mem (table : ClientTable) (client : ClientId) :
    table.contains client = true ↔
      client ∈ table.clients.map Client.id := by
  simp only [contains, get?, List.find?_isSome, decide_eq_true_eq,
    List.mem_map]

theorem contains_insert_iff
    (table : ClientTable) (client other : ClientId) (screen : ScreenId) :
    (table.insert client screen).contains other = true ↔
      table.contains other = true ∨ other = client := by
  simp only [contains_iff_mem, insert, List.map_append, List.mem_append,
    List.map_cons, List.map_nil, List.mem_singleton]

theorem ids_erase (table : ClientTable) (client : ClientId) :
    (table.erase client).clients.map Client.id =
      (table.clients.map Client.id).erase client := by
  have test :
      (fun entry : Client => decide (entry.id = client)) =
        (fun id => client == id) ∘ Client.id := by
    funext entry
    by_cases same : entry.id = client
    · simp [same]
    · simp [same, Ne.symm same]
  rw [List.erase_eq_eraseP, List.eraseP_map, erase, test]

theorem contains_erase_of_ne
    (table : ClientTable) {client other : ClientId}
    (different : other ≠ client) :
    (table.erase client).contains other = true ↔
      table.contains other = true := by
  rw [contains_iff_mem, contains_iff_mem, ids_erase,
    List.mem_erase_of_ne different]

/-- A client that came last leaves the table as it was. -/
theorem erase_insert
    {table : ClientTable} {client : ClientId}
    (absent : table.contains client = false) (screen : ScreenId) :
    (table.insert client screen).erase client = table := by
  have others :
      ∀ entry ∈ table.clients, ¬ decide (entry.id = client) = true := by
    intro entry listed same
    have present : table.contains client = true :=
      (contains_iff_mem table client).2
        (List.mem_map.2 ⟨entry, listed, of_decide_eq_true same⟩)
    exact Bool.false_ne_true (absent.symm.trans present)
  rw [insert, erase, List.eraseP_append_right _ others]
  simp

/-- Without the client that leaves, the table lists the others as before. -/
theorem clients_erase
    {table : ClientTable} (nodup : (table.clients.map Client.id).Nodup)
    (client : ClientId) :
    (table.erase client).clients =
      table.clients.filter fun entry => entry.id ≠ client := by
  cases table with
  | mk clients =>
      unfold erase
      induction clients with
      | nil =>
          rfl
      | cons entry rest inductionHypothesis =>
          obtain ⟨absent, restNodup⟩ := List.nodup_cons.1 nodup
          by_cases same : entry.id = client
          · subst same
            have others : ∀ other ∈ rest, other.id ≠ entry.id := by
              intro other listed equal
              exact absent (equal ▸ List.mem_map_of_mem listed)
            simpa using (List.filter_eq_self.2 (by simpa using others)).symm
          · simpa [same] using inductionHypothesis restNodup

end ClientTable

/-! ## Who is mentioned in the focus history -/

namespace FocusHistory

variable {history : FocusHistory} {client other : ClientId}

theorem mem_of_mem_push
    {entry : Option ClientId}
    (member : some other ∈ (history.push entry).entries) :
    entry = some other ∨ some other ∈ history.entries := by
  rcases List.mem_cons.1 member with first | kept
  · exact Or.inl first.symm
  · exact Or.inr (List.mem_of_mem_take kept)

theorem mem_of_mem_focus
    (member : some other ∈ (history.focus client).entries) :
    other = client ∨ some other ∈ history.entries := by
  unfold focus at member
  split at member
  · exact Or.inr member
  · rcases mem_of_mem_push member with new | known
    · exact Or.inl (Option.some.inj new).symm
    · exact Or.inr known

theorem mem_of_mem_unfocus
    (member : some other ∈ history.unfocus.entries) :
    some other ∈ history.entries := by
  unfold unfocus at member
  split at member
  · rcases mem_of_mem_push member with new | known
    · cases new
    · exact known
  · exact member

theorem mem_of_mem_forget
    (member : some other ∈ (history.forget client).entries) :
    other ≠ client ∧ some other ∈ history.entries := by
  unfold forget at member
  obtain ⟨ended, different⟩ := List.mem_filter.1 member
  refine ⟨fun same => by simp [same] at different, ?_⟩
  split at ended
  · rcases mem_of_mem_push ended with new | known
    · cases new
    · exact known
  · exact ended

/-- If a client that is forgotten had the focus, nothing has it afterwards. -/
theorem current?_forget (history : FocusHistory) (client : ClientId) :
    (history.forget client).current? =
      if history.current? = some client then none else history.current? := by
  unfold forget
  split
  · rfl
  · rename_i unfocused
    cases history with
    | mk entries =>
        cases entries with
        | nil =>
            rfl
        | cons front rest =>
            have different : front ≠ some client := unfocused
            simp [current?, different]

theorem mem_of_current? (focused : history.current? = some client) :
    some client ∈ history.entries := by
  have front := Option.join_eq_some_iff.1 focused
  exact List.mem_of_mem_head? front

/-- A history that does not mention a client has nothing to forget. -/
theorem forget_of_notMem (absent : some client ∉ history.entries) :
    history.forget client = history := by
  have unfocused : history.current? ≠ some client := by
    intro focused
    exact absent (mem_of_current? focused)
  have kept :
      history.entries.filter (fun entry => entry ≠ some client) =
        history.entries := by
    apply List.filter_eq_self.2
    intro entry member
    exact decide_eq_true (ne_of_mem_of_not_mem member absent)
  rw [forget, if_neg unfocused, kept]

/-! ## The focus asked for twice -/

theorem current?_focus (history : FocusHistory) (client : ClientId) :
    (history.focus client).current? = some client := by
  unfold focus
  split
  · assumption
  · rfl

theorem focus_focus (history : FocusHistory) (client : ClientId) :
    (history.focus client).focus client = history.focus client := by
  rw [focus, if_pos (history.current?_focus client)]

theorem unfocus_unfocus (history : FocusHistory) :
    history.unfocus.unfocus = history.unfocus := by
  have unfocused : history.unfocus.current?.isSome = false := by
    unfold unfocus
    split
    · rfl
    · rename_i absent
      exact Bool.not_eq_true _ ▸ absent
  rw [unfocus, unfocused]
  rfl

end FocusHistory

end DesktopTags
