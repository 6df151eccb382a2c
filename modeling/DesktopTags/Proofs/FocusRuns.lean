import DesktopTags.Proofs.Population
import Mathlib.Data.List.Infix

/-!
# Runs of the focus

The focus history drops its oldest entries whenever it gets a new one. What it
decides depends on its front alone, and the front is never dropped. So a run
leaves the recent part of the history that would be there if nothing were
dropped.
-/

namespace DesktopTags

/-- A change of the focus, as data. -/
inductive FocusMove where
  | focus (client : ClientId)
  | unfocus
  | forget (client : ClientId)
deriving DecidableEq

/-- What a move leaves in a cell that holds the focused client only. -/
def FocusMove.inCell (focused : Option ClientId) : FocusMove → Option ClientId
  | .focus client => some client
  | .unfocus => none
  | .forget client => if focused = some client then none else focused

namespace FocusHistory

/-! ## Moves -/

def move (history : FocusHistory) : FocusMove → FocusHistory
  | .focus client => history.focus client
  | .unfocus => history.unfocus
  | .forget client => history.forget client

/-- The entry that a move pushes, if it pushes one. -/
def pushed? (history : FocusHistory) : FocusMove → Option (Option ClientId)
  | .focus client =>
      if history.current? = some client then none else some (some client)
  | .unfocus => if history.current?.isSome then some none else none
  | .forget client => if history.current? = some client then some none else none

/-- Whether a move leaves an entry in the history. -/
def keeps (entry : Option ClientId) : FocusMove → Bool
  | .forget client => entry ≠ some client
  | _ => true

/-- A history with what a move pushes onto it, in some way to push. -/
def pushedBy
    (push : FocusHistory → Option ClientId → FocusHistory)
    (history : FocusHistory)
    (move : FocusMove) :
    FocusHistory :=
  (history.pushed? move).elim history (push history)

/-- A move on a history that has some way to push. -/
def moveBy
    (push : FocusHistory → Option ClientId → FocusHistory)
    (history : FocusHistory)
    (move : FocusMove) :
    FocusHistory :=
  ⟨(history.pushedBy push move).entries.filter fun entry => keeps entry move⟩

/-- Push an entry and drop nothing. -/
def extend (history : FocusHistory) (entry : Option ClientId) : FocusHistory :=
  ⟨entry :: history.entries⟩

/-- The history that a run leaves. -/
def after (history : FocusHistory) (moves : List FocusMove) : FocusHistory :=
  moves.foldl move history

/-- The history that a run leaves if nothing is dropped when an entry is pushed. -/
def recorded (history : FocusHistory) (moves : List FocusMove) : FocusHistory :=
  moves.foldl (moveBy extend) history

/-- How many entries a run pushes. -/
def pushCount (history : FocusHistory) : List FocusMove → Nat
  | [] => 0
  | first :: rest =>
      (history.pushed? first).isSome.toNat + (history.move first).pushCount rest

/-- What becomes of a history when a client is forgotten: its entries are gone,
and the others keep their order. A client that had the focus leaves an empty entry
in front. -/
structure Forgets (before after : FocusHistory) (client : ClientId) : Prop where
  absent : some client ∉ after.entries
  unfocused :
    before.current? ≠ some client →
      after.entries = before.entries.filter fun entry => entry ≠ some client
  focused :
    before.current? = some client →
      after.entries =
        none :: (before.entries.take kept).filter fun entry =>
          entry ≠ some client

section

variable {history : FocusHistory} {move : FocusMove} {entry : Option ClientId}

/-- A move pushes in one way only. -/
theorem move_eq (history : FocusHistory) (move : FocusMove) :
    history.move move = history.moveBy push move := by
  cases move with
  | focus client =>
      simp only [FocusHistory.move, focus, moveBy, pushedBy, pushed?, keeps,
        List.filter_true]
      split <;> rfl
  | unfocus =>
      simp only [FocusHistory.move, unfocus, moveBy, pushedBy, pushed?, keeps,
        List.filter_true]
      split <;> rfl
  | forget client =>
      simp only [FocusHistory.move, forget, moveBy, pushedBy, pushed?, keeps]
      split <;> rfl

theorem keeps_of_pushed (pushes : history.pushed? move = some entry) :
    keeps entry move = true := by
  cases move with
  | forget client =>
      obtain ⟨_, same⟩ := Option.ite_none_right_eq_some.1 pushes
      cases same
      rfl
  | _ => rfl

theorem keeps_front
    (still : history.pushed? move = none)
    (front : history.entries.head? = some entry) :
    keeps entry move = true := by
  cases move with
  | forget client =>
      have other : history.current? ≠ some client := by
        simpa [pushed?] using still
      rw [current?, front] at other
      simpa [keeps] using other
  | _ => rfl

/-- Whatever a move takes out of a history, the front stays. -/
theorem keeps_head?_pushedBy
    {push : FocusHistory → Option ClientId → FocusHistory}
    (ahead : ∀ history entry, (push history entry).entries.head? = some entry)
    (front : (history.pushedBy push move).entries.head? = some entry) :
    keeps entry move = true := by
  rw [pushedBy] at front
  cases pushes : history.pushed? move with
  | none =>
      rw [pushes] at front
      exact keeps_front pushes front
  | some first =>
      rw [pushes, Option.elim_some, ahead] at front
      exact keeps_of_pushed (pushes.trans front)

end

theorem head?_filter_of_kept
    {entries : List (Option ClientId)} {keep : Option ClientId → Bool}
    (kept : ∀ entry, entries.head? = some entry → keep entry = true) :
    (entries.filter keep).head? = entries.head? := by
  cases entries with
  | nil =>
      rfl
  | cons first rest =>
      rw [List.filter_cons_of_pos (kept first rfl)]
      rfl

/-! ## The recent part -/

/-- A history that drops entries, beside one that drops none and was given as many. -/
structure Follows (short long : FocusHistory) (pushed : Nat) : Prop where
  recent : short.entries <+: long.entries
  front : short.entries.head? = long.entries.head?
  bounded : short.entries.length ≤ kept + 1
  counted : short.entries.length ≤ pushed
  whole : pushed ≤ kept + 1 → short = long

namespace Follows

variable {short long : FocusHistory} {pushed : Nat}

theorem empty : Follows {} {} 0 where
  recent := List.prefix_refl _
  front := rfl
  bounded := Nat.zero_le _
  counted := Nat.le_refl _
  whole := fun _ => rfl

theorem current? (follows : Follows short long pushed) :
    short.current? = long.current? := by
  rw [FocusHistory.current?, FocusHistory.current?, follows.front]

theorem push
    (follows : Follows short long pushed) (entry : Option ClientId) :
    Follows (short.push entry) (long.extend entry) (pushed + 1) where
  recent :=
    List.cons_prefix_cons.2
      ⟨rfl, (List.take_prefix kept short.entries).trans follows.recent⟩
  front := rfl
  bounded := by
    simp only [FocusHistory.push, List.length_cons, List.length_take]
    omega
  counted := by
    have counted := follows.counted
    simp only [FocusHistory.push, List.length_cons, List.length_take]
    omega
  whole := by
    intro few
    have counted := follows.counted
    have all : short.entries.take kept = short.entries :=
      List.take_of_length_le (by omega)
    rw [FocusHistory.push, extend, all, follows.whole (by omega)]

theorem filter
    (follows : Follows short long pushed) {keep : Option ClientId → Bool}
    (kept : ∀ entry, short.entries.head? = some entry → keep entry = true) :
    Follows ⟨short.entries.filter keep⟩ ⟨long.entries.filter keep⟩ pushed where
  recent := follows.recent.filter keep
  front := by
    have alike := follows.front
    rw [head?_filter_of_kept kept,
      head?_filter_of_kept (by rw [← alike]; exact kept), alike]
  bounded := (List.length_filter_le _ _).trans follows.bounded
  counted := (List.length_filter_le _ _).trans follows.counted
  whole := by
    intro few
    rw [follows.whole few]

/-- Both histories decide alike, since they have the same front. -/
theorem move (follows : Follows short long pushed) (move : FocusMove) :
    Follows (short.move move) (long.moveBy extend move)
      (pushed + (short.pushed? move).isSome.toNat) := by
  have alike : long.pushed? move = short.pushed? move := by
    cases move <;> simp only [pushed?, follows.current?]
  have longer :
      Follows (short.pushedBy FocusHistory.push move)
        (long.pushedBy extend move)
        (pushed + (short.pushed? move).isSome.toNat) := by
    rw [pushedBy, pushedBy, alike]
    cases short.pushed? move with
    | none => exact follows
    | some entry => exact follows.push entry
  rw [move_eq]
  exact longer.filter fun entry front =>
    keeps_head?_pushedBy (fun _ _ => rfl) front

theorem after (follows : Follows short long pushed) (moves : List FocusMove) :
    Follows (short.after moves) (long.recorded moves)
      (pushed + short.pushCount moves) := by
  induction moves generalizing short long pushed with
  | nil =>
      exact follows
  | cons first rest inductionHypothesis =>
      have later := inductionHypothesis (follows.move first)
      rw [Nat.add_assoc] at later
      exact later

end Follows

/-! ## What a run keeps -/

theorem current?_unfocus (history : FocusHistory) :
    history.unfocus.current? = none := by
  unfold unfocus
  split
  · rfl
  · rename_i unfocused
    simpa using unfocused

theorem current?_move (history : FocusHistory) (move : FocusMove) :
    (history.move move).current? = move.inCell history.current? := by
  cases move with
  | focus client => exact history.current?_focus client
  | unfocus => exact history.current?_unfocus
  | forget client => exact history.current?_forget client

theorem current?_after (history : FocusHistory) (moves : List FocusMove) :
    (history.after moves).current? =
      moves.foldl FocusMove.inCell history.current? := by
  induction moves generalizing history with
  | nil =>
      rfl
  | cons first rest inductionHypothesis =>
      rw [List.foldl_cons, ← current?_move]
      exact inductionHypothesis (history.move first)

theorem move_ne_nil
    {history : FocusHistory} (nonempty : history.entries ≠ [])
    (move : FocusMove) : (history.move move).entries ≠ [] := by
  have longer : (history.pushedBy push move).entries ≠ [] := by
    rw [pushedBy]
    cases history.pushed? move with
    | none => exact nonempty
    | some entry => exact List.cons_ne_nil _ _
  have kept :
      ∀ entry, (history.pushedBy push move).entries.head? = some entry →
        keeps entry move = true :=
    fun entry => keeps_head?_pushedBy fun _ _ => rfl
  have front := head?_filter_of_kept kept
  rw [move_eq]
  intro emptied
  rw [show (history.pushedBy push move).entries.filter _ = [] from emptied] at front
  exact longer (List.head?_eq_none_iff.1 front.symm)

theorem after_ne_nil
    {history : FocusHistory} (nonempty : history.entries ≠ [])
    (moves : List FocusMove) : (history.after moves).entries ≠ [] := by
  induction moves generalizing history with
  | nil =>
      exact nonempty
  | cons first rest inductionHypothesis =>
      exact inductionHypothesis (move_ne_nil nonempty first)

theorem forget_forgets (history : FocusHistory) (client : ClientId) :
    Forgets history (history.forget client) client where
  absent := by
    intro listed
    exact (mem_of_mem_forget listed).1 rfl
  unfocused := by
    intro unfocused
    rw [forget, if_neg unfocused]
  focused := by
    intro focused
    rw [forget, if_pos focused]
    rfl

/-- A run from the empty history shows the client that a single cell would hold,
and leaves the recent part of all that a history could remember: eleven entries at
most, and all of them if no more were pushed. -/
theorem recent_part_remains (moves : List FocusMove) :
    let history := FocusHistory.after {} moves
    history.current? = moves.foldl FocusMove.inCell none ∧
      history.entries.length ≤ 11 ∧
      history.entries <+: (FocusHistory.recorded {} moves).entries ∧
      (FocusHistory.pushCount {} moves ≤ 11 →
        history = FocusHistory.recorded {} moves) ∧
      (history.entries ≠ [] →
        ∀ later, (FocusHistory.after {} (moves ++ later)).entries ≠ []) ∧
      ∀ client,
        Forgets history (FocusHistory.after {} (moves ++ [.forget client]))
          client := by
  intro history
  have follows := Follows.empty.after moves
  rw [Nat.zero_add] at follows
  refine ⟨current?_after {} moves, follows.bounded, follows.recent,
    follows.whole, ?_, ?_⟩
  · intro nonempty later
    rw [after, List.foldl_append]
    exact after_ne_nil nonempty later
  · intro client
    rw [after, List.foldl_append]
    exact forget_forgets history client

/-- Eleven clients get the focus one after the other, and all are remembered. When
the last one is forgotten, so is the first one, which is the oldest. -/
theorem recent_part_remains_of_eleven :
    let moves := (List.range 11).map fun n => FocusMove.focus ⟨UInt32.ofNat n⟩
    let history := FocusHistory.after {} moves
    let later := FocusHistory.after {} (moves ++ [.forget ⟨10⟩])
    FocusHistory.pushCount {} moves ≤ 11 ∧
      history = FocusHistory.recorded {} moves ∧
      history.entries ≠ [] ∧ later.entries ≠ [] ∧
      some ⟨0⟩ ∈ history.entries ∧ some ⟨0⟩ ∉ later.entries ∧
      some ⟨10⟩ ∉ later.entries ∧
      later.entries <+:
        (FocusHistory.recorded {} (moves ++ [.forget ⟨10⟩])).entries := by
  intro moves history later
  obtain ⟨_, _, _, whole, nonempty, forgets⟩ := recent_part_remains moves
  obtain ⟨_, _, recent, _⟩ := recent_part_remains (moves ++ [.forget ⟨10⟩])
  have few : FocusHistory.pushCount {} moves ≤ 11 := by decide
  have some_entry : history.entries ≠ [] := by decide
  exact ⟨few, whole few, some_entry, nonempty some_entry _, by decide,
    by decide, (forgets ⟨10⟩).absent, recent⟩

end FocusHistory

end DesktopTags
