import DesktopTags.Proofs.Run

/-!
# The order of delivery

A dispatch delivers the queue front first, together with what the handlers queue
behind it in the meantime, until nothing waits or the budget is spent. Nothing
is lost, delivered twice or overtaken.
-/

namespace DesktopTags

/-! ## Handlers at work -/

/-- A handler called with a signal, and what it finds. -/
structure HandlerRun (μ : Type) where
  handler : Handler μ
  signal : Signal
  desktop : Desktop
  memory : μ

/-- A delivered effect with the handlers it calls, one after the other. -/
structure Round (μ : Type) where
  effect : Effect
  runs : List (HandlerRun μ)

/-- The handlers that an effect is for: none for a request, and those connected
under the name of a signal. -/
def Effect.listeners {μ : Type} (handlers : List (Handler μ)) :
    Effect → List (Handler μ)
  | .display _ => []
  | .emit signal =>
      handlers.filter fun handler => handler.name = signal.name

def Effect.request? : Effect → Option DisplayRequest
  | .display request => some request
  | .emit _ => none

section

variable {μ : Type}

def HandlerRun.reaction (run : HandlerRun μ) : Reaction μ :=
  run.handler.react run.signal run.desktop run.memory

/-- What a handler has added to the queue that it found. -/
def HandlerRun.appended (run : HandlerRun μ) : List Effect :=
  run.reaction.desktop.queue.drop run.desktop.queue.length

/-- Handlers that run one after the other. Each finds what the one before left,
so none of them runs inside another. -/
inductive Relay :
    List (HandlerRun μ) → Desktop → μ → Desktop → μ → Prop
  | done (desktop : Desktop) (memory : μ) :
      Relay [] desktop memory desktop memory
  | next (run : HandlerRun μ) {rest : List (HandlerRun μ)}
      {after : Desktop} {last : μ} :
      Relay rest run.reaction.desktop run.reaction.memory after last →
      Relay (run :: rest) run.desktop run.memory after last

/-- Rounds one after the other. The effect of a round has left the front of the
queue before its handlers run. -/
inductive Rounds : List (Round μ) → Desktop → μ → Desktop → μ → Prop
  | done (desktop : Desktop) (memory : μ) :
      Rounds [] desktop memory desktop memory
  | next {effect : Effect} {queue : List Effect}
      {runs : List (HandlerRun μ)} {rest : List (Round μ)}
      {before middle after : Desktop} {first second last : μ} :
      before.queue = effect :: queue →
      Relay runs { before with queue } first middle second →
      Rounds rest middle second after last →
      Rounds (⟨effect, runs⟩ :: rest) before first after last

/-- A round calls each handler that its effect is for once, in order of
connection, and calls no other handler. -/
structure Round.Calls (handlers : List (Handler μ)) (round : Round μ) :
    Prop where
  handlers :
    round.runs.map HandlerRun.handler = round.effect.listeners handlers
  signal : ∀ run ∈ round.runs, round.effect = .emit run.signal

theorem Round.Calls.connected
    {handlers : List (Handler μ)} {round : Round μ}
    (calls : round.Calls handlers)
    {run : HandlerRun μ} (ran : run ∈ round.runs) :
    run.handler ∈ handlers := by
  have listens :
      run.handler ∈ round.effect.listeners handlers := by
    rw [← calls.handlers]
    exact List.mem_map_of_mem ran
  rw [calls.signal run ran] at listens
  exact (List.mem_filter.1 listens).1

end

/-! ## A delivery run as rounds -/

namespace Session

variable {σ μ : Type}

theorem notify_relay
    (signal : Signal) (handlers : List (Handler μ))
    (desktop : Desktop) (memory : μ) :
    ∃ runs,
      Relay runs desktop memory
          (notify signal handlers desktop memory).desktop
          (notify signal handlers desktop memory).memory ∧
        Round.Calls handlers ⟨.emit signal, runs⟩ := by
  induction handlers generalizing desktop memory with
  | nil =>
      exact ⟨[], .done desktop memory, rfl, by simp⟩
  | cons handler rest inductionHypothesis =>
      by_cases named : handler.name = signal.name
      · let run : HandlerRun μ := ⟨handler, signal, desktop, memory⟩
        obtain ⟨runs, relay, calls⟩ :=
          inductionHypothesis run.reaction.desktop run.reaction.memory
        have same :
            (run :: runs).map HandlerRun.handler =
              Effect.listeners (handler :: rest) (.emit signal) := by
          have later := calls.handlers
          simp only [Effect.listeners] at later ⊢
          rw [List.filter_cons_of_pos (by simpa using named), ← later]
          rfl
        refine ⟨run :: runs, ?_, same, ?_⟩
        · simp only [notify, named, if_true]
          exact .next run relay
        · intro other ran
          rcases List.mem_cons.1 ran with now | later
          · rw [now]
          · exact calls.signal other later
      · obtain ⟨runs, relay, calls⟩ := inductionHypothesis desktop memory
        have same :
            runs.map HandlerRun.handler =
              Effect.listeners (handler :: rest) (.emit signal) := by
          have later := calls.handlers
          simp only [Effect.listeners] at later ⊢
          rw [List.filter_cons_of_neg (by simpa using named), ← later]
        refine ⟨runs, ?_, same, calls.signal⟩
        simp only [notify, named, if_false]
        exact relay

theorem deliver_relay (effect : Effect) (session : Session σ μ) :
    ∃ runs,
      Relay runs session.desktop session.memory
          (deliver effect session).1.desktop
          (deliver effect session).1.memory ∧
        Round.Calls session.handlers ⟨effect, runs⟩ := by
  cases effect with
  | display request =>
      exact ⟨[], .done session.desktop session.memory, rfl, by simp⟩
  | emit signal =>
      exact notify_relay signal session.handlers session.desktop
        session.memory

/-- The display after some effects, of which it is told the requests. -/
def shown (session : Session σ μ) (effects : List Effect) : σ :=
  (effects.filterMap Effect.request?).foldl
    (fun display request => (session.server.execute request display).1)
    session.display

theorem deliver_shown
    (effect : Effect) (session : Session σ μ) (effects : List Effect) :
    (deliver effect session).1.shown effects =
      session.shown (effect :: effects) := by
  cases effect <;> rfl

/-- A delivery changes neither who listens nor whom the session tells. -/
theorem deliver_frame (effect : Effect) (session : Session σ μ) :
    { (deliver effect session).1 with
        desktop := session.desktop
        display := session.display
        memory := session.memory } = session := by
  cases effect <;> rfl

structure Delivers
    (session : Session σ μ) (rounds : List (Round μ))
    (delivery : Delivery σ μ) : Prop where
  delivered : rounds.map Round.effect = delivery.delivered
  run :
    Rounds rounds session.desktop session.memory
      delivery.session.desktop delivery.session.memory
  calls : ∀ round ∈ rounds, round.Calls session.handlers

theorem drain_delivers (budget : Nat) (session : Session σ μ) :
    ∃ rounds, session.Delivers rounds (drain budget session) := by
  induction budget generalizing session with
  | zero =>
      exact ⟨[], rfl, .done _ _, by simp⟩
  | succ budget inductionHypothesis =>
      cases waiting : session.desktop.queue with
      | nil =>
          simp only [drain, waiting]
          exact ⟨[], rfl, .done _ _, by simp⟩
      | cons effect queue =>
          -- The effect leaves the queue before its handlers run.
          let taken : Session σ μ :=
            { session with desktop := { session.desktop with queue } }
          obtain ⟨runs, relay, calls⟩ := deliver_relay effect taken
          obtain ⟨rounds, later⟩ :=
            inductionHypothesis (deliver effect taken).1
          have connected := congrArg Session.handlers
            (deliver_frame effect taken)
          refine ⟨⟨effect, runs⟩ :: rounds, ?_⟩
          simp only [drain, waiting]
          constructor
          · exact congrArg (effect :: ·) later.delivered
          · exact .next waiting relay later.run
          · intro round member
            rcases List.mem_cons.1 member with now | behind
            · rw [now]
              exact calls
            · have called := later.calls round behind
              rw [connected] at called
              exact called

theorem drain_display (budget : Nat) (session : Session σ μ) :
    (drain budget session).session.display =
      session.shown (drain budget session).delivered := by
  induction budget generalizing session with
  | zero =>
      rfl
  | succ budget inductionHypothesis =>
      cases waiting : session.desktop.queue with
      | nil =>
          simp only [drain, waiting]
          rfl
      | cons effect queue =>
          simp only [drain, waiting]
          rw [inductionHypothesis, deliver_shown]
          rfl

theorem drain_frame (budget : Nat) (session : Session σ μ) :
    { (drain budget session).session with
        desktop := session.desktop
        display := session.display
        memory := session.memory } = session := by
  induction budget generalizing session with
  | zero =>
      rfl
  | succ budget inductionHypothesis =>
      cases waiting : session.desktop.queue with
      | nil =>
          simp only [drain, waiting]
      | cons effect queue =>
          let taken : Session σ μ :=
            { session with desktop := { session.desktop with queue } }
          have later := inductionHypothesis (deliver effect taken).1
          have now := deliver_frame effect taken
          rw [← later] at now
          simp only [drain, waiting]
          exact congrArg
            (fun result : Session σ μ =>
              { result with desktop := session.desktop }) now

/-- A delivery run delivers no more than its budget. What it delivers less, it
delivers less because nothing waits. -/
theorem drain_budget (budget : Nat) (session : Session σ μ) :
    (drain budget session).delivered.length ≤ budget ∧
      ((drain budget session).delivered.length < budget →
        (drain budget session).session.desktop.queue = []) := by
  induction budget generalizing session with
  | zero =>
      exact ⟨Nat.le_refl 0, fun less => absurd less (Nat.lt_irrefl 0)⟩
  | succ budget inductionHypothesis =>
      cases waiting : session.desktop.queue with
      | nil =>
          simp only [drain, waiting]
          exact ⟨Nat.zero_le _, fun _ => trivial⟩
      | cons effect queue =>
          let taken : Session σ μ :=
            { session with desktop := { session.desktop with queue } }
          obtain ⟨within, emptied⟩ :=
            inductionHypothesis (deliver effect taken).1
          simp only [drain, waiting, List.length_cons]
          refine ⟨Nat.succ_le_succ within, fun less => ?_⟩
          exact emptied (Nat.lt_of_succ_lt_succ less)

end Session

/-! ## Handlers add to the end of the queue -/

section

variable {μ : Type}

def HandlerRun.Appends (run : HandlerRun μ) : Prop :=
  run.reaction.desktop.queue = run.desktop.queue ++ run.appended

theorem HandlerRun.appends
    {run : HandlerRun μ}
    (reenters : run.handler.Reenters) (sound : run.desktop.Sound) :
    run.Appends := by
  obtain ⟨calls, reacted⟩ := reenters run.signal run.desktop run.memory
  obtain ⟨effects, changes⟩ := sound.after_changes calls
  have queued := changes.queue
  rw [← reacted] at queued
  unfold HandlerRun.Appends HandlerRun.appended HandlerRun.reaction
  rw [queued, List.drop_left]

theorem HandlerRun.sound
    {run : HandlerRun μ}
    (reenters : run.handler.Reenters) (sound : run.desktop.Sound) :
    run.reaction.desktop.Sound := by
  obtain ⟨calls, reacted⟩ := reenters run.signal run.desktop run.memory
  unfold HandlerRun.reaction
  rw [reacted]
  exact sound.after calls

theorem Relay.sound
    {runs : List (HandlerRun μ)} {before after : Desktop} {first last : μ}
    (relay : Relay runs before first after last)
    (reenter : ∀ run ∈ runs, run.handler.Reenters) (sound : before.Sound) :
    after.Sound ∧ ∀ run ∈ runs, run.Appends := by
  induction relay with
  | done =>
      exact ⟨sound, by simp⟩
  | next run _ inductionHypothesis =>
      obtain ⟨reenters, restReenter⟩ := List.forall_mem_cons.1 reenter
      obtain ⟨later, appends⟩ :=
        inductionHypothesis restReenter (run.sound reenters sound)
      exact ⟨later,
        List.forall_mem_cons.2 ⟨run.appends reenters sound, appends⟩⟩

theorem Relay.queue
    {runs : List (HandlerRun μ)} {before after : Desktop} {first last : μ}
    (relay : Relay runs before first after last)
    (appends : ∀ run ∈ runs, run.Appends) :
    after.queue = before.queue ++ runs.flatMap HandlerRun.appended := by
  induction relay with
  | done =>
      simp
  | next run _ inductionHypothesis =>
      obtain ⟨now, later⟩ := List.forall_mem_cons.1 appends
      rw [inductionHypothesis later, now, List.flatMap_cons,
        List.append_assoc]

theorem Rounds.appends
    {rounds : List (Round μ)} {before after : Desktop} {first last : μ}
    (run : Rounds rounds before first after last)
    (reenter : ∀ round ∈ rounds, ∀ run ∈ round.runs, run.handler.Reenters)
    (sound : before.Sound) :
    ∀ round ∈ rounds, ∀ run ∈ round.runs, run.Appends := by
  induction run with
  | done =>
      simp
  | next _ relay _ inductionHypothesis =>
      obtain ⟨now, later⟩ := List.forall_mem_cons.1 reenter
      obtain ⟨middle, appends⟩ := relay.sound now { sound with }
      exact List.forall_mem_cons.2
        ⟨appends, inductionHypothesis later middle⟩

/-- What is delivered, followed by what still waits, is what waited before,
followed by what the handlers have added. -/
theorem Rounds.queue
    {rounds : List (Round μ)} {before after : Desktop} {first last : μ}
    (run : Rounds rounds before first after last)
    (appends : ∀ round ∈ rounds, ∀ run ∈ round.runs, run.Appends) :
    rounds.map Round.effect ++ after.queue =
      before.queue ++
        (rounds.flatMap Round.runs).flatMap HandlerRun.appended := by
  induction run with
  | done =>
      simp
  | next front relay _ inductionHypothesis =>
      obtain ⟨now, later⟩ := List.forall_mem_cons.1 appends
      have behind := inductionHypothesis later
      rw [relay.queue now] at behind
      rw [List.map_cons, List.cons_append, behind, front, List.flatMap_cons,
        List.flatMap_append, List.cons_append, List.append_assoc]

end

/-! ## Dispatch -/

namespace Session

variable {σ μ : Type}

structure DeliversInOrder
    (session : Session σ μ) (rounds : List (Round μ))
    (delivery : Delivery σ μ) : Prop
    extends session.Delivers rounds delivery where
  appends : ∀ round ∈ rounds, ∀ run ∈ round.runs, run.Appends
  queue :
    delivery.delivered ++ delivery.session.desktop.queue =
      session.desktop.queue ++
        (rounds.flatMap Round.runs).flatMap HandlerRun.appended
  /-- The display is told each delivered request once, in order, and that the
  delivery is over. -/
  display :
    delivery.session.display =
      (session.server.flush (session.shown delivery.delivered)).1
  frame :
    { delivery.session with
        desktop := session.desktop
        display := session.display
        memory := session.memory } = session
  within : delivery.delivered.length ≤ session.settings.dispatchBudget
  emptied :
    delivery.delivered.length < session.settings.dispatchBudget →
      delivery.session.desktop.queue = []

/-- A dispatch delivers in order, each effect once, and no more than its budget.
Every signal calls the handlers of its name, one after the other in order of
connection, and what they queue waits behind all that waits already. -/
theorem dispatch_in_order
    {session : Session σ μ} (reachable : session.desktop.Reachable)
    (reenter : ∀ handler ∈ session.handlers, handler.Reenters) :
    ∃ rounds, session.DeliversInOrder rounds session.dispatch := by
  let budget := session.settings.dispatchBudget
  obtain ⟨rounds, delivers⟩ := drain_delivers budget session
  have allReenter :
      ∀ round ∈ rounds, ∀ run ∈ round.runs, run.handler.Reenters := by
    intro round member run ran
    exact reenter run.handler ((delivers.calls round member).connected ran)
  have appends := delivers.run.appends allReenter reachable.sound
  have queue := delivers.run.queue appends
  rw [delivers.delivered] at queue
  have display := drain_display budget session
  have frame := drain_frame budget session
  have server := congrArg Session.server frame
  obtain ⟨within, emptied⟩ := drain_budget budget session
  refine ⟨rounds, ?_⟩
  constructor
  · exact ⟨delivers.delivered, delivers.run, delivers.calls⟩
  · exact appends
  · exact queue
  · simp only [dispatch]
    rw [display]
    exact congrArg
      (fun told : DisplayServer σ =>
        (told.flush (session.shown (drain budget session).delivered)).1)
      server
  · exact frame
  · exact within
  · exact emptied

/-- The handler renames the tag at both signals of a new member, and the budget
ends between the two effects of the first renaming. -/
theorem dispatch_in_order_cut_off :
    let desktop := (Desktop.start { tags := ["main"] }).desktop.after
      [.addScreen "DP-1", .manageClient ⟨7⟩ ⟨0⟩, .tagClient ⟨0, 0⟩ ⟨7⟩]
    let session : Session Unit Unit :=
      { answering desktop "tagged" [.setName ⟨0, 0⟩ "web"] with
        settings := { dispatchBudget := 11 } }
    let renamed : List Effect :=
      [Effect.property ⟨0, 0⟩ .nameChanged, .display .updateDesktopNames]
    session.desktop.Reachable ∧
      (∀ handler ∈ session.handlers, handler.Reenters) ∧
      ∃ rounds, session.DeliversInOrder rounds session.dispatch ∧
        (rounds.flatMap Round.runs).flatMap HandlerRun.appended =
          renamed ++ renamed ∧
        session.dispatch.delivered =
          desktop.queue ++ [Effect.property ⟨0, 0⟩ .nameChanged] := by
  intro desktop session renamed
  have reachable : session.desktop.Reachable :=
    (Desktop.Reachable.start _).after _
  have reenter : ∀ handler ∈ session.handlers, handler.Reenters :=
    answering_reenter desktop _ _
  obtain ⟨rounds, inOrder⟩ := dispatch_in_order reachable reenter
  -- The rounds are only known to exist, so what they add is read off the queue.
  have added :
      session.desktop.queue ++
          (rounds.flatMap Round.runs).flatMap HandlerRun.appended =
        session.desktop.queue ++ (renamed ++ renamed) := by
    rw [← inOrder.queue]
    decide
  exact ⟨reachable, reenter, rounds, inOrder,
    List.append_cancel_left added, by decide⟩

end Session

end DesktopTags
