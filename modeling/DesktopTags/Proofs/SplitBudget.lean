import DesktopTags.Proofs.DeliveryOrder

/-!
# A budget spent in two dispatches

Two dispatches in a row do what one dispatch does whose budget is the sum of
theirs: the same rounds, one after the other. Only the display is flushed once
more on the way, and the log counts what is left at the end of each.
-/

namespace DesktopTags

/-! ## Rounds as a script -/

section

variable {μ : Type}

/-- Handlers that run in relay leave what notifying them leaves. -/
theorem Relay.notify_eq
    {signal : Signal} {handlers : List (Handler μ)}
    {runs : List (HandlerRun μ)}
    {before after : Desktop} {first last : μ}
    (relay : Relay runs before first after last)
    (calls : Round.Calls handlers ⟨.emit signal, runs⟩) :
    Session.notify signal handlers before first =
      ⟨after, last, runs.flatMap fun run => run.reaction.log⟩ := by
  obtain ⟨listening, signals⟩ := calls
  simp only [Effect.listeners] at listening
  induction handlers generalizing runs before first with
  | nil =>
      rw [List.filter_nil, List.map_eq_nil_iff] at listening
      subst listening
      cases relay with
      | done => rfl
  | cons handler rest inductionHypothesis =>
      by_cases named : handler.name = signal.name
      · rw [List.filter_cons_of_pos (by simpa using named)] at listening
        cases relay with
        | done => cases listening
        | next run later =>
            obtain ⟨same, others⟩ := List.cons.inj listening
            obtain ⟨now, behind⟩ := List.forall_mem_cons.1 signals
            injection now with heard
            have notified := inductionHypothesis later others behind
            subst same heard
            simp only [Session.notify, named, if_true]
            rw [show run.handler.react run.signal run.desktop run.memory =
              run.reaction from rfl, notified]
            rfl
      · rw [List.filter_cons_of_neg (by simpa using named)] at listening
        simp only [Session.notify, named, if_false]
        exact inductionHypothesis relay listening signals

theorem Rounds.append
    {front back : List (Round μ)}
    {before middle after : Desktop} {first second last : μ}
    (left : Rounds front before first middle second)
    (right : Rounds back middle second after last) :
    Rounds (front ++ back) before first after last := by
  induction left with
  | done =>
      exact right
  | next waiting relay _ inductionHypothesis =>
      exact .next waiting relay (inductionHypothesis right)

/-- Nothing is delivered from an empty queue. -/
theorem Rounds.eq_nil
    {rounds : List (Round μ)} {before after : Desktop} {first last : μ}
    (run : Rounds rounds before first after last)
    (empty : before.queue = []) :
    rounds = [] ∧ after = before := by
  cases run with
  | done =>
      exact ⟨rfl, rfl⟩
  | next waiting _ _ =>
      rw [empty] at waiting
      cases waiting

/-- So many deliveries are within a budget, and it is used up unless nothing
waits. -/
def Exhausts (delivered budget : Nat) (after : Desktop) : Prop :=
  delivered ≤ budget ∧ (delivered < budget → after.queue = [])

/-- Two budgets spent one after the other are their sum spent at once. -/
theorem Rounds.exhausts_append
    {front back : List (Round μ)} {middle after : Desktop} {second last : μ}
    {budget further : Nat}
    (earlier : Exhausts front.length budget middle)
    (run : Rounds back middle second after last)
    (later : Exhausts back.length further after) :
    Exhausts (front ++ back).length (budget + further) after := by
  obtain ⟨within, spent⟩ := earlier
  obtain ⟨withinToo, spentToo⟩ := later
  rw [Exhausts, List.length_append]
  refine ⟨Nat.add_le_add within withinToo, fun less => ?_⟩
  by_cases early : front.length < budget
  · -- The first run found the queue empty, so the second one stood still.
    have empty := spent early
    rw [(run.eq_nil empty).2]
    exact empty
  · exact spentToo (by omega)

end

/-! ## What the display and the log are told -/

section

variable {σ μ : Type}

/-- What a round tells the display, and what is logged meanwhile. -/
def Round.tell
    (server : DisplayServer σ) (round : Round μ) (display : σ) :
    σ × List LogEvent :=
  match round.effect with
  | .display request =>
      let (display, log) := server.execute request display
      (display, .deliveringRequest request :: log)
  | .emit signal =>
      (display,
        .deliveringSignal signal ::
          round.runs.flatMap fun run => run.reaction.log)

/-- What rounds tell, one after the other. -/
def Round.tellAll
    (server : DisplayServer σ) : List (Round μ) → σ → σ × List LogEvent
  | [], display => (display, [])
  | round :: rest, display =>
      let (display, log) := round.tell server display
      let (display, more) := tellAll server rest display
      (display, log ++ more)

/-- What the end of a dispatch tells: a warning if effects are left, and a
flush. -/
def DisplayServer.close
    (server : DisplayServer σ) (budget left : Nat) (display : σ) :
    σ × List LogEvent :=
  let (display, log) := server.flush display
  (display, (if left = 0 then [] else [.budgetSpent budget left]) ++ log)

end

namespace Session

variable {σ μ : Type}

/-! ## A run by its rounds -/

theorem deliver_eq
    (session : Session σ μ) {round : Round μ} {after : Desktop} {last : μ}
    (relay :
      Relay round.runs session.desktop session.memory after last)
    (calls : round.Calls session.handlers) :
    deliver round.effect session =
      ({ session with
          desktop := after
          display := (round.tell session.server session.display).1
          memory := last },
        (round.tell session.server session.display).2) := by
  obtain ⟨effect, runs⟩ := round
  cases effect with
  | display request =>
      have none : runs = [] := List.map_eq_nil_iff.1 calls.handlers
      subst none
      cases relay with
      | done => rfl
  | emit signal =>
      simp only [deliver, relay.notify_eq calls, Round.tell]

/-- A run is known by its rounds: they follow from one another, call the
handlers they have to, and spend the budget. -/
theorem drain_eq
    {session : Session σ μ} {rounds : List (Round μ)} {budget : Nat}
    {after : Desktop} {last : μ}
    (run : Rounds rounds session.desktop session.memory after last)
    (calls : ∀ round ∈ rounds, round.Calls session.handlers)
    (exhausts : Exhausts rounds.length budget after) :
    drain budget session =
      ⟨rounds.map Round.effect,
        { session with
          desktop := after
          display :=
            (Round.tellAll session.server rounds session.display).1
          memory := last },
        (Round.tellAll session.server rounds session.display).2⟩ := by
  induction rounds generalizing session budget with
  | nil =>
      cases run with
      | done =>
          cases budget with
          | zero => rfl
          | succ budget =>
              simp only [drain, exhausts.2 (Nat.succ_pos budget)]
              rfl
  | cons round rest inductionHypothesis =>
      cases run with
      | @next effect queue runs _ _ middle _ _ second _ waiting relay later =>
          obtain ⟨now, behind⟩ := List.forall_mem_cons.1 calls
          obtain ⟨within, spent⟩ := exhausts
          cases budget with
          | zero => cases within
          | succ budget =>
              let taken : Session σ μ :=
                { session with desktop := { session.desktop with queue } }
              let told :=
                Round.tell session.server ⟨effect, runs⟩ session.display
              let next : Session σ μ :=
                { session with
                  desktop := middle, display := told.1, memory := second }
              have delivered : deliver effect taken = (next, told.2) :=
                deliver_eq taken relay now
              have rest := @inductionHypothesis next budget later behind
                ⟨Nat.le_of_succ_le_succ within,
                  fun less => spent (Nat.succ_lt_succ less)⟩
              simp only [drain, waiting]
              rw [show deliver effect
                { session with desktop := { session.desktop with queue } } =
                  (next, told.2) from delivered, rest]
              rfl

/-! ## Two dispatches in a row -/

/-- The same session with another budget. -/
def allowing (session : Session σ μ) (budget : Nat) : Session σ μ :=
  { session with
    settings := { session.settings with dispatchBudget := budget } }

/-- A dispatch told by its rounds: what it delivers, which handlers it runs with
what they find, what it tells the display and what it logs. The flush and the
warning come last. -/
structure Transcript
    (session : Session σ μ) (rounds : List (Round μ))
    (delivery : Delivery σ μ) : Prop
    extends session.Delivers rounds delivery where
  told :
    (delivery.session.display, delivery.log) =
      let (display, log) :=
        Round.tellAll session.server rounds session.display
      let (last, more) :=
        session.server.close session.settings.dispatchBudget
          delivery.session.desktop.queue.length display
      (last, log ++ more)

theorem dispatch_transcript
    (session : Session σ μ) {rounds : List (Round μ)}
    {after : Desktop} {last : μ}
    (run : Rounds rounds session.desktop session.memory after last)
    (calls : ∀ round ∈ rounds, round.Calls session.handlers)
    (exhausts :
      Exhausts rounds.length session.settings.dispatchBudget after) :
    session.Transcript rounds session.dispatch ∧
      session.dispatch.session.desktop = after ∧
      session.dispatch.session.memory = last := by
  have drained := drain_eq run calls exhausts
  have desktop : session.dispatch.session.desktop = after := by
    simp only [dispatch, drained]
  have memory : session.dispatch.session.memory = last := by
    simp only [dispatch, drained]
  have delivered :
      rounds.map Round.effect = session.dispatch.delivered := by
    simp only [dispatch, drained]
  have told :
      (session.dispatch.session.display, session.dispatch.log) =
        let (display, log) :=
          Round.tellAll session.server rounds session.display
        let (final, more) :=
          session.server.close session.settings.dispatchBudget
            session.dispatch.session.desktop.queue.length display
        (final, log ++ more) := by
    simp only [dispatch, drained, DisplayServer.close, List.append_assoc]
  rw [← desktop, ← memory] at run
  exact ⟨⟨⟨delivered, run, calls⟩, told⟩, desktop, memory⟩

/-- Every dispatch is told by rounds that spend its budget. -/
theorem dispatch_told (session : Session σ μ) :
    ∃ rounds : List (Round μ),
      session.Transcript rounds session.dispatch ∧
      Exhausts rounds.length session.settings.dispatchBudget
        session.dispatch.session.desktop := by
  obtain ⟨rounds, delivers⟩ :=
    drain_delivers session.settings.dispatchBudget session
  have exhausts := drain_budget session.settings.dispatchBudget session
  rw [← delivers.delivered, List.length_map] at exhausts
  exact ⟨rounds,
    (dispatch_transcript session delivers.run delivers.calls exhausts).1,
    exhausts⟩

/-- The requests among the delivered effects: each is one call of the display. -/
def Delivery.executed (delivery : Delivery σ μ) : List DisplayRequest :=
  delivery.delivered.filterMap Effect.request?

/-- Two dispatches in a row against a single one. -/
structure Splits
    (session : Session σ μ) (budget further : Nat)
    (first second whole : Delivery σ μ) : Prop where
  desktop : second.session.desktop = whole.session.desktop
  memory : second.session.memory = whole.session.memory
  delivered : first.delivered ++ second.delivered = whole.delivered
  executed : first.executed ++ second.executed = whole.executed
  count :
    first.delivered.length + second.delivered.length =
      whole.delivered.length
  /-- The handlers run in the same order and find the same, and what is told in
  between is told once. -/
  rounds :
    ∃ front back : List (Round μ),
      (session.allowing budget).Transcript front first ∧
      (first.session.allowing further).Transcript back second ∧
      (session.allowing (budget + further)).Transcript (front ++ back) whole

/-- It makes no difference to the desktop, to the handlers or to the requests
whether a budget is spent at once or in two dispatches. -/
theorem dispatch_split (session : Session σ μ) (budget further : Nat) :
    let first := (session.allowing budget).dispatch
    let second := (first.session.allowing further).dispatch
    let whole := (session.allowing (budget + further)).dispatch
    session.Splits budget further first second whole := by
  intro first second whole
  -- Both halves are told by rounds; together they tell the whole.
  obtain ⟨front, firstTold, spentFirst⟩ := (session.allowing budget).dispatch_told
  obtain ⟨back, secondTold, spentSecond⟩ :=
    (first.session.allowing further).dispatch_told
  have connected :=
    congrArg Session.handlers (drain_frame budget (session.allowing budget))
  have calls : ∀ round ∈ front ++ back, round.Calls session.handlers := by
    intro round member
    rcases List.mem_append.1 member with inFront | inBack
    · exact firstTold.calls round inFront
    · have called := secondTold.calls round inBack
      rw [show (first.session.allowing further).handlers =
        session.handlers from connected] at called
      exact called
  have spent := Rounds.exhausts_append spentFirst secondTold.run spentSecond
  obtain ⟨wholeTold, desktop, memory⟩ :=
    dispatch_transcript (session.allowing (budget + further))
      (firstTold.run.append secondTold.run) calls spent
  have delivered : first.delivered ++ second.delivered = whole.delivered := by
    rw [← firstTold.delivered, ← secondTold.delivered,
      ← wholeTold.delivered, List.map_append]
  constructor
  · exact desktop.symm
  · exact memory.symm
  · exact delivered
  · simp only [Delivery.executed]
    rw [← delivered, List.filterMap_append]
  · rw [← delivered, List.length_append]
  · exact ⟨front, back, firstTold, secondTold, wholeTold⟩

end Session

end DesktopTags
