import DesktopTags.Desktop.Startup

namespace DesktopTags

/-! ## Delivering queued effects -/

/-- What a handler leaves behind. Handlers share one memory type; each may keep
its own part of it. -/
structure Reaction (μ : Type) where
  desktop : Desktop
  memory : μ
  log : List LogEvent := []

/-- A reaction to the signals of one name. It may use every operation; effects
it causes are queued behind those that wait already. -/
structure Handler (μ : Type) where
  name : String
  react : Signal → Desktop → μ → Reaction μ

/-- The outside world. Requests reach it in the order they were queued, and it is
told when a delivery is over. -/
structure DisplayServer (σ : Type) where
  execute : DisplayRequest → σ → σ × List LogEvent
  flush : σ → σ × List LogEvent

/-- A running session: the desktop, the world it acts on, and those who listen. -/
structure Session (σ μ : Type) where
  settings : Settings
  desktop : Desktop
  server : DisplayServer σ
  display : σ
  handlers : List (Handler μ) := []
  memory : μ

namespace Session

variable {σ μ : Type}

/-- Connect a handler behind those that are connected already. -/
def connect (session : Session σ μ) (handler : Handler μ) : Session σ μ :=
  { session with handlers := session.handlers ++ [handler] }

/-- Run the handlers of a signal's name in order of connection. Each sees the
desktop the one before left. -/
def notify (signal : Signal) : List (Handler μ) → Desktop → μ → Reaction μ
  | [], desktop, memory => { desktop, memory }
  | handler :: rest, desktop, memory =>
      if handler.name = signal.name then
        let reaction := handler.react signal desktop memory
        let others := notify signal rest reaction.desktop reaction.memory
        { others with log := reaction.log ++ others.log }
      else
        notify signal rest desktop memory

/-- Deliver one effect. -/
def deliver (effect : Effect) (session : Session σ μ) : Session σ μ × List LogEvent :=
  match effect with
  | .display request =>
      let (display, log) := session.server.execute request session.display
      ({ session with display }, .deliveringRequest request :: log)
  | .emit signal =>
      let reaction := notify signal session.handlers session.desktop session.memory
      ({ session with desktop := reaction.desktop, memory := reaction.memory },
        .deliveringSignal signal :: reaction.log)

/-- What a delivery run leaves behind: the delivered effects in order, the session
afterwards, and the log. -/
structure Delivery (σ μ : Type) where
  delivered : List Effect
  session : Session σ μ
  log : List LogEvent

/-- Deliver from the front of the queue until it is empty or the budget is
spent. -/
def drain : Nat → Session σ μ → Delivery σ μ
  | 0, session => ⟨[], session, []⟩
  | budget + 1, session =>
      match session.desktop.queue with
      | [] => ⟨[], session, []⟩
      | effect :: queue =>
          let (after, log) :=
            deliver effect { session with desktop := { session.desktop with queue } }
          let later := drain budget after
          ⟨effect :: later.delivered, later.session, log ++ later.log⟩

/-- Deliver what is queued within the session's budget. Whatever is left waits
for the next dispatch. -/
def dispatch (session : Session σ μ) : Delivery σ μ :=
  let budget := session.settings.dispatchBudget
  let run := drain budget session
  let left := run.session.desktop.queue.length
  let warning := if left = 0 then [] else [LogEvent.budgetSpent budget left]
  let (display, log) := run.session.server.flush run.session.display
  ⟨run.delivered, { run.session with display }, run.log ++ warning ++ log⟩

end Session

end DesktopTags
