import DesktopTags.Desktop.Call
import DesktopTags.Dispatch
import DesktopTags.Proofs.Restoring

/-!
# Dumps

A dump is the JSON text of a value. Every type that is stored is restored from its
dumps, so a session may go on from the dump of its desktop at any time: see
`dumps_restore`.
-/

namespace DesktopTags

/-! ## The types that are stored -/

inductive StoredType where
  | client
  | screenId
  | tagRef
  | signalTarget
  | signalKind
  | signal
  | displayRequest
  | effect
  | tag
  | screen
  | managedClient
  | clientTable
  | registry
  | focusHistory
  | arena
  | desktop
  | tagOverview
  | overview
  | settings
deriving DecidableEq

namespace StoredType

def Value : StoredType → Type
  | client => ClientId
  | screenId => ScreenId
  | tagRef => TagRef
  | signalTarget => SignalTarget
  | signalKind => SignalKind
  | signal => Signal
  | displayRequest => DisplayRequest
  | effect => Effect
  | tag => Tag
  | screen => Screen
  | managedClient => Client
  | clientTable => ClientTable
  | registry => Registry
  | focusHistory => FocusHistory
  | arena => Arena
  | desktop => Desktop
  | tagOverview => TagOverview
  | overview => Overview
  | settings => Settings

def codec : (type : StoredType) → Codec type.Value
  | client => ClientId.codec
  | screenId => ScreenId.codec
  | tagRef => TagRef.codec
  | signalTarget => SignalTarget.codec
  | signalKind => SignalKind.codec
  | signal => Signal.codec
  | displayRequest => DisplayRequest.codec
  | effect => Effect.codec
  | tag => Tag.codec
  | screen => Screen.codec
  | managedClient => Client.codec
  | clientTable => ClientTable.codec
  | registry => Registry.codec
  | focusHistory => FocusHistory.codec
  | arena => Arena.codec
  | desktop => Desktop.codec
  | tagOverview => TagOverview.codec
  | overview => Overview.codec
  | settings => Settings.codec

/-- Whether the numbers of a value fit into 64 bits. A client's number and a
generation have a type of their own, and always do. -/
def Fits : (type : StoredType) → type.Value → Prop
  | client, _ => True
  | screenId, value => ScreenId.Fits value
  | tagRef, value => TagRef.Fits value
  | signalTarget, value => SignalTarget.Fits value
  | signalKind, _ => True
  | signal, value => Signal.Fits value
  | displayRequest, value => DisplayRequest.Fits value
  | effect, value => Effect.Fits value
  | tag, _ => True
  | screen, value => Screen.Fits value
  | managedClient, value => Client.Fits value
  | clientTable, value => ClientTable.Fits value
  | registry, value => Registry.Fits value
  | focusHistory, _ => True
  | arena, value => Arena.Fits value
  | desktop, value => Desktop.Fits value
  | tagOverview, value => TagOverview.Fits value
  | overview, value => Overview.Fits value
  | settings, value => Settings.Fits value

theorem restores :
    (type : StoredType) → (value : type.Value) → type.Fits value → type.codec.Restores value
  | client, value, _ => ClientId.restores value
  | screenId, _, fits => ScreenId.Fits.restores fits
  | tagRef, _, fits => TagRef.Fits.restores fits
  | signalTarget, _, fits => SignalTarget.Fits.restores fits
  | signalKind, value, _ => SignalKind.restores value
  | signal, _, fits => Signal.Fits.restores fits
  | displayRequest, _, fits => DisplayRequest.Fits.restores fits
  | effect, _, fits => Effect.Fits.restores fits
  | tag, value, _ => Tag.restores value
  | screen, _, fits => Screen.Fits.restores fits
  | managedClient, _, fits => Client.Fits.restores fits
  | clientTable, _, fits => ClientTable.Fits.restores fits
  | registry, _, fits => Registry.Fits.restores fits
  | focusHistory, value, _ => FocusHistory.restores value
  | arena, _, fits => Arena.Fits.restores fits
  | desktop, _, fits => Desktop.Fits.restores fits
  | tagOverview, _, fits => TagOverview.Fits.restores fits
  | overview, _, fits => Overview.Fits.restores fits
  | settings, _, fits => Settings.Fits.restores fits

end StoredType

/-- The text of a value is read as the value, if its codec restores it. -/
theorem Codec.Restores.ofText?_toText
    {α : Type} {codec : Codec α} {value : α} (restores : codec.Restores value) :
    codec.ofText? (codec.toText value) = some value := by
  rw [Codec.ofText?, Codec.toText, Json.ofText?_compact]
  exact restores

/-! ## Runs that go on from dumps -/

/-- What is done to a session from outside. -/
inductive Errand (μ : Type) where
  | connect (handler : Handler μ)
  | call (call : Call)
  | dispatch

/-- What an errand shows: the answer to a call or the deliveries of a dispatch,
the log, and the desktop afterwards by its queue, its overview and its dump. -/
structure Errand.Report where
  answer : Option (Except Fault Reply)
  delivered : List Effect
  log : List LogEvent
  queue : List Effect
  overview : Overview
  dump : String

namespace Session

variable {σ μ : Type}

/-- A report on what has just been done to a session. -/
def report
    (session : Session σ μ)
    (answer : Option (Except Fault Reply))
    (delivered : List Effect)
    (log : List LogEvent) :
    Errand.Report where
  answer := answer
  delivered := delivered
  log := log
  queue := session.desktop.queue
  overview := session.desktop.overview
  dump := Desktop.codec.toText session.desktop

/-- Carry out one errand. -/
def perform (session : Session σ μ) : Errand μ → Errand.Report × Session σ μ
  | .connect handler =>
      let later := session.connect handler
      (later.report none [] [], later)
  | .call call =>
      let outcome := call.run session.desktop
      let later := { session with desktop := outcome.desktop }
      (later.report (some outcome.answer) [] outcome.log, later)
  | .dispatch =>
      let delivery := session.dispatch
      (delivery.session.report none delivery.delivered delivery.log, delivery.session)

/-- Carry out errands, one after the other. -/
def follow (session : Session σ μ) : List (Errand μ) → List Errand.Report × Session σ μ
  | [] => ([], session)
  | errand :: rest =>
      let (report, later) := session.perform errand
      let (reports, last) := later.follow rest
      (report :: reports, last)

/-- Replace the desktop by what its dump is read as. -/
def reload (session : Session σ μ) : Option (Session σ μ) :=
  (Desktop.codec.ofText? (Desktop.codec.toText session.desktop)).map fun desktop =>
    { session with desktop }

/-- Carry out errands in several pieces. Each piece starts from the dump of the
desktop that the one before left. -/
def resume (session : Session σ μ) :
    List (List (Errand μ)) → Option (List Errand.Report × Session σ μ)
  | [] => some ([], session)
  | piece :: rest => do
      let restored ← session.reload
      let (reports, later) := restored.follow piece
      let (others, last) ← later.resume rest
      some (reports ++ others, last)

theorem follow_append (session : Session σ μ) (front back : List (Errand μ)) :
    session.follow (front ++ back) =
      let (reports, later) := session.follow front
      let (others, last) := later.follow back
      (reports ++ others, last) := by
  induction front generalizing session with
  | nil =>
      rfl
  | cons errand rest inductionHypothesis =>
      simp only [List.cons_append, follow, inductionHypothesis]

theorem reload_of_fits {session : Session σ μ} (fits : session.desktop.Fits) :
    session.reload = some session := by
  rw [reload, fits.restores.ofText?_toText]
  rfl

theorem resume_eq_follow
    {session : Session σ μ} {pieces : List (List (Errand μ))}
    (fits : ∀ done < pieces.length,
      (session.follow (pieces.take done).flatten).2.desktop.Fits) :
    session.resume pieces = some (session.follow pieces.flatten) := by
  induction pieces generalizing session with
  | nil =>
      rfl
  | cons piece rest inductionHypothesis =>
      have now : session.desktop.Fits := fits 0 (Nat.succ_pos _)
      have later := @inductionHypothesis (session.follow piece).2 fun done within => by
        have there := fits (done + 1) (Nat.succ_lt_succ within)
        rw [List.take_succ_cons, List.flatten_cons, follow_append] at there
        exact there
      rw [resume, reload_of_fits now, List.flatten_cons, follow_append]
      simp only [Option.bind_eq_bind, Option.bind_some, later]

/-- A value of a stored type is read from its dump as it was, whatever its texts
hold, if its numbers fit into 64 bits. So a run shows and comes to the same, whether
or not its desktop is replaced by what its dump is read as, any number of times. -/
theorem dumps_restore :
    (∀ (type : StoredType) (value : type.Value), type.Fits value →
      type.codec.ofText? (type.codec.toText value) = some value) ∧
    ∀ (session : Session σ μ) (pieces : List (List (Errand μ))),
      (∀ done < pieces.length,
        (session.follow (pieces.take done).flatten).2.desktop.Fits) →
      session.resume pieces = some (session.follow pieces.flatten) :=
  ⟨fun type value fits => (type.restores value fits).ofText?_toText,
    fun _ _ fits => resume_eq_follow fits⟩

/-- Texts that need every kind of escape, the largest number there is, and a
desktop with queued effects and a vacant slot that is reloaded three times. -/
theorem dumps_restore_of_awkward_texts :
    let settings : Settings :=
      { tags := ["\"\\/", "\x00\x08\t\n\x0c\r\x1f\x7f", "\u2028𝄞", ""]
        dispatchBudget := 0xffffffffffffffff
        logLevel := "\\ud800" }
    let session : Session Nat Nat :=
      { settings
        desktop := {}
        server := ⟨fun _ requests => (requests + 1, []), fun requests => (requests, [])⟩
        display := 0
        memory := 0 }
    let pieces : List (List (Errand Nat)) :=
      [[.call (.newTag "\"\n"), .call (.addScreen "\x00"), .call (.activate ⟨0, 0⟩)],
        [.connect ⟨"tagged", fun _ desktop runs => { desktop, memory := runs + 1 }⟩,
          .call (.manageClient ⟨255⟩ ⟨0⟩), .call (.tagClient ⟨0, 0⟩ ⟨255⟩),
          .call (.newTag ""), .call (.releaseTag ⟨1, 0⟩)],
        [.dispatch, .call (.releaseTag ⟨1, 0⟩), .call (.newTag "\t")]]
    settings.Fits ∧
      Settings.codec.ofText? (Settings.codec.toText settings) = some settings ∧
      (∀ done < pieces.length,
        (session.follow (pieces.take done).flatten).2.desktop.Fits) ∧
      session.resume pieces = some (session.follow pieces.flatten) := by
  intro settings session pieces
  have small : settings.Fits := by decide
  have cuts : ∀ done < pieces.length,
      (session.follow (pieces.take done).flatten).2.desktop.Fits := by
    decide
  exact ⟨small, (@dumps_restore Nat Nat).1 .settings settings small, cuts,
    (@dumps_restore Nat Nat).2 session pieces cuts⟩

end Session

end DesktopTags
