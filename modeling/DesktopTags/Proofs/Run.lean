import DesktopTags.Dispatch
import DesktopTags.Proofs.Startup
import Mathlib.Logic.Relation

namespace DesktopTags

/-! ## What happens to a desktop -/

/-- A call, with its answer, or the delivery of an effect. -/
inductive Happening where
  | called (call : Call) (answer : Except Fault Reply)
  | delivered (effect : Effect)

/-- The effect that a happening delivers. -/
def Happening.delivery? : Happening → Option Effect
  | .called _ _ => none
  | .delivered effect => some effect

/-- A desktop between two happenings, and all that has happened to it. -/
structure Moment where
  history : List Happening := []
  desktop : Desktop := {}

namespace Moment

/-- The delivered effects, in order of delivery. -/
def deliveries (moment : Moment) : List Effect :=
  moment.history.filterMap Happening.delivery?

/-- The moment after a call. -/
def call (moment : Moment) (call : Call) : Moment where
  history :=
    moment.history ++ [.called call (call.run moment.desktop).answer]
  desktop := (call.run moment.desktop).desktop

/-- The moment after a list of calls. -/
def calls (moment : Moment) (calls : List Call) : Moment :=
  calls.foldl Moment.call moment

/-- The moment after a delivery that leaves some effects waiting. -/
def deliver (moment : Moment) (effect : Effect) (queue : List Effect) :
    Moment where
  history := moment.history ++ [.delivered effect]
  desktop := { moment.desktop with queue }

/-- One happening: any call, or the delivery of the effect at the front of the
queue. -/
inductive Step : Moment → Moment → Prop
  | call (moment : Moment) (call : Call) :
      Step moment (moment.call call)
  | deliver {moment : Moment} {effect : Effect} {queue : List Effect}
      (front : moment.desktop.queue = effect :: queue) :
      Step moment (moment.deliver effect queue)

/-- Any number of happenings. -/
abbrev Leads : Moment → Moment → Prop :=
  Relation.ReflTransGen Step

/-- The calls that build the tags of some settings. -/
def startupCalls (settings : Settings) : List Call :=
  (settings.tags.zipIdx.flatMap fun (name, slot) =>
    [.newTag name, .activate ⟨slot, 0⟩, .releaseTag ⟨slot, 0⟩]) ++
  if settings.selectFirstTag = true ∧ settings.tags ≠ [] then
    [.setSelected ⟨0, 0⟩ true]
  else
    []

/-- The start of a session. -/
def start (settings : Settings) : Moment where
  history := (Moment.calls {} (startupCalls settings)).history
  desktop := (Desktop.start settings).desktop

/-- The moments that the runs from an empty desktop and from the start of a
session come to. -/
inductive Reached : Moment → Prop
  | empty : Reached {}
  | start (settings : Settings) : Reached (start settings)
  | step {before after : Moment} :
      Reached before → Step before after → Reached after

theorem Reached.leads
    {before after : Moment}
    (reached : before.Reached) (leads : before.Leads after) :
    after.Reached := by
  induction leads with
  | refl =>
      exact reached
  | tail _ step inductionHypothesis =>
      exact inductionHypothesis.step step

theorem leads_calls (moment : Moment) (calls : List Call) :
    moment.Leads (moment.calls calls) := by
  induction calls generalizing moment with
  | nil =>
      exact .refl
  | cons first rest inductionHypothesis =>
      exact (inductionHypothesis (moment.call first)).head
        (.call moment first)

@[simp]
theorem deliveries_call (moment : Moment) (call : Call) :
    (moment.call call).deliveries = moment.deliveries := by
  simp [deliveries, Moment.call, Happening.delivery?]

@[simp]
theorem deliveries_deliver
    (moment : Moment) (effect : Effect) (queue : List Effect) :
    (moment.deliver effect queue).deliveries =
      moment.deliveries ++ [effect] := by
  simp [deliveries, Moment.deliver, Happening.delivery?]

@[simp]
theorem deliveries_calls (moment : Moment) (calls : List Call) :
    (moment.calls calls).deliveries = moment.deliveries := by
  induction calls generalizing moment with
  | nil =>
      rfl
  | cons first rest inductionHypothesis =>
      have later := inductionHypothesis (moment.call first)
      rw [deliveries_call] at later
      exact later

end Moment

/-! ## The start of a session is a run of calls -/

/-- The desktop after a list of calls. -/
def Desktop.after (desktop : Desktop) (calls : List Call) : Desktop :=
  calls.foldl (fun desktop call => (call.run desktop).desktop) desktop

namespace Desktop

open Operation

theorem after_append (desktop : Desktop) (first second : List Call) :
    desktop.after (first ++ second) = (desktop.after first).after second := by
  simp [after]

theorem after_founding
    {desktop : Desktop} {slots : List Slot}
    (compact : desktop.tags = { slots }) (name : String) :
    desktop.after
        [.newTag name, .activate (.behind slots),
          .releaseTag (.behind slots)] =
      desktop.founded slots name := by
  have created := newTag_compact compact name
  simp only [after, List.foldl_cons, List.foldl_nil, Call.run,
    Call.thenDone_apply, bind_pure_apply, created, activate_extended,
    releaseTag_extended]

theorem after_founding_all (names rest : List String) :
    (stocked names).after
        ((rest.zipIdx names.length).flatMap fun (name, slot) =>
          [.newTag name, .activate ⟨slot, 0⟩, .releaseTag ⟨slot, 0⟩]) =
      stocked (names ++ rest) := by
  induction rest generalizing names with
  | nil =>
      simp [after]
  | cons name rest inductionHypothesis =>
      have compact :
          (stocked names).tags = { slots := names.map foundedSlot } :=
        rfl
      have first := after_founding compact name
      have later := inductionHypothesis (names ++ [name])
      have behind :
          TagRef.behind (names.map foundedSlot) = ⟨names.length, 0⟩ := by
        simp [TagRef.behind]
      rw [behind, founded_stocked] at first
      rw [List.length_append, List.length_singleton, List.append_assoc,
        List.singleton_append] at later
      rw [List.zipIdx_cons, List.flatMap_cons, after_append, first, later]

/-- A list of calls is made of changes. -/
theorem Sound.after_changes
    {desktop : Desktop} (sound : desktop.Sound) (calls : List Call) :
    ∃ effects, Changes desktop effects (desktop.after calls) := by
  induction calls generalizing desktop with
  | nil =>
      exact ⟨[], .none desktop⟩
  | cons first rest inductionHypothesis =>
      obtain ⟨now, changes⟩ := sound.run_changes first
      obtain ⟨later, following⟩ := inductionHypothesis (sound.run first)
      exact ⟨now ++ later, changes.trans following⟩

theorem Sound.after
    {desktop : Desktop} (sound : desktop.Sound) (calls : List Call) :
    (desktop.after calls).Sound := by
  obtain ⟨effects, changes⟩ := sound.after_changes calls
  exact changes.sound sound

end Desktop

namespace Moment

theorem desktop_calls (moment : Moment) (calls : List Call) :
    (moment.calls calls).desktop = moment.desktop.after calls := by
  induction calls generalizing moment with
  | nil =>
      rfl
  | cons first rest inductionHypothesis =>
      exact inductionHypothesis (moment.call first)

/-- Building the tags of the settings is a run of calls on an empty desktop. -/
theorem start_eq_calls (settings : Settings) :
    start settings = Moment.calls {} (startupCalls settings) := by
  have built := Desktop.after_founding_all [] settings.tags
  have empty : Desktop.stocked [] = {} := rfl
  rw [empty, List.length_nil, List.nil_append] at built
  have same :
      (Desktop.start settings).desktop =
        (Moment.calls {} (startupCalls settings)).desktop := by
    rw [Desktop.start_desktop, desktop_calls, startupCalls,
      Desktop.after_append, built]
    split
    · simp only [Desktop.after, List.foldl_cons, List.foldl_nil, Call.run,
        Call.thenDone_apply]
    · rfl
  unfold start
  rw [same]

/-- Every run starts with an empty desktop. -/
theorem Reached.leads_empty {moment : Moment} (reached : moment.Reached) :
    Moment.Leads {} moment := by
  induction reached with
  | empty =>
      exact .refl
  | start settings =>
      rw [start_eq_calls]
      exact leads_calls {} (startupCalls settings)
  | step _ step inductionHypothesis =>
      exact inductionHypothesis.tail step

theorem Step.sound
    {before after : Moment} (step : Step before after)
    (sound : before.desktop.Sound) : after.desktop.Sound := by
  cases step with
  | call call =>
      exact sound.run call
  | deliver =>
      exact { sound with }

theorem Reached.sound {moment : Moment} (reached : moment.Reached) :
    moment.desktop.Sound := by
  induction reached.leads_empty with
  | refl =>
      exact Desktop.sound_empty
  | tail path step inductionHypothesis =>
      exact step.sound (inductionHypothesis (Reached.empty.leads path))

/-- What holds of the empty desktop, and what one happening after the other
keeps on sound desktops, holds at every moment. -/
theorem Reached.induction
    {property : Moment → Prop} (initial : property {})
    (kept :
      ∀ {before after : Moment}, Step before after →
        before.desktop.Sound → property before → property after)
    {moment : Moment} (reached : moment.Reached) : property moment := by
  induction reached.leads_empty with
  | refl =>
      exact initial
  | tail path step inductionHypothesis =>
      have earlier := Reached.empty.leads path
      exact kept step earlier.sound (inductionHypothesis earlier)

end Moment

/-! ## Dispatch is a run -/

/-- A handler that changes the desktop by calls only. -/
def Handler.Reenters {μ : Type} (handler : Handler μ) : Prop :=
  ∀ signal desktop memory, ∃ calls,
    (handler.react signal desktop memory).desktop = desktop.after calls

namespace Session

variable {σ μ : Type}

theorem notify_calls
    (signal : Signal) {handlers : List (Handler μ)}
    (reenter : ∀ handler ∈ handlers, handler.Reenters)
    (desktop : Desktop) (memory : μ) :
    ∃ calls,
      (notify signal handlers desktop memory).desktop =
        desktop.after calls := by
  induction handlers generalizing desktop memory with
  | nil =>
      exact ⟨[], rfl⟩
  | cons handler rest inductionHypothesis =>
      have restReenter : ∀ other ∈ rest, other.Reenters := by
        intro other inRest
        exact reenter other (List.mem_cons_of_mem handler inRest)
      by_cases named : handler.name = signal.name
      · obtain ⟨first, reacted⟩ :=
          reenter handler List.mem_cons_self signal desktop memory
        obtain ⟨later, notified⟩ := inductionHypothesis restReenter
          (handler.react signal desktop memory).desktop
          (handler.react signal desktop memory).memory
        refine ⟨first ++ later, ?_⟩
        rw [Desktop.after_append, ← reacted, ← notified]
        simp only [notify, named, if_true]
      · obtain ⟨later, notified⟩ :=
          inductionHypothesis restReenter desktop memory
        refine ⟨later, ?_⟩
        rw [← notified]
        simp only [notify, named, if_false]

theorem deliver_calls
    (effect : Effect) (session : Session σ μ)
    (reenter : ∀ handler ∈ session.handlers, handler.Reenters) :
    (deliver effect session).1.handlers = session.handlers ∧
      ∃ calls,
        (deliver effect session).1.desktop =
          session.desktop.after calls := by
  cases effect with
  | display request =>
      exact ⟨rfl, [], rfl⟩
  | emit signal =>
      exact ⟨rfl, notify_calls signal reenter session.desktop session.memory⟩

/-- A delivery run is made of deliveries, each followed by calls. -/
theorem drain_leads
    (budget : Nat) (session : Session σ μ)
    (reenter : ∀ handler ∈ session.handlers, handler.Reenters)
    (moment : Moment) (now : moment.desktop = session.desktop) :
    ∃ after, moment.Leads after ∧
      after.desktop = (drain budget session).session.desktop ∧
      after.deliveries =
        moment.deliveries ++ (drain budget session).delivered := by
  induction budget generalizing session moment with
  | zero =>
      exact ⟨moment, .refl, now, by simp [drain]⟩
  | succ budget inductionHypothesis =>
      cases waiting : session.desktop.queue with
      | nil =>
          refine ⟨moment, .refl, ?_, ?_⟩
          · simp only [drain, waiting, now]
          · simp only [drain, waiting, List.append_nil]
      | cons effect queue =>
          obtain ⟨handlers, calls, answered⟩ := deliver_calls effect
            { session with desktop := { session.desktop with queue } }
            reenter
          have taken : moment.Step (moment.deliver effect queue) :=
            .deliver (by rw [now, waiting])
          have answers :
              ((moment.deliver effect queue).calls calls).desktop =
                (deliver effect
                  { session with
                    desktop := { session.desktop with queue } }).1.desktop := by
            rw [answered, Moment.desktop_calls, Moment.deliver, now]
          obtain ⟨after, later, last, delivered⟩ := inductionHypothesis _
            (by rw [handlers]; exact reenter) _ answers
          have path :=
            (Relation.ReflTransGen.single taken).trans
              ((Moment.leads_calls _ calls).trans later)
          refine ⟨after, path, ?_, ?_⟩
          · simp only [drain, waiting, last]
          · simp only [drain, waiting, delivered, Moment.deliveries_calls,
              Moment.deliveries_deliver, List.append_assoc,
              List.singleton_append]

/-- A session without a display whose one handler makes the same calls at every
signal of a name. -/
def answering (desktop : Desktop) (name : String) (calls : List Call) :
    Session Unit Unit where
  settings := {}
  desktop
  server := ⟨fun _ display => (display, []), fun _ => ((), [])⟩
  display := ()
  handlers :=
    [⟨name, fun _ desktop memory =>
      { desktop := desktop.after calls, memory }⟩]
  memory := ()

theorem answering_reenter
    (desktop : Desktop) (name : String) (calls : List Call) :
    ∀ handler ∈ (answering desktop name calls).handlers,
      handler.Reenters := by
  intro handler connected
  rw [List.mem_singleton.1 connected]
  intro _ desktop _
  exact ⟨calls, rfl⟩

/-- A dispatch is a run that delivers just what the dispatch delivers. -/
theorem dispatch_leads
    (session : Session σ μ)
    (reenter : ∀ handler ∈ session.handlers, handler.Reenters)
    (moment : Moment) (now : moment.desktop = session.desktop) :
    ∃ after, moment.Leads after ∧
      after.desktop = session.dispatch.session.desktop ∧
      after.deliveries = moment.deliveries ++ session.dispatch.delivered :=
  drain_leads session.settings.dispatchBudget session reenter moment now

end Session

/-! ## The desktops that runs come to -/

/-- The desktops that calls and dispatches come to, from an empty desktop or
from the start of a session. A handler works on the desktop in the middle of a
dispatch; `deliver` makes these desktops reachable, too. -/
inductive Desktop.Reachable : Desktop → Prop
  | empty : Reachable {}
  | start (settings : Settings) : Reachable (Desktop.start settings).desktop
  | call {desktop : Desktop} (reachable : Reachable desktop) (call : Call) :
      Reachable (call.run desktop).desktop
  | deliver {desktop : Desktop} {effect : Effect} {queue : List Effect}
      (reachable : Reachable desktop)
      (front : desktop.queue = effect :: queue) :
      Reachable { desktop with queue }
  | dispatch {σ μ : Type} {session : Session σ μ}
      (reachable : Reachable session.desktop)
      (reenter : ∀ handler ∈ session.handlers, handler.Reenters) :
      Reachable session.dispatch.session.desktop

/-- A reachable desktop has a history. -/
theorem Desktop.Reachable.reached
    {desktop : Desktop} (reachable : desktop.Reachable) :
    ∃ moment : Moment, moment.Reached ∧ moment.desktop = desktop := by
  induction reachable with
  | empty =>
      exact ⟨{}, .empty, rfl⟩
  | start settings =>
      exact ⟨.start settings, .start settings, rfl⟩
  | call _ call inductionHypothesis =>
      obtain ⟨moment, reached, now⟩ := inductionHypothesis
      subst now
      exact ⟨moment.call call, reached.step (.call moment call), rfl⟩
  | @deliver _ effect queue _ front inductionHypothesis =>
      obtain ⟨moment, reached, now⟩ := inductionHypothesis
      subst now
      exact ⟨moment.deliver effect queue, reached.step (.deliver front), rfl⟩
  | dispatch _ reenter inductionHypothesis =>
      obtain ⟨moment, reached, now⟩ := inductionHypothesis
      obtain ⟨after, leads, last, _⟩ :=
        Session.dispatch_leads _ reenter moment now
      exact ⟨after, reached.leads leads, last⟩

theorem Desktop.Reachable.after
    {desktop : Desktop} (reachable : desktop.Reachable)
    (calls : List Call) : (desktop.after calls).Reachable := by
  induction calls generalizing desktop with
  | nil =>
      exact reachable
  | cons first rest inductionHypothesis =>
      exact inductionHypothesis (reachable.call first)

theorem Desktop.Reachable.sound
    {desktop : Desktop} (reachable : desktop.Reachable) : desktop.Sound := by
  obtain ⟨moment, reached, now⟩ := reachable.reached
  subst now
  exact reached.sound

end DesktopTags
