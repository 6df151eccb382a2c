import DesktopTags.CommandLine.Run
import DesktopTags.Proofs.Startup

/-!
# The first dispatch

A handler that only watches leaves the desktop as it is. A dispatch that such
handlers listen to takes effects from the front of the queue and changes nothing
else, so the budget decides only how many it takes.
-/

namespace DesktopTags

/-! ## Handlers that only watch -/

/-- A handler that leaves the desktop as it is. -/
def Handler.Watches {μ : Type} (handler : Handler μ) : Prop :=
  ∀ signal desktop memory,
    (handler.react signal desktop memory).desktop = desktop

namespace Session

variable {σ μ : Type}

theorem notify_of_watching
    (signal : Signal) {handlers : List (Handler μ)}
    (watch : ∀ handler ∈ handlers, handler.Watches)
    (desktop : Desktop) (memory : μ) :
    (notify signal handlers desktop memory).desktop = desktop := by
  induction handlers generalizing desktop memory with
  | nil =>
      rfl
  | cons handler rest inductionHypothesis =>
      have others := inductionHypothesis fun other inRest =>
        watch other (List.mem_cons_of_mem handler inRest)
      by_cases named : handler.name = signal.name
      · simp only [notify, named, if_true]
        rw [others, watch handler List.mem_cons_self]
      · simp only [notify, named, if_false]
        exact others desktop memory

theorem deliver_of_watching
    (effect : Effect) (session : Session σ μ)
    (watch : ∀ handler ∈ session.handlers, handler.Watches) :
    (deliver effect session).1.desktop = session.desktop ∧
      (deliver effect session).1.handlers = session.handlers := by
  cases effect with
  | display request =>
      exact ⟨rfl, rfl⟩
  | emit signal =>
      exact ⟨notify_of_watching signal watch _ _, rfl⟩

/-- What is delivered is the front of the queue, and the rest of it stays. -/
theorem drain_of_watching
    (budget : Nat) (session : Session σ μ)
    (watch : ∀ handler ∈ session.handlers, handler.Watches) :
    (drain budget session).delivered = session.desktop.queue.take budget ∧
      (drain budget session).session.desktop =
        { session.desktop with
          queue := session.desktop.queue.drop budget } := by
  induction budget generalizing session with
  | zero =>
      exact ⟨rfl, rfl⟩
  | succ budget inductionHypothesis =>
      cases waiting : session.desktop.queue with
      | nil =>
          simp only [drain, waiting, List.take_nil, List.drop_nil]
          exact ⟨trivial, by rw [← waiting]⟩
      | cons effect queue =>
          obtain ⟨still, connected⟩ := deliver_of_watching effect
            { session with desktop := { session.desktop with queue } } watch
          obtain ⟨delivered, left⟩ := inductionHypothesis
            (deliver effect
              { session with desktop := { session.desktop with queue } }).1
            (by rw [connected]; exact watch)
          rw [still] at delivered left
          simp only [drain, waiting, List.take_succ_cons,
            List.drop_succ_cons, delivered, left]
          exact ⟨trivial, trivial⟩

end Session

/-! ## The startup effects -/

theorem activationReporter_watches : activationReporter.Watches := by
  intro signal desktop memory
  cases target : signal.target <;> simp only [activationReporter, target]

/-- The first dispatch takes what its budget allows and leaves the desktop as it
is. -/
theorem startupDelivery_eq (settings : Settings) :
    (startupDelivery settings).delivered =
        (Desktop.opened settings).queue.take settings.dispatchBudget ∧
      (startupDelivery settings).session.desktop =
        { Desktop.opened settings with
          queue :=
            (Desktop.opened settings).queue.drop settings.dispatchBudget } := by
  have drained := Session.drain_of_watching settings.dispatchBudget
    ({ settings
       desktop := (Desktop.start settings).desktop
       server := loggingDisplay
       display := 0
       handlers := [activationReporter]
       memory := () } : Session Nat Unit)
    (by simp [activationReporter_watches])
  have built : (Desktop.start settings).desktop = Desktop.opened settings := by
    rw [Desktop.start_eq]
  rw [← built]
  exact drained

theorem Desktop.length_queue_opened (settings : Settings) :
    (Desktop.opened settings).queue.length =
      3 * settings.tags.length +
        if settings.selectFirstTag = true ∧ settings.tags ≠ [] then 2 else 0 := by
  have listed :
      ((List.range settings.tags.length).flatMap fun slot =>
          Desktop.desktopListChanged ⟨slot, 0⟩).length =
        3 * settings.tags.length := by
    rw [List.length_flatMap]
    simp [Desktop.desktopListChanged, List.map_const', Nat.mul_comm]
  rw [Desktop.opened, List.length_append, listed]
  split <;> rfl

/-! ## What is printed -/

namespace Report

/-- The lines of a report in front of the overview. -/
def findings (settings : Settings) (verbose : Bool) : List String :=
  [successLine "Configuration loaded OK"] ++
    (settings.checkTags verbose).lines ++
    (settings.checkLogLevel verbose).lines

/-- The last line of a report, if all is well. -/
def conclusion (settings : Settings) (verbose : Bool) : List String :=
  if (settings.checkTags verbose).passed &&
      (settings.checkLogLevel verbose).passed then
    [successLine "All checks passed"]
  else []

/-- A report shows the desktop that the settings open, as it was before the
dispatch. -/
theorem output_ofSettings
    (settings : Settings) (verbose : Bool) (files : Files) :
    (ofSettings settings verbose files).output =
      opening ++
        ofLines
          (findings settings verbose ++
            [stepLine "Startup tag state:",
              (Overview.codec.encode
                (Desktop.opened settings).overview).pretty] ++
            conclusion settings verbose) := by
  have shown :
      (startupDelivery settings).session.desktop.overview =
        (Desktop.opened settings).overview := by
    rw [(startupDelivery_eq settings).2]
    rfl
  rw [← shown]
  rfl

end Report

/-- Settings always open the same desktop: every tag that they name, activated
and held by the registry alone, and the first one shown if they ask for it. The
first dispatch delivers what the budget allows, and the overview in a report is
the one of this desktop, whatever the budget and the log level are. -/
theorem startup_exact (settings : Settings) :
    Desktop.start settings =
        ⟨.ok (), Desktop.opened settings,
          (settings.tags.zipIdx.map fun (name, slot) =>
              .created ⟨slot, 0⟩ name) ++
            [.started settings.tags.length]⟩ ∧
      (∀ (budget : Nat) (level : String),
        let chosen :=
          { settings with dispatchBudget := budget, logLevel := level }
        (startupDelivery chosen).delivered.length =
            min budget
              (3 * settings.tags.length +
                if settings.selectFirstTag = true ∧ settings.tags ≠ [] then 2
                else 0) ∧
          (startupDelivery chosen).session.desktop.overview =
            (Desktop.start settings).desktop.overview ∧
          ∀ verbose files,
            (Report.ofSettings chosen verbose files).output =
              Report.opening ++
                Report.ofLines
                  (Report.findings chosen verbose ++
                    [Report.stepLine "Startup tag state:",
                      (Overview.codec.encode
                        (Desktop.start settings).desktop.overview).pretty] ++
                    Report.conclusion chosen verbose)) := by
  have built := Desktop.start_eq settings
  refine ⟨built, fun budget level => ?_⟩
  intro chosen
  -- Neither the budget nor the log level has a part in the desktop.
  have same : Desktop.opened chosen = Desktop.opened settings := rfl
  obtain ⟨delivered, left⟩ := startupDelivery_eq chosen
  rw [built]
  refine ⟨?_, ?_, fun verbose files => ?_⟩
  · rw [delivered, List.length_take, same, Desktop.length_queue_opened]
  · rw [left, same]
    rfl
  · exact Report.output_ofSettings chosen verbose files

end DesktopTags
