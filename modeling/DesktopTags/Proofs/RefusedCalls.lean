import DesktopTags.Proofs.Endings
import DesktopTags.Proofs.Refusals
import DesktopTags.Proofs.Run

/-!
# Refused calls

On every desktop that a run comes to, a call is refused exactly if its arguments
name nothing of the kind that is needed, and then it changes nothing. The one
exception is `setClients` on a live tag, which keeps what it did before it came
to a client that is not managed.
-/

namespace DesktopTags

open Operation

/-- A call that does nothing if it is refused. -/
def Call.AllOrNothing (desktop : Desktop) : Call → Prop
  | .setClients tag _ => desktop.tags.contains tag = false
  | _ => True

namespace Desktop

variable {desktop : Desktop} {ref : TagRef} {client : ClientId}
  {fault : Fault}

theorem refusedTag?_eq_some_iff :
    desktop.refusedTag? ref = some fault ↔
      desktop.tags.occupant? ref = none ∧ fault = .unknownTag ref := by
  cases live : desktop.tags.occupant? ref with
  | none =>
      simp [refusedTag?_of_gone live, eq_comm]
  | some old =>
      simp [refusedTag?_of_live live]

theorem refusedClient?_eq_some_iff :
    desktop.refusedClient? client = some fault ↔
      desktop.clients.get? client = none ∧
        fault = .unknownClient client := by
  rcases refusedClient?_cases desktop client with
    ⟨stranger, refused⟩ | ⟨entry, managed, passed⟩
  · simp [stranger, refused, eq_comm]
  · simp [managed, passed]

theorem refusedClient?_eq_none_iff :
    desktop.refusedClient? client = none ↔
      ∃ entry, desktop.clients.get? client = some entry := by
  rcases refusedClient?_cases desktop client with
    ⟨stranger, refused⟩ | ⟨entry, managed, passed⟩
  · simp [stranger, refused]
  · simp [managed, passed]

/-- A call about a tag and a client asks for the client first. -/
theorem refusedEdge_eq_some_iff :
    (desktop.refusedClient? client).or (desktop.refusedTag? ref) =
        some fault ↔
      (desktop.clients.get? client = none ∧ fault = .unknownClient client) ∨
        (∃ entry, desktop.clients.get? client = some entry) ∧
          desktop.tags.occupant? ref = none ∧ fault = .unknownTag ref := by
  rw [Option.or_eq_some_iff, refusedClient?_eq_some_iff,
    refusedClient?_eq_none_iff, refusedTag?_eq_some_iff]

/-- A refusal comes before the first change, whatever desktop it comes on. -/
theorem run_of_refusal
    {call : Call} (allOrNothing : call.AllOrNothing desktop)
    (refused : call.refusal? desktop = some fault) :
    call.run desktop = ⟨.error fault, desktop, []⟩ := by
  cases call with
  | newTag name => cases refused
  | unfocus => cases refused
  | addScreen output => cases refused
  | holdTag tag =>
      obtain ⟨gone, rfl⟩ := refusedTag?_eq_some_iff.1 refused
      exact bind_of_error (holdTag_of_gone gone) _
  | activate tag =>
      obtain ⟨gone, rfl⟩ := refusedTag?_eq_some_iff.1 refused
      exact bind_of_error (activate_of_gone gone) _
  | deactivate tag =>
      obtain ⟨gone, rfl⟩ := refusedTag?_eq_some_iff.1 refused
      exact bind_of_error (deactivate_of_gone gone) _
  | setActivated tag activated =>
      obtain ⟨gone, rfl⟩ := refusedTag?_eq_some_iff.1 refused
      cases activated with
      | true => exact bind_of_error (activate_of_gone gone) _
      | false => exact bind_of_error (deactivate_of_gone gone) _
  | setSelected tag selected =>
      obtain ⟨gone, rfl⟩ := refusedTag?_eq_some_iff.1 refused
      exact bind_of_error (setSelected_of_gone gone selected) _
  | setName tag name =>
      obtain ⟨gone, rfl⟩ := refusedTag?_eq_some_iff.1 refused
      exact bind_of_error (setName_of_gone gone name) _
  | releaseTag tag =>
      rcases Option.or_eq_some_iff.1 refused with
        unknown | ⟨known, returned⟩
      · obtain ⟨gone, rfl⟩ := refusedTag?_eq_some_iff.1 unknown
        exact bind_of_error (releaseTag_of_gone gone) _
      · cases live : desktop.tags.occupant? tag with
        | none =>
            rw [refusedTag?_of_gone live] at known
            cases known
        | some old =>
            simp only [Arena.handles, live, Option.elim_some] at returned
            split at returned
            · rename_i spent
              cases returned
              exact bind_of_error (releaseTag_of_returned live spent) _
            · cases returned
  | tagClient tag client =>
      rcases refusedEdge_eq_some_iff.1 refused with
        ⟨stranger, rfl⟩ | ⟨⟨entry, managed⟩, gone, rfl⟩
      · exact bind_of_error (tagClient_of_stranger stranger tag) _
      · exact bind_of_error (tagClient_of_gone managed gone) _
  | untagClient client tag =>
      rcases refusedEdge_eq_some_iff.1 refused with
        ⟨stranger, rfl⟩ | ⟨⟨entry, managed⟩, gone, rfl⟩
      · exact bind_of_error (untagClient_of_stranger stranger tag) _
      · exact bind_of_error (untagClient_of_gone managed gone) _
  | setClients tag requested =>
      have gone := contains_eq_false_iff.1 allOrNothing
      rw [Call.refusal?, refusedTag?_of_gone gone, Option.some_or] at refused
      cases refused
      exact bind_of_error (setClients_of_gone gone requested) _
  | manageClient client screen =>
      simp only [Call.refusal?] at refused
      split at refused
      · cases refused
      · rename_i unknown
        cases refused
        exact bind_of_error
          (manageClient_of_unknown (Bool.eq_false_iff.2 unknown)) _
  | unmanageClient client =>
      obtain ⟨stranger, rfl⟩ := refusedClient?_eq_some_iff.1 refused
      exact bind_of_error (unmanageClient_of_stranger stranger) _
  | focusClient client =>
      obtain ⟨stranger, rfl⟩ := refusedClient?_eq_some_iff.1 refused
      exact bind_of_error (focusClient_of_stranger stranger) _

/-! ## Screens -/

theorem Settles.screens
    {α : Type} {given : Int} {spends : Occupant → Prop}
    {outcome : Outcome α}
    (settles : Settles desktop ref given spends outcome) :
    outcome.desktop.screens = desktop.screens := by
  cases settles <;> rfl

theorem unmanageClient_screens (sound : desktop.Sound) (client : ClientId) :
    (unmanageClient client desktop).desktop.screens = desktop.screens := by
  cases known : desktop.clients.get? client with
  | none =>
      rw [unmanageClient_of_stranger known]
  | some entry =>
      obtain ⟨after, log, done, bereaves⟩ :=
        unmanageClient_of_managed sound known
      have rest := congrArg Desktop.screens bereaves.rest
      rw [done]
      exact rest

theorem manageClient_screens
    (desktop : Desktop) (client : ClientId) (screen : ScreenId) :
    (manageClient client screen desktop).desktop.screens =
      desktop.screens := by
  cases known : desktop.hasScreen screen with
  | false =>
      rw [manageClient_of_unknown known]
  | true =>
      cases managed : desktop.clients.contains client with
      | true =>
          rw [manageClient_of_managed known managed]
      | false =>
          rw [manageClient_of_new known managed]

theorem focusClient_screens (desktop : Desktop) (client : ClientId) :
    (focusClient client desktop).desktop.screens = desktop.screens := by
  cases known : desktop.clients.get? client with
  | none =>
      rw [focusClient_of_stranger known]
  | some entry =>
      rw [focusClient_of_managed known]

/-- Screens come with `addScreen` only, and stay. -/
theorem Sound.run_screens
    (sound : desktop.Sound) (call : Call)
    (other : ∀ output, call ≠ .addScreen output) :
    (call.run desktop).desktop.screens = desktop.screens := by
  cases about : call.subject? with
  | some ref =>
      exact (sound.run_settles call about).screens
  | none =>
      cases call with
      | newTag name =>
          rfl
      | unfocus =>
          rfl
      | addScreen output =>
          exact absurd rfl (other output)
      | unmanageClient client =>
          rw [Call.run, Call.thenDone_apply]
          exact unmanageClient_screens sound client
      | manageClient client screen =>
          rw [Call.run, Call.thenDone_apply]
          exact manageClient_screens desktop client screen
      | focusClient client =>
          rw [Call.run, Call.thenDone_apply]
          exact focusClient_screens desktop client
      | _ => cases about

end Desktop

namespace Moment

/-- A screen was added in the course of a run. -/
def HasAdded (moment : Moment) (screen : ScreenId) : Prop :=
  ∃ output,
    .called (.addScreen output) (.ok (.screen screen)) ∈ moment.history

theorem hasAdded_call_iff
    (moment : Moment) (call : Call) (screen : ScreenId) :
    (moment.call call).HasAdded screen ↔
      moment.HasAdded screen ∨
        ∃ output, call = .addScreen output ∧
          (call.run moment.desktop).answer = .ok (.screen screen) := by
  simp only [HasAdded, Moment.call, List.mem_append, List.mem_singleton,
    Happening.called.injEq, exists_or]
  refine or_congr_right (exists_congr fun output => ?_)
  constructor
  · rintro ⟨same, answer⟩
    exact ⟨same.symm, answer.symm⟩
  · rintro ⟨same, answer⟩
    exact ⟨same.symm, answer.symm⟩

theorem Step.hasScreen_iff
    {before after : Moment} (step : Step before after)
    (sound : before.desktop.Sound)
    (known :
      ∀ screen, before.desktop.hasScreen screen = true ↔
        before.HasAdded screen)
    (screen : ScreenId) :
    after.desktop.hasScreen screen = true ↔ after.HasAdded screen := by
  cases step with
  | @deliver effect queue =>
      have same :
          (before.deliver effect queue).HasAdded screen ↔
            before.HasAdded screen := by
        simp [HasAdded, Moment.deliver]
      exact (known screen).trans same.symm
  | call call =>
      rw [hasAdded_call_iff, ← known]
      by_cases adds : ∃ output, call = .addScreen output
      · obtain ⟨output, rfl⟩ := adds
        have added :
            ((Call.addScreen output).run before.desktop).desktop.screens =
              before.desktop.screens ++
                [⟨⟨before.desktop.screens.length⟩, output⟩] :=
          rfl
        have answered :
            ((Call.addScreen output).run before.desktop).answer =
              .ok (.screen ⟨before.desktop.screens.length⟩) :=
          rfl
        simp [Moment.call, Desktop.hasScreen, added, answered]
      · have screens := sound.run_screens call fun output same =>
          adds ⟨output, same⟩
        simp only [Moment.call, Desktop.hasScreen, screens]
        refine (or_iff_left ?_).symm
        rintro ⟨output, same, _⟩
        exact adds ⟨output, same⟩

/-- The screens of a desktop are those that were added. -/
theorem Reached.hasScreen_iff
    {moment : Moment} (reached : moment.Reached) (screen : ScreenId) :
    moment.desktop.hasScreen screen = true ↔ moment.HasAdded screen := by
  revert screen
  apply reached.induction
  · intro screen
    simp [HasAdded, Desktop.hasScreen]
  · intro before after step sound known
    exact step.hasScreen_iff sound known

end Moment

/-! ## The faults of a reachable desktop -/

namespace Desktop

theorem Sound.run_eq_error_iff
    {desktop : Desktop} (sound : desktop.Sound) (call : Call)
    (fault : Fault) :
    (call.run desktop).answer = .error fault ↔
      call.refusal? desktop = some fault := by
  rw [← sound.run_fault call]
  cases (call.run desktop).answer with
  | ok reply => simp
  | error other => simp

/-- A call is refused exactly with the fault that its arguments call for, and a
refused call leaves the desktop as it is, down to its queue and its vacant
slots. `manageClient` is refused exactly if its screen was never added. -/
theorem refused_exactly
    {desktop : Desktop} (reachable : desktop.Reachable) :
    (∀ (call : Call) (fault : Fault),
        (call.run desktop).answer = .error fault ↔
          call.refusal? desktop = some fault) ∧
      (∀ (call : Call) (fault : Fault), call.AllOrNothing desktop →
        (call.run desktop).answer = .error fault →
          (call.run desktop).desktop = desktop) ∧
      ∀ moment : Moment, moment.Reached → moment.desktop = desktop →
        ∀ (client : ClientId) (screen : ScreenId),
          ((Call.manageClient client screen).run desktop).answer =
              .error (.unknownScreen screen) ↔
            ¬ moment.HasAdded screen := by
  have exactly := reachable.sound.run_eq_error_iff
  refine ⟨exactly, ?_, ?_⟩
  · intro call fault allOrNothing answered
    rw [run_of_refusal allOrNothing ((exactly call fault).1 answered)]
  · intro moment reached now client screen
    subst now
    rw [exactly, ← reached.hasScreen_iff]
    simp [Call.refusal?]

/-- A tag that only the registry holds and that was destroyed, with a client that
came after it. -/
theorem refused_exactly_after_deactivate :
    let moment := (Moment.start { tags := ["main", "mail"] }).calls
      [.addScreen "DP-1", .manageClient ⟨7⟩ ⟨0⟩, .deactivate ⟨1, 0⟩]
    moment.desktop.Reachable ∧
      ((Call.releaseTag ⟨0, 0⟩).run moment.desktop).answer =
        .error (.notHeld ⟨0, 0⟩) ∧
      ((Call.releaseTag ⟨0, 0⟩).run moment.desktop).desktop =
        moment.desktop ∧
      ((Call.tagClient ⟨1, 0⟩ ⟨7⟩).run moment.desktop).answer =
        .error (.unknownTag ⟨1, 0⟩) ∧
      ((Call.tagClient ⟨1, 0⟩ ⟨7⟩).run moment.desktop).desktop =
        moment.desktop ∧
      ((Call.manageClient ⟨8⟩ ⟨1⟩).run moment.desktop).answer =
        .error (.unknownScreen ⟨1⟩) ∧
      ¬ moment.HasAdded ⟨1⟩ := by
  intro moment
  have reached : moment.Reached :=
    (Moment.Reached.start _).leads (Moment.leads_calls _ _)
  have reachable : moment.desktop.Reachable := by
    rw [Moment.desktop_calls]
    exact (Reachable.start _).after _
  obtain ⟨exactly, unchanged, added⟩ := refused_exactly reachable
  have returned :=
    (exactly (.releaseTag ⟨0, 0⟩) (.notHeld ⟨0, 0⟩)).2 (by decide)
  have gone :=
    (exactly (.tagClient ⟨1, 0⟩ ⟨7⟩) (.unknownTag ⟨1, 0⟩)).2 (by decide)
  have unknown :=
    (exactly (.manageClient ⟨8⟩ ⟨1⟩) (.unknownScreen ⟨1⟩)).2 (by decide)
  exact ⟨reachable, returned, unchanged _ _ trivial returned,
    gone, unchanged _ _ trivial gone, unknown,
    (added moment reached rfl ⟨8⟩ ⟨1⟩).1 unknown⟩

end Desktop

end DesktopTags
