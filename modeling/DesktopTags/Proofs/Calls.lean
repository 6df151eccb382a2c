import DesktopTags.Desktop.Call
import DesktopTags.Proofs.Dismissal

namespace DesktopTags

open Operation

/-! ## Screens, clients and the focus -/

namespace Desktop

variable {desktop : Desktop} {client : ClientId} {screen : ScreenId}

theorem manageClient_of_unknown (unknown : desktop.hasScreen screen = false) :
    manageClient client screen desktop =
      ⟨.error (.unknownScreen screen), desktop, []⟩ := by
  have refused :
      (if desktop.hasScreen screen then .ok ()
        else .error (.unknownScreen screen) : Except Fault Unit) =
        .error (.unknownScreen screen) := by
    simp [unknown]
  rw [manageClient, ask_bind_of_error refused]

theorem manageClient_of_managed
    (known : desktop.hasScreen screen = true)
    (managed : desktop.clients.contains client = true) :
    manageClient client screen desktop =
      ⟨.ok (), desktop, [.alreadyManaged client]⟩ := by
  have allowed :
      (if desktop.hasScreen screen then .ok ()
        else .error (.unknownScreen screen) : Except Fault Unit) =
        .ok () := by
    simp [known]
  rw [manageClient, ask_bind_of_ok allowed, read_bind]
  simp [managed]

theorem manageClient_of_new
    (known : desktop.hasScreen screen = true)
    (new : desktop.clients.contains client = false) :
    manageClient client screen desktop =
      ⟨.ok (),
        { desktop with clients := desktop.clients.insert client screen },
        []⟩ := by
  have allowed :
      (if desktop.hasScreen screen then .ok ()
        else .error (.unknownScreen screen) : Except Fault Unit) =
        .ok () := by
    simp [known]
  rw [manageClient, ask_bind_of_ok allowed, read_bind]
  simp only [new, Bool.false_eq_true, if_false]
  rfl

theorem focusClient_of_stranger
    (stranger : desktop.clients.get? client = none) :
    focusClient client desktop =
      ⟨.error (.unknownClient client), desktop, []⟩ := by
  rw [focusClient,
    ask_bind_of_error (ClientTable.screenOf_of_stranger stranger)]

theorem focusClient_of_managed
    {entry : Client} (managed : desktop.clients.get? client = some entry) :
    focusClient client desktop =
      ⟨.ok (), { desktop with focus := desktop.focus.focus client }, []⟩ := by
  rw [focusClient,
    ask_bind_of_ok (ClientTable.screenOf_of_managed managed)]
  rfl

end Desktop

/-! ## Calls as data -/

namespace Call

theorem thenDone_apply (operation : Operation Unit) (desktop : Desktop) :
    thenDone operation desktop =
      ⟨(operation desktop).answer.map fun _ => .done,
        (operation desktop).desktop, (operation desktop).log⟩ :=
  bind_pure_apply operation (fun _ => Reply.done) desktop

theorem thenDone_of
    {operation : Operation Unit} {desktop after : Desktop}
    {answer : Except Fault Unit} {log : List LogEvent}
    (outcome : operation desktop = ⟨answer, after, log⟩) :
    thenDone operation desktop =
      ⟨answer.map fun _ => .done, after, log⟩ := by
  rw [thenDone_apply, outcome]

theorem setClients_of
    {ref : TagRef} {requested : List ClientId} {desktop after : Desktop}
    {answer : Except Fault (List ClientId)} {log : List LogEvent}
    (outcome :
      Desktop.setClients ref requested desktop = ⟨answer, after, log⟩) :
    (Call.setClients ref requested).run desktop =
      ⟨answer.map .clients, after, log⟩ := by
  rw [run, bind_pure_apply, outcome]

/-- The tag that a call is about. -/
def subject? : Call → Option TagRef
  | .holdTag tag => some tag
  | .releaseTag tag => some tag
  | .activate tag => some tag
  | .deactivate tag => some tag
  | .setActivated tag _ => some tag
  | .setSelected tag _ => some tag
  | .setName tag _ => some tag
  | .tagClient tag _ => some tag
  | .untagClient _ tag => some tag
  | .setClients tag _ => some tag
  | _ => none

/-- The handles that a call hands out. -/
def given : Call → Int
  | .holdTag _ => 1
  | .releaseTag _ => -1
  | _ => 0

/-- The occupants that a call ends: it gives back the last handle, the place in
the registry or the last members. -/
def Spends (old : Occupant) : Call → Prop
  | .releaseTag _ => old.LastHandle
  | .deactivate _ => old.OnlyActivated
  | .setActivated _ activated => activated = false ∧ old.OnlyActivated
  | .untagClient client _ => old.OnlyMembers [client]
  | .setClients _ requested =>
      requested = [] ∧ old.OnlyMembers old.tag.clients
  | .unmanageClient client => old.OnlyMembers [client]
  | _ => False

end Call

namespace Desktop

variable {desktop : Desktop} {ref : TagRef}

theorem Settles.map
    {α β : Type} {given : Int} {spends : Occupant → Prop}
    {outcome : Outcome α}
    (settles : Settles desktop ref given spends outcome) (view : α → β) :
    Settles desktop ref given spends
      ⟨outcome.answer.map view, outcome.desktop, outcome.log⟩ := by
  have same :
      ∀ answer : Except Fault α,
        balance given (answer.map view) = balance given answer := by
    intro answer
    cases answer <;> rfl
  cases settles with
  | unchanged answer quiet idle spares =>
      apply Settles.unchanged _ quiet _ spares
      rw [same, idle]
  | altered answer live alteration counted reports handled ends =>
      apply Settles.altered _ live alteration counted reports _ ends
      rw [same, handled]

theorem Settles.thenDone
    {given : Int} {spends : Occupant → Prop} {operation : Operation Unit}
    (settles : Settles desktop ref given spends (operation desktop)) :
    Settles desktop ref given spends (Call.thenDone operation desktop) := by
  rw [Call.thenDone_apply]
  exact settles.map _

/-- Every call about one tag settles that tag. -/
theorem Sound.run_settles
    (sound : desktop.Sound) (call : Call) (about : call.subject? = some ref) :
    Settles desktop ref call.given (fun old => call.Spends old)
      (call.run desktop) := by
  cases call with
  | holdTag tag =>
      cases about
      exact (holdTag_settles sound ref).thenDone
  | releaseTag tag =>
      cases about
      exact (releaseTag_settles sound ref).thenDone
  | activate tag =>
      cases about
      exact (activate_settles sound ref).thenDone
  | deactivate tag =>
      cases about
      exact (deactivate_settles sound ref).thenDone
  | setActivated tag activated =>
      cases about
      exact (setActivated_settles sound ref activated).thenDone
  | setSelected tag selected =>
      cases about
      exact (setSelected_settles sound ref selected).thenDone
  | setName tag name =>
      cases about
      exact (setName_settles sound ref name).thenDone
  | tagClient tag client =>
      cases about
      exact (tagClient_settles sound ref client).thenDone
  | untagClient client tag =>
      cases about
      exact (untagClient_settles sound client ref).thenDone
  | setClients tag clients =>
      cases about
      have settles := setClients_settles sound ref clients
      rw [Call.run, bind_pure_apply]
      exact settles.map _
  | newTag name => cases about
  | manageClient client screen => cases about
  | unmanageClient client => cases about
  | focusClient client => cases about
  | unfocus => cases about
  | addScreen output => cases about

/-- The outcome of a call that has nothing to do with tags. -/
structure Still {α : Type} (desktop : Desktop) (outcome : Outcome α) :
    Prop where
  changes : Changes desktop [] outcome.desktop
  tags : outcome.desktop.tags = desktop.tags
  quiet : Quiet outcome.log

/-- A call that leaves the desktop alone. -/
theorem Still.of_same
    {α : Type} (desktop : Desktop) (answer : Except Fault α)
    {log : List LogEvent} (quiet : Quiet log) :
    Still desktop ⟨answer, desktop, log⟩ :=
  ⟨.none desktop, rfl, quiet⟩

theorem Still.thenDone
    {desktop : Desktop} {operation : Operation Unit}
    (still : Still desktop (operation desktop)) :
    Still desktop (Call.thenDone operation desktop) := by
  rw [Call.thenDone_apply]
  exact ⟨still.changes, still.tags, still.quiet⟩

theorem manageClient_still
    (desktop : Desktop) (client : ClientId) (screen : ScreenId) :
    Still desktop (manageClient client screen desktop) := by
  cases known : desktop.hasScreen screen with
  | false =>
      rw [manageClient_of_unknown known]
      exact .of_same desktop _ quiet_nil
  | true =>
      cases managed : desktop.clients.contains client with
      | true =>
          rw [manageClient_of_managed known managed]
          exact .of_same desktop _ (quiet_nil.cons rfl)
      | false =>
          rw [manageClient_of_new known managed]
          exact ⟨(Change.manage known managed).changes, rfl, quiet_nil⟩

theorem focusClient_still (desktop : Desktop) (client : ClientId) :
    Still desktop (focusClient client desktop) := by
  cases known : desktop.clients.get? client with
  | none =>
      rw [focusClient_of_stranger known]
      exact .of_same desktop _ quiet_nil
  | some entry =>
      have managed :=
        (ClientTable.contains_iff desktop.clients client).2 ⟨entry, known⟩
      rw [focusClient_of_managed known]
      exact ⟨(Change.focus managed).changes, rfl, quiet_nil⟩

/-- A call settles one tag, or makes a new one, or ends a client, or has nothing
to do with tags. -/
theorem Sound.run_cases (sound : desktop.Sound) (call : Call) :
    (∃ ref, call.subject? = some ref ∧
        Settles desktop ref call.given (fun old => call.Spends old)
          (call.run desktop)) ∨
      (∃ name, call = .newTag name) ∨
      (∃ client, call = .unmanageClient client) ∨
      (call.given = 0 ∧ (∀ name, call ≠ .newTag name) ∧
        (∀ old, ¬ call.Spends old) ∧ Still desktop (call.run desktop)) := by
  cases about : call.subject? with
  | some ref =>
      exact Or.inl ⟨ref, rfl, sound.run_settles call about⟩
  | none =>
      right
      cases call with
      | newTag name =>
          exact Or.inl ⟨name, rfl⟩
      | unmanageClient client =>
          exact Or.inr (Or.inl ⟨client, rfl⟩)
      | manageClient client screen =>
          have still := manageClient_still desktop client screen
          exact Or.inr (Or.inr ⟨rfl, nofun, fun _ => id, still.thenDone⟩)
      | focusClient client =>
          have still := focusClient_still desktop client
          exact Or.inr (Or.inr ⟨rfl, nofun, fun _ => id, still.thenDone⟩)
      | unfocus =>
          have change := Change.unfocus desktop
          exact Or.inr (Or.inr
            ⟨rfl, nofun, fun _ => id, change.changes, rfl, quiet_nil⟩)
      | addScreen output =>
          have change := Change.addScreen desktop output
          exact Or.inr (Or.inr
            ⟨rfl, nofun, fun _ => id, change.changes, rfl, quiet_nil⟩)
      | _ => cases about

/-! ## Calls keep a desktop sound -/

/-- Every call, refused or not, is made of changes. -/
theorem Sound.run_changes (sound : desktop.Sound) (call : Call) :
    ∃ effects, Changes desktop effects (call.run desktop).desktop := by
  rcases sound.run_cases call with
    ⟨ref, _, settles⟩ | ⟨name, rfl⟩ | ⟨client, rfl⟩ | ⟨_, _, _, still⟩
  · exact settles.changes
  · exact ⟨[], (Change.create desktop name).changes⟩
  · rw [Call.run, Call.thenDone_apply]
    exact unmanageClient_changes sound client
  · exact ⟨[], still.changes⟩

theorem Sound.run (sound : desktop.Sound) (call : Call) :
    (call.run desktop).desktop.Sound := by
  obtain ⟨effects, changes⟩ := sound.run_changes call
  exact changes.sound sound

end Desktop

end DesktopTags
