import DesktopTags.Desktop.Call
import DesktopTags.Proofs.Operation

/-!
# Rules that operations obey

A rule says what a run may make of a desktop and what it may log. A rule that
admits the edits of one slot and the events of a log, and under which runs can
be chained, is obeyed by every call that creates no tag, on every desktop.
-/

namespace DesktopTags

/-- What is said of a run: the desktop before it, the desktop after it, and its
log. -/
abbrev Rule : Type :=
  Desktop → Desktop → List LogEvent → Prop

def Operation.Obeys {α : Type} (rule : Rule) (operation : Operation α) : Prop :=
  ∀ desktop, rule desktop (operation desktop).desktop (operation desktop).log

/-- A rule that admits what operations are made of. Only `deactivate` can find a
tag missing from the registry, so that event is not among them. -/
structure Rule.Admits (rule : Rule) : Prop where
  elsewhere :
    ∀ {before after : Desktop},
      after.tags = before.tags → rule before after []
  event :
    ∀ (desktop : Desktop) {event : LogEvent},
      (∀ ref, event ≠ .missingFromRegistry ref) →
        rule desktop desktop [event]
  put :
    ∀ {desktop : Desktop} {ref : TagRef} {old : Occupant},
      desktop.tags.occupant? ref = some old →
        ∀ new, rule desktop
          { desktop with tags := desktop.tags.put ref.slot (some new) } []
  vacate :
    ∀ {desktop : Desktop} {ref : TagRef} {old : Occupant},
      desktop.tags.occupant? ref = some old →
        rule desktop
          { desktop with tags := desktop.tags.vacate ref.slot } []
  chain :
    ∀ {before middle after : Desktop} {first second : List LogEvent},
      rule before middle first → rule middle after second →
        rule before after (first ++ second)

/-! ## Parts of operations -/

namespace Rule.Admits

open Operation

variable {α β : Type} {rule : Rule} (admits : rule.Admits)
include admits

theorem answer (value : α) : (pure value : Operation α).Obeys rule :=
  fun _ => admits.elsewhere rfl

theorem ask (question : Desktop → Except Fault α) :
    (ask question).Obeys rule :=
  fun _ => admits.elsewhere rfl

theorem read (view : Desktop → α) : (read view).Obeys rule :=
  fun _ => admits.elsewhere rfl

theorem change
    {edit : Desktop → Desktop}
    (elsewhere : ∀ desktop, (edit desktop).tags = desktop.tags) :
    (change edit).Obeys rule :=
  fun desktop => admits.elsewhere (elsewhere desktop)

theorem enqueue (effects : List Effect) : (enqueue effects).Obeys rule :=
  admits.change fun _ => rfl

theorem report
    {event : LogEvent} (ordinary : ∀ ref, event ≠ .missingFromRegistry ref) :
    (report event).Obeys rule :=
  fun desktop => admits.event desktop ordinary

theorem bind
    {first : Operation α} {next : α → Operation β}
    (head : first.Obeys rule) (tail : ∀ value, (next value).Obeys rule) :
    (first >>= next).Obeys rule := by
  intro desktop
  have now := head desktop
  cases done : first desktop with
  | mk answer after log =>
      rw [done] at now
      cases answer with
      | error fault =>
          rw [bind_of_error done]
          exact now
      | ok value =>
          rw [bind_of_ok done]
          exact admits.chain now (tail value after)

theorem forAll
    {operation : α → Operation Unit}
    (each : ∀ item, (operation item).Obeys rule) (items : List α) :
    (forAll operation items).Obeys rule := by
  induction items with
  | nil =>
      exact admits.answer ()
  | cons item rest inductionHypothesis =>
      exact admits.bind (each item) fun _ => inductionHypothesis

theorem onTags
    {edit : Arena → Except Fault (α × Arena)}
    (edited :
      ∀ (desktop : Desktop) (value : α) (tags : Arena),
        edit desktop.tags = .ok (value, tags) →
          rule desktop { desktop with tags } []) :
    (onTags edit).Obeys rule := by
  intro desktop
  unfold Operation.onTags
  cases done : edit desktop.tags with
  | error fault =>
      exact admits.elsewhere rfl
  | ok result =>
      exact edited desktop result.1 result.2 done

theorem update (ref : TagRef) (change : Occupant → Occupant) :
    (Operation.onTags fun tags =>
      (tags.update ref change).map fun tags => ((), tags)).Obeys rule := by
  apply admits.onTags
  intro desktop value tags done
  cases live : desktop.tags.occupant? ref with
  | none =>
      rw [Arena.update_of_gone live] at done
      cases done
  | some old =>
      rw [Arena.update_of_live live] at done
      cases done
      exact admits.put live (change old)

theorem editTag (ref : TagRef) (edit : Tag → Tag) :
    (editTag ref edit).Obeys rule :=
  admits.update ref _

theorem acquire (ref : TagRef) : (acquire ref).Obeys rule :=
  admits.update ref _

theorem release
    {desktop : Desktop} {ref : TagRef} {last : Option Tag} {tags : Arena}
    (done : desktop.tags.release ref = .ok (last, tags)) :
    rule desktop { desktop with tags } [] := by
  cases live : desktop.tags.occupant? ref with
  | none =>
      simp only [Arena.release, live] at done
      cases done
  | some old =>
      simp only [Arena.release, live] at done
      split at done
      · cases done
      · split at done
        · cases done
          exact admits.vacate live
        · cases done
          exact admits.put live _

theorem releaseHandle
    {desktop : Desktop} {ref : TagRef} {last : Option Tag} {tags : Arena}
    (done : desktop.tags.releaseHandle ref = .ok (last, tags)) :
    rule desktop { desktop with tags } [] := by
  cases live : desktop.tags.occupant? ref with
  | none =>
      simp only [Arena.releaseHandle, live] at done
      cases done
  | some old =>
      simp only [Arena.releaseHandle, live] at done
      split at done
      · cases done
      · have lowered := admits.put live
          { old with handles := old.handles - 1 }
        exact admits.chain lowered (admits.release done)

theorem releaseReference (ref : TagRef) :
    (releaseReference ref).Obeys rule := by
  refine admits.bind (admits.onTags ?_) fun last => ?_
  · intro desktop last tags done
    exact admits.release done
  · cases last with
    | none => exact admits.answer ()
    | some old => exact admits.report nofun

end Rule.Admits

/-! ## Calls -/

namespace Desktop

open Operation

variable {rule : Rule} (admits : rule.Admits)
include admits

theorem releaseTag_obeys (ref : TagRef) : (releaseTag ref).Obeys rule := by
  refine admits.bind (admits.onTags ?_) fun last => ?_
  · intro desktop last tags done
    exact admits.releaseHandle done
  · cases last with
    | none => exact admits.answer ()
    | some old => exact admits.report nofun

theorem activate_obeys (ref : TagRef) : (activate ref).Obeys rule := by
  refine admits.bind (admits.ask _) fun current => ?_
  split
  · exact admits.report nofun
  · refine admits.bind (admits.editTag ref _) fun _ => ?_
    refine admits.bind (admits.acquire ref) fun _ => ?_
    refine admits.bind (admits.change (by exact fun _ => rfl)) fun _ => ?_
    exact admits.enqueue _

/-- The only call that can find a tag missing from the registry. -/
theorem deactivate_obeys
    (ref : TagRef)
    (missing :
      ∀ desktop : Desktop,
        rule desktop desktop [.missingFromRegistry ref]) :
    (deactivate ref).Obeys rule := by
  have released :
      (releaseReference ref >>= fun _ =>
        enqueue (desktopListChanged ref)).Obeys rule :=
    admits.bind (admits.releaseReference ref) fun _ => admits.enqueue _
  have cleared (current : Tag) :
      (do
        editTag ref fun old =>
          { old with activated := false, selected := false }
        if current.selected then
          enqueue
            [Effect.property ref .selectedChanged, .display .invalidateBanning]
        releaseReference ref
        enqueue (desktopListChanged ref) : Operation Unit).Obeys rule := by
    refine admits.bind (admits.editTag ref _) fun _ => ?_
    split
    · exact admits.bind (admits.enqueue _) fun _ => released
    · exact released
  have warned : (report (.missingFromRegistry ref)).Obeys rule := missing
  refine admits.bind (admits.ask _) fun current => ?_
  split
  · refine admits.bind (admits.read _) fun listed => ?_
    cases listed with
    | true =>
        exact admits.bind (admits.change (by exact fun _ => rfl))
          fun _ => cleared current
    | false =>
        exact admits.bind warned fun _ => cleared current
  · exact admits.report nofun

theorem setSelected_obeys (ref : TagRef) (selected : Bool) :
    (setSelected ref selected).Obeys rule := by
  refine admits.bind (admits.ask _) fun current => ?_
  split
  · exact admits.answer ()
  · split
    · exact admits.report nofun
    · refine admits.bind (admits.editTag ref _) fun _ => ?_
      refine admits.bind (admits.read _) fun screens => ?_
      exact admits.enqueue _

theorem setName_obeys (ref : TagRef) (name : String) :
    (setName ref name).Obeys rule :=
  admits.bind (admits.editTag ref _) fun _ => admits.enqueue _

theorem tagClient_obeys (ref : TagRef) (client : ClientId) :
    (tagClient ref client).Obeys rule := by
  refine admits.bind (admits.ask _) fun screen => ?_
  refine admits.bind (admits.acquire ref) fun _ => ?_
  refine admits.bind (admits.ask _) fun current => ?_
  split
  · refine admits.bind (admits.report nofun) fun _ => ?_
    exact admits.releaseReference ref
  · refine admits.bind (admits.editTag ref _) fun _ => ?_
    exact admits.enqueue _

theorem untagClient_obeys (client : ClientId) (ref : TagRef) :
    (untagClient client ref).Obeys rule := by
  refine admits.bind (admits.ask _) fun screen => ?_
  refine admits.bind (admits.ask _) fun current => ?_
  split
  · refine admits.bind (admits.editTag ref _) fun _ => ?_
    refine admits.bind (admits.enqueue _) fun _ => ?_
    exact admits.releaseReference ref
  · exact admits.answer ()

theorem keepRequested_obeys
    (ref : TagRef) (requested : List ClientId) (member : ClientId) :
    (keepRequested ref requested member).Obeys rule := by
  refine admits.bind (admits.ask _) fun asked => ?_
  split
  · exact admits.answer ()
  · exact untagClient_obeys admits member ref

theorem setClients_obeys (ref : TagRef) (requested : List ClientId) :
    (setClients ref requested).Obeys rule := by
  have reconciled : (reconcile ref requested).Obeys rule := by
    refine admits.bind (admits.ask _) fun members => ?_
    refine admits.bind
      (admits.forAll (keepRequested_obeys admits ref requested) members)
      fun _ => ?_
    refine admits.bind
      (admits.forAll (tagClient_obeys admits ref) requested) fun _ => ?_
    refine admits.bind (admits.report nofun) fun _ => ?_
    exact admits.ask _
  have attempted : (attempt (reconcile ref requested)).Obeys rule :=
    reconciled
  refine admits.bind (admits.acquire ref) fun _ => ?_
  refine admits.bind attempted fun result => ?_
  refine admits.bind (admits.releaseReference ref) fun _ => ?_
  exact admits.ask _

theorem addScreen_obeys (output : String) :
    (addScreen output).Obeys rule := by
  refine admits.bind (admits.read _) fun id => ?_
  refine admits.bind (admits.change (by exact fun _ => rfl)) fun _ => ?_
  exact admits.answer id

theorem manageClient_obeys (client : ClientId) (screen : ScreenId) :
    (manageClient client screen).Obeys rule := by
  refine admits.bind (admits.ask _) fun _ => ?_
  refine admits.bind (admits.read _) fun managed => ?_
  split
  · exact admits.report nofun
  · exact admits.change fun _ => rfl

theorem unmanageClient_obeys (client : ClientId) :
    (unmanageClient client).Obeys rule := by
  refine admits.bind (admits.ask _) fun _ => ?_
  refine admits.bind (admits.read _) fun holding => ?_
  refine admits.bind
    (admits.forAll (untagClient_obeys admits client) holding) fun _ => ?_
  refine admits.bind (admits.change (by exact fun _ => rfl)) fun _ => ?_
  exact admits.report nofun

theorem focusClient_obeys (client : ClientId) :
    (focusClient client).Obeys rule :=
  admits.bind (admits.ask _) fun _ => admits.change fun _ => rfl

end Desktop

/-- A call that makes no tag obeys the rule, provided that `deactivate` does. -/
theorem Call.run_obeys
    {rule : Rule} (admits : rule.Admits) (call : Call)
    (makesNone : ∀ name, call ≠ .newTag name)
    (deactivates :
      ∀ ref, call = .deactivate ref ∨ call = .setActivated ref false →
        (Desktop.deactivate ref).Obeys rule) :
    call.run.Obeys rule := by
  have done {operation : Operation Unit} (obeys : operation.Obeys rule) :
      (Call.thenDone operation).Obeys rule :=
    admits.bind obeys fun _ => admits.answer _
  cases call with
  | newTag name => exact absurd rfl (makesNone name)
  | holdTag ref => exact done (admits.update ref _)
  | releaseTag ref => exact done (Desktop.releaseTag_obeys admits ref)
  | activate ref => exact done (Desktop.activate_obeys admits ref)
  | deactivate ref => exact done (deactivates ref (Or.inl rfl))
  | setActivated ref activated =>
      cases activated with
      | true => exact done (Desktop.activate_obeys admits ref)
      | false => exact done (deactivates ref (Or.inr rfl))
  | setSelected ref selected =>
      exact done (Desktop.setSelected_obeys admits ref selected)
  | setName ref name => exact done (Desktop.setName_obeys admits ref name)
  | tagClient ref client =>
      exact done (Desktop.tagClient_obeys admits ref client)
  | untagClient client ref =>
      exact done (Desktop.untagClient_obeys admits client ref)
  | setClients ref requested =>
      exact admits.bind (Desktop.setClients_obeys admits ref requested)
        fun _ => admits.answer _
  | manageClient client screen =>
      exact done (Desktop.manageClient_obeys admits client screen)
  | unmanageClient client =>
      exact done (Desktop.unmanageClient_obeys admits client)
  | focusClient client =>
      exact done (Desktop.focusClient_obeys admits client)
  | unfocus => exact done (admits.change fun _ => rfl)
  | addScreen output =>
      exact admits.bind (Desktop.addScreen_obeys admits output)
        fun _ => admits.answer _

end DesktopTags
