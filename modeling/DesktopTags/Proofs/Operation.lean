import DesktopTags.Desktop.Operation
import DesktopTags.Proofs.Arena

namespace DesktopTags

/-! ## Parts of a desktop changed one at a time -/

namespace Desktop

/-- Give a live tag its new occupant; it is destroyed if nothing refers to it. -/
def settle (desktop : Desktop) (ref : TagRef) (occupant : Occupant) : Desktop :=
  { desktop with tags := desktop.tags.settle ref occupant }

/-- Queue effects behind those that wait already. -/
def announce (desktop : Desktop) (effects : List Effect) : Desktop :=
  { desktop with queue := desktop.queue ++ effects }

@[simp]
theorem settle_tags (desktop : Desktop) (ref : TagRef) (occupant : Occupant) :
    (desktop.settle ref occupant).tags = desktop.tags.settle ref occupant :=
  rfl

@[simp]
theorem announce_tags (desktop : Desktop) (effects : List Effect) :
    (desktop.announce effects).tags = desktop.tags :=
  rfl

@[simp]
theorem announce_nil (desktop : Desktop) : desktop.announce [] = desktop := by
  simp [announce]

@[simp]
theorem announce_announce (desktop : Desktop) (first second : List Effect) :
    (desktop.announce first).announce second =
      desktop.announce (first ++ second) := by
  simp [announce]

theorem settle_announce
    (desktop : Desktop) (effects : List Effect)
    (ref : TagRef) (occupant : Occupant) :
    (desktop.announce effects).settle ref occupant =
      (desktop.settle ref occupant).announce effects :=
  rfl

theorem settle_settle
    (desktop : Desktop) (ref : TagRef) {first : Occupant}
    (referred : 0 < first.refs) (second : Occupant) :
    (desktop.settle ref first).settle ref second = desktop.settle ref second := by
  simp only [settle, Arena.settle_settle desktop.tags ref referred]

theorem settle_self
    {desktop : Desktop} {ref : TagRef} {old : Occupant}
    (live : desktop.tags.occupant? ref = some old) (referred : 0 < old.refs) :
    desktop.settle ref old = desktop := by
  simp only [settle, Arena.settle_self live referred]

theorem occupant?_settle_self
    {desktop : Desktop} {ref : TagRef} {old : Occupant}
    (live : desktop.tags.occupant? ref = some old)
    (new : Occupant) (referred : 0 < new.refs) :
    (desktop.settle ref new).tags.occupant? ref = some new :=
  Arena.occupant?_settle_self live new referred

theorem tag_of_live
    {desktop : Desktop} {ref : TagRef} {old : Occupant}
    (live : desktop.tags.occupant? ref = some old) :
    desktop.tag ref = .ok old.tag := by
  simp [Desktop.tag, Arena.get?, live]

theorem tag_of_gone
    {desktop : Desktop} {ref : TagRef}
    (gone : desktop.tags.occupant? ref = none) :
    desktop.tag ref = .error (.unknownTag ref) := by
  simp [Desktop.tag, Arena.get?, gone]

end Desktop

/-! ## Logged ends -/

/-- The tag whose end an event reports, with what was left of it. -/
def LogEvent.ending? : LogEvent → Option (TagRef × Tag)
  | .destroyed ref old => some (ref, old)
  | .handedBack ref old => some (ref, old)
  | _ => none

/-- No tag ends in a quiet log. -/
def Quiet (log : List LogEvent) : Prop :=
  ∀ event ∈ log, event.ending? = none

theorem quiet_nil : Quiet [] := by
  simp [Quiet]

theorem Quiet.cons
    {event : LogEvent} {log : List LogEvent}
    (first : event.ending? = none) (rest : Quiet log) :
    Quiet (event :: log) := by
  intro logged member
  rcases List.mem_cons.1 member with same | later
  · rw [same]
    exact first
  · exact rest logged later

theorem Quiet.append
    {first second : List LogEvent}
    (left : Quiet first) (right : Quiet second) :
    Quiet (first ++ second) := by
  intro logged member
  rcases List.mem_append.1 member with earlier | later
  · exact left logged earlier
  · exact right logged later

/-! ## Running operations -/

namespace Operation

variable {α β : Type} {desktop : Desktop}

theorem bind_of_ok
    {first : Operation α} {value : α} {after : Desktop} {log : List LogEvent}
    (done : first desktop = ⟨.ok value, after, log⟩)
    (next : α → Operation β) :
    (first >>= next) desktop =
      ⟨(next value after).answer, (next value after).desktop,
        log ++ (next value after).log⟩ := by
  simp only [bind, andThen, done]

theorem bind_of_error
    {first : Operation α} {fault : Fault} {after : Desktop}
    {log : List LogEvent}
    (done : first desktop = ⟨.error fault, after, log⟩)
    (next : α → Operation β) :
    (first >>= next) desktop = ⟨.error fault, after, log⟩ := by
  simp only [bind, andThen, done]

/-- A step that answers and logs nothing only hands on its answer. -/
theorem bind_of_quiet
    {first : Operation α} {value : α} {after : Desktop}
    (done : first desktop = ⟨.ok value, after, []⟩)
    (next : α → Operation β) :
    (first >>= next) desktop = next value after := by
  rw [bind_of_ok done, List.nil_append]

@[simp]
theorem pure_apply (value : α) (desktop : Desktop) :
    (pure value : Operation α) desktop = ⟨.ok value, desktop, []⟩ :=
  rfl

@[simp]
theorem read_bind (view : Desktop → α) (next : α → Operation β) (desktop : Desktop) :
    (read view >>= next) desktop = next (view desktop) desktop :=
  bind_of_quiet rfl next

@[simp]
theorem change_bind
    (edit : Desktop → Desktop) (next : Unit → Operation β) (desktop : Desktop) :
    (change edit >>= next) desktop = next () (edit desktop) :=
  bind_of_quiet rfl next

@[simp]
theorem enqueue_apply (effects : List Effect) (desktop : Desktop) :
    enqueue effects desktop = ⟨.ok (), desktop.announce effects, []⟩ :=
  rfl

@[simp]
theorem enqueue_bind
    (effects : List Effect) (next : Unit → Operation β) (desktop : Desktop) :
    (enqueue effects >>= next) desktop = next () (desktop.announce effects) :=
  bind_of_quiet rfl next

@[simp]
theorem report_apply (event : LogEvent) (desktop : Desktop) :
    report event desktop = ⟨.ok (), desktop, [event]⟩ :=
  rfl

theorem ask_bind_of_ok
    {question : Desktop → Except Fault α} {value : α}
    (answered : question desktop = .ok value) (next : α → Operation β) :
    (ask question >>= next) desktop = next value desktop :=
  bind_of_quiet (by rw [ask, answered]) next

theorem ask_bind_of_error
    {question : Desktop → Except Fault α} {fault : Fault}
    (refused : question desktop = .error fault) (next : α → Operation β) :
    (ask question >>= next) desktop = ⟨.error fault, desktop, []⟩ :=
  bind_of_error (by rw [ask, refused]) next

/-- An answer that is only reworded. -/
theorem bind_pure_apply
    (operation : Operation α) (view : α → β) (desktop : Desktop) :
    (operation >>= fun value => pure (view value)) desktop =
      ⟨(operation desktop).answer.map view, (operation desktop).desktop,
        (operation desktop).log⟩ := by
  cases done : operation desktop with
  | mk answer after log =>
      cases answer with
      | error fault =>
          rw [bind_of_error done]
          rfl
      | ok value =>
          rw [bind_of_ok done, pure_apply, List.append_nil]
          rfl

@[simp]
theorem attempt_apply (operation : Operation α) (desktop : Desktop) :
    attempt operation desktop =
      ⟨.ok (operation desktop).answer, (operation desktop).desktop,
        (operation desktop).log⟩ :=
  rfl

/-! ## Edits of one tag -/

variable {ref : TagRef} {old : Occupant}

/-- What is logged when a tag is settled: its end, if nothing refers to it. -/
def parting (ref : TagRef) (occupant : Occupant) : List LogEvent :=
  if occupant.refs = 0 then [.destroyed ref occupant.tag] else []

theorem parting_of_pos
    (ref : TagRef) {occupant : Occupant} (referred : 0 < occupant.refs) :
    parting ref occupant = [] := by
  rw [parting, if_neg (by omega)]

theorem editTag_of_live
    (live : desktop.tags.occupant? ref = some old) (referred : 0 < old.refs)
    (edit : Tag → Tag) :
    editTag ref edit desktop =
      ⟨.ok (), desktop.settle ref { old with tag := edit old.tag }, []⟩ := by
  rw [Desktop.settle, Arena.settle_of_pos _ _ (by exact referred)]
  simp [editTag, onTags, Arena.update_of_live live, Except.map]

theorem editTag_of_gone
    (gone : desktop.tags.occupant? ref = none) (edit : Tag → Tag) :
    editTag ref edit desktop = ⟨.error (.unknownTag ref), desktop, []⟩ := by
  simp [editTag, onTags, Arena.update_of_gone gone, Except.map]

theorem acquire_of_live
    (live : desktop.tags.occupant? ref = some old) :
    acquire ref desktop =
      ⟨.ok (), desktop.settle ref { old with refs := old.refs + 1 }, []⟩ := by
  rw [Desktop.settle, Arena.settle_of_pos _ _ (by simp)]
  simp [acquire, onTags, Arena.acquire, Arena.update_of_live live, Except.map]

theorem acquire_of_gone
    (gone : desktop.tags.occupant? ref = none) :
    acquire ref desktop = ⟨.error (.unknownTag ref), desktop, []⟩ := by
  simp [acquire, onTags, Arena.acquire, Arena.update_of_gone gone, Except.map]

theorem releaseReference_of_live
    (live : desktop.tags.occupant? ref = some old) (referred : 0 < old.refs) :
    releaseReference ref desktop =
      ⟨.ok (), desktop.settle ref { old with refs := old.refs - 1 },
        parting ref { old with refs := old.refs - 1 }⟩ := by
  have released :
      onTags (fun tags => tags.release ref) desktop =
        ⟨.ok (if old.refs = 1 then some old.tag else none),
          desktop.settle ref { old with refs := old.refs - 1 }, []⟩ := by
    simp [onTags, Arena.release_of_live live referred, Desktop.settle]
  rw [releaseReference, bind_of_quiet released]
  by_cases last : old.refs = 1
  · simp [last, parting]
  · have remaining : old.refs - 1 ≠ 0 := by omega
    simp [last, parting, remaining]

/-! ## Repetition -/

theorem forAll_append
    (operation : α → Operation Unit) (first second : List α)
    (desktop : Desktop) :
    forAll operation (first ++ second) desktop =
      (forAll operation first >>= fun _ => forAll operation second) desktop := by
  induction first generalizing desktop with
  | nil =>
      rfl
  | cons item rest inductionHypothesis =>
      cases done : operation item desktop with
      | mk answer after log =>
          cases answer with
          | error fault =>
              simp only [List.cons_append, forAll]
              rw [bind_of_error done, bind_of_error (bind_of_error done _)]
          | ok =>
              simp only [List.cons_append, forAll]
              rw [bind_of_ok done, inductionHypothesis]
              simp only [bind, andThen, done]
              cases (forAll operation rest after).answer <;>
                simp [List.append_assoc]

end Operation

end DesktopTags
