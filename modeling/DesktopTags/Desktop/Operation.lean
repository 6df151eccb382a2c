import DesktopTags.Desktop

namespace DesktopTags

/-! ## Operations on a desktop -/

/-- What an operation leaves behind: its answer, the desktop, and what it
logged. A refusal keeps the changes made before it. -/
structure Outcome (α : Type) where
  answer : Except Fault α
  desktop : Desktop
  log : List LogEvent

/-- A step on a desktop that may refuse and may log. -/
def Operation (α : Type) : Type :=
  Desktop → Outcome α

namespace Operation

def run {α : Type} (operation : Operation α) (desktop : Desktop) : Outcome α :=
  operation desktop

/-- Answer without touching the desktop. -/
def answer {α : Type} (value : α) : Operation α :=
  fun desktop => ⟨.ok value, desktop, []⟩

/-- Run one operation, then the one its answer selects. A refusal of the first
ends the run. -/
def andThen {α β : Type} (first : Operation α) (next : α → Operation β) : Operation β :=
  fun desktop =>
    let done := first desktop
    match done.answer with
    | .error fault => ⟨.error fault, done.desktop, done.log⟩
    | .ok value =>
        let after := next value done.desktop
        ⟨after.answer, after.desktop, done.log ++ after.log⟩

instance : Monad Operation where
  pure := answer
  bind := andThen

/-- Answer from the desktop, or refuse, without touching it. -/
def ask {α : Type} (question : Desktop → Except Fault α) : Operation α :=
  fun desktop => ⟨question desktop, desktop, []⟩

/-- Read the desktop. -/
def read {α : Type} (view : Desktop → α) : Operation α :=
  fun desktop => ⟨.ok (view desktop), desktop, []⟩

def change (edit : Desktop → Desktop) : Operation Unit :=
  fun desktop => ⟨.ok (), edit desktop, []⟩

def report (event : LogEvent) : Operation Unit :=
  fun desktop => ⟨.ok (), desktop, [event]⟩

/-- Append effects to the queue. -/
def enqueue (effects : List Effect) : Operation Unit :=
  change fun desktop => { desktop with queue := desktop.queue ++ effects }

/-- Change the arena, or refuse and leave it as it is. -/
def onTags {α : Type} (edit : Arena → Except Fault (α × Arena)) : Operation α :=
  fun desktop =>
    match edit desktop.tags with
    | .error fault => ⟨.error fault, desktop, []⟩
    | .ok (value, tags) => ⟨.ok value, { desktop with tags }, []⟩

/-- Change one live tag. -/
def editTag (tag : TagRef) (edit : Tag → Tag) : Operation Unit :=
  onTags fun tags =>
    (tags.update tag fun occupant => { occupant with tag := edit occupant.tag }).map
      fun tags => ((), tags)

/-- Take a reference that keeps a tag alive. -/
def acquire (tag : TagRef) : Operation Unit :=
  onTags fun tags => (tags.acquire tag).map fun tags => ((), tags)

/-- Drop a reference that is not a handle, and the tag with it if it was the
last one. -/
def releaseReference (tag : TagRef) : Operation Unit := do
  match ← onTags fun tags => tags.release tag with
  | some old => report (.destroyed tag old)
  | none => pure ()

/-- Run an operation and hand over its refusal as a value. -/
def attempt {α : Type} (operation : Operation α) : Operation (Except Fault α) :=
  fun desktop =>
    let done := operation desktop
    ⟨.ok done.answer, done.desktop, done.log⟩

/-- Run an operation on each member of a list, in order. -/
def forAll {α : Type} (operation : α → Operation Unit) : List α → Operation Unit
  | [] => pure ()
  | first :: rest => do
      operation first
      forAll operation rest

end Operation

end DesktopTags
