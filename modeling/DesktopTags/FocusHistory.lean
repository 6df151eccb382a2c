import DesktopTags.Handle

namespace DesktopTags

/-- Which clients had the focus, the current one in front. An empty entry stands
for a time when nothing was focused. -/
structure FocusHistory where
  entries : List (Option ClientId) := []
deriving DecidableEq

namespace FocusHistory

/-- How many old entries survive when a new one is pushed. -/
def kept : Nat := 10

/-- The focused client. -/
def current? (history : FocusHistory) : Option ClientId :=
  history.entries.head?.join

def push (history : FocusHistory) (entry : Option ClientId) : FocusHistory :=
  ⟨entry :: history.entries.take kept⟩

def focus (history : FocusHistory) (client : ClientId) : FocusHistory :=
  if history.current? = some client then history else history.push (some client)

/-- Take the focus away from any client. -/
def unfocus (history : FocusHistory) : FocusHistory :=
  if history.current?.isSome then history.push none else history

/-- Drop a client from the history. If it had the focus, nothing is focused
afterwards. -/
def forget (history : FocusHistory) (client : ClientId) : FocusHistory :=
  let ended := if history.current? = some client then history.push none else history
  ⟨ended.entries.filter fun entry => entry ≠ some client⟩

end FocusHistory

end DesktopTags
