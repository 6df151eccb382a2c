import DesktopTags.Fault

namespace DesktopTags

/-- A managed window and the screen it is on. -/
structure Client where
  id : ClientId
  screen : ScreenId
deriving DecidableEq

/-- The managed clients, in the order they came. -/
structure ClientTable where
  clients : List Client := []
deriving DecidableEq

namespace ClientTable

def get? (table : ClientTable) (client : ClientId) : Option Client :=
  table.clients.find? fun entry => entry.id = client

def contains (table : ClientTable) (client : ClientId) : Bool :=
  (table.get? client).isSome

/-- The screen of a managed client. -/
def screenOf (table : ClientTable) (client : ClientId) : Except Fault ScreenId :=
  match table.get? client with
  | some entry => .ok entry.screen
  | none => .error (.unknownClient client)

/-- Add a client at the end. -/
def insert (table : ClientTable) (client : ClientId) (screen : ScreenId) : ClientTable :=
  ⟨table.clients ++ [⟨client, screen⟩]⟩

/-- Remove the first entry of a client. -/
def erase (table : ClientTable) (client : ClientId) : ClientTable :=
  ⟨table.clients.eraseP fun entry => entry.id = client⟩

end ClientTable

end DesktopTags
