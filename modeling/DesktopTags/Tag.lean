import DesktopTags.Handle

namespace DesktopTags

/-- A named label that groups clients. Names may collide; a tag is identified by
its `TagRef`. Clients are listed in the order they were tagged. -/
structure Tag where
  name : String
  selected : Bool := false
  activated : Bool := false
  clients : List ClientId := []
deriving DecidableEq

namespace Tag

def hasClient (tag : Tag) (client : ClientId) : Bool :=
  tag.clients.contains client

def add (tag : Tag) (client : ClientId) : Tag :=
  { tag with clients := tag.clients ++ [client] }

def remove (tag : Tag) (client : ClientId) : Tag :=
  { tag with clients := tag.clients.erase client }

end Tag

end DesktopTags
