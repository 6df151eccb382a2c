import DesktopTags.ClientTable
import DesktopTags.FocusHistory
import DesktopTags.LogEvent
import DesktopTags.Registry
import DesktopTags.Screen
import DesktopTags.Tag.Arena

namespace DesktopTags

/-- Everything the library knows about a desktop. Operations change the parts
first and queue their effects afterwards, so whoever reacts to an effect sees
the finished state. The queue is delivered front first. -/
structure Desktop where
  screens : List Screen := []
  clients : ClientTable := {}
  tags : Arena := {}
  registry : Registry := {}
  focus : FocusHistory := {}
  queue : List Effect := []
deriving DecidableEq

namespace Desktop

/-- The number of live tags, activated or not. -/
def instances (desktop : Desktop) : Nat :=
  desktop.tags.size

/-- A live tag, or the reason why there is none. -/
def tag (desktop : Desktop) (tag : TagRef) : Except Fault Tag :=
  match desktop.tags.get? tag with
  | some found => .ok found
  | none => .error (.unknownTag tag)

/-- The clients of a tag, in the order they were tagged. -/
def clientsOf (desktop : Desktop) (tag : TagRef) : Except Fault (List ClientId) :=
  (desktop.tag tag).map Tag.clients

/-- Whether a client is a member of a live tag. -/
def isTagged (desktop : Desktop) (client : ClientId) (tag : TagRef) : Bool :=
  (desktop.tags.get? tag).any fun found => found.hasClient client

def hasScreen (desktop : Desktop) (screen : ScreenId) : Bool :=
  desktop.screens.any fun known => known.id = screen

end Desktop

end DesktopTags
