import DesktopTags.Desktop.Lifecycle
import DesktopTags.Desktop.Population
import DesktopTags.Desktop.View

namespace DesktopTags

/-- A request to change a desktop, as data. -/
inductive Call where
  | newTag (name : String)
  | holdTag (tag : TagRef)
  | releaseTag (tag : TagRef)
  | activate (tag : TagRef)
  | deactivate (tag : TagRef)
  | setActivated (tag : TagRef) (activated : Bool)
  | setSelected (tag : TagRef) (selected : Bool)
  | setName (tag : TagRef) (name : String)
  | tagClient (tag : TagRef) (client : ClientId)
  | untagClient (client : ClientId) (tag : TagRef)
  | setClients (tag : TagRef) (clients : List ClientId)
  | manageClient (client : ClientId) (screen : ScreenId)
  | unmanageClient (client : ClientId)
  | focusClient (client : ClientId)
  | unfocus
  | addScreen (output : String)
deriving DecidableEq

/-- The answer to a call that is not refused. -/
inductive Reply where
  | done
  | tag (tag : TagRef)
  | screen (screen : ScreenId)
  | clients (clients : List ClientId)
deriving DecidableEq

namespace Call

/-- Answer that a call without a result of its own is done. -/
def thenDone (operation : Operation Unit) : Operation Reply := do
  operation
  pure .done

/-- Carry out a call. -/
def run : Call → Operation Reply
  | .newTag name => do pure (.tag (← Desktop.newTag name))
  | .holdTag tag => thenDone (Desktop.holdTag tag)
  | .releaseTag tag => thenDone (Desktop.releaseTag tag)
  | .activate tag => thenDone (Desktop.activate tag)
  | .deactivate tag => thenDone (Desktop.deactivate tag)
  | .setActivated tag activated => thenDone (Desktop.setActivated tag activated)
  | .setSelected tag selected => thenDone (Desktop.setSelected tag selected)
  | .setName tag name => thenDone (Desktop.setName tag name)
  | .tagClient tag client => thenDone (Desktop.tagClient tag client)
  | .untagClient client tag => thenDone (Desktop.untagClient client tag)
  | .setClients tag clients => do pure (.clients (← Desktop.setClients tag clients))
  | .manageClient client screen => thenDone (Desktop.manageClient client screen)
  | .unmanageClient client => thenDone (Desktop.unmanageClient client)
  | .focusClient client => thenDone (Desktop.focusClient client)
  | .unfocus => thenDone Desktop.unfocus
  | .addScreen output => do pure (.screen (← Desktop.addScreen output))

end Call

end DesktopTags
