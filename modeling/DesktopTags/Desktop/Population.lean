import DesktopTags.Desktop.Membership

namespace DesktopTags.Desktop

open Operation

/-! ## Screens, clients and the focus -/

/-- Add a screen. Its number is the number of screens there were. -/
def addScreen (output : String) : Operation ScreenId := do
  let id ← read fun desktop => ScreenId.mk desktop.screens.length
  change fun desktop => { desktop with screens := desktop.screens ++ [⟨id, output⟩] }
  pure id

/-- Start to track a client. Managing it again does nothing. -/
def manageClient (client : ClientId) (screen : ScreenId) : Operation Unit := do
  ask fun desktop => if desktop.hasScreen screen then .ok () else .error (.unknownScreen screen)
  if ← read fun desktop => desktop.clients.contains client then
    report (.alreadyManaged client)
  else
    change fun desktop => { desktop with clients := desktop.clients.insert client screen }

/-- The live tags that hold a client, in slot order. -/
def tagsHolding (desktop : Desktop) (client : ClientId) : List TagRef :=
  (desktop.tags.toList.filter fun entry => entry.2.hasClient client).map Prod.fst

/-- Untag a client from every tag and stop to track it. -/
def unmanageClient (client : ClientId) : Operation Unit := do
  let _ ← ask fun desktop => desktop.clients.screenOf client
  let holding ← read fun desktop => desktop.tagsHolding client
  forAll (untagClient client) holding
  change fun desktop =>
    { desktop with
      focus := desktop.focus.forget client
      clients := desktop.clients.erase client }
  report (.unmanaged client)

/-- Give the focus to a managed client. -/
def focusClient (client : ClientId) : Operation Unit := do
  let _ ← ask fun desktop => desktop.clients.screenOf client
  change fun desktop => { desktop with focus := desktop.focus.focus client }

/-- Take the focus away from any client. -/
def unfocus : Operation Unit :=
  change fun desktop => { desktop with focus := desktop.focus.unfocus }

end DesktopTags.Desktop
