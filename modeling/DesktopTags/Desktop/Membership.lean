import DesktopTags.Desktop.Operation

namespace DesktopTags.Desktop

open Operation

/-! ## Edges between tags and clients -/

/-- Make a client a member of a tag; a member stays one. The new edge keeps the
tag alive until the client is untagged. -/
def tagClient (tag : TagRef) (client : ClientId) : Operation Unit := do
  let screen ← ask fun desktop => desktop.clients.screenOf client
  acquire tag
  let current ← ask fun desktop => desktop.tag tag
  if current.hasClient client then
    report (.alreadyTagged client tag)
    releaseReference tag
  else
    editTag tag fun old => old.add client
    enqueue (Effect.tagBlock tag client screen)

/-- End a membership, if there is one. -/
def untagClient (client : ClientId) (tag : TagRef) : Operation Unit := do
  let screen ← ask fun desktop => desktop.clients.screenOf client
  let current ← ask fun desktop => desktop.tag tag
  if current.hasClient client then
    editTag tag fun old => old.remove client
    enqueue (Effect.untagBlock tag client screen)
    releaseReference tag

/-! ## Setting all members at once -/

/-- Whether a member occurs in a request. The request is walked front to back,
and a client that is not managed is refused when the walk reaches it. -/
def isRequested
    (desktop : Desktop)
    (member : ClientId) :
    List ClientId → Except Fault Bool
  | [] => .ok false
  | client :: rest =>
      if desktop.clients.contains client then
        if client = member then .ok true else isRequested desktop member rest
      else .error (.unknownClient client)

/-- Untag a member unless it is requested. -/
def keepRequested
    (tag : TagRef)
    (requested : List ClientId)
    (member : ClientId) :
    Operation Unit := do
  if ← ask fun desktop => desktop.isRequested member requested then
    pure ()
  else
    untagClient member tag

/-- Untag the members that are not requested, then tag the requested clients in
order. -/
def reconcile (tag : TagRef) (requested : List ClientId) : Operation (List ClientId) := do
  let members ← ask fun desktop => desktop.clientsOf tag
  forAll (keepRequested tag requested) members
  forAll (tagClient tag) requested
  report (.reconciled tag requested.length)
  ask fun desktop => desktop.clientsOf tag

/-- Replace the members of a tag. Members that stay keep their order, new ones
are appended, and duplicates collapse. The call stops at the first requested
client that is not managed and keeps what it changed before. The tag is kept
alive while its edges come and go. -/
def setClients (tag : TagRef) (requested : List ClientId) : Operation (List ClientId) := do
  acquire tag
  let result ← attempt (reconcile tag requested)
  releaseReference tag
  ask fun _ => result

end DesktopTags.Desktop
