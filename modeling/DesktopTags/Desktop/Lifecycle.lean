import DesktopTags.Desktop.Operation

namespace DesktopTags.Desktop

open Operation

/-! ## From creation to destruction -/

/-- Create a detached, inactive tag. The caller holds the reference and gives it
back with `releaseTag`. -/
def newTag (name : String) : Operation TagRef := do
  let tag ← onTags fun tags => .ok (tags.insert { name })
  report (.created tag name)
  pure tag

/-- Take one more handle on a tag; it keeps the tag alive past deactivation. -/
def holdTag (tag : TagRef) : Operation Unit :=
  onTags fun tags => (tags.hold tag).map fun tags => ((), tags)

/-- Give back a handle. The references of the registry and of the membership
edges are out of reach from here. -/
def releaseTag (tag : TagRef) : Operation Unit := do
  match ← onTags fun tags => tags.releaseHandle tag with
  | some old => report (.handedBack tag old)
  | none => pure ()

/-- What a change of the registry queues. -/
def desktopListChanged (tag : TagRef) : List Effect :=
  [.display .updateDesktopCount,
   .display .updateDesktopNames,
   Effect.property tag .activatedChanged]

/-- Put a tag at the end of the registry, which makes it usable. -/
def activate (tag : TagRef) : Operation Unit := do
  let current ← ask fun desktop => desktop.tag tag
  if current.activated then
    report (.alreadyActivated tag)
  else
    editTag tag fun old => { old with activated := true }
    acquire tag
    change fun desktop => { desktop with registry := desktop.registry.push tag }
    enqueue (desktopListChanged tag)

/-- Take a tag out of the registry, and out of view. The registry's reference
goes, so the tag is destroyed here unless something else holds it. -/
def deactivate (tag : TagRef) : Operation Unit := do
  let current ← ask fun desktop => desktop.tag tag
  if current.activated then
    if ← read fun desktop => desktop.registry.contains tag then
      change fun desktop => { desktop with registry := desktop.registry.erase tag }
    else
      report (.missingFromRegistry tag)
    editTag tag fun old => { old with activated := false, selected := false }
    if current.selected then
      enqueue [Effect.property tag .selectedChanged, .display .invalidateBanning]
    releaseReference tag
    enqueue (desktopListChanged tag)
  else
    report (.alreadyDeactivated tag)

def setActivated (tag : TagRef) (activated : Bool) : Operation Unit :=
  if activated then activate tag else deactivate tag

end DesktopTags.Desktop
