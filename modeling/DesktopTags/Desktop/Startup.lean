import DesktopTags.Desktop.Lifecycle
import DesktopTags.Desktop.View
import DesktopTags.Settings

namespace DesktopTags.Desktop

open Operation

/-- Create and activate one tag. The registry becomes its only holder. -/
def addStartupTag (name : String) : Operation Unit := do
  let tag ← newTag name
  activate tag
  releaseTag tag

/-- Build the tags that the settings ask for. -/
def startup (settings : Settings) : Operation Unit := do
  forAll addStartupTag settings.tags
  if settings.selectFirstTag then
    match ← read fun desktop => desktop.registry.first? with
    | some first => setSelected first true
    | none => pure ()
  let tags ← read fun desktop => desktop.registry.tags.length
  report (.started tags)

/-- The desktop at the start of a session, with what building it logged. -/
def start (settings : Settings) : Outcome Unit :=
  (startup settings).run {}

end DesktopTags.Desktop
