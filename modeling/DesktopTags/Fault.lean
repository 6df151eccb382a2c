import DesktopTags.Handle

namespace DesktopTags

/-- Why a desktop operation refused: one of its arguments names nothing of the
kind that is needed. -/
inductive Fault where
  | unknownTag (tag : TagRef)
  | notHeld (tag : TagRef)
  | unknownClient (client : ClientId)
  | unknownScreen (screen : ScreenId)
deriving DecidableEq

/-- The message a person reads. -/
def Fault.message : Fault → String
  | .unknownTag tag => "No live tag for " ++ tag.describe
  | .notHeld tag => "Nothing handed out holds " ++ tag.describe
  | .unknownClient client => "Not a managed client: " ++ client.label
  | .unknownScreen screen => "Unknown screen: " ++ screen.label

end DesktopTags
