import DesktopTags.Signal

namespace DesktopTags

/-! ## Effects that wait for delivery -/

/-- A request to the outside world. -/
inductive DisplayRequest where
  /-- Stacking and visibility are stale. -/
  | invalidateBanning
  /-- The usable area of a screen has to be computed again. -/
  | updateWorkarea (screen : ScreenId)
  /-- The desktops a client is on have changed. -/
  | updateClientDesktop (client : ClientId)
  /-- The number of desktops has changed. -/
  | updateDesktopCount
  /-- The names of the desktops have changed. -/
  | updateDesktopNames
deriving DecidableEq

/-- A queued effect. Effects are delivered in the order they were queued. -/
inductive Effect where
  | display (request : DisplayRequest)
  | emit (signal : Signal)
deriving DecidableEq

/-- A request spelled out for a log line. -/
def DisplayRequest.describe : DisplayRequest → String
  | .invalidateBanning => "InvalidateBanning"
  | .updateWorkarea screen => "UpdateWorkarea(" ++ screen.describe ++ ")"
  | .updateClientDesktop client => "UpdateClientDesktop(" ++ client.describe ++ ")"
  | .updateDesktopCount => "UpdateDesktopCount"
  | .updateDesktopNames => "UpdateDesktopNames"

namespace Effect

def property (tag : TagRef) (kind : SignalKind) : Effect :=
  .emit (Signal.property tag kind)

/-- What a new membership queues. -/
def tagBlock (tag : TagRef) (client : ClientId) (screen : ScreenId) : List Effect :=
  [.display (.updateClientDesktop client),
   .display .invalidateBanning,
   .display (.updateWorkarea screen),
   .emit (Signal.onClient client .tagged tag),
   .emit (Signal.onTag tag .tagged client)]

/-- What a membership that ends queues. -/
def untagBlock (tag : TagRef) (client : ClientId) (screen : ScreenId) : List Effect :=
  [.display .invalidateBanning,
   .display (.updateClientDesktop client),
   .display (.updateWorkarea screen),
   .emit (Signal.onClient client .untagged tag),
   .emit (Signal.onTag tag .untagged client)]

end Effect

end DesktopTags
