import DesktopTags.Dispatch

namespace DesktopTags

/-! ## A display without a screen -/

/-- A display that logs what it is asked to do and counts the requests. -/
def loggingDisplay : DisplayServer Nat where
  execute request executed := (executed + 1, [.displayAsked request])
  flush executed := (executed, [.displayFlushed executed])

end DesktopTags
