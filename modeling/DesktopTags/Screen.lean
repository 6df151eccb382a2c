import DesktopTags.Handle

namespace DesktopTags

/-- A physical output. Its geometry is the display's business. -/
structure Screen where
  id : ScreenId
  output : String
deriving DecidableEq

end DesktopTags
