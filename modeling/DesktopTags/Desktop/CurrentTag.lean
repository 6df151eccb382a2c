import DesktopTags.Desktop

namespace DesktopTags.Desktop

/-! ## The tag the user works on -/

def isSelected (desktop : Desktop) (tag : TagRef) : Bool :=
  (desktop.tags.get? tag).any Tag.selected

/-- The first registered tag that is selected and holds the focused client. -/
def focusedPosition? (desktop : Desktop) : Option Nat :=
  desktop.focus.current?.bind fun client =>
    desktop.registry.tags.findIdx? fun tag =>
      desktop.isSelected tag && desktop.isTagged client tag

/-- The first registered tag that is selected. -/
def selectedPosition? (desktop : Desktop) : Option Nat :=
  desktop.registry.tags.findIdx? desktop.isSelected

/-- The registry index of the current tag: the first selected tag that holds the
focused client, else the first selected tag, else index 0, also when the
registry is empty. -/
def currentIndex (desktop : Desktop) : Nat :=
  (desktop.focusedPosition?.or desktop.selectedPosition?).getD 0

/-- The current tag; none only when the registry is empty. -/
def current? (desktop : Desktop) : Option TagRef :=
  desktop.registry.get? desktop.currentIndex

end DesktopTags.Desktop
