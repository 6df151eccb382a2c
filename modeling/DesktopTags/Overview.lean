import DesktopTags.Desktop.CurrentTag

namespace DesktopTags

/-- An activated tag as the world outside sees it. -/
structure TagOverview where
  index : Nat
  name : String
  selected : Bool
  current : Bool
  clients : List ClientId
deriving DecidableEq

/-- The activated tags in registry order, and what is current among them. -/
structure Overview where
  desktopNames : List String
  currentTag : Option Nat
  focusedClient : Option ClientId
  tags : List TagOverview
  instances : Nat
deriving DecidableEq

namespace Desktop

/-- The index at which the current tag is first registered. -/
def currentPosition? (desktop : Desktop) : Option Nat :=
  desktop.current?.bind desktop.registry.position?

/-- One entry per registered tag that is live. -/
def tagOverviews (desktop : Desktop) : List TagOverview :=
  desktop.registry.tags.zipIdx.filterMap fun (ref, index) =>
    (desktop.tags.get? ref).map fun tag =>
      { index
        name := tag.name
        selected := tag.selected
        current := desktop.currentPosition? = some index
        clients := tag.clients }

def overview (desktop : Desktop) : Overview where
  desktopNames := desktop.tagOverviews.map TagOverview.name
  currentTag := desktop.currentPosition?
  focusedClient := desktop.focus.current?
  tags := desktop.tagOverviews
  instances := desktop.instances

end Desktop

end DesktopTags
