import DesktopTags.Handle

namespace DesktopTags

/-- The activated tags, in the order they were activated. The registry keeps one
reference on every tag it lists. -/
structure Registry where
  tags : List TagRef := []
deriving DecidableEq

namespace Registry

def push (registry : Registry) (tag : TagRef) : Registry :=
  ⟨registry.tags ++ [tag]⟩

/-- Remove the first entry of a tag. -/
def erase (registry : Registry) (tag : TagRef) : Registry :=
  ⟨registry.tags.erase tag⟩

def contains (registry : Registry) (tag : TagRef) : Bool :=
  registry.tags.contains tag

/-- The index of the first entry of a tag. -/
def position? (registry : Registry) (tag : TagRef) : Option Nat :=
  registry.tags.findIdx? fun entry => entry = tag

def get? (registry : Registry) (index : Nat) : Option TagRef :=
  registry.tags[index]?

def first? (registry : Registry) : Option TagRef :=
  registry.tags.head?

end Registry

end DesktopTags
