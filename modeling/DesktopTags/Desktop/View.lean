import DesktopTags.Desktop.Operation

namespace DesktopTags.Desktop

open Operation

/-! ## What is shown, and under which name -/

/-- What a change of the selection queues: every screen gets its workarea
computed again, not only those that show the tag. -/
def selectionChanged (screens : List Screen) (tag : TagRef) : List Effect :=
  [.display .invalidateBanning]
    ++ screens.map (fun screen => .display (.updateWorkarea screen.id))
    ++ [Effect.property tag .selectedChanged]

/-- Show a tag or hide it. An inactive tag cannot be shown. -/
def setSelected (tag : TagRef) (selected : Bool) : Operation Unit := do
  let current ← ask fun desktop => desktop.tag tag
  if current.selected = selected then
    pure ()
  else if selected && !current.activated then
    report (.refusedSelection tag)
  else
    editTag tag fun old => { old with selected }
    let screens ← read Desktop.screens
    enqueue (selectionChanged screens tag)

/-- Rename a tag. The new name is announced even if it is the old one. -/
def setName (tag : TagRef) (name : String) : Operation Unit := do
  editTag tag fun old => { old with name }
  enqueue [Effect.property tag .nameChanged, .display .updateDesktopNames]

end DesktopTags.Desktop
