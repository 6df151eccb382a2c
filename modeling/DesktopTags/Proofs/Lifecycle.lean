import DesktopTags.Desktop.Lifecycle
import DesktopTags.Desktop.View
import DesktopTags.Proofs.Operation

namespace DesktopTags.Desktop

open Operation

variable {desktop : Desktop} {ref : TagRef} {old : Occupant}

/-! ## Handles -/

theorem newTag_apply (name : String) (desktop : Desktop) :
    newTag name desktop =
      ⟨.ok (desktop.tags.insert { name }).1,
        { desktop with tags := (desktop.tags.insert { name }).2 },
        [.created (desktop.tags.insert { name }).1 name]⟩ :=
  rfl

theorem holdTag_of_live
    (live : desktop.tags.occupant? ref = some old) :
    holdTag ref desktop =
      ⟨.ok (),
        desktop.settle ref
          { old with refs := old.refs + 1, handles := old.handles + 1 }, []⟩ := by
  rw [settle, Arena.settle_of_pos _ _ (by simp)]
  simp [holdTag, onTags, Arena.hold, Arena.update_of_live live, Except.map]

theorem holdTag_of_gone
    (gone : desktop.tags.occupant? ref = none) :
    holdTag ref desktop = ⟨.error (.unknownTag ref), desktop, []⟩ := by
  simp [holdTag, onTags, Arena.hold, Arena.update_of_gone gone, Except.map]

/-- What is logged when a handle is given back: the tag's end, if it was the
last reference. -/
def handing (ref : TagRef) (occupant : Occupant) : List LogEvent :=
  if occupant.refs = 0 then [.handedBack ref occupant.tag] else []

theorem releaseTag_of_held
    (live : desktop.tags.occupant? ref = some old)
    (referred : 0 < old.refs) (held : 0 < old.handles) :
    releaseTag ref desktop =
      ⟨.ok (),
        desktop.settle ref
          { old with refs := old.refs - 1, handles := old.handles - 1 },
        handing ref
          { old with refs := old.refs - 1, handles := old.handles - 1 }⟩ := by
  have released :
      onTags (fun tags => tags.releaseHandle ref) desktop =
        ⟨.ok (if old.refs = 1 then some old.tag else none),
          desktop.settle ref
            { old with refs := old.refs - 1, handles := old.handles - 1 },
          []⟩ := by
    simp [onTags, Arena.releaseHandle_of_held live referred held, settle]
  rw [releaseTag, bind_of_quiet released]
  by_cases last : old.refs = 1
  · simp [last, handing]
  · have remaining : old.refs - 1 ≠ 0 := by omega
    simp [last, handing, remaining]

theorem releaseTag_of_returned
    (live : desktop.tags.occupant? ref = some old) (returned : old.handles = 0) :
    releaseTag ref desktop = ⟨.error (.notHeld ref), desktop, []⟩ := by
  have refused :
      onTags (fun tags => tags.releaseHandle ref) desktop =
        ⟨.error (.notHeld ref), desktop, []⟩ := by
    simp [onTags, Arena.releaseHandle, live, returned]
  rw [releaseTag, bind_of_error refused]

theorem releaseTag_of_gone
    (gone : desktop.tags.occupant? ref = none) :
    releaseTag ref desktop = ⟨.error (.unknownTag ref), desktop, []⟩ := by
  have refused :
      onTags (fun tags => tags.releaseHandle ref) desktop =
        ⟨.error (.unknownTag ref), desktop, []⟩ := by
    simp [onTags, Arena.releaseHandle, gone]
  rw [releaseTag, bind_of_error refused]

/-! ## The registry -/

/-- A desktop with another registry. -/
def enlist (desktop : Desktop) (registry : Registry) : Desktop :=
  { desktop with registry }

theorem enlist_self (desktop : Desktop) :
    desktop.enlist desktop.registry = desktop :=
  rfl

theorem enlist_enlist (desktop : Desktop) (first second : Registry) :
    (desktop.enlist first).enlist second = desktop.enlist second :=
  rfl

theorem enlist_announce
    (desktop : Desktop) (effects : List Effect) (registry : Registry) :
    (desktop.announce effects).enlist registry =
      (desktop.enlist registry).announce effects :=
  rfl

theorem settle_enlist
    (desktop : Desktop) (registry : Registry) (ref : TagRef)
    (occupant : Occupant) :
    (desktop.enlist registry).settle ref occupant =
      (desktop.settle ref occupant).enlist registry :=
  rfl

theorem activate_of_active
    (live : desktop.tags.occupant? ref = some old)
    (active : old.tag.activated = true) :
    activate ref desktop = ⟨.ok (), desktop, [.alreadyActivated ref]⟩ := by
  rw [activate, ask_bind_of_ok (tag_of_live live)]
  simp [active]

theorem activate_of_inactive
    (live : desktop.tags.occupant? ref = some old) (referred : 0 < old.refs)
    (inactive : old.tag.activated = false) :
    activate ref desktop =
      ⟨.ok (),
        ((desktop.settle ref
          { old with
            tag := { old.tag with activated := true }
            refs := old.refs + 1 }).enlist
          (desktop.registry.push ref)).announce (desktopListChanged ref),
        []⟩ := by
  have edited := editTag_of_live live referred
    (fun tag => { tag with activated := true })
  have acquired := acquire_of_live
    (occupant?_settle_self live
      { old with tag := { old.tag with activated := true } }
      (by exact referred))
  rw [settle_settle _ _ (by exact referred)] at acquired
  rw [activate, ask_bind_of_ok (tag_of_live live)]
  simp only [inactive, Bool.false_eq_true, if_false]
  rw [bind_of_quiet edited, bind_of_quiet acquired]
  rfl

theorem activate_of_gone
    (gone : desktop.tags.occupant? ref = none) :
    activate ref desktop = ⟨.error (.unknownTag ref), desktop, []⟩ := by
  rw [activate, ask_bind_of_error (tag_of_gone gone)]

theorem deactivate_of_inactive
    (live : desktop.tags.occupant? ref = some old)
    (inactive : old.tag.activated = false) :
    deactivate ref desktop = ⟨.ok (), desktop, [.alreadyDeactivated ref]⟩ := by
  rw [deactivate, ask_bind_of_ok (tag_of_live live)]
  simp [inactive]

/-- A tag out of the registry and out of view. -/
def retired (tag : Tag) : Tag :=
  { tag with activated := false, selected := false }

/-- What hiding a tag queues, if it was shown. -/
def hidden (ref : TagRef) (tag : Tag) : List Effect :=
  if tag.selected then
    [Effect.property ref .selectedChanged, .display .invalidateBanning]
  else
    []

/-- Dropping the registry's reference and announcing it. -/
theorem releaseReference_enqueue
    (live : desktop.tags.occupant? ref = some old) (referred : 0 < old.refs)
    (effects : List Effect) :
    (releaseReference ref >>= fun _ => enqueue effects) desktop =
      ⟨.ok (),
        (desktop.settle ref { old with refs := old.refs - 1 }).announce effects,
        parting ref { old with refs := old.refs - 1 }⟩ := by
  rw [bind_of_ok (releaseReference_of_live live referred)]
  simp

theorem deactivate_of_active
    (live : desktop.tags.occupant? ref = some old) (referred : 0 < old.refs)
    (active : old.tag.activated = true)
    (registered : ref ∈ desktop.registry.tags) :
    deactivate ref desktop =
      ⟨.ok (),
        ((desktop.settle ref
          { old with tag := retired old.tag, refs := old.refs - 1 }).enlist
          (desktop.registry.erase ref)).announce
            (hidden ref old.tag ++ desktopListChanged ref),
        parting ref
          { old with tag := retired old.tag, refs := old.refs - 1 }⟩ := by
  have unlisted :
      (desktop.enlist (desktop.registry.erase ref)).tags.occupant? ref =
        some old :=
    live
  have edited := editTag_of_live unlisted referred retired
  have cleared := occupant?_settle_self live
    { old with tag := retired old.tag } (by exact referred)
  have listed : desktop.registry.contains ref = true := by
    simpa [Registry.contains] using registered
  rw [deactivate, ask_bind_of_ok (tag_of_live live), if_pos active, read_bind]
  simp only [listed, if_true, change_bind]
  rw [bind_of_quiet (by exact edited)]
  cases shown : old.tag.selected with
  | true =>
      simp only [if_true, enqueue_bind]
      rw [releaseReference_enqueue (by exact cleared) (by exact referred),
        settle_announce, announce_announce,
        settle_settle _ _ (by exact referred)]
      simp only [hidden, shown, if_true]
      rfl
  | false =>
      simp only [Bool.false_eq_true, if_false]
      rw [releaseReference_enqueue (by exact cleared) (by exact referred),
        settle_settle _ _ (by exact referred)]
      simp only [hidden, shown, Bool.false_eq_true, if_false, List.nil_append]
      rfl

theorem deactivate_of_gone
    (gone : desktop.tags.occupant? ref = none) :
    deactivate ref desktop = ⟨.error (.unknownTag ref), desktop, []⟩ := by
  rw [deactivate, ask_bind_of_error (tag_of_gone gone)]

/-! ## Selection and name -/

/-- A tag is as wanted, or may be shown or hidden, or is inactive and must not
be shown. -/
theorem selection_cases (tag : Tag) (selected : Bool) :
    tag.selected = selected ∨
      (tag.selected ≠ selected ∧
        (selected = true → tag.activated = true)) ∨
      (selected = true ∧ tag.selected = false ∧ tag.activated = false) := by
  cases selected with
  | false =>
      by_cases same : tag.selected = false
      · exact Or.inl same
      · exact Or.inr (Or.inl ⟨same, by simp⟩)
  | true =>
      cases unselected : tag.selected with
      | true =>
          exact Or.inl rfl
      | false =>
          cases inactive : tag.activated with
          | true =>
              exact Or.inr (Or.inl ⟨by simp, by simp⟩)
          | false =>
              exact Or.inr (Or.inr ⟨rfl, rfl, rfl⟩)

theorem setSelected_of_same
    (live : desktop.tags.occupant? ref = some old)
    {selected : Bool} (same : old.tag.selected = selected) :
    setSelected ref selected desktop = ⟨.ok (), desktop, []⟩ := by
  rw [setSelected, ask_bind_of_ok (tag_of_live live)]
  simp [same]

theorem setSelected_of_inactive
    (live : desktop.tags.occupant? ref = some old)
    (unselected : old.tag.selected = false)
    (inactive : old.tag.activated = false) :
    setSelected ref true desktop = ⟨.ok (), desktop, [.refusedSelection ref]⟩ := by
  rw [setSelected, ask_bind_of_ok (tag_of_live live)]
  simp [unselected, inactive]

theorem setSelected_of_change
    (live : desktop.tags.occupant? ref = some old) (referred : 0 < old.refs)
    {selected : Bool} (different : old.tag.selected ≠ selected)
    (allowed : selected = true → old.tag.activated = true) :
    setSelected ref selected desktop =
      ⟨.ok (),
        (desktop.settle ref { old with tag := { old.tag with selected } }).announce
          (selectionChanged desktop.screens ref),
        []⟩ := by
  have edited := editTag_of_live live referred
    (fun tag => { tag with selected })
  rw [setSelected, ask_bind_of_ok (tag_of_live live), if_neg different]
  have notRefused : ¬ (selected && !old.tag.activated) = true := by
    cases selected with
    | false => simp
    | true => simp [allowed rfl]
  rw [if_neg notRefused, bind_of_quiet edited]
  rfl

theorem setSelected_of_gone
    (gone : desktop.tags.occupant? ref = none) (selected : Bool) :
    setSelected ref selected desktop =
      ⟨.error (.unknownTag ref), desktop, []⟩ := by
  rw [setSelected, ask_bind_of_error (tag_of_gone gone)]

theorem setName_of_live
    (live : desktop.tags.occupant? ref = some old) (referred : 0 < old.refs)
    (name : String) :
    setName ref name desktop =
      ⟨.ok (),
        (desktop.settle ref { old with tag := { old.tag with name } }).announce
          [Effect.property ref .nameChanged, .display .updateDesktopNames],
        []⟩ := by
  rw [setName, bind_of_quiet
    (editTag_of_live live referred (fun tag => { tag with name }))]
  rfl

theorem setName_of_gone
    (gone : desktop.tags.occupant? ref = none) (name : String) :
    setName ref name desktop = ⟨.error (.unknownTag ref), desktop, []⟩ := by
  rw [setName, bind_of_error (editTag_of_gone gone _)]

end DesktopTags.Desktop
