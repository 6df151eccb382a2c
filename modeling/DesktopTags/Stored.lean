import DesktopTags.Json.Codec
import DesktopTags.Overview
import DesktopTags.Settings

/-! ## How the types of a desktop are stored -/

namespace DesktopTags

open Json (alternative alternativeOf isVoid)

/-! ### Names and signals -/

def ClientId.codec : Codec ClientId :=
  Codec.word.via ClientId.mk ClientId.number

def ScreenId.codec : Codec ScreenId :=
  Codec.count.via ScreenId.mk ScreenId.number

def TagRef.codec : Codec TagRef :=
  (Fields.cons "index" Codec.count <|
    Fields.cons "generation" Codec.word Fields.nil).codec
    (fun (slot, generation, _) => ⟨slot, generation⟩)
    (fun tag => (tag.slot, tag.generation, ()))

def SignalTarget.codec : Codec SignalTarget where
  encode
    | .tag ref => alternativeOf "Tag" (TagRef.codec.encode ref)
    | .client id => alternativeOf "Client" (ClientId.codec.encode id)
  decode json :=
    match json.alternative? with
    | some ("Tag", some payload) => (TagRef.codec.decode payload).map .tag
    | some ("Client", some payload) => (ClientId.codec.decode payload).map .client
    | _ => none

def SignalKind.codec : Codec SignalKind where
  encode
    | .nameChanged => alternative "PropertyName"
    | .selectedChanged => alternative "PropertySelected"
    | .activatedChanged => alternative "PropertyActivated"
    | .tagged => alternative "Tagged"
    | .untagged => alternative "Untagged"
  decode json :=
    match json.alternative? with
    | some (name, payload) =>
        if isVoid payload then
          match name with
          | "PropertyName" => some .nameChanged
          | "PropertySelected" => some .selectedChanged
          | "PropertyActivated" => some .activatedChanged
          | "Tagged" => some .tagged
          | "Untagged" => some .untagged
          | _ => none
        else none
    | none => none

def Signal.codec : Codec Signal :=
  (Fields.cons "target" SignalTarget.codec <|
    Fields.cons "kind" SignalKind.codec <|
    Fields.cons "arg" SignalTarget.codec.optional Fields.nil).codec
    (fun (target, kind, argument, _) => ⟨target, kind, argument⟩)
    (fun signal => (signal.target, signal.kind, signal.argument, ()))

/-! ### Effects -/

def DisplayRequest.codec : Codec DisplayRequest where
  encode
    | .invalidateBanning => alternative "InvalidateBanning"
    | .updateWorkarea screen =>
        alternativeOf "UpdateWorkarea" (ScreenId.codec.encode screen)
    | .updateClientDesktop client =>
        alternativeOf "UpdateClientDesktop" (ClientId.codec.encode client)
    | .updateDesktopCount => alternative "UpdateDesktopCount"
    | .updateDesktopNames => alternative "UpdateDesktopNames"
  decode json :=
    match json.alternative? with
    | some ("UpdateWorkarea", some payload) =>
        (ScreenId.codec.decode payload).map .updateWorkarea
    | some ("UpdateClientDesktop", some payload) =>
        (ClientId.codec.decode payload).map .updateClientDesktop
    | some (name, payload) =>
        if isVoid payload then
          match name with
          | "InvalidateBanning" => some .invalidateBanning
          | "UpdateDesktopCount" => some .updateDesktopCount
          | "UpdateDesktopNames" => some .updateDesktopNames
          | _ => none
        else none
    | none => none

def Effect.codec : Codec Effect where
  encode
    | .display request => alternativeOf "Display" (DisplayRequest.codec.encode request)
    | .emit signal => alternativeOf "Emit" (Signal.codec.encode signal)
  decode json :=
    match json.alternative? with
    | some ("Display", some payload) => (DisplayRequest.codec.decode payload).map .display
    | some ("Emit", some payload) => (Signal.codec.decode payload).map .emit
    | _ => none

/-! ### Parts of a desktop -/

def Tag.codec : Codec Tag :=
  (Fields.cons "name" Codec.text <|
    Fields.cons "selected" Codec.bool <|
    Fields.cons "activated" Codec.bool <|
    Fields.cons "clients" ClientId.codec.list Fields.nil).codec
    (fun (name, selected, activated, clients, _) => ⟨name, selected, activated, clients⟩)
    (fun tag => (tag.name, tag.selected, tag.activated, tag.clients, ()))

def Occupant.codec : Codec Occupant :=
  (Fields.cons "tag" Tag.codec <|
    Fields.cons "refs" Codec.count <|
    Fields.cons "handles" Codec.count Fields.nil).codec
    (fun (tag, refs, handles, _) => ⟨tag, refs, handles⟩)
    (fun occupant => (occupant.tag, occupant.refs, occupant.handles, ()))

def Slot.codec : Codec Slot :=
  (Fields.cons "generation" Codec.word <|
    Fields.cons "entry" Occupant.codec.optional Fields.nil).codec
    (fun (generation, occupant, _) => ⟨generation, occupant⟩)
    (fun slot => (slot.generation, slot.occupant, ()))

/-- The stack of vacant slots is stored from the bottom to the top. -/
def Arena.codec : Codec Arena :=
  (Fields.cons "slots" Slot.codec.list <|
    Fields.cons "free" Codec.count.list Fields.nil).codec
    (fun (slots, free, _) => ⟨slots, free.reverse⟩)
    (fun arena => (arena.slots, arena.free.reverse, ()))

def Screen.codec : Codec Screen :=
  (Fields.cons "id" ScreenId.codec <|
    Fields.cons "output" Codec.text Fields.nil).codec
    (fun (id, output, _) => ⟨id, output⟩)
    (fun screen => (screen.id, screen.output, ()))

def Client.codec : Codec Client :=
  (Fields.cons "handle" ClientId.codec <|
    Fields.cons "screen" ScreenId.codec Fields.nil).codec
    (fun (id, screen, _) => ⟨id, screen⟩)
    (fun client => (client.id, client.screen, ()))

def ClientTable.codec : Codec ClientTable :=
  (Fields.cons "clients" Client.codec.list Fields.nil).codec
    (fun (clients, _) => ⟨clients⟩)
    (fun table => (table.clients, ()))

def Registry.codec : Codec Registry :=
  (Fields.cons "tags" TagRef.codec.list Fields.nil).codec
    (fun (tags, _) => ⟨tags⟩)
    (fun registry => (registry.tags, ()))

def FocusHistory.codec : Codec FocusHistory :=
  (Fields.cons "client_history" ClientId.codec.optional.list Fields.nil).codec
    (fun (entries, _) => ⟨entries⟩)
    (fun history => (history.entries, ()))

def Desktop.codec : Codec Desktop :=
  (Fields.cons "screens" Screen.codec.list <|
    Fields.cons "clients" ClientTable.codec <|
    Fields.cons "tags" Arena.codec <|
    Fields.cons "registry" Registry.codec <|
    Fields.cons "focus_manager" FocusHistory.codec <|
    Fields.cons "actions" Effect.codec.list Fields.nil).codec
    (fun (screens, clients, tags, registry, focus, queue, _) =>
      ⟨screens, clients, tags, registry, focus, queue⟩)
    (fun desktop =>
      (desktop.screens, desktop.clients, desktop.tags, desktop.registry, desktop.focus,
        desktop.queue, ()))

/-! ### Overviews and settings -/

def TagOverview.codec : Codec TagOverview :=
  (Fields.cons "index" Codec.count <|
    Fields.cons "name" Codec.text <|
    Fields.cons "selected" Codec.bool <|
    Fields.cons "current" Codec.bool <|
    Fields.cons "clients" ClientId.codec.list Fields.nil).codec
    (fun (index, name, selected, current, clients, _) =>
      ⟨index, name, selected, current, clients⟩)
    (fun tag => (tag.index, tag.name, tag.selected, tag.current, tag.clients, ()))

def Overview.codec : Codec Overview :=
  (Fields.cons "desktop_names" Codec.text.list <|
    Fields.cons "current_tag" Codec.count.optional <|
    Fields.cons "focused_client" ClientId.codec.optional <|
    Fields.cons "tags" TagOverview.codec.list <|
    Fields.cons "instances" Codec.count Fields.nil).codec
    (fun (desktopNames, currentTag, focusedClient, tags, instances, _) =>
      ⟨desktopNames, currentTag, focusedClient, tags, instances⟩)
    (fun overview =>
      (overview.desktopNames, overview.currentTag, overview.focusedClient, overview.tags,
        overview.instances, ()))

/-- Each setting that is missing has its default. -/
def Settings.codec : Codec Settings :=
  (Fields.cons Setting.tags.key (Codec.text.list.withDefault standard.tags) <|
    Fields.cons Setting.selectFirstTag.key (Codec.bool.withDefault standard.selectFirstTag) <|
    Fields.cons Setting.dispatchBudget.key (Codec.count.withDefault standard.dispatchBudget) <|
    Fields.cons Setting.logLevel.key (Codec.text.withDefault standard.logLevel)
      Fields.nil).codec
    (fun (tags, selectFirstTag, dispatchBudget, logLevel, _) =>
      ⟨tags, selectFirstTag, dispatchBudget, logLevel⟩)
    (fun settings =>
      (settings.tags, settings.selectFirstTag, settings.dispatchBudget, settings.logLevel, ()))
    true

end DesktopTags
