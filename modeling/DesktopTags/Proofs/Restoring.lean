import DesktopTags.Proofs.JsonText
import DesktopTags.Stored

/-!
# Stored values

Every codec restores the values whose numbers fit into 64 bits. A record is
restored because each of its fields is; the field names of a type are distinct,
so no field is read in place of another.
-/

namespace DesktopTags

theorem mapM_eq_some_map
    {α β : Type} {f : α → Option β} {g : α → β} {list : List α}
    (each : ∀ element ∈ list, f element = some (g element)) :
    list.mapM f = some (list.map g) := by
  induction list with
  | nil =>
      rfl
  | cons first rest inductionHypothesis =>
      rw [List.mapM_cons, each first List.mem_cons_self,
        inductionHypothesis fun element member => each element (List.mem_cons_of_mem _ member)]
      rfl

/-! ## Plain values -/

namespace Codec

/-- The first number that 64 bits cannot hold. -/
def countLimit : Nat := 0x10000000000000000

theorem restores_bool (value : Bool) : bool.Restores value :=
  rfl

theorem restores_text (value : String) : text.Restores value :=
  rfl

theorem restores_count {value : Nat} (fits : value < countLimit) : count.Restores value :=
  if_pos fits

theorem restores_word (value : UInt32) : word.Restores value := by
  have below : value.toNat < 0x100000000 := value.toNat_lt
  simp [Restores, word, natBelow, below]

section Combinators

variable {α β : Type} {codec : Codec α}

theorem Restores.via
    {make : α → β} {split : β → α} {value : β}
    (restores : codec.Restores (split value))
    (joined : make (split value) = value) :
    (codec.via make split).Restores value := by
  have decoded : codec.decode (codec.encode (split value)) = some (split value) := restores
  change (codec.decode (codec.encode (split value))).map make = some value
  rw [decoded, Option.map_some, joined]

theorem Restores.map {value : α} (restores : codec.Restores value) (wrap : α → β) :
    (codec.decode (codec.encode value)).map wrap = some (wrap value) := by
  rw [show codec.decode (codec.encode value) = some value from restores, Option.map_some]

/-- No value is stored as `null`, which stands for a missing one. -/
def Solid (codec : Codec α) : Prop :=
  ∀ value, codec.encode value ≠ .null

theorem optional_decode_of_ne_null {json : Json} (present : json ≠ .null) :
    codec.optional.decode json = (codec.decode json).map some := by
  cases json with
  | null =>
      exact absurd rfl present
  | _ =>
      rfl

theorem restores_optional
    (solid : codec.Solid) {value? : Option α}
    (restores : ∀ value ∈ value?, codec.Restores value) :
    codec.optional.Restores value? := by
  cases value? with
  | none =>
      rfl
  | some value =>
      have decoded : codec.decode (codec.encode value) = some value := restores value rfl
      exact (optional_decode_of_ne_null (solid value)).trans (by rw [decoded, Option.map_some])

theorem restores_list
    {values : List α} (restores : ∀ value ∈ values, codec.Restores value) :
    codec.list.Restores values := by
  change (values.map codec.encode).mapM codec.decode = some values
  rw [List.mapM_map]
  exact (mapM_eq_some_map restores).trans (by rw [List.map_id'])

theorem Restores.withDefault
    {value : α} (restores : codec.Restores value) (fallback : α) :
    (codec.withDefault fallback).Restores value :=
  restores

end Combinators

end Codec

/-! ## Records -/

namespace Json

/-- The only member of a name is found. -/
theorem slot?_of_mem
    {members : List (String × Json)}
    (distinct : (members.map Prod.fst).Nodup)
    {member : String × Json}
    (isMember : member ∈ members) :
    slot? (members.map fun (name, value) => (some name, value)) member.1 =
      some (some member.2) := by
  have only :
      (members.map fun (name, value) => (some name, value)).filter
          (fun entry => entry.1 = some member.1) =
        [(some member.1, member.2)] := by
    induction members with
    | nil =>
        cases isMember
    | cons first rest inductionHypothesis =>
        obtain ⟨absent, distinctRest⟩ := List.nodup_cons.mp distinct
        rcases List.mem_cons.mp isMember with rfl | later
        · have others : ∀ entry ∈ rest.map fun (name, value) => (some name, value),
              ¬decide (entry.1 = some member.1) = true := by
            intro entry isEntry named
            obtain ⟨other, isOther, rfl⟩ := List.mem_map.mp isEntry
            exact absent (List.mem_map.mpr ⟨other, isOther, by simpa using named⟩)
          rw [List.map_cons, List.filter_cons_of_pos (by simp),
            List.filter_eq_nil_iff.mpr others]
        · have other : first.1 ≠ member.1 :=
            fun same => absent (same ▸ List.mem_map_of_mem later)
          rw [List.map_cons, List.filter_cons_of_neg (by simpa using other)]
          exact inductionHypothesis distinctRest later
  rw [slot?, only]

theorem slot?_of_absent
    {members : List (String × Json)} {name : String} (absent : name ∉ members.map Prod.fst) :
    slot? (members.map fun (name, value) => (some name, value)) name = some none := by
  have none : (members.map fun (name, value) => (some name, value)).filter
      (fun entry => entry.1 = some name) = [] := by
    rw [List.filter_eq_nil_iff]
    intro entry isEntry named
    obtain ⟨member, isMember, rfl⟩ := List.mem_map.mp isEntry
    exact absent (List.mem_map.mpr ⟨member, isMember, by simpa using named⟩)
  rw [slot?, none]

/-- The fields of a record are its values, in order. -/
theorem slots?_record
    {names : List String} {values : List Json}
    (distinct : names.Nodup) (complete : values.length = names.length) (partly : Bool) :
    (record (names.zip values)).slots? names partly = some (values.map some) := by
  obtain ⟨members, rfl, rfl⟩ :
      ∃ members : List (String × Json),
        names = members.map Prod.fst ∧ values = members.map Prod.snd :=
    ⟨names.zip values, (List.map_fst_zip (by omega)).symm, (List.map_snd_zip (by omega)).symm⟩
  have read :
      (members.map Prod.fst).mapM
          (slot? (members.map fun (name, value) => (some name, value))) =
        some ((members.map Prod.snd).map some) := by
    rw [List.mapM_map, List.map_map]
    exact mapM_eq_some_map fun member isMember => slot?_of_mem distinct isMember
  rw [← List.zip_of_prod rfl rfl, record, slots?, if_pos (by simp)]
  exact read

end Json

namespace Fields

section

variable {α β : Type} {fields : Fields α}

/-- Reading the fields that were written gives the value back. -/
def Restores (fields : Fields α) (value : α) : Prop :=
  fields.read ((fields.write value).map some) = some value

theorem restores_nil : nil.Restores () :=
  rfl

theorem Restores.cons
    {name : String} {codec : Codec β} {value : β × α}
    (first : codec.Restores value.1) (others : fields.Restores value.2) :
    (cons name codec fields).Restores value := by
  have decoded : codec.decode (codec.encode value.1) = some value.1 := first
  have read : fields.read ((fields.write value.2).map some) = some value.2 := others
  change
    (do
      let first ← codec.decode (codec.encode value.1)
      let others ← fields.read ((fields.write value.2).map some)
      some (first, others)) = some value
  rw [decoded, read]
  rfl

/-- Every field is written under a name of its own. -/
structure Regular (fields : Fields α) : Prop where
  distinct : fields.names.Nodup
  complete : ∀ value, (fields.write value).length = fields.names.length

theorem Restores.codec
    {make : α → β} {split : β → α} {value : β} {partly : Bool}
    (read : fields.Restores (split value))
    (regular : fields.Regular)
    (joined : make (split value) = value) :
    (fields.codec make split partly).Restores value := by
  have slots :
      (Json.record (fields.names.zip (fields.write (split value)))).slots? fields.names partly =
        some ((fields.write (split value)).map some) :=
    Json.slots?_record regular.distinct (regular.complete _) partly
  have values : fields.read ((fields.write (split value)).map some) = some (split value) := read
  change
    ((Json.slots? fields.names partly
      (Json.record (fields.names.zip (fields.write (split value))))).bind fields.read).map make =
      some value
  rw [slots, Option.bind_some, values, Option.map_some, joined]

end

end Fields

/-! ## Names and signals -/

def ScreenId.Fits (screen : ScreenId) : Prop :=
  screen.number < Codec.countLimit

instance : DecidablePred ScreenId.Fits :=
  fun screen => inferInstanceAs (Decidable (screen.number < Codec.countLimit))

def TagRef.Fits (tag : TagRef) : Prop :=
  tag.slot < Codec.countLimit

instance : DecidablePred TagRef.Fits :=
  fun tag => inferInstanceAs (Decidable (tag.slot < Codec.countLimit))

def SignalTarget.Fits : SignalTarget → Prop
  | .tag ref => ref.Fits
  | .client _ => True

instance : DecidablePred SignalTarget.Fits
  | .tag ref => inferInstanceAs (Decidable ref.Fits)
  | .client _ => .isTrue trivial

structure Signal.Fits (signal : Signal) : Prop where
  target : signal.target.Fits
  argument : ∀ argument ∈ signal.argument, argument.Fits

instance : DecidablePred Signal.Fits :=
  fun signal =>
    decidable_of_iff
      (signal.target.Fits ∧ ∀ argument ∈ signal.argument, argument.Fits)
      ⟨fun ⟨target, argument⟩ => ⟨target, argument⟩, fun fits => ⟨fits.target, fits.argument⟩⟩

theorem ClientId.restores (client : ClientId) : codec.Restores client :=
  (Codec.restores_word client.number).via rfl

theorem ClientId.codec_solid : codec.Solid :=
  fun _ => nofun

theorem ScreenId.Fits.restores {screen : ScreenId} (fits : screen.Fits) :
    codec.Restores screen :=
  (Codec.restores_count fits).via rfl

theorem TagRef.Fits.restores {tag : TagRef} (fits : tag.Fits) : codec.Restores tag :=
  Fields.Restores.codec
    (.cons (Codec.restores_count fits) <|
      .cons (Codec.restores_word tag.generation) Fields.restores_nil)
    ⟨by decide, fun _ => rfl⟩ rfl

theorem SignalTarget.Fits.restores {target : SignalTarget} (fits : target.Fits) :
    codec.Restores target := by
  cases target with
  | tag ref => exact (TagRef.Fits.restores fits).map SignalTarget.tag
  | client id => exact id.restores.map SignalTarget.client

theorem SignalTarget.codec_solid : codec.Solid := by
  rintro (_ | _) <;> nofun

theorem SignalKind.restores (kind : SignalKind) : codec.Restores kind := by
  cases kind <;> rfl

theorem Signal.Fits.restores {signal : Signal} (fits : signal.Fits) : codec.Restores signal :=
  Fields.Restores.codec
    (.cons fits.target.restores <|
      .cons signal.kind.restores <|
      .cons
        (Codec.restores_optional SignalTarget.codec_solid fun argument isArgument =>
          (fits.argument argument isArgument).restores)
        Fields.restores_nil)
    ⟨by decide, fun _ => rfl⟩ rfl

/-! ## Effects -/

def DisplayRequest.Fits : DisplayRequest → Prop
  | .updateWorkarea screen => screen.Fits
  | _ => True

instance : DecidablePred DisplayRequest.Fits
  | .updateWorkarea screen => inferInstanceAs (Decidable screen.Fits)
  | .invalidateBanning | .updateClientDesktop _ | .updateDesktopCount | .updateDesktopNames =>
      .isTrue trivial

def Effect.Fits : Effect → Prop
  | .display request => request.Fits
  | .emit signal => signal.Fits

instance : DecidablePred Effect.Fits
  | .display request => inferInstanceAs (Decidable request.Fits)
  | .emit signal => inferInstanceAs (Decidable signal.Fits)

theorem DisplayRequest.Fits.restores {request : DisplayRequest} (fits : request.Fits) :
    codec.Restores request := by
  cases request with
  | updateWorkarea screen =>
      exact (ScreenId.Fits.restores fits).map DisplayRequest.updateWorkarea
  | updateClientDesktop client =>
      exact client.restores.map DisplayRequest.updateClientDesktop
  | _ => rfl

theorem Effect.Fits.restores {effect : Effect} (fits : effect.Fits) :
    codec.Restores effect := by
  cases effect with
  | display request => exact (DisplayRequest.Fits.restores fits).map Effect.display
  | emit signal => exact (Signal.Fits.restores fits).map Effect.emit

/-! ## Parts of a desktop -/

structure Occupant.Fits (occupant : Occupant) : Prop where
  refs : occupant.refs < Codec.countLimit
  handles : occupant.handles < Codec.countLimit

instance : DecidablePred Occupant.Fits :=
  fun occupant =>
    decidable_of_iff
      (occupant.refs < Codec.countLimit ∧ occupant.handles < Codec.countLimit)
      ⟨fun ⟨refs, handles⟩ => ⟨refs, handles⟩, fun fits => ⟨fits.refs, fits.handles⟩⟩

def Slot.Fits (slot : Slot) : Prop :=
  ∀ occupant ∈ slot.occupant, occupant.Fits

instance : DecidablePred Slot.Fits :=
  fun slot => inferInstanceAs (Decidable (∀ occupant ∈ slot.occupant, occupant.Fits))

structure Arena.Fits (arena : Arena) : Prop where
  slots : ∀ slot ∈ arena.slots, slot.Fits
  free : ∀ index ∈ arena.free, index < Codec.countLimit

instance : DecidablePred Arena.Fits :=
  fun arena =>
    decidable_of_iff
      ((∀ slot ∈ arena.slots, slot.Fits) ∧ ∀ index ∈ arena.free, index < Codec.countLimit)
      ⟨fun ⟨slots, free⟩ => ⟨slots, free⟩, fun fits => ⟨fits.slots, fits.free⟩⟩

def Screen.Fits (screen : Screen) : Prop :=
  screen.id.Fits

instance : DecidablePred Screen.Fits :=
  fun screen => inferInstanceAs (Decidable screen.id.Fits)

def Client.Fits (client : Client) : Prop :=
  client.screen.Fits

instance : DecidablePred Client.Fits :=
  fun client => inferInstanceAs (Decidable client.screen.Fits)

def ClientTable.Fits (table : ClientTable) : Prop :=
  ∀ client ∈ table.clients, client.Fits

instance : DecidablePred ClientTable.Fits :=
  fun table => inferInstanceAs (Decidable (∀ client ∈ table.clients, client.Fits))

def Registry.Fits (registry : Registry) : Prop :=
  ∀ tag ∈ registry.tags, tag.Fits

instance : DecidablePred Registry.Fits :=
  fun registry => inferInstanceAs (Decidable (∀ tag ∈ registry.tags, tag.Fits))

/-- Every index, count and screen number of a desktop takes 64 bits. -/
structure Desktop.Fits (desktop : Desktop) : Prop where
  screens : ∀ screen ∈ desktop.screens, screen.Fits
  clients : desktop.clients.Fits
  tags : desktop.tags.Fits
  registry : desktop.registry.Fits
  queue : ∀ effect ∈ desktop.queue, effect.Fits

instance : DecidablePred Desktop.Fits :=
  fun desktop =>
    decidable_of_iff
      ((∀ screen ∈ desktop.screens, screen.Fits) ∧ desktop.clients.Fits ∧ desktop.tags.Fits ∧
        desktop.registry.Fits ∧ ∀ effect ∈ desktop.queue, effect.Fits)
      ⟨fun ⟨screens, clients, tags, registry, queue⟩ =>
          ⟨screens, clients, tags, registry, queue⟩,
        fun fits => ⟨fits.screens, fits.clients, fits.tags, fits.registry, fits.queue⟩⟩

theorem ClientId.restores_list (clients : List ClientId) :
    ClientId.codec.list.Restores clients :=
  Codec.restores_list fun client _ => client.restores

theorem Tag.restores (tag : Tag) : codec.Restores tag :=
  Fields.Restores.codec
    (.cons (Codec.restores_text tag.name) <|
      .cons (Codec.restores_bool tag.selected) <|
      .cons (Codec.restores_bool tag.activated) <|
      .cons (ClientId.restores_list tag.clients) Fields.restores_nil)
    ⟨by decide, fun _ => rfl⟩ rfl

theorem Occupant.Fits.restores {occupant : Occupant} (fits : occupant.Fits) :
    codec.Restores occupant :=
  Fields.Restores.codec
    (.cons occupant.tag.restores <|
      .cons (Codec.restores_count fits.refs) <|
      .cons (Codec.restores_count fits.handles) Fields.restores_nil)
    ⟨by decide, fun _ => rfl⟩ rfl

theorem Occupant.codec_solid : codec.Solid := by
  intro occupant stored
  cases stored

theorem Slot.Fits.restores {slot : Slot} (fits : slot.Fits) : codec.Restores slot :=
  Fields.Restores.codec
    (.cons (Codec.restores_word slot.generation) <|
      .cons
        (Codec.restores_optional Occupant.codec_solid fun occupant isOccupant =>
          (fits occupant isOccupant).restores)
        Fields.restores_nil)
    ⟨by decide, fun _ => rfl⟩ rfl

theorem Arena.Fits.restores {arena : Arena} (fits : arena.Fits) : codec.Restores arena :=
  Fields.Restores.codec
    (.cons (Codec.restores_list fun slot isSlot => Slot.Fits.restores (fits.slots slot isSlot)) <|
      .cons
        (Codec.restores_list fun index isFree =>
          Codec.restores_count (fits.free index (List.mem_reverse.mp isFree)))
        Fields.restores_nil)
    ⟨by decide, fun _ => rfl⟩
    (congrArg (Arena.mk arena.slots) (List.reverse_reverse arena.free))

theorem Screen.Fits.restores {screen : Screen} (fits : screen.Fits) : codec.Restores screen :=
  Fields.Restores.codec
    (.cons (ScreenId.Fits.restores fits) <|
      .cons (Codec.restores_text screen.output) Fields.restores_nil)
    ⟨by decide, fun _ => rfl⟩ rfl

theorem Client.Fits.restores {client : Client} (fits : client.Fits) : codec.Restores client :=
  Fields.Restores.codec
    (.cons client.id.restores <|
      .cons (ScreenId.Fits.restores fits) Fields.restores_nil)
    ⟨by decide, fun _ => rfl⟩ rfl

theorem ClientTable.Fits.restores {table : ClientTable} (fits : table.Fits) :
    codec.Restores table :=
  Fields.Restores.codec
    (.cons
      (Codec.restores_list fun client isClient => Client.Fits.restores (fits client isClient))
      Fields.restores_nil)
    ⟨by decide, fun _ => rfl⟩ rfl

theorem Registry.Fits.restores {registry : Registry} (fits : registry.Fits) :
    codec.Restores registry :=
  Fields.Restores.codec
    (.cons (Codec.restores_list fun tag isTag => TagRef.Fits.restores (fits tag isTag))
      Fields.restores_nil)
    ⟨by decide, fun _ => rfl⟩ rfl

theorem FocusHistory.restores (history : FocusHistory) : codec.Restores history :=
  Fields.Restores.codec
    (.cons
      (Codec.restores_list fun _ _ =>
        Codec.restores_optional ClientId.codec_solid fun client _ => client.restores)
      Fields.restores_nil)
    ⟨by decide, fun _ => rfl⟩ rfl

theorem Desktop.Fits.restores {desktop : Desktop} (fits : desktop.Fits) :
    codec.Restores desktop :=
  Fields.Restores.codec
    (.cons (Codec.restores_list fun screen isScreen =>
        Screen.Fits.restores (fits.screens screen isScreen)) <|
      .cons (ClientTable.Fits.restores fits.clients) <|
      .cons fits.tags.restores <|
      .cons (Registry.Fits.restores fits.registry) <|
      .cons desktop.focus.restores <|
      .cons (Codec.restores_list fun effect isQueued =>
        Effect.Fits.restores (fits.queue effect isQueued))
        Fields.restores_nil)
    ⟨by decide, fun _ => rfl⟩ rfl

/-! ## Overviews and settings -/

def TagOverview.Fits (tag : TagOverview) : Prop :=
  tag.index < Codec.countLimit

structure Overview.Fits (overview : Overview) : Prop where
  currentTag : ∀ index ∈ overview.currentTag, index < Codec.countLimit
  tags : ∀ tag ∈ overview.tags, tag.Fits
  instances : overview.instances < Codec.countLimit

def Settings.Fits (settings : Settings) : Prop :=
  settings.dispatchBudget < Codec.countLimit

instance : DecidablePred Settings.Fits :=
  fun settings => inferInstanceAs (Decidable (settings.dispatchBudget < Codec.countLimit))

theorem Codec.count_solid : count.Solid := by
  intro value stored
  cases stored

theorem Codec.restores_texts (texts : List String) : Codec.text.list.Restores texts :=
  restores_list fun text _ => restores_text text

theorem TagOverview.Fits.restores {tag : TagOverview} (fits : tag.Fits) :
    codec.Restores tag :=
  Fields.Restores.codec
    (.cons (Codec.restores_count fits) <|
      .cons (Codec.restores_text tag.name) <|
      .cons (Codec.restores_bool tag.selected) <|
      .cons (Codec.restores_bool tag.current) <|
      .cons (ClientId.restores_list tag.clients) Fields.restores_nil)
    ⟨by decide, fun _ => rfl⟩ rfl

theorem Overview.Fits.restores {overview : Overview} (fits : overview.Fits) :
    codec.Restores overview :=
  Fields.Restores.codec
    (.cons (Codec.restores_texts overview.desktopNames) <|
      .cons (Codec.restores_optional Codec.count_solid fun index isIndex =>
        Codec.restores_count (fits.currentTag index isIndex)) <|
      .cons (Codec.restores_optional ClientId.codec_solid fun client _ => client.restores) <|
      .cons (Codec.restores_list fun tag isTag =>
        TagOverview.Fits.restores (fits.tags tag isTag)) <|
      .cons (Codec.restores_count fits.instances) Fields.restores_nil)
    ⟨by decide, fun _ => rfl⟩ rfl

theorem Settings.Fits.restores {settings : Settings} (fits : settings.Fits) :
    codec.Restores settings :=
  Fields.Restores.codec
    (.cons ((Codec.restores_texts settings.tags).withDefault _) <|
      .cons ((Codec.restores_bool settings.selectFirstTag).withDefault _) <|
      .cons ((Codec.restores_count fits).withDefault _) <|
      .cons ((Codec.restores_text settings.logLevel).withDefault _) Fields.restores_nil)
    ⟨by decide, fun _ => rfl⟩ rfl

end DesktopTags
