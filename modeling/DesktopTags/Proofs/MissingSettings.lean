import DesktopTags.Proofs.JsonParts
import DesktopTags.Proofs.Restoring
import DesktopTags.Proofs.SavedSettings

/-!
# Settings that are left out

A text may give some of the settings only, in any order and among entries under other keys.
It is read as these settings with the standard values of the others, as TOML and as JSON:
`missing_settings_are_standard`.
-/

namespace DesktopTags

namespace Settings

open Toml (IsBareKey IsRemark IsLineEnd Spells)

/-! ## Entries -/

/-- One entry of a text: a setting, or a value under a key that is no setting's, with the
text it is written as. -/
inductive Entry (ν : Type) where
  | known (setting : Setting)
  | unknown (key : String) (text : List Char) (value : ν)

namespace Entry

variable {ν : Type}

def key : Entry ν → String
  | .known setting => setting.key
  | .unknown key _ _ => key

def setting? : Entry ν → Option Setting
  | .known setting => some setting
  | .unknown _ _ _ => none

/-- The value of an entry, when those of the settings are given. -/
def value (values : Setting → ν) : Entry ν → ν
  | .known setting => values setting
  | .unknown _ _ value => value

/-- An unknown key is no setting's, and stands for its value as it is allowed. -/
def Sound (allowed : String → List Char → ν → Prop) : Entry ν → Prop
  | .known _ => True
  | .unknown key text value =>
      (∀ setting : Setting, setting.key ≠ key) ∧ allowed key text value

end Entry

/-- The settings that have an entry, in the order of their entries. -/
def wanted {ν : Type} (entries : List (Entry ν)) : List Setting :=
  entries.filterMap Entry.setting?

/-- The keys of entries with their values. -/
def table {ν : Type} (values : Setting → ν) (entries : List (Entry ν)) : List (String × ν) :=
  entries.map fun entry => (entry.key, entry.value values)

section Lookup

variable {ν : Type} {entries : List (Entry ν)}

theorem key_injective : Function.Injective Setting.key := by
  intro first second same
  cases first <;> cases second <;> simp_all [Setting.key]

theorem mem_wanted_iff (setting : Setting) :
    setting ∈ wanted entries ↔ .known setting ∈ entries := by
  rw [wanted, List.mem_filterMap]
  constructor
  · rintro ⟨entry, isEntry, names⟩
    cases entry with
    | known other =>
        obtain rfl := Option.some_inj.mp names
        exact isEntry
    | unknown => cases names
  · exact fun isEntry => ⟨_, isEntry, rfl⟩

theorem keys_table (values : Setting → ν) (entries : List (Entry ν)) :
    (table values entries).map Prod.fst = entries.map Entry.key := by
  rw [table, List.map_map]
  rfl

theorem mem_table
    (values : Setting → ν) {setting : Setting} (isWanted : setting ∈ wanted entries) :
    (setting.key, values setting) ∈ table values entries :=
  List.mem_map.mpr ⟨.known setting, (mem_wanted_iff setting).mp isWanted, rfl⟩

/-- No unknown key is taken for a setting. -/
theorem key_notMem
    {allowed : String → List Char → ν → Prop} (sound : ∀ entry ∈ entries, entry.Sound allowed)
    {setting : Setting} (unwanted : setting ∉ wanted entries) (values : Setting → ν) :
    setting.key ∉ (table values entries).map Prod.fst := by
  rw [keys_table]
  intro isKey
  obtain ⟨entry, isEntry, same⟩ := List.mem_map.mp isKey
  cases entry with
  | known other =>
      obtain rfl : other = setting := key_injective same
      exact unwanted ((mem_wanted_iff other).mpr isEntry)
  | unknown key text value => exact (sound _ isEntry).1 setting same.symm

end Lookup

/-! ## TOML documents -/

/-- A key that needs no quotes, and a text that is read as a value on its own. -/
def IsTomlEntry (key : String) (text : List Char) (value : Toml) : Prop :=
  IsBareKey key ∧ Toml.readValue Toml.depthLimit text = some (value, [])

/-- A line of a document. -/
inductive Line where
  | entry (entry : Entry Toml)
  | remark (text lineEnd : List Char)

namespace Line

def chars (settings : Settings) : Line → List Char
  | .entry (.known setting) => settings.line setting
  | .entry (.unknown key text _) => Toml.entryLine key text
  | .remark text lineEnd => text ++ lineEnd

def Sound : Line → Prop
  | .entry given => given.Sound IsTomlEntry
  | .remark text lineEnd => IsRemark text ∧ IsLineEnd lineEnd

def entry? : Line → Option (Entry Toml)
  | .entry given => some given
  | .remark _ _ => none

end Line

/-- A document without headers. No key stands in it twice. Remarks may stand between the
lines with entries, and behind the last one without a line end. -/
structure Document where
  lines : List Line
  ending : List Char
  sound : ∀ line ∈ lines, line.Sound
  ends : IsRemark ending
  distinct : ((lines.filterMap Line.entry?).map Entry.key).Nodup

namespace Document

def entries (document : Document) : List (Entry Toml) :=
  document.lines.filterMap Line.entry?

def text (document : Document) (settings : Settings) : String :=
  .ofList (document.lines.flatMap (Line.chars settings) ++ document.ending)

theorem sound_entries (document : Document) :
    ∀ entry ∈ document.entries, entry.Sound IsTomlEntry := by
  intro entry isEntry
  obtain ⟨line, isLine, same⟩ := List.mem_filterMap.mp isEntry
  cases line with
  | entry other =>
      obtain rfl := Option.some_inj.mp same
      exact document.sound _ isLine
  | remark => cases same

end Document

theorem spells_document
    {settings : Settings} (fits : settings.fitsToml = true)
    {lines : List Line} (sound : ∀ line ∈ lines, line.Sound)
    {ending : List Char} (ends : IsRemark ending) :
    Spells (lines.flatMap (Line.chars settings) ++ ending)
      (table settings.value (lines.filterMap Line.entry?)) := by
  induction lines with
  | nil => exact .ending ends
  | cons line others inductionHypothesis =>
      have later := inductionHypothesis fun other isLine =>
        sound other (List.mem_cons_of_mem _ isLine)
      have first := sound line List.mem_cons_self
      rw [List.flatMap_cons, List.append_assoc]
      match line, first with
      | .entry (.known setting), _ => exact spells_line fits setting later
      | .entry (.unknown key text value), ⟨_, bare, stands⟩ =>
          exact .entry bare (Toml.fillsLine_of_readValue stands) later
      | .remark text lineEnd, ⟨remark, ends⟩ =>
          rw [Line.chars, List.append_assoc]
          exact .remark remark ends later

theorem Document.gives (document : Document) (settings : Settings) :
    settings.Gives (wanted document.entries) (table settings.value document.entries) := by
  intro setting
  have distinct : ((table settings.value document.entries).map Prod.fst).Nodup := by
    rw [keys_table]
    exact document.distinct
  split
  · rename_i isWanted
    exact Toml.Entries.get?_of_mem distinct (mem_table settings.value isWanted)
  · rename_i unwanted
    exact Toml.Entries.get?_of_absent (key_notMem document.sound_entries unwanted settings.value)

theorem Document.ofToml?_text
    (document : Document) {settings : Settings} (fits : settings.fitsToml = true) :
    ofToml? (document.text settings) = some (settings.only (wanted document.entries)) := by
  have distinct : ((table settings.value document.entries).map Prod.fst).Nodup := by
    rw [keys_table]
    exact document.distinct
  rw [Document.text, ofToml?_of_spells (spells_document fits document.sound document.ends) distinct]
  exact (document.gives settings).ofEntries?

/-! ## JSON objects -/

/-- A text that is read as a value on its own. Every key can be written. -/
def IsJsonEntry (_ : String) (text : List Char) (value : Json) : Prop :=
  Json.ofChars? text = some value

/-- The text of an object, without blanks around its members. No name stands in it twice. -/
structure Object where
  entries : List (Entry Json)
  sound : ∀ entry ∈ entries, entry.Sound IsJsonEntry
  distinct : (entries.map Entry.key).Nodup

/-- What a setting is stored as. -/
def json (settings : Settings) : Setting → Json
  | .tags => Codec.text.list.encode settings.tags
  | .selectFirstTag => Codec.bool.encode settings.selectFirstTag
  | .dispatchBudget => Codec.count.encode settings.dispatchBudget
  | .logLevel => Codec.text.encode settings.logLevel

/-- Settings are stored as an object with a member for each. -/
theorem encode_eq (settings : Settings) :
    codec.encode settings =
      .record (Setting.all.map fun setting => (setting.key, settings.json setting)) :=
  rfl

def memberChars (settings : Settings) : Entry Json → List Char
  | .known setting => Json.literal setting.key ++ ':' :: (settings.json setting).compactChars
  | .unknown key text _ => Json.literal key ++ ':' :: text

def Object.text (object : Object) (settings : Settings) : String :=
  .ofList (Json.bracketed '\x7b' '\x7d' (object.entries.map settings.memberChars))

theorem readsMember_memberChars
    (settings : Settings) {entry : Entry Json} (sound : entry.Sound IsJsonEntry) :
    Json.ReadsMember (settings.memberChars entry) (some entry.key, entry.value settings.json) := by
  cases entry with
  | known setting => exact Json.readsMember_compactChars (Json.reads _) (some setting.key)
  | unknown key text value => exact Json.readsMember_of_ofChars? sound.2 (some key)

theorem Object.ofText?_text (object : Object) (settings : Settings) :
    Json.ofText? (object.text settings) =
      some (.record (table settings.json object.entries)) := by
  have read := Json.ofChars?_bracketed fun entry isEntry =>
    readsMember_memberChars settings (object.sound entry isEntry)
  rw [Object.text, Json.ofText?, String.toList_ofList, read, Json.record, table, List.map_map]
  rfl

theorem Object.slot? (object : Object) (settings : Settings) (setting : Setting) :
    Json.slot? ((table settings.json object.entries).map fun (name, value) => (some name, value))
        setting.key =
      some (if setting ∈ wanted object.entries then some (settings.json setting) else none) := by
  split
  · rename_i isWanted
    have distinct : ((table settings.json object.entries).map Prod.fst).Nodup := by
      rw [keys_table]
      exact object.distinct
    exact Json.slot?_of_mem distinct (mem_table settings.json isWanted)
  · rename_i unwanted
    exact Json.slot?_of_absent (key_notMem object.sound unwanted settings.json)

theorem Object.slots? (object : Object) (settings : Settings) :
    (Json.record (table settings.json object.entries)).slots? (Setting.all.map Setting.key) true =
      some (Setting.all.map fun setting =>
        if setting ∈ wanted object.entries then some (settings.json setting) else none) := by
  rw [Json.record, Json.slots?, if_pos (by simp), List.mapM_map]
  exact mapM_eq_some_map fun setting _ => object.slot? settings setting

/-- A field with a default value may be absent. -/
theorem read_cons_withDefault
    {α β : Type} {codec : Codec α} {fields : Fields β} {slots : List (Option Json)}
    {value : α} {others : β}
    (name : String) (fallback : α) (present : Prop) [Decidable present]
    (restores : codec.Restores value) (read : fields.read slots = some others) :
    (Fields.cons name (codec.withDefault fallback) fields).read
        ((if present then some (codec.encode value) else none) :: slots) =
      some (if present then value else fallback, others) := by
  have decoded : codec.decode (codec.encode value) = some value := restores
  split
  · change (do
      let first ← codec.decode (codec.encode value)
      let others ← fields.read slots
      some (first, others)) = _
    rw [decoded, read]
    rfl
  · change (do
      let others ← fields.read slots
      some (fallback, others)) = _
    rw [read]
    rfl

theorem Object.codec_ofText?_text
    (object : Object) {settings : Settings} (fits : settings.Fits) :
    codec.ofText? (object.text settings) = some (settings.only (wanted object.entries)) := by
  have nothing : Fields.nil.read [] = some () := rfl
  have level := read_cons_withDefault Setting.logLevel.key standard.logLevel
    (.logLevel ∈ wanted object.entries) (Codec.restores_text settings.logLevel) nothing
  have budget := read_cons_withDefault Setting.dispatchBudget.key standard.dispatchBudget
    (.dispatchBudget ∈ wanted object.entries) (Codec.restores_count fits) level
  have selects := read_cons_withDefault Setting.selectFirstTag.key standard.selectFirstTag
    (.selectFirstTag ∈ wanted object.entries) (Codec.restores_bool settings.selectFirstTag) budget
  have tags := read_cons_withDefault Setting.tags.key standard.tags
    (.tags ∈ wanted object.entries) (Codec.restores_texts settings.tags) selects
  rw [Codec.ofText?, object.ofText?_text, Option.bind_some]
  change ((Json.slots? (Setting.all.map Setting.key) true _).bind _).map _ = _
  rw [object.slots?, Option.bind_some]
  exact congrArg (Option.map _) tags

/-! ## Files -/

theorem readSettings_document
    (document : Document) {settings : Settings} (fits : settings.fitsToml = true)
    {files : Files} {path : String}
    (isRead : files.readText path = .ok (document.text settings)) :
    readSettings files path = .ok (settings.only (wanted document.entries)) := by
  simp only [readSettings, isRead, document.ofToml?_text fits]

theorem find_of_readText
    {files : Files} {path text : String} (isRead : files.readText path = .ok text) :
    ∃ node, files.find path = .ok node := by
  rw [Files.readText] at isRead
  cases found : files.find path with
  | error fault =>
      rw [found] at isRead
      cases isRead
  | ok node => exact ⟨node, rfl⟩

end Settings

/-- Settings that fit are read from each document with lines for some of them, and from each
object with members for some of them, in any order and among unknown keys; what is left
out is standard. A document without entries, such as an empty one or one of comments only,
loads as the standard settings, both as a file that a user names and in the standard
place. -/
theorem missing_settings_are_standard
    {settings : Settings} (small : settings.dispatchBudget < 0x8000000000000000) :
    (∀ document : Settings.Document,
      Settings.ofToml? (document.text settings) =
        some (settings.only (Settings.wanted document.entries))) ∧
    (∀ object : Settings.Object,
      Settings.codec.ofText? (object.text settings) =
        some (settings.only (Settings.wanted object.entries))) ∧
    ∀ document : Settings.Document, document.entries = [] →
      ∀ (files : Files) (path : String),
        files.readText path = .ok (document.text settings) →
          loadSettings files (.named path) = ⟨.ok .standard, files⟩ ∧
          ∀ (before : Files) (home : String),
            before.makeDirectory (settingsDirectory home) = .ok files →
            (SettingsSource.standard home).path = path →
              loadSettings before (.standard home) = ⟨.ok .standard, files⟩ := by
  have fits : settings.fitsToml = true := settings.fitsToml_iff.mpr small
  have stored : settings.Fits := Nat.lt_trans small (by decide)
  refine ⟨fun document => document.ofToml?_text fits,
    fun object => object.codec_ofText?_text stored,
    fun document silent files path isRead => ?_⟩
  have loaded : readSettings files path = .ok .standard := by
    rw [Settings.readSettings_document document fits isRead, silent, Settings.wanted,
      List.filterMap_nil, Settings.only_nil]
  obtain ⟨node, found⟩ := Settings.find_of_readText isRead
  refine ⟨?_, fun before home made leads => ?_⟩
  · rw [loadSettings, loaded]
  · simp only [loadSettings, made, leads, found, loaded]

theorem Settings.key_ne_theme (setting : Setting) : setting.key ≠ "theme" := by
  cases setting <;> decide

/-- The value of the unknown key looks like the line of a setting. -/
def Settings.quotingDocument : Settings.Document where
  lines :=
    [.remark "# mine".toList "\r\n".toList,
      .entry (.unknown "theme" "\"tags = []\"".toList (.string "tags = []")),
      .entry (.known .logLevel), .entry (.known .tags)]
  ending := "  # end".toList
  sound := by
    have mine : Toml.IsRemark "# mine".toList :=
      .comment (show " mine".toList.all Toml.isPlain = true by decide)
    simp only [List.forall_mem_cons]
    exact ⟨⟨mine, .inr rfl⟩, ⟨key_ne_theme, by decide, rfl⟩, trivial, trivial,
      List.forall_mem_nil _⟩
  ends := .blank rfl (.blank rfl
    (.comment (show " end".toList.all Toml.isPlain = true by decide)))
  distinct := by decide

/-- A document with a comment only. -/
def Settings.silentDocument : Settings.Document where
  lines := []
  ending := "# nothing".toList
  sound := List.forall_mem_nil _
  ends := .comment (show " nothing".toList.all Toml.isPlain = true by decide)
  distinct := by decide

/-- The value of the unknown key has a member of its own that is named like a setting. -/
def Settings.nestedObject : Settings.Object :=
  let theme := "[ 1e5, \x7b\"tags\": null\x7d ]".toList
  { entries :=
      [.unknown "theme" theme ((Json.ofChars? theme).get (by decide +kernel)),
        .known .dispatchBudget, .known .tags]
    sound := by
      simp only [List.forall_mem_cons]
      exact ⟨⟨key_ne_theme, (Option.some_get _).symm⟩, trivial, trivial, List.forall_mem_nil _⟩
    distinct := by decide }

/-- A string that looks like the line of a setting is none, nor is a member inside the value of
an unknown key. -/
theorem missing_settings_are_standard_beside_quoted_line :
    let settings : Settings :=
      { tags := ["a\nlog_level = 1"], selectFirstTag := false, dispatchBudget := 7
        logLevel := "# \"" }
    let toml := "# mine\r\ntheme = \"tags = []\"\nlog_level = '# \"'\n" ++
      "tags = [\"\"\"\na\nlog_level = 1\"\"\"]\n  # end"
    let json := "\x7b\"theme\":[ 1e5, \x7b\"tags\": null\x7d ],\"dispatch_budget\":7," ++
      "\"tags\":[\"a\\nlog_level = 1\"]\x7d"
    let files : Files :=
      { nodes := [(["home", "tagwm", "config.toml"], .file "# nothing".toUTF8)] }
    Settings.ofToml? toml = some { tags := settings.tags, logLevel := settings.logLevel } ∧
    Settings.codec.ofText? json =
      some { tags := settings.tags, dispatchBudget := settings.dispatchBudget } ∧
    loadSettings files (.named "/home/tagwm/config.toml") = ⟨.ok .standard, files⟩ ∧
    loadSettings files (.standard "/home") = ⟨.ok .standard, files⟩ := by
  intro settings toml json files
  have parts := @missing_settings_are_standard settings (by decide)
  have spelled : Settings.quotingDocument.text settings = toml := by
    dsimp only [settings, toml]
    decide +kernel
  have stored : Settings.nestedObject.text settings = json := by
    dsimp only [settings, json]
    decide +kernel
  have silent : Settings.silentDocument.text settings = "# nothing" := by
    dsimp only [settings]
    decide +kernel
  have leads : files.locate "/home/tagwm/config.toml" = .ok ["home", "tagwm", "config.toml"] :=
    rfl
  have found : files.find "/home/tagwm/config.toml" = .ok (.file "# nothing".toUTF8) := by
    rw [Files.find, leads]
    rfl
  have isRead : files.readText "/home/tagwm/config.toml" =
      .ok (Settings.silentDocument.text settings) := by
    rw [Files.readText, found]
    simp only [Files.fromUTF8?_toUTF8, silent]
  have made : files.makeDirectory (settingsDirectory "/home") = .ok files := rfl
  have loaded := parts.2.2 Settings.silentDocument rfl files _ isRead
  refine ⟨?_, ?_, loaded.1, loaded.2 files "/home" made (by decide)⟩
  · rw [← spelled]
    exact parts.1 Settings.quotingDocument
  · rw [← stored]
    exact parts.2.1 Settings.nestedObject

end DesktopTags
