import DesktopTags.Proofs.TomlLines
import DesktopTags.Proofs.TomlValues
import DesktopTags.Settings.Storage

/-!
# Settings as a text

The text that settings are written as is read as the same settings, behind the heading
of their file: `Settings.ofToml?_toToml`.
-/

namespace DesktopTags

open Toml

/-! ## The value of a setting -/

namespace Settings

/-- What a setting is written as. -/
def value (settings : Settings) : Setting → Toml
  | .tags => .array (settings.tags.map .string)
  | .selectFirstTag => .boolean settings.selectFirstTag
  | .dispatchBudget => .integer settings.dispatchBudget
  | .logLevel => .string settings.logLevel

theorem readValue_stringsChars (depth : Nat) (texts : List String) (rest : List Char) :
    readValue (depth + 1) (stringsChars texts ++ rest) =
      some (.array (texts.map .string), rest) := by
  rw [stringsChars, List.cons_append, List.append_assoc, List.singleton_append, readValue,
    readItems_writeString depth texts]
  · rfl
  · rw [List.length_append]
    omega

theorem readValue_boolChars (depth : Nat) (value : Bool) (rest : List Char) :
    readValue depth (boolChars value ++ rest) = some (.boolean value, rest) := by
  cases value with
  | false =>
      change readValue depth ('f' :: 'a' :: 'l' :: 's' :: 'e' :: rest) = _
      rw [readValue_of_plain (by decide) (by decide)]
      simp [readScalar, readWord]
  | true =>
      change readValue depth ('t' :: 'r' :: 'u' :: 'e' :: rest) = _
      rw [readValue_of_plain (by decide) (by decide)]
      simp [readScalar, readWord]

theorem fitsToml_iff (settings : Settings) :
    settings.fitsToml = true ↔ settings.dispatchBudget < 0x8000000000000000 := by
  rw [fitsToml, decide_eq_true_iff]

/-- Whatever a setting holds, its text ends with its line. -/
theorem fillsLine_valueChars
    {settings : Settings} (fits : settings.fitsToml = true) (setting : Setting) :
    FillsLine (settings.valueChars setting) (settings.value setting) := by
  intro later
  cases setting with
  | tags => exact readValue_stringsChars 78 settings.tags _
  | selectFirstTag => exact readValue_boolChars depthLimit settings.selectFirstTag _
  | dispatchBudget =>
      have small := settings.fitsToml_iff.mp fits
      rw [valueChars, Nat.toString_eq_repr, Nat.toList_repr]
      exact readValue_toDigits small depthLimit later
  | logLevel =>
      have unquoted : Unquoted ('\n' :: later) := ⟨'\n', later, rfl, by decide, by decide⟩
      have read := readValue_writeString settings.logLevel.toList unquoted depthLimit
      rw [String.ofList_toList] at read
      exact read

/-! ## Lines -/

theorem isBareKey_key (setting : Setting) : IsBareKey setting.key := by
  cases setting <;> decide

theorem spells_line
    {settings : Settings} {later : List Char} {entries : Toml.Entries}
    (fits : settings.fitsToml = true) (setting : Setting) (others : Spells later entries) :
    Spells (settings.line setting ++ later)
      ((setting.key, settings.value setting) :: entries) :=
  .entry (isBareKey_key setting) (fillsLine_valueChars fits setting) others

theorem spells_lines
    {settings : Settings} (fits : settings.fitsToml = true) (wanted : List Setting) :
    Spells (wanted.flatMap settings.line)
      (wanted.map fun setting => (setting.key, settings.value setting)) := by
  induction wanted with
  | nil => exact .ending .nothing
  | cons setting others inductionHypothesis => exact spells_line fits setting inductionHypothesis

/-- The heading is a comment and an empty line, which say nothing. -/
theorem spells_heading
    {later : List Char} {entries : Toml.Entries} (others : Spells later entries) :
    Spells (fileHeading.toList ++ later) entries :=
  have words : " tagwm configuration".toList.all isPlain = true := by decide
  .remark (.comment words) (.inl rfl) (.remark .nothing (.inl rfl) others)

/-! ## Settings from a table -/

/-- Some of the settings, with the standard values of the others. -/
def only (settings : Settings) (wanted : List Setting) : Settings where
  tags := if .tags ∈ wanted then settings.tags else standard.tags
  selectFirstTag :=
    if .selectFirstTag ∈ wanted then settings.selectFirstTag else standard.selectFirstTag
  dispatchBudget :=
    if .dispatchBudget ∈ wanted then settings.dispatchBudget else standard.dispatchBudget
  logLevel := if .logLevel ∈ wanted then settings.logLevel else standard.logLevel

theorem only_all (settings : Settings) : settings.only Setting.all = settings :=
  rfl

theorem only_nil (settings : Settings) : settings.only [] = standard :=
  rfl

theorem strings?_map_string (texts : List String) :
    Toml.strings? (.array (texts.map .string)) = some texts := by
  change (texts.map Toml.string).mapM Toml.string? = some texts
  rw [List.mapM_map]
  exact (List.mapM_pure (f := id)).trans (congrArg some (List.map_id texts))

/-- A table gives some of the settings, and none of the others. -/
def Gives (settings : Settings) (wanted : List Setting) (entries : Toml.Entries) : Prop :=
  ∀ setting, entries.get? setting.key =
    if setting ∈ wanted then some (settings.value setting) else none

theorem Gives.entryOr
    {settings : Settings} {wanted : List Setting} {entries : Toml.Entries}
    (gives : settings.Gives wanted entries)
    {α : Type} {setting : Setting} {fallback value : α} {read : Toml → Option α}
    (means : read (settings.value setting) = some value) :
    Settings.entryOr entries setting fallback read =
      some (if setting ∈ wanted then value else fallback) := by
  rw [Settings.entryOr, gives setting]
  split_ifs
  · exact means
  · rfl

/-- What a table does not give is standard. -/
theorem Gives.ofEntries?
    {settings : Settings} {wanted : List Setting} {entries : Toml.Entries}
    (gives : settings.Gives wanted entries) :
    Settings.ofEntries? entries = some (settings.only wanted) := by
  have tags : Toml.strings? (settings.value .tags) = some settings.tags :=
    strings?_map_string settings.tags
  have selects : Toml.boolean? (settings.value .selectFirstTag) = some settings.selectFirstTag :=
    rfl
  have budget : Toml.natural? (settings.value .dispatchBudget) = some settings.dispatchBudget :=
    rfl
  have level : Toml.string? (settings.value .logLevel) = some settings.logLevel := rfl
  simp only [Settings.ofEntries?, gives.entryOr tags, gives.entryOr selects,
    gives.entryOr budget, gives.entryOr level, Option.bind_eq_bind, Option.bind_some, only]

/-! ## Whole texts -/

theorem ofToml?_of_spells
    {text : List Char} {entries : Toml.Entries}
    (spells : Spells text entries) (distinct : (entries.map Prod.fst).Nodup) :
    ofToml? (.ofList text) = ofEntries? entries := by
  rw [ofToml?, Toml.ofText?, String.toList_ofList, spells.ofChars? distinct, Option.bind_some]

/-- The entries that settings are written as, in order. -/
def entries (settings : Settings) : Toml.Entries :=
  Setting.all.map fun setting => (setting.key, settings.value setting)

theorem gives_entries (settings : Settings) : settings.Gives Setting.all settings.entries := by
  intro setting
  cases setting <;> rfl

/-- Settings that are written are read as they were, whatever their texts hold. -/
theorem ofToml?_toToml
    {settings : Settings} {text : String} (written : settings.toToml? = some text) :
    ofToml? (fileHeading ++ text) = some settings := by
  obtain ⟨fits, same⟩ := Option.ite_none_right_eq_some.mp written
  obtain rfl := Option.some_inj.mp same
  have spells := spells_heading (spells_lines fits Setting.all)
  have distinct : (settings.entries.map Prod.fst).Nodup := by
    change (Setting.all.map Setting.key).Nodup
    decide
  have read := ofToml?_of_spells spells distinct
  rw [String.ofList_append, String.ofList_toList] at read
  calc
    ofToml? (fileHeading ++ .ofList (Setting.all.flatMap settings.line))
    _ = ofEntries? settings.entries := read
    _ = some (settings.only Setting.all) := (gives_entries settings).ofEntries?
    _ = some settings := by rw [only_all]

end Settings

end DesktopTags
