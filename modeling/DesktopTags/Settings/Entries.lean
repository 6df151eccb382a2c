import DesktopTags.Settings
import DesktopTags.Toml.Reader

namespace DesktopTags

/-! ## Settings as the entries of a table -/

namespace Toml

def string? : Toml → Option String
  | .string text => some text
  | _ => none

def strings? : Toml → Option (List String)
  | .array items => items.mapM string?
  | _ => none

def boolean? : Toml → Option Bool
  | .boolean value => some value
  | _ => none

def natural? : Toml → Option Nat
  | .integer (.ofNat value) => some value
  | _ => none

end Toml

namespace Settings

/-! ### Reading -/

/-- The value of a setting; `fallback` if there is no entry for it, and nothing if
the entry is of another type. -/
def entryOr
    {α : Type}
    (entries : Toml.Entries)
    (setting : Setting)
    (fallback : α)
    (read : Toml → Option α) :
    Option α :=
  match entries.get? setting.key with
  | none => some fallback
  | some value => read value

/-- The settings in a table. Entries under other keys mean nothing. -/
def ofEntries? (entries : Toml.Entries) : Option Settings := do
  some {
    tags := ← entryOr entries .tags standard.tags Toml.strings?
    selectFirstTag :=
      ← entryOr entries .selectFirstTag standard.selectFirstTag Toml.boolean?
    dispatchBudget :=
      ← entryOr entries .dispatchBudget standard.dispatchBudget Toml.natural?
    logLevel := ← entryOr entries .logLevel standard.logLevel Toml.string? }

/-- The settings in a TOML text. -/
def ofToml? (text : String) : Option Settings :=
  (Toml.ofText? text).bind ofEntries?

/-! ### Writing -/

def boolChars (value : Bool) : List Char :=
  (if value then "true" else "false").toList

/-- An array of strings in one line. -/
def stringsChars (texts : List String) : List Char :=
  '[' :: ([',', ' '].intercalate (texts.map fun text => Toml.writeString text.toList)
    ++ [']'])

def valueChars (settings : Settings) : Setting → List Char
  | .tags => stringsChars settings.tags
  | .selectFirstTag => boolChars settings.selectFirstTag
  | .dispatchBudget => (toString settings.dispatchBudget).toList
  | .logLevel => Toml.writeString settings.logLevel.toList

/-- One setting as a line. -/
def line (settings : Settings) (setting : Setting) : List Char :=
  setting.key.toList ++ " = ".toList ++ settings.valueChars setting ++ ['\n']

/-- Whether every number fits into the 64 bits that TOML has, the sign among
them. -/
def fitsToml (settings : Settings) : Bool :=
  settings.dispatchBudget < 0x8000000000000000

/-- Settings as a TOML text, with one line for each. -/
def toToml? (settings : Settings) : Option String :=
  if settings.fitsToml then some (.ofList (Setting.all.flatMap settings.line)) else none

end Settings

end DesktopTags
