namespace DesktopTags

/-- How a table came to be. This decides whether more may be put into it. -/
inductive TableForm where
  /-- Written between braces: nothing is added later. -/
  | inline
  /-- Opened by a header of its own. -/
  | header
  /-- Named on the way by a dotted key. -/
  | dotted
  /-- Named on the way by a header. -/
  | implied
deriving DecidableEq

/-- A TOML value. Fractions and moments occur in no setting, so they are told
apart but not kept. -/
inductive Toml where
  | string (text : String)
  | integer (value : Int)
  | boolean (value : Bool)
  | fraction
  | moment
  | array (items : List Toml)
  | table (form : TableForm) (entries : List (String × Toml))
  /-- Tables that share a name, opened one after the other. Only the newest one
  can still grow. -/
  | tables (older : List Toml) (newest : List (String × Toml))

namespace Toml

/-- The keys of a table with their values, in the order they were written. -/
abbrev Entries : Type := List (String × Toml)

/-- A key with the keys of the tables around it, from the outside. -/
structure Path where
  parents : List String
  key : String
deriving DecidableEq

/-- All keys of a path. -/
def Path.keys (path : Path) : List String :=
  path.parents ++ [path.key]

/-- What one line of a document says. -/
inductive Statement where
  /-- `path = value` -/
  | assignment (path : Path) (value : Toml)
  /-- `[path]` -/
  | header (path : Path)
  /-- `[[path]]` -/
  | listHeader (path : Path)

end Toml

end DesktopTags
