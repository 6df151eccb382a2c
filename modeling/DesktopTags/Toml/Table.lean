import DesktopTags.Toml

namespace DesktopTags.Toml

/-! ## Tables under construction

No key is given twice, and no table is opened twice: what was written between
braces is closed, and what has a header of its own takes no dotted keys from
outside. -/

namespace Entries

def get? (entries : Entries) (key : String) : Option Toml :=
  (entries.find? fun entry => entry.1 = key).map Prod.snd

/-- Give a key a value, in its old place if it has one. -/
def put (entries : Entries) (key : String) (value : Toml) : Entries :=
  match entries with
  | [] => [(key, value)]
  | entry :: rest =>
      if entry.1 = key then (key, value) :: rest else entry :: put rest key value

/-- Change the table at the end of a way. Tables that are missing on the way are
made; `dotted` tells whether a dotted key names them, or a header. The change is
told whether a dotted key made the table. -/
def alter
    (dotted : Bool)
    (change : Bool → Entries → Option Entries)
    (isDotted : Bool)
    (entries : Entries) :
    List String → Option Entries
  | [] => change isDotted entries
  | key :: way =>
      match entries.get? key with
      | none => do
          let inner ← alter dotted change dotted [] way
          let form := if dotted then TableForm.dotted else .implied
          some (entries.put key (.table form inner))
      | some (.table form inner) =>
          if form = .inline || (dotted && form = .header) then none
          else do
            let inner ← alter dotted change (form = .dotted) inner way
            some (entries.put key (.table form inner))
      | some (.tables older newest) => do
          let newest ← alter dotted change false newest way
          some (entries.put key (.tables older newest))
      | some _ => none

/-- Assign a value. A dotted key may add to tables of its own kind only, and a
plain one to any other. -/
def assign (path : Path) (value : Toml) (entries : Entries) : Option Entries :=
  entries.alter true
    (fun isDotted table =>
      if isDotted = path.parents.isEmpty || (table.get? path.key).isSome then none
      else some (table.put path.key value))
    false path.parents

/-- Open a table. It may have been named on the way before. -/
def openTable (path : Path) (entries : Entries) : Option Entries :=
  entries.alter false
    (fun _ table =>
      match table.get? path.key with
      | none => some (table.put path.key (.table .header []))
      | some (.table .implied inner) => some (table.put path.key (.table .header inner))
      | some _ => none)
    false path.parents

/-- Open one more of the tables that share a name. -/
def openNext (path : Path) (entries : Entries) : Option Entries :=
  entries.alter false
    (fun _ table =>
      match table.get? path.key with
      | none => some (table.put path.key (.tables [] []))
      | some (.tables older newest) =>
          some (table.put path.key (.tables (older ++ [.table .header newest]) []))
      | some _ => none)
    false path.parents

/-- The table that pairs between braces make. -/
def ofPairs? (pairs : List (Path × Toml)) : Option Entries :=
  pairs.foldlM (fun entries pair => entries.assign pair.1 pair.2) []

/-- Take a statement into a document. Assignments go into the table whose header
came last. -/
def absorb
    (document : List String × Entries)
    (statement : Statement) :
    Option (List String × Entries) :=
  let (current, root) := document
  match statement with
  | .assignment path value => do
      let root ← root.alter false (fun _ table => table.assign path value) false current
      some (current, root)
  | .header path => do
      let root ← root.openTable path
      some (path.keys, root)
  | .listHeader path => do
      let root ← root.openNext path
      some (path.keys, root)

/-- The table that a document describes. -/
def ofStatements? (statements : List Statement) : Option Entries :=
  (statements.foldlM absorb ([], [])).map Prod.snd

end Entries

end DesktopTags.Toml
