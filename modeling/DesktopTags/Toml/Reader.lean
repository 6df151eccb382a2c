import DesktopTags.Toml.Moment
import DesktopTags.Toml.Number
import DesktopTags.Toml.Quote
import DesktopTags.Toml.Table

namespace DesktopTags.Toml

/-! ## Reading TOML

Each reader takes the characters ahead and returns what it read with the
characters that are left. -/

/-! ### Keys -/

def isBareKeyChar (c : Char) : Bool :=
  c.isAlphanum || c = '-' || c = '_'

/-- A key: bare, or a quoted string of one line. -/
def readKey (ahead : List Char) : Option (String × List Char) :=
  match ahead with
  | '"' :: rest => (Quote.read ⟨false, false⟩ rest).map fun (key, left) => (.ofList key, left)
  | '\'' :: rest => (Quote.read ⟨true, false⟩ rest).map fun (key, left) => (.ofList key, left)
  | _ =>
      let key := ahead.takeWhile isBareKeyChar
      if key.isEmpty then none else some (.ofList key, ahead.dropWhile isBareKeyChar)

/-- Keys with points between, and blanks anywhere around them. The first argument
is how many there may be at most. -/
def readPath : Nat → List Char → Option (Path × List Char)
  | 0, _ => none
  | limit + 1, ahead => do
      let (key, rest) ← readKey (skipBlanks ahead)
      match skipBlanks rest with
      | '.' :: rest => do
          let (path, left) ← readPath limit rest
          some (⟨key :: path.parents, path.key⟩, left)
      | left => some (⟨[], key⟩, left)

/-- Longer paths and deeper nesting are refused. -/
def depthLimit : Nat := 79

/-! ### Values -/

/-- Read a fixed word. -/
def readWord (word : List Char) (value : Toml) (ahead : List Char) :
    Option (Toml × List Char) :=
  if word.isPrefixOf ahead then some (value, ahead.drop word.length) else none

/-- A value without brackets; its first character tells its kind. -/
def readScalar (ahead : List Char) : Option (Toml × List Char) :=
  match ahead with
  | [] => none
  | c :: _ =>
      if c = '"' || c = '\'' then
        (readString ahead).map fun (text, left) => (.string (.ofList text), left)
      else if c = 't' then readWord "true".toList (.boolean true) ahead
      else if c = 'f' then readWord "false".toList (.boolean false) ahead
      else if c.isDigit || c = '+' || c = '-' then (readMoment ahead).or (readNumber ahead)
      else if c = 'i' || c = 'n' then readSpecial ahead
      else none

section Collections

variable (readItem : List Char → Option (Toml × List Char))

/-- The items of an array up to its closing bracket. There may be a comma behind
the last one. The first argument bounds their number and is never reached when it
is above the number of characters. -/
def readItems : Nat → List Char → Option (List Toml × List Char)
  | 0, _ => none
  | fuel + 1, ahead =>
      match skipLines false ahead with
      | ']' :: left => some ([], left)
      | ahead => do
          let (item, rest) ← readItem ahead
          match skipLines false rest with
          | ',' :: rest => do
              let (items, left) ← readItems fuel rest
              some (item :: items, left)
          | ']' :: left => some ([item], left)
          | _ => none

/-- A path, an equals sign and a value. -/
def readPair (ahead : List Char) : Option ((Path × Toml) × List Char) := do
  let (path, rest) ← readPath depthLimit ahead
  match rest with
  | '=' :: rest => do
      let (value, left) ← readItem (skipBlanks rest)
      some ((path, value), left)
  | _ => none

/-- One pair or more up to the closing brace, in one line and with commas
between. -/
def readPairs : Nat → List Char → Option (List (Path × Toml) × List Char)
  | 0, _ => none
  | fuel + 1, ahead => do
      let (pair, rest) ← readPair readItem ahead
      match skipBlanks rest with
      | ',' :: rest => do
          let (pairs, left) ← readPairs fuel rest
          some (pair :: pairs, left)
      | '}' :: left => some ([pair], left)
      | _ => none

def readInlineTable (ahead : List Char) : Option (Toml × List Char) :=
  match skipBlanks ahead with
  | '}' :: left => some (.table .inline [], left)
  | _ => do
      let (pairs, left) ← readPairs readItem (ahead.length + 1) ahead
      let entries ← Entries.ofPairs? pairs
      some (.table .inline entries, left)

end Collections

/-- Read a value. The first argument is how deep it may be nested. -/
def readValue : Nat → List Char → Option (Toml × List Char)
  | 0, ahead => readScalar ahead
  | depth + 1, ahead =>
      match ahead with
      | '[' :: rest =>
          (readItems (readValue depth) (rest.length + 1) rest).map
            fun (items, left) => (.array items, left)
      | '{' :: rest => readInlineTable (readValue depth) rest
      | _ => readScalar ahead

/-! ### Documents -/

/-- A header after its opening brackets, with its closing ones. -/
def readHeader (closing : List Char) (ahead : List Char) : Option (Path × List Char) := do
  let (path, rest) ← readPath depthLimit ahead
  if closing.isPrefixOf rest then some (path, rest.drop closing.length) else none

def readStatement (ahead : List Char) : Option (Statement × List Char) :=
  match ahead with
  | '[' :: '[' :: rest =>
      (readHeader [']', ']'] rest).map fun (path, left) => (.listHeader path, left)
  | '[' :: rest => (readHeader [']'] rest).map fun (path, left) => (.header path, left)
  | _ =>
      (readPair (readValue depthLimit) ahead).map
        fun ((path, value), left) => (.assignment path value, left)

/-- Whether a line says nothing: it is over, or a comment begins. -/
def isSilent (ahead : List Char) : Bool :=
  match ahead with
  | c :: _ => c = '#' || c = '\n' || c = '\r'
  | [] => true

/-- Read line by line. The first argument bounds the number of lines and is never
reached when it is above the number of characters. -/
def readStatements : Nat → List Char → Option (List Statement)
  | 0, _ => none
  | fuel + 1, ahead =>
      match skipBlanks ahead with
      | [] => some []
      | ahead =>
          if isSilent ahead then (lineEnd? ahead).bind (readStatements fuel)
          else do
            let (statement, rest) ← readStatement ahead
            let left ← lineEnd? rest
            let statements ← readStatements fuel left
            some (statement :: statements)

/-- A mark of the byte order may stand in front. -/
def skipByteOrderMark : List Char → List Char
  | '\ufeff' :: rest => rest
  | text => text

/-- The table that a text describes. -/
def ofChars? (text : List Char) : Option Entries :=
  let text := skipByteOrderMark text
  (readStatements (text.length + 1) text).bind Entries.ofStatements?

def ofText? (text : String) : Option Entries :=
  ofChars? text.toList

end DesktopTags.Toml
