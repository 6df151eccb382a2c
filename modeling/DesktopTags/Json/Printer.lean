import DesktopTags.Handle
import DesktopTags.Json

namespace DesktopTags.Json

/-! ## Writing JSON -/

/-- The four hexadecimal digits of a control character. -/
private def fourDigits (n : Nat) : List Char :=
  let digits := Nat.toDigits 16 n
  List.replicate (4 - digits.length) '0' ++ digits

/-- How one character stands in a string literal. Only quotes, backslashes and
control characters are escaped. -/
def escapedChar (c : Char) : List Char :=
  if c = '"' then ['\\', '"']
  else if c = '\\' then ['\\', '\\']
  else if c = '\x08' then ['\\', 'b']
  else if c = '\x0c' then ['\\', 'f']
  else if c = '\n' then ['\\', 'n']
  else if c = '\r' then ['\\', 'r']
  else if c = '\t' then ['\\', 't']
  else if c.toNat < 0x20 then '\\' :: 'u' :: fourDigits c.toNat
  else [c]

def literal (value : String) : List Char :=
  '"' :: (value.toList.flatMap escapedChar ++ ['"'])

/-- A literal that denotes no text is written as half of a surrogate pair. -/
def literalOrHalf : Option String → List Char
  | some value => literal value
  | none => "\"\\ud800\"".toList

def scalarChars : Json → List Char
  | .bool true => "true".toList
  | .bool false => "false".toList
  | .nat value => (toString value).toList
  | .signed => "-1".toList
  | .string value => literalOrHalf value
  | _ => "null".toList

/-- Parts between brackets, with commas. -/
def bracketed (opening closing : Char) (parts : List (List Char)) : List Char :=
  opening :: ([','].intercalate parts ++ [closing])

mutual

/-- A value in one line, without any white space. -/
def compactChars : Json → List Char
  | .array items => bracketed '[' ']' (compactItems items)
  | .object members => bracketed '{' '}' (compactMembers members)
  | scalar => scalarChars scalar

def compactItems : List Json → List (List Char)
  | [] => []
  | item :: rest => compactChars item :: compactItems rest

def compactMembers : List (Option String × Json) → List (List Char)
  | [] => []
  | (name, value) :: rest =>
      (literalOrHalf name ++ ':' :: compactChars value) :: compactMembers rest

end

/-- A new line, indented by two blanks for each level. -/
def newLine (depth : Nat) : List Char :=
  '\n' :: List.replicate (2 * depth) ' '

/-- Parts between brackets, each on a line of its own. -/
def stacked (depth : Nat) (opening closing : Char) (parts : List (List Char)) : List Char :=
  if parts.isEmpty then [opening, closing]
  else
    opening :: newLine (depth + 1)
      ++ (',' :: newLine (depth + 1)).intercalate parts
      ++ newLine depth ++ [closing]

mutual

/-- A value laid out over several lines. -/
def prettyChars (depth : Nat) : Json → List Char
  | .array items => stacked depth '[' ']' (prettyItems (depth + 1) items)
  | .object members => stacked depth '{' '}' (prettyMembers (depth + 1) members)
  | scalar => scalarChars scalar

def prettyItems (depth : Nat) : List Json → List (List Char)
  | [] => []
  | item :: rest => prettyChars depth item :: prettyItems depth rest

def prettyMembers (depth : Nat) : List (Option String × Json) → List (List Char)
  | [] => []
  | (name, value) :: rest =>
      (literalOrHalf name ++ ':' :: ' ' :: prettyChars depth value)
        :: prettyMembers depth rest

end

def compact (value : Json) : String :=
  String.ofList value.compactChars

def pretty (value : Json) : String :=
  String.ofList (value.prettyChars 0)

end DesktopTags.Json
