import DesktopTags.Json
import DesktopTags.Text.Hex

namespace DesktopTags.Json

/-! ## Reading JSON

Each reader takes the characters ahead and returns what it read with the
characters that are left. -/

def isSpace (c : Char) : Bool :=
  c = ' ' || c = '\t' || c = '\n' || c = '\r'

def skipSpace (ahead : List Char) : List Char :=
  ahead.dropWhile isSpace

/-! ### Strings -/

/-- The character that a one-letter escape stands for. -/
def shortEscape? (c : Char) : Option Char :=
  if c = '"' then some '"'
  else if c = '\\' then some '\\'
  else if c = '/' then some '/'
  else if c = 'b' then some '\x08'
  else if c = 'f' then some '\x0c'
  else if c = 'n' then some '\n'
  else if c = 'r' then some '\r'
  else if c = 't' then some '\t'
  else none

/-- Read up to the closing quote, as code points and surrogate halves. -/
def readUnits : List Char → Option (List Nat × List Char)
  | [] => none
  | c :: ahead =>
      if c = '"' then some ([], ahead)
      else if c = '\\' then
        match ahead with
        | 'u' :: d₁ :: d₂ :: d₃ :: d₄ :: rest => do
            let unit ← Text.digitsValue? 16 [d₁, d₂, d₃, d₄]
            let (units, left) ← readUnits rest
            some (unit :: units, left)
        | e :: rest => do
            let escaped ← shortEscape? e
            let (units, left) ← readUnits rest
            some (escaped.toNat :: units, left)
        | [] => none
      else if c.toNat < 0x20 then none
      else do
        let (units, left) ← readUnits ahead
        some (c.toNat :: units, left)

def isHighHalf (unit : Nat) : Bool :=
  0xd800 ≤ unit && unit < 0xdc00

def isLowHalf (unit : Nat) : Bool :=
  0xdc00 ≤ unit && unit < 0xe000

/-- Join the halves of surrogate pairs; a half that is left alone denotes
nothing. -/
def joinHalves : List Nat → Option (List Char)
  | [] => some []
  | [unit] => (Text.charOfNat? unit).map fun c => [c]
  | unit :: next :: rest =>
      if isHighHalf unit then
        if isLowHalf next then
          (joinHalves rest).map
            (Char.ofNat (0x10000 + (unit - 0xd800) * 0x400 + (next - 0xdc00)) :: ·)
        else none
      else do
        let c ← Text.charOfNat? unit
        (joinHalves (next :: rest)).map (c :: ·)

/-- Read the rest of a string literal after its opening quote. -/
def readString (ahead : List Char) : Option (Option String × List Char) := do
  let (units, left) ← readUnits ahead
  some ((joinHalves units).map String.ofList, left)

/-! ### Numbers -/

/-- One digit or more. -/
def readDigits (ahead : List Char) : Option (List Char × List Char) :=
  let digits := ahead.takeWhile Char.isDigit
  if digits.isEmpty then none else some (digits, ahead.dropWhile Char.isDigit)

/-- A numeral without its sign: no leading zero, and a digit after a point and in
an exponent. -/
def readUnsigned (ahead : List Char) : Option (Json × List Char) := do
  let (digits, left) ← readDigits ahead
  if digits.head? = some '0' && digits.length > 1 then none
  let (broken, left) ← match left with
    | '.' :: rest => do
        let (_, left) ← readDigits rest
        some (true, left)
    | left => some (false, left)
  let (scaled, left) ← match left with
    | c :: rest =>
        if c = 'e' || c = 'E' then do
          let rest := match rest with
            | s :: tail => if s = '+' || s = '-' then tail else rest
            | [] => []
          let (_, left) ← readDigits rest
          some (true, left)
        else some (false, left)
    | [] => some (false, [])
  if broken || scaled then some (.signed, left)
  else do
    let value ← Text.digitsValue? 10 digits
    some (.nat value, left)

def readNumber (ahead : List Char) : Option (Json × List Char) :=
  match ahead with
  | '-' :: rest => (readUnsigned rest).map fun (_, left) => (.signed, left)
  | _ => readUnsigned ahead

/-! ### Values -/

/-- Read a fixed word. -/
def readWord (word : List Char) (value : Json) (ahead : List Char) :
    Option (Json × List Char) :=
  if word.isPrefixOf ahead then some (value, ahead.drop word.length) else none

/-- Read a name, a colon and the white space between. -/
def readName (ahead : List Char) : Option (Option String × List Char) :=
  match skipSpace ahead with
  | '"' :: rest => do
      let (name, left) ← readString rest
      match skipSpace left with
      | ':' :: left => some (name, left)
      | _ => none
  | _ => none

mutual

/-- Read one value. The first argument bounds the nesting and is never reached
when it is twice the number of characters. -/
def readValue : Nat → List Char → Option (Json × List Char)
  | 0, _ => none
  | fuel + 1, ahead =>
      match skipSpace ahead with
      | [] => none
      | c :: rest =>
          if c = '"' then (readString rest).map fun (text, left) => (.string text, left)
          else if c = '[' then
            match skipSpace rest with
            | ']' :: left => some (.array [], left)
            | _ => (readItems fuel rest).map fun (items, left) => (.array items, left)
          else if c = '{' then
            match skipSpace rest with
            | '}' :: left => some (.object [], left)
            | _ => (readMembers fuel rest).map fun (members, left) => (.object members, left)
          else if c = 'n' then readWord "ull".toList .null rest
          else if c = 't' then readWord "rue".toList (.bool true) rest
          else if c = 'f' then readWord "alse".toList (.bool false) rest
          else readNumber (c :: rest)

/-- Read one item or more, up to the closing bracket. -/
def readItems : Nat → List Char → Option (List Json × List Char)
  | 0, _ => none
  | fuel + 1, ahead => do
      let (item, rest) ← readValue fuel ahead
      match skipSpace rest with
      | ',' :: rest => do
          let (items, left) ← readItems fuel rest
          some (item :: items, left)
      | ']' :: left => some ([item], left)
      | _ => none

/-- Read one member or more, up to the closing brace. -/
def readMembers : Nat → List Char → Option (List (Option String × Json) × List Char)
  | 0, _ => none
  | fuel + 1, ahead => do
      let (name, rest) ← readName ahead
      let (value, rest) ← readValue fuel rest
      match skipSpace rest with
      | ',' :: rest => do
          let (members, left) ← readMembers fuel rest
          some ((name, value) :: members, left)
      | '}' :: left => some ([(name, value)], left)
      | _ => none

end

/-- The value of a JSON text; nothing may follow it but white space. -/
def ofChars? (text : List Char) : Option Json := do
  let (value, left) ← readValue (2 * text.length + 2) text
  if (skipSpace left).isEmpty then some value else none

def ofText? (text : String) : Option Json :=
  ofChars? text.toList

end DesktopTags.Json
