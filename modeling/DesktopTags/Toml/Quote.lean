import DesktopTags.Text.Hex
import DesktopTags.Toml.Layout

namespace DesktopTags.Toml

/-! ## Quoted strings

A string is enclosed by double or by single quotes, one on each side or three.
Between three it may run over several lines. A backslash is special between
double quotes only. -/

/-- How a string is enclosed. -/
structure Quote where
  single : Bool
  block : Bool
deriving DecidableEq

def Quote.mark (quote : Quote) : Char :=
  if quote.single then '\'' else '"'

/-- The character that a one-letter escape stands for. -/
def shortEscape? (c : Char) : Option Char :=
  if c = 'b' then some '\x08'
  else if c = 't' then some '\t'
  else if c = 'n' then some '\n'
  else if c = 'f' then some '\x0c'
  else if c = 'r' then some '\r'
  else if c = '"' then some '"'
  else if c = '\\' then some '\\'
  else none

/-! ### Reading -/

/-- Where in a string a reader is. -/
inductive Place where
  /-- In the text, behind so many quotes in a row. -/
  | text (quotes : Nat)
  /-- Behind a carriage return, which takes a line feed. -/
  | carriage
  /-- Behind a backslash. -/
  | escape
  /-- In the number of a character, with so many digits to come. -/
  | code (missing : Nat) (value : Nat)
  /-- Behind a backslash at the end of a line. The blanks and line ends that follow
  are dropped; `crossed` tells whether a line end was among them. -/
  | gap (crossed : Bool)
  /-- Behind a carriage return in such a gap. -/
  | gapCarriage
deriving DecidableEq

/-- What the next character does to a string. -/
inductive Move where
  /-- Characters are added, and the string goes on. -/
  | add (chars : List Char) (place : Place)
  /-- The string ended with this character, after some that are added. -/
  | close (chars : List Char)
  /-- The string had ended before it. -/
  | closed (chars : List Char)
  | refuse
deriving DecidableEq

namespace Quote

/-- Quotes that turned out to be text. -/
def quotes (quote : Quote) (count : Nat) : List Char :=
  List.replicate count quote.mark

/-- A character of the text behind `count` quotes. One quote closes a line. In a
block three do, and up to two more that stand before them are text. -/
def textMove (quote : Quote) (count : Nat) (c : Char) : Move :=
  if c = quote.mark then
    if !quote.block then .close []
    else if count = 4 then .close (quote.quotes 2)
    else .add [] (.text (count + 1))
  else if 3 ≤ count then .closed (quote.quotes (count - 3))
  else if c = '\\' && !quote.single then .add (quote.quotes count) .escape
  else if isPlain c then .add (quote.quotes count ++ [c]) (.text 0)
  else if quote.block && c = '\n' then .add (quote.quotes count ++ [c]) (.text 0)
  else if quote.block && c = '\r' then .add (quote.quotes count) .carriage
  else .refuse

/-- A character of a gap, as far as it stays one. -/
def gapMove? (c : Char) (crossed : Bool) : Option Move :=
  if isBlank c then some (.add [] (.gap crossed))
  else if c = '\n' then some (.add [] (.gap true))
  else if c = '\r' then some (.add [] .gapCarriage)
  else none

def escapeMove (quote : Quote) (c : Char) : Move :=
  match shortEscape? c with
  | some escaped => .add [escaped] (.text 0)
  | none =>
      if c = 'u' then .add [] (.code 4 0)
      else if c = 'U' then .add [] (.code 8 0)
      else if quote.block then (gapMove? c false).getD .refuse
      else .refuse

/-- One more digit of a number; the last one gives the character. -/
def codeMove (missing value : Nat) (c : Char) : Move :=
  match Text.hexValue? c with
  | none => .refuse
  | some digit =>
      let value := value * 16 + digit
      if 1 < missing then .add [] (.code (missing - 1) value)
      else
        match Text.charOfNat? value with
        | some escaped => .add [escaped] (.text 0)
        | none => .refuse

def move (quote : Quote) (place : Place) (c : Char) : Move :=
  match place with
  | .text count => quote.textMove count c
  | .carriage => if c = '\n' then .add [c] (.text 0) else .refuse
  | .escape => quote.escapeMove c
  | .code missing value => codeMove missing value c
  | .gap crossed =>
      match gapMove? c crossed with
      | some move => move
      | none => if crossed then quote.textMove 0 c else .refuse
  | .gapCarriage => if c = '\n' then .add [] (.gap true) else .refuse

/-- Where the text ends, so must the string. -/
def atEnd? (quote : Quote) (place : Place) : Option (List Char) :=
  match place with
  | .text count => if 3 ≤ count then some (quote.quotes (count - 3)) else none
  | _ => none

/-- Read on from some place in a string to its end. -/
def readFrom (quote : Quote) (place : Place) : List Char → Option (List Char × List Char)
  | [] => (quote.atEnd? place).map fun chars => (chars, [])
  | c :: rest =>
      match quote.move place c with
      | .add chars place =>
          (readFrom quote place rest).map fun (more, left) => (chars ++ more, left)
      | .close chars => some (chars, rest)
      | .closed chars => some (chars, c :: rest)
      | .refuse => none

/-- Read a string after its opening quotes. A line end right behind three quotes
is not part of it. -/
def read (quote : Quote) (ahead : List Char) : Option (List Char × List Char) :=
  if quote.block then quote.readFrom (.text 0) ((newline? ahead).getD ahead)
  else quote.readFrom (.text 0) ahead

end Quote

/-- Read a string in any form. -/
def readString : List Char → Option (List Char × List Char)
  | '"' :: '"' :: '"' :: rest => Quote.read ⟨false, true⟩ rest
  | '"' :: rest => Quote.read ⟨false, false⟩ rest
  | '\'' :: '\'' :: '\'' :: rest => Quote.read ⟨true, true⟩ rest
  | '\'' :: rest => Quote.read ⟨true, false⟩ rest
  | _ => none

/-! ### Writing -/

/-- A character that only an escape can stand for. -/
def isControl (c : Char) : Bool :=
  !isPlain c && c ≠ '\n'

/-- The length of the longest run of a character, behind `behind` of them. -/
def longestRun (c : Char) (behind : Nat) : List Char → Nat
  | [] => behind
  | d :: rest =>
      if d = c then longestRun c (behind + 1) rest
      else max behind (longestRun c 0 rest)

/-- The plainest quotes for a text: those of a line before those of a block, and
double ones before single ones as long as nothing needs an escape. If all quotes
fail, double ones do with escapes. -/
def Quote.forText (text : List Char) : Quote :=
  let double := longestRun '"' 0 text
  let single := longestRun '\'' 0 text
  let control := text.any isControl
  let backslash := text.contains '\\'
  let several := text.contains '\n'
  if !control && !backslash && double = 0 && !several then ⟨false, false⟩
  else if !control && single = 0 && !several then ⟨true, false⟩
  else if !control && !backslash && double ≤ 2 then ⟨false, true⟩
  else if !control && single ≤ 2 then ⟨true, true⟩
  else ⟨false, several⟩

/-- A character by the four digits of its number. -/
def codeEscape (c : Char) : List Char :=
  let digits := (Nat.toDigits 16 c.toNat).map Char.toUpper
  '\\' :: 'u' :: (List.replicate (4 - digits.length) '0' ++ digits)

/-- How a character stands between double quotes. In a block line ends are left as
they are. -/
def escapedChar (block : Bool) (c : Char) : List Char :=
  if c = '\\' then ['\\', '\\']
  else if c = '\t' then ['\\', 't']
  else if c = '\n' then if block then [c] else ['\\', 'n']
  else if c = '\x08' then ['\\', 'b']
  else if c = '\x0c' then ['\\', 'f']
  else if c = '\r' then ['\\', 'r']
  else if isPlain c then [c]
  else codeEscape c

/-- A text between double quotes, behind `count` quotes that stand for themselves.
In a block there may be two of them in a row. -/
def escaped (block : Bool) (count : Nat) : List Char → List Char
  | [] => []
  | c :: rest =>
      if c = '"' then
        if block && count < 2 then c :: escaped block (count + 1) rest
        else '\\' :: c :: escaped block 0 rest
      else escapedChar block c ++ escaped block 0 rest

namespace Quote

/-- The quotes on one side. -/
def fence (quote : Quote) : List Char :=
  quote.quotes (if quote.block then 3 else 1)

/-- A text of several lines starts on a line of its own. -/
def write (quote : Quote) (text : List Char) : List Char :=
  quote.fence
    ++ (if quote.block && text.contains '\n' then ['\n'] else [])
    ++ (if quote.single then text else escaped quote.block 0 text)
    ++ quote.fence

end Quote

/-- A text as a string literal. -/
def writeString (text : List Char) : List Char :=
  (Quote.forText text).write text

end DesktopTags.Toml
