import DesktopTags.Text.Hex
import DesktopTags.Toml

namespace DesktopTags.Toml

/-! ## Dates and times -/

/-- A number of exactly `count` digits. -/
def readFixed (count : Nat) (ahead : List Char) : Option (Nat × List Char) :=
  let digits := ahead.take count
  if digits.length = count && digits.all Char.isDigit then
    (Text.digitsValue? 10 digits).map fun value => (value, ahead.drop count)
  else none

/-- The same within bounds. -/
def readWithin (count least greatest : Nat) (ahead : List Char) : Option (Nat × List Char) := do
  let (value, left) ← readFixed count ahead
  if least ≤ value ∧ value ≤ greatest then some (value, left) else none

/-- Pass one character. -/
def pass? (c : Char) : List Char → Option (List Char)
  | d :: rest => if d = c then some rest else none
  | [] => none

def isLeapYear (year : Nat) : Bool :=
  year % 4 = 0 && (year % 100 ≠ 0 || year % 400 = 0)

def daysOf (year month : Nat) : Nat :=
  if month = 2 then if isLeapYear year then 29 else 28
  else if month = 4 || month = 6 || month = 9 || month = 11 then 30
  else 31

/-- Year, month and day, with a hyphen between. -/
def readDate (ahead : List Char) : Option (List Char) := do
  let (year, rest) ← readFixed 4 ahead
  let rest ← pass? '-' rest
  let (month, rest) ← readWithin 2 1 12 rest
  let rest ← pass? '-' rest
  let (_, left) ← readWithin 2 1 (daysOf year month) rest
  some left

/-- Parts of a second, if there are any. -/
def skipSecondParts (ahead : List Char) : List Char :=
  match ahead with
  | '.' :: c :: rest => if c.isDigit then rest.dropWhile Char.isDigit else ahead
  | _ => ahead

/-- Hours, minutes and seconds, with a colon between. A minute may have a leap
second. -/
def readTime (ahead : List Char) : Option (List Char) := do
  let (_, rest) ← readWithin 2 0 23 ahead
  let rest ← pass? ':' rest
  let (_, rest) ← readWithin 2 0 59 rest
  let rest ← pass? ':' rest
  let (_, left) ← readWithin 2 0 60 rest
  some (skipSecondParts left)

/-- The distance from world time, if one is given. -/
def readOffset : List Char → Option (List Char)
  | [] => some []
  | c :: rest =>
      if c = 'Z' || c = 'z' then some rest
      else if c = '+' || c = '-' then do
        let (_, rest) ← readWithin 2 0 23 rest
        let rest ← pass? ':' rest
        let (_, left) ← readWithin 2 0 59 rest
        some left
      else some (c :: rest)

/-- Whether an hour and a colon come next. -/
def timeFollows (ahead : List Char) : Bool :=
  ((readWithin 2 0 23 ahead).bind fun (_, rest) => pass? ':' rest).isSome

/-- What may follow a date: a time behind a letter or a blank, with its distance
from world time. -/
def readTimeOfDay (ahead : List Char) : Option (List Char) :=
  match ahead with
  | c :: rest =>
      if (c = 'T' || c = 't' || c = ' ') && timeFollows rest then
        (readTime rest).bind readOffset
      else some ahead
  | [] => some []

/-- A date, a time, or both. -/
def readMoment (ahead : List Char) : Option (Toml × List Char) :=
  (((readDate ahead).bind readTimeOfDay).or (readTime ahead)).map fun left => (.moment, left)

end DesktopTags.Toml
