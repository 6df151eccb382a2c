import DesktopTags.Text.Hex
import DesktopTags.Toml

namespace DesktopTags.Toml

/-! ## Numbers

Between two digits there may be an underscore. -/

def isDigitOf (base : Nat) (c : Char) : Bool :=
  (Text.hexValue? c).any (· < base)

/-- More digits. Nothing if an underscore is not followed by one. -/
def readMoreDigits (base : Nat) : List Char → Option (List Char × List Char)
  | [] => some ([], [])
  | c :: rest =>
      if isDigitOf base c then
        (readMoreDigits base rest).map fun (digits, left) => (c :: digits, left)
      else if c = '_' then
        match rest with
        | d :: rest =>
            if isDigitOf base d then
              (readMoreDigits base rest).map fun (digits, left) => (d :: digits, left)
            else none
        | [] => none
      else some ([], c :: rest)

/-- One digit or more. -/
def readDigits (base : Nat) : List Char → Option (List Char × List Char)
  | [] => none
  | c :: rest =>
      if isDigitOf base c then
        (readMoreDigits base rest).map fun (digits, left) => (c :: digits, left)
      else none

/-- Decimal digits without a leading zero. -/
def readCount : List Char → Option (List Char × List Char)
  | '0' :: rest => some (['0'], rest)
  | ahead => readDigits 10 ahead

/-- A sign, if there is one; whether it is a minus. -/
def readSign : List Char → Bool × List Char
  | '+' :: rest => (false, rest)
  | '-' :: rest => (true, rest)
  | ahead => (false, ahead)

def valueOf (base : Nat) (digits : List Char) : Nat :=
  (Text.digitsValue? base digits).getD 0

def withSign (negative : Bool) (value : Nat) : Int :=
  if negative then -(value : Int) else value

/-! ### Integers -/

/-- An integer of 64 bits. -/
def ofInt? (value : Int) : Option Toml :=
  if -0x8000000000000000 ≤ value ∧ value < 0x8000000000000000 then some (.integer value)
  else none

def readDecimal (ahead : List Char) : Option (Toml × List Char) := do
  let (negative, rest) := readSign ahead
  let (digits, left) ← readCount rest
  let value ← ofInt? (withSign negative (valueOf 10 digits))
  some (value, left)

/-- An integer in another base, after the letter that names it. -/
def readInBase (base : Nat) (ahead : List Char) : Option (Toml × List Char) := do
  let (digits, left) ← readDigits base ahead
  let value ← ofInt? (valueOf base digits)
  some (value, left)

def readInteger : List Char → Option (Toml × List Char)
  | '0' :: 'x' :: rest => readInBase 16 rest
  | '0' :: 'o' :: rest => readInBase 8 rest
  | '0' :: 'b' :: rest => readInBase 2 rest
  | ahead => readDecimal ahead

/-! ### Fractions -/

/-- Whether `digits` tenfold `power` times is beyond every finite number of double
precision, rounding included. -/
def overflows (digits : List Char) (power : Int) : Bool :=
  let digits := digits.dropWhile (· = '0')
  let magnitude := digits.length + power
  let limit := Nat.pow 2 1024 - Nat.pow 2 970
  if digits.isEmpty || magnitude < 300 then false
  else if 310 < magnitude then true
  else if 0 ≤ power then limit ≤ valueOf 10 digits * Nat.pow 10 power.toNat
  else limit * Nat.pow 10 (-power).toNat ≤ valueOf 10 digits

/-- The power of ten that is written behind a number, if any. -/
def readPower : List Char → Option (Option Int × List Char)
  | [] => some (none, [])
  | c :: rest =>
      if c = 'e' || c = 'E' then do
        let (negative, rest) := readSign rest
        let (digits, left) ← readDigits 10 rest
        some (some (withSign negative (valueOf 10 digits)), left)
      else some (none, c :: rest)

/-- The digits after the point, if there is one. -/
def readPlaces : List Char → Option (Option (List Char) × List Char)
  | '.' :: rest => do
      let (digits, left) ← readDigits 10 rest
      some (some digits, left)
  | ahead => some (none, ahead)

/-- A number with a point or a power, or with both. Too large ones are refused,
too small ones are not. -/
def readFraction (ahead : List Char) : Option (Toml × List Char) := do
  let (negative, rest) := readSign ahead
  let (whole, rest) ← readCount rest
  let (places?, rest) ← readPlaces rest
  let (power?, left) ← readPower rest
  if places?.isNone && power?.isNone then none
  else
    let places := places?.getD []
    if !negative && overflows (whole ++ places) (power?.getD 0 - places.length) then none
    else some (.fraction, left)

/-- Infinity, or no number at all. -/
def readSpecial (ahead : List Char) : Option (Toml × List Char) :=
  match (readSign ahead).2 with
  | 'i' :: 'n' :: 'f' :: left => some (.fraction, left)
  | 'n' :: 'a' :: 'n' :: left => some (.fraction, left)
  | _ => none

def readNumber (ahead : List Char) : Option (Toml × List Char) :=
  ((readFraction ahead).or (readSpecial ahead)).or (readInteger ahead)

end DesktopTags.Toml
