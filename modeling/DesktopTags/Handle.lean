namespace DesktopTags

/-! ## Names of things on a desktop -/

/-- A managed window, known by the number its backend gave it. -/
structure ClientId where
  number : UInt32
deriving DecidableEq

/-- A physical output, numbered from 0 in order of arrival. -/
structure ScreenId where
  number : Nat
deriving DecidableEq

/-- A tag, named by the slot it lives in and the generation of that slot.
Once the tag is destroyed the slot moves to the next generation, so the name
resolves to nothing, even when the slot has a new occupant. -/
structure TagRef where
  slot : Nat
  generation : UInt32
deriving DecidableEq

/-! ## Their texts -/

/-- Lower-case hexadecimal digits, without leading zeros. -/
def hexDigits (n : Nat) : String :=
  String.ofList (Nat.toDigits 16 n)

/-- The text people see for a client. -/
def ClientId.label (client : ClientId) : String :=
  "0x" ++ hexDigits client.number.toNat

/-- The text people see for a screen. -/
def ScreenId.label (screen : ScreenId) : String :=
  "screen " ++ toString screen.number

/-- A client spelled out for a log line. -/
def ClientId.describe (client : ClientId) : String :=
  "ClientHandle(" ++ toString client.number.toNat ++ ")"

/-- A screen spelled out for a log line. -/
def ScreenId.describe (screen : ScreenId) : String :=
  "ScreenId(" ++ toString screen.number ++ ")"

/-- A tag's name spelled out for a log line or an error message. -/
def TagRef.describe (tag : TagRef) : String :=
  "TagId \x7b index: " ++ toString tag.slot ++ ", generation: "
    ++ toString tag.generation.toNat ++ " \x7d"

end DesktopTags
