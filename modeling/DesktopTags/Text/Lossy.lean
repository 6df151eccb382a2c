import DesktopTags.Text.Hex

namespace DesktopTags.Text

/-! ## Bytes that may be no text

UTF-8 gives each character one to four bytes. The first tells how many follow, and
in what range the second lies. -/

/-- A character of which some bytes are still to come: how many, the range of the
next one, and the value so far. -/
structure Unfinished where
  missing : Nat
  least : Nat
  greatest : Nat
  value : Nat
deriving DecidableEq

/-- What a first byte begins, if it can be one and is no character by itself. -/
def Unfinished.ofFirst? (byte : Nat) : Option Unfinished :=
  if 0xc2 ≤ byte && byte ≤ 0xdf then some ⟨1, 0x80, 0xbf, byte - 0xc0⟩
  else if byte = 0xe0 then some ⟨2, 0xa0, 0xbf, 0⟩
  else if byte = 0xed then some ⟨2, 0x80, 0x9f, 0xd⟩
  else if 0xe1 ≤ byte && byte ≤ 0xef then some ⟨2, 0x80, 0xbf, byte - 0xe0⟩
  else if byte = 0xf0 then some ⟨3, 0x90, 0xbf, 0⟩
  else if 0xf1 ≤ byte && byte ≤ 0xf3 then some ⟨3, 0x80, 0xbf, byte - 0xf0⟩
  else if byte = 0xf4 then some ⟨3, 0x80, 0x8f, 4⟩
  else none

/-- What stands for bytes that form no character. -/
def replacement : Char := '\ufffd'

/-- Read a byte that begins a character. -/
def beginChar (byte : Nat) : List Char × Option Unfinished :=
  if byte < 0x80 then ([Char.ofNat byte], none)
  else
    match Unfinished.ofFirst? byte with
    | some unfinished => ([], some unfinished)
    | none => ([replacement], none)

/-- Read bytes, each beginning of a character that breaks off replaced as one. -/
def lossyChars (unfinished? : Option Unfinished) : List Nat → List Char
  | [] => if unfinished?.isSome then [replacement] else []
  | byte :: rest =>
      match unfinished? with
      | none =>
          let (chars, unfinished?) := beginChar byte
          chars ++ lossyChars unfinished? rest
      | some ⟨missing, least, greatest, value⟩ =>
          if least ≤ byte && byte ≤ greatest then
            let value := value * 0x40 + (byte - 0x80)
            if missing ≤ 1 then Char.ofNat value :: lossyChars none rest
            else lossyChars (some ⟨missing - 1, 0x80, 0xbf, value⟩) rest
          else
            let (chars, unfinished?) := beginChar byte
            replacement :: (chars ++ lossyChars unfinished? rest)

/-- The text that bytes show, as far as they show one. -/
def lossy (bytes : ByteArray) : String :=
  String.ofList (lossyChars none (bytes.toList.map UInt8.toNat))

end DesktopTags.Text
