import DesktopTags.Json.Printer
import DesktopTags.Json.Reader

namespace DesktopTags

/-! ## Values stored as JSON -/

/-- How a type is stored: a writer, a reader that may refuse, and the value that
a missing member stands for, if any. -/
structure Codec (α : Type) where
  encode : α → Json
  decode : Json → Option α
  absent : Option α := none

namespace Codec

def toText {α : Type} (codec : Codec α) (value : α) : String :=
  (codec.encode value).compact

def ofText? {α : Type} (codec : Codec α) (text : String) : Option α :=
  (Json.ofText? text).bind codec.decode

/-- Reading what was written gives the value back. -/
def Restores {α : Type} (codec : Codec α) (value : α) : Prop :=
  codec.decode (codec.encode value) = some value

/-! ### Plain values -/

def bool : Codec Bool where
  encode := .bool
  decode
    | .bool value => some value
    | _ => none

def text : Codec String where
  encode := .text
  decode
    | .string value => value
    | _ => none

/-- A natural number below a limit, written without sign, point or exponent. -/
def natBelow (limit : Nat) : Codec Nat where
  encode := .nat
  decode
    | .nat value => if value < limit then some value else none
    | _ => none

/-- A count, an index or a screen's number: 64 bits. -/
def count : Codec Nat :=
  natBelow 0x10000000000000000

/-- A 32-bit number. -/
def word : Codec UInt32 where
  encode value := .nat value.toNat
  decode json := ((natBelow 0x100000000).decode json).map UInt32.ofNat

/-- A type that is stored as another one. -/
def via {α β : Type} (codec : Codec α) (make : α → β) (split : β → α) : Codec β where
  encode value := codec.encode (split value)
  decode json := (codec.decode json).map make
  absent := codec.absent.map make

/-- A value that may be missing: `null`, or no member at all. -/
def optional {α : Type} (codec : Codec α) : Codec (Option α) where
  encode
    | none => .null
    | some value => codec.encode value
  decode
    | .null => some none
    | json => (codec.decode json).map some
  absent := some none

def list {α : Type} (codec : Codec α) : Codec (List α) where
  encode values := .array (values.map codec.encode)
  decode
    | .array items => items.mapM codec.decode
    | _ => none

/-- The same codec, with a value for a missing member. -/
def withDefault {α : Type} (codec : Codec α) (value : α) : Codec α :=
  { codec with absent := some value }

end Codec

/-! ### Records -/

namespace Json

/-- The member of a name: nothing there, or its only value. A repeated name is
refused. -/
def slot? (members : List (Option String × Json)) (name : String) : Option (Option Json) :=
  match members.filter fun entry => entry.1 = some name with
  | [] => some none
  | [(_, value)] => some (some value)
  | _ => none

/-- The fields of a record, in the order of `names`. A record is an object, in
which other names are passed over, or an array of the fields in order. An array
may end early only if `partly` is set. -/
def slots? (names : List String) (partly : Bool) : Json → Option (List (Option Json))
  | .object members =>
      if members.all fun entry => entry.1.isSome then names.mapM (slot? members) else none
  | .array items =>
      if items.length = names.length || (partly && items.length < names.length) then
        some (items.map some ++ List.replicate (names.length - items.length) none)
      else none
  | _ => none

end Json

/-- The fields of a record type, first to last. -/
structure Fields (α : Type) where
  names : List String
  write : α → List Json
  read : List (Option Json) → Option α

namespace Fields

def nil : Fields Unit where
  names := []
  write _ := []
  read
    | [] => some ()
    | _ => none

/-- A field in front of the others. -/
def cons
    {α β : Type}
    (name : String)
    (codec : Codec α)
    (rest : Fields β) :
    Fields (α × β) where
  names := name :: rest.names
  write value := codec.encode value.1 :: rest.write value.2
  read
    | [] => none
    | slot :: slots => do
        let first ← match slot with
          | some json => codec.decode json
          | none => codec.absent
        let others ← rest.read slots
        some (first, others)

/-- A record type stored by its fields. -/
def codec
    {α β : Type}
    (fields : Fields α)
    (make : α → β)
    (split : β → α)
    (partly : Bool := false) :
    Codec β where
  encode value := .record (fields.names.zip (fields.write (split value)))
  decode json := ((json.slots? fields.names partly).bind fields.read).map make

end Fields

/-! ### Alternatives -/

namespace Json

/-- An alternative without a payload, written by its name alone. -/
def alternative (name : String) : Json :=
  .text name

/-- An alternative with a payload: an object with the name as its only member. -/
def alternativeOf (name : String) (payload : Json) : Json :=
  .record [(name, payload)]

/-- The name of an alternative, and its payload if one is written. -/
def alternative? : Json → Option (String × Option Json)
  | .string (some name) => some (name, none)
  | .object [(some name, payload)] => some (name, some payload)
  | _ => none

/-- An alternative that takes no payload may be written with `null`. -/
def isVoid : Option Json → Bool
  | none => true
  | some .null => true
  | some _ => false

end Json

end DesktopTags
