import DesktopTags.Fault
import DesktopTags.Tag

namespace DesktopTags

/-! ## The arena that owns every live tag

Each tag carries a count of the references that keep it alive. Creating a tag
hands out the first one as a handle. Outside callers take more handles with
`hold` and give them back with `releaseHandle`; the registry and the membership
edges use `acquire` and `release`. The release that brings the count to zero
destroys the tag. -/

/-- A tag in its slot, with all references to it and the part of them that was
handed out. -/
structure Occupant where
  tag : Tag
  refs : Nat
  handles : Nat
deriving DecidableEq

/-- A place for one tag. The generation counts the tags destroyed here, modulo
2 ^ 32. -/
structure Slot where
  generation : UInt32
  occupant : Option Occupant
deriving DecidableEq

/-- All slots ever made, and a stack of the vacant ones, the last one freed on
top. -/
structure Arena where
  slots : List Slot := []
  free : List Nat := []
deriving DecidableEq

namespace Arena

/-- What lives in the slot of `tag`, provided it is of the right generation. -/
def occupant? (arena : Arena) (tag : TagRef) : Option Occupant :=
  arena.slots[tag.slot]?.bind fun slot =>
    if slot.generation = tag.generation then slot.occupant else none

/-- A tag by its name; nothing once it has been destroyed. -/
def get? (arena : Arena) (tag : TagRef) : Option Tag :=
  (arena.occupant? tag).map Occupant.tag

def contains (arena : Arena) (tag : TagRef) : Bool :=
  (arena.occupant? tag).isSome

/-- How many references keep a tag alive; none if it is gone. -/
def refs (arena : Arena) (tag : TagRef) : Nat :=
  (arena.occupant? tag).elim 0 Occupant.refs

/-- How many of the references are held by outside callers. -/
def handles (arena : Arena) (tag : TagRef) : Nat :=
  (arena.occupant? tag).elim 0 Occupant.handles

/-- The live tags in slot order, each with its name. -/
def toList (arena : Arena) : List (TagRef × Tag) :=
  arena.slots.zipIdx.filterMap fun (slot, index) =>
    slot.occupant.map fun occupant => (⟨index, slot.generation⟩, occupant.tag)

/-- The names of the live tags in slot order. -/
def refList (arena : Arena) : List TagRef :=
  arena.toList.map Prod.fst

def size (arena : Arena) : Nat :=
  arena.slots.countP fun slot => slot.occupant.isSome

def isEmpty (arena : Arena) : Bool :=
  arena.size = 0

/-- Replace the occupant of a slot. -/
def put (arena : Arena) (slot : Nat) (occupant : Option Occupant) : Arena :=
  { arena with slots := arena.slots.modify slot fun old => { old with occupant } }

/-- Store a tag, in the slot freed last or in a new one. The caller holds the
first reference. -/
def insert (arena : Arena) (tag : Tag) : TagRef × Arena :=
  let occupant : Occupant := ⟨tag, 1, 1⟩
  match arena.free with
  | index :: free =>
      (⟨index, (arena.slots[index]?.map Slot.generation).getD 0⟩,
        { arena.put index (some occupant) with free })
  | [] =>
      (⟨arena.slots.length, 0⟩,
        { arena with slots := arena.slots ++ [⟨0, some occupant⟩] })

/-- Change the occupant a tag's name resolves to. -/
def update (arena : Arena) (tag : TagRef) (change : Occupant → Occupant) :
    Except Fault Arena :=
  match arena.occupant? tag with
  | none => .error (.unknownTag tag)
  | some occupant => .ok (arena.put tag.slot (some (change occupant)))

/-- Take one more handle. -/
def hold (arena : Arena) (tag : TagRef) : Except Fault Arena :=
  arena.update tag fun occupant =>
    { occupant with refs := occupant.refs + 1, handles := occupant.handles + 1 }

/-- Take one more reference that is not a handle. -/
def acquire (arena : Arena) (tag : TagRef) : Except Fault Arena :=
  arena.update tag fun occupant => { occupant with refs := occupant.refs + 1 }

/-- Empty a slot for good: it moves to its next generation and onto the stack. -/
def vacate (arena : Arena) (slot : Nat) : Arena :=
  { slots := arena.slots.modify slot fun old => ⟨old.generation + 1, none⟩
    free := slot :: arena.free }

/-- Drop one reference. If it was the last, the tag is destroyed and returned. A
count that is zero already cannot drop, so that release is refused. -/
def release (arena : Arena) (tag : TagRef) : Except Fault (Option Tag × Arena) :=
  match arena.occupant? tag with
  | none => .error (.unknownTag tag)
  | some occupant =>
      if occupant.refs = 0 then
        .error (.notHeld tag)
      else if occupant.refs = 1 then
        .ok (some occupant.tag, arena.vacate tag.slot)
      else
        .ok (none, arena.put tag.slot (some { occupant with refs := occupant.refs - 1 }))

/-- Give back a handle. -/
def releaseHandle (arena : Arena) (tag : TagRef) : Except Fault (Option Tag × Arena) :=
  match arena.occupant? tag with
  | none => .error (.unknownTag tag)
  | some occupant =>
      if occupant.handles = 0 then .error (.notHeld tag)
      else
        (arena.put tag.slot
          (some { occupant with handles := occupant.handles - 1 })).release tag

end Arena

end DesktopTags
