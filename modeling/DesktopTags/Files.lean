namespace DesktopTags

/-! ## Files and the paths to them -/

/-- The names on the way from the root of the disk. -/
abbrev Location : Type := List String

/-- What can be found at a location. -/
inductive Node where
  | file (bytes : ByteArray)
  | directory

/-- Why a file cannot be read or created. -/
inductive FileFault where
  | missing
  /-- A file stands where a directory is needed. -/
  | notDirectory
  /-- A directory stands where a file is needed. -/
  | isDirectory
  | alreadyThere
  | nameTooLong
  /-- A file cannot take all that is written to it. -/
  | noRoom
  | notText
deriving DecidableEq

def FileFault.message : FileFault → String
  | .missing => "No such file or directory (os error 2)"
  | .notDirectory => "Not a directory (os error 20)"
  | .isDirectory => "Is a directory (os error 21)"
  | .alreadyThere => "File exists (os error 17)"
  | .nameTooLong => "File name too long (os error 36)"
  | .noRoom => "No space left on device (os error 28)"
  | .notText => "stream did not contain valid UTF-8"

/-- Where a name leads from a directory. Two dots lead back, one dot nowhere. -/
def Location.enter (here : Location) (name : String) : Location :=
  if name = "" || name = "." then here
  else if name = ".." then here.dropLast
  else here ++ [name]

/-- Everything there is on a disk, by location, and where relative paths start. There are no
links, and everybody may do everything. -/
structure Files where
  nodes : List (Location × Node) := []
  workplace : Location := []
  /-- How many bytes a file can hold at a location, unless it can hold any number. -/
  room : Location → Option Nat := fun _ => none

namespace Files

/-! ### What lies where -/

/-- What is at a location. The directories that others lie in need no entry. -/
def nodeAt (files : Files) (location : Location) : Option Node :=
  match files.nodes.find? fun entry => entry.1 = location with
  | some entry => some entry.2
  | none =>
      let onTheWay :=
        location.isPrefixOf files.workplace
          || files.nodes.any fun entry => location.isPrefixOf entry.1
      if onTheWay then some .directory else none

/-- Place a node, in place of what was there. -/
def put (files : Files) (location : Location) (node : Node) : Files :=
  { files with
    nodes := (location, node) :: files.nodes.filter fun entry => entry.1 ≠ location }

/-! ### Following a path -/

/-- The longest name a directory can hold, in bytes. -/
def nameLimit : Nat := 255

/-- The longest path that can be looked up, in bytes. -/
def pathLimit : Nat := 4095

/-- The names between the slashes of a path. -/
def namesOf (path : String) : List String :=
  (path.toList.splitOn '/').map String.ofList

/-- The location a path starts from. -/
def startOf (files : Files) (path : String) : Location :=
  if path.toList.head? = some '/' then [] else files.workplace

/-- The location a path means, whatever is on the way. -/
def locationOf (files : Files) (path : String) : Location :=
  (namesOf path).foldl Location.enter (files.startOf path)

/-- Follow names from a location. All but the last have to lead to directories. -/
def follow (files : Files) (here : Location) : List String → Except FileFault Location
  | [] => .ok here
  | name :: rest =>
      match files.nodeAt here with
      | none => .error .missing
      | some (.file _) => .error .notDirectory
      | some .directory =>
          if nameLimit < name.utf8ByteSize then .error .nameTooLong
          else files.follow (here.enter name) rest

/-- The location a path leads to; there need not be anything yet. -/
def locate (files : Files) (path : String) : Except FileFault Location :=
  if path = "" then .error .missing
  else if pathLimit < path.utf8ByteSize then .error .nameTooLong
  else files.follow (files.startOf path) (namesOf path)

/-- What a path leads to. -/
def find (files : Files) (path : String) : Except FileFault Node :=
  match files.locate path with
  | .error fault => .error fault
  | .ok location =>
      match files.nodeAt location with
      | some node => .ok node
      | none => .error .missing

/-! ### Reading -/

/-- The text of a file. -/
def readText (files : Files) (path : String) : Except FileFault String :=
  match files.find path with
  | .error fault => .error fault
  | .ok .directory => .error .isDirectory
  | .ok (.file bytes) =>
      match String.fromUTF8? bytes with
      | some text => .ok text
      | none => .error .notText

/-! ### Creating and writing -/

/-- What came of an attempt to change the files, and the files with what was done. -/
structure Attempt where
  result : Except FileFault Unit
  files : Files

/-- Go on from an attempt unless it failed. -/
def Attempt.andThen (attempt : Attempt) (next : Files → Attempt) : Attempt :=
  match attempt.result with
  | .error _ => attempt
  | .ok () => next attempt.files

/-- Create a file, or empty the one that is there, and tell where it lies. -/
def create (files : Files) (path : String) : Except FileFault (Location × Files) :=
  match files.locate path with
  | .error fault => .error fault
  | .ok location =>
      match files.nodeAt location with
      | some .directory => .error .isDirectory
      | _ => .ok (location, files.put location (.file .empty))

/-- The bytes of the file at a location. -/
def bytesAt (files : Files) (location : Location) : ByteArray :=
  match files.nodeAt location with
  | some (.file bytes) => bytes
  | _ => .empty

/-- How many more bytes a file takes out of so many. -/
def roomFor (files : Files) (location : Location) (count : Nat) : Nat :=
  match files.room location with
  | none => count
  | some limit => min count (limit - (files.bytesAt location).size)

/-- Put bytes behind those of a file. If there is no room for all of them, as many as there is
room for stay. -/
def append (files : Files) (location : Location) (more : ByteArray) : Attempt :=
  let taken := files.roomFor location more.size
  ⟨if taken < more.size then .error .noRoom else .ok (),
    files.put location (.file (files.bytesAt location ++ more.extract 0 taken))⟩

/-! ### Making directories -/

/-- Make a location a directory unless something is there. -/
def provide (files : Files) (location : Location) : Files :=
  match files.nodeAt location with
  | some _ => files
  | none => files.put location .directory

/-- Make the directory that names lead to, and every one on the way that is
missing. What was made stays, also when a later one cannot be made. -/
def makeFollowing (files : Files) (here : Location) : List String → Attempt
  | [] =>
      match files.nodeAt here with
      | some (.file _) => ⟨.error .alreadyThere, files⟩
      | _ => ⟨.ok (), files.provide here⟩
  | name :: rest =>
      match files.nodeAt here with
      | some (.file _) => ⟨.error .notDirectory, files⟩
      | _ =>
          if nameLimit < name.utf8ByteSize then ⟨.error .nameTooLong, files.provide here⟩
          else (files.provide here).makeFollowing (here.enter name) rest

/-- Make a directory unless there is one, and every one on the way to it. -/
def makeDirectories (files : Files) (path : String) : Attempt :=
  if pathLimit < path.utf8ByteSize then ⟨.error .nameTooLong, files⟩
  else files.makeFollowing (files.startOf path) (namesOf path)

/-- The files with a directory that was made unless there is one. -/
def makeDirectory (files : Files) (path : String) : Except FileFault Files :=
  let made := files.makeDirectories path
  made.result.map fun _ => made.files

end Files

end DesktopTags
