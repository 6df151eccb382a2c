import DesktopTags.Files
import Mathlib.Logic.Basic
import Mathlib.Tactic.SplitIfs

/-!
# Written files

A node that is placed stays apart from all others, and paths lead where they led. What is
written in parts comes to what is written at once, whether there is room for it or not:
`append_andThen_append`.
-/

namespace DesktopTags.Files

variable {files : Files} {location : Location}

/-! ## A file in its place -/

/-- Whether a file can hold so many bytes. -/
def HasRoom (files : Files) (location : Location) (count : Nat) : Prop :=
  ∀ limit, files.room location = some limit → count ≤ limit

/-- Whether a file with a text can be created at a path: it leads through directories to a
place that is no directory itself and has room for the text. -/
def Creatable (files : Files) (path text : String) : Prop :=
  ∃ location,
    files.locate path = .ok location ∧
      files.nodeAt location ≠ some .directory ∧
      files.HasRoom location text.utf8ByteSize

theorem nodeAt_put (files : Files) (location : Location) (node : Node) :
    (files.put location node).nodeAt location = some node := by
  simp [put, nodeAt]

theorem put_put (files : Files) (location : Location) (first second : Node) :
    (files.put location first).put location second = files.put location second := by
  simp [put, List.filter_filter]

/-- The entry of another location is found as before. -/
theorem find?_put
    {here : Location} (other : here ≠ location) (node : Node) :
    (files.put location node).nodes.find? (fun entry => entry.1 = here) =
      files.nodes.find? fun entry => entry.1 = here := by
  have same : ∀ entry : Location × Node,
      decide (decide (entry.1 ≠ location) = true ∧ decide (entry.1 = here) = true) =
        decide (entry.1 = here) := by
    intro entry
    by_cases found : entry.1 = here
    · simp [found, other]
    · simp [found]
  rw [put, List.find?_cons_of_neg (by simpa using other.symm), List.find?_filter]
  simp only [same]

/-- What lies below some location still does. -/
theorem any_put
    {here : Location}
    (below : (files.nodes.any fun entry => here.isPrefixOf entry.1) = true)
    (node : Node) :
    ((files.put location node).nodes.any fun entry => here.isPrefixOf entry.1) = true := by
  obtain ⟨entry, member, isPrefix⟩ := List.any_eq_true.mp below
  rw [put, List.any_cons, Bool.or_eq_true]
  by_cases replaced : entry.1 = location
  · exact .inl (replaced ▸ isPrefix)
  · exact .inr <| List.any_eq_true.mpr
      ⟨entry, List.mem_filter.mpr ⟨member, by simpa using replaced⟩, isPrefix⟩

/-- A node that is placed takes no directory away. -/
theorem nodeAt_put_of_directory
    {here : Location}
    (directory : files.nodeAt here = some .directory)
    (replaced : files.nodeAt location ≠ some .directory)
    (node : Node) :
    (files.put location node).nodeAt here = some .directory := by
  have other : here ≠ location := by
    rintro rfl
    exact replaced directory
  rw [nodeAt, find?_put other]
  rw [nodeAt] at directory
  cases found : files.nodes.find? fun entry => entry.1 = here with
  | some entry =>
      rw [found] at directory
      exact directory
  | none =>
      simp only [found, ite_eq_left_iff, reduceCtorEq, imp_false, Bool.or_eq_true,
        not_not] at directory ⊢
      exact directory.imp_right fun below => any_put below node

/-- A path leads where it led as long as directories stay directories. -/
theorem follow_of_directories
    {later : Files} {here target : Location} {names : List String}
    (leads : files.follow here names = .ok target)
    (stay : ∀ {there : Location}, files.nodeAt there = some .directory →
      later.nodeAt there = some .directory) :
    later.follow here names = .ok target := by
  induction names generalizing here with
  | nil =>
      exact leads
  | cons name rest inductionHypothesis =>
      rw [follow] at leads ⊢
      cases there : files.nodeAt here with
      | none =>
          rw [there] at leads
          cases leads
      | some found =>
          cases found with
          | file bytes =>
              rw [there] at leads
              cases leads
          | directory =>
              rw [there] at leads
              rw [stay there]
              dsimp only at leads ⊢
              split_ifs at leads ⊢
              exact inductionHypothesis leads

theorem locate_of_directories
    {later : Files} {path : String} {target : Location}
    (leads : files.locate path = .ok target)
    (workplace : later.workplace = files.workplace)
    (stay : ∀ {there : Location}, files.nodeAt there = some .directory →
      later.nodeAt there = some .directory) :
    later.locate path = .ok target := by
  have start : later.startOf path = files.startOf path := by
    simp only [startOf, workplace]
  rw [locate] at leads ⊢
  rw [start]
  split_ifs at leads ⊢
  exact follow_of_directories leads stay

theorem locate_put
    {path : String} {target : Location}
    (leads : files.locate path = .ok target)
    (replaced : files.nodeAt location ≠ some .directory)
    (node : Node) :
    (files.put location node).locate path = .ok target := by
  refine locate_of_directories leads rfl ?_
  intro there directory
  exact nodeAt_put_of_directory directory replaced node

theorem fromUTF8?_toUTF8 (text : String) : String.fromUTF8? text.toUTF8 = some text :=
  dif_pos text.isValidUTF8

/-- A text that is put where a path leads is read from that path. -/
theorem readText_put
    {path : String}
    (leads : files.locate path = .ok location)
    (replaced : files.nodeAt location ≠ some .directory)
    (text : String) :
    (files.put location (.file text.toUTF8)).readText path = .ok text := by
  have found :
      (files.put location (.file text.toUTF8)).find path = .ok (.file text.toUTF8) := by
    rw [find, locate_put leads replaced]
    simp only [nodeAt_put]
  rw [readText, found]
  simp only [fromUTF8?_toUTF8]

/-! ## Writing -/

theorem create_of_leads
    {path : String}
    (leads : files.locate path = .ok location)
    (replaced : files.nodeAt location ≠ some .directory) :
    files.create path = .ok (location, files.put location (.file .empty)) := by
  rw [create, leads]
  dsimp only
  split
  · exact absurd ‹_› replaced
  · rfl

theorem create_of_error
    {path : String} {fault : FileFault} (failed : files.locate path = .error fault) :
    files.create path = .error fault := by
  rw [create, failed]

theorem create_eq_ok_iff
    (files : Files) (path : String) (location : Location) (created : Files) :
    files.create path = .ok (location, created) ↔
      files.locate path = .ok location ∧ files.nodeAt location ≠ some .directory ∧
        created = files.put location (.file .empty) := by
  constructor
  · intro opened
    rw [create] at opened
    split at opened
    · cases opened
    · split at opened
      · cases opened
      · cases opened
        exact ⟨‹_›, ‹_›, rfl⟩
  · rintro ⟨leads, replaced, rfl⟩
    exact create_of_leads leads replaced

theorem bytesAt_put (files : Files) (location : Location) (bytes : ByteArray) :
    (files.put location (.file bytes)).bytesAt location = bytes := by
  rw [bytesAt, nodeAt_put]

theorem roomFor_le (files : Files) (location : Location) (count : Nat) :
    files.roomFor location count ≤ count := by
  rw [roomFor]
  split
  · exact Nat.le_refl count
  · exact Nat.min_le_left _ _

/-- The room for more is what the first bytes leave of the room for all. -/
theorem roomFor_put
    {first : ByteArray} (taken : files.roomFor location first.size = first.size) (count : Nat) :
    files.roomFor location (first.size + count) =
      first.size +
        (files.put location (.file (files.bytesAt location ++ first))).roomFor location count := by
  have room : (files.put location (.file (files.bytesAt location ++ first))).room = files.room :=
    rfl
  rw [roomFor] at taken
  rw [roomFor, roomFor, bytesAt_put, room]
  cases limited : files.room location with
  | none => rfl
  | some limit =>
      rw [limited] at taken
      simp only [ByteArray.size_append] at taken ⊢
      omega

theorem roomFor_add_of_lt
    {count : Nat} (short : files.roomFor location count < count) (more : Nat) :
    files.roomFor location (count + more) = files.roomFor location count := by
  rw [roomFor] at short ⊢
  rw [roomFor]
  cases limited : files.room location with
  | none =>
      rw [limited] at short
      exact absurd short (Nat.lt_irrefl count)
  | some limit =>
      rw [limited] at short
      dsimp only at short ⊢
      omega

theorem append_of_roomFor_eq
    {bytes : ByteArray} (fits : files.roomFor location bytes.size = bytes.size) :
    files.append location bytes =
      ⟨.ok (), files.put location (.file (files.bytesAt location ++ bytes))⟩ := by
  simp only [append, fits, Nat.lt_irrefl, if_false, ByteArray.extract_zero_size]

theorem append_of_roomFor_lt
    {bytes : ByteArray} (short : files.roomFor location bytes.size < bytes.size) :
    files.append location bytes =
      ⟨.error .noRoom,
        files.put location
          (.file (files.bytesAt location ++
            bytes.extract 0 (files.roomFor location bytes.size)))⟩ := by
  simp only [append, if_pos short]

theorem extract_append_of_le {first second : ByteArray} {count : Nat}
    (within : count ≤ first.size) :
    (first ++ second).extract 0 count = first.extract 0 count := by
  rw [ByteArray.extract_append, Nat.sub_eq_zero_of_le within]
  simp

theorem extract_append_add (first second : ByteArray) (count : Nat) :
    (first ++ second).extract 0 (first.size + count) = first ++ second.extract 0 count := by
  have behind : (first ++ second).extract (first.size + 0) (first.size + count) =
      second.extract 0 count :=
    ByteArray.extract_append_size_add
  rw [ByteArray.extract_eq_extract_append_extract first.size (Nat.zero_le _)
      (Nat.le_add_right _ _),
    ByteArray.extract_append_eq_left rfl]
  exact congrArg (first ++ ·) behind

/-- Bytes that are written in two parts come to what they come to when they are written at
once, also if there is no room for all of them. -/
theorem append_andThen_append
    (files : Files) (location : Location) (first second : ByteArray) :
    (files.append location first).andThen (fun written => written.append location second) =
      files.append location (first ++ second) := by
  by_cases short : files.roomFor location first.size < first.size
  · have same := roomFor_add_of_lt short second.size
    rw [← ByteArray.size_append] at same
    have shortOfAll : files.roomFor location (first ++ second).size < (first ++ second).size := by
      rw [same, ByteArray.size_append]
      omega
    rw [append_of_roomFor_lt short, append_of_roomFor_lt shortOfAll, same,
      extract_append_of_le (Nat.le_of_lt short)]
    rfl
  · have fits : files.roomFor location first.size = first.size :=
      Nat.le_antisymm (files.roomFor_le location first.size) (Nat.le_of_not_lt short)
    have rest := roomFor_put fits second.size
    rw [append_of_roomFor_eq fits]
    simp only [Attempt.andThen, append, ByteArray.size_append, rest, bytesAt_put, put_put,
      extract_append_add, ByteArray.append_assoc, Nat.add_lt_add_iff_left]

/-! ## Writing to a file that was just created -/

theorem append_created_of_hasRoom
    {bytes : ByteArray} (room : files.HasRoom location bytes.size) :
    (files.put location (.file .empty)).append location bytes =
      ⟨.ok (), files.put location (.file bytes)⟩ := by
  have fits :
      (files.put location (.file .empty)).roomFor location bytes.size = bytes.size := by
    rw [roomFor, bytesAt_put]
    split
    · rfl
    · exact Nat.min_eq_left (room _ ‹_›)
  rw [append_of_roomFor_eq fits, bytesAt_put, put_put, ByteArray.empty_append]

theorem append_created_of_lt
    {bytes : ByteArray} {limit : Nat}
    (limited : files.room location = some limit) (short : limit < bytes.size) :
    (files.put location (.file .empty)).append location bytes =
      ⟨.error .noRoom, files.put location (.file (bytes.extract 0 limit))⟩ := by
  have taken : (files.put location (.file .empty)).roomFor location bytes.size = limit := by
    have same : (files.put location (.file .empty)).room location = some limit := limited
    rw [roomFor, same, bytesAt_put]
    exact Nat.min_eq_right (Nat.le_of_lt short)
  rw [append_of_roomFor_lt (by rwa [taken]), taken, bytesAt_put, put_put, ByteArray.empty_append]

theorem hasRoom_or_exists_lt (files : Files) (location : Location) (count : Nat) :
    files.HasRoom location count ∨
      ∃ limit, files.room location = some limit ∧ limit < count := by
  cases limited : files.room location with
  | none =>
      refine .inl fun limit known => ?_
      rw [limited] at known
      cases known
  | some limit =>
      by_cases short : limit < count
      · exact .inr ⟨limit, rfl, short⟩
      · refine .inl fun other known => ?_
        rw [limited] at known
        cases known
        exact Nat.le_of_not_lt short

end DesktopTags.Files
