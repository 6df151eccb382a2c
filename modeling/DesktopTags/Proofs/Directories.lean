import DesktopTags.Proofs.WrittenFiles

/-!
# Making directories

Making a directory changes nothing that is there, and adds nothing but directories, even when it
fails half-way: `addsDirectories_makeDirectories`. Where a path leads into a directory
already, nothing is made at all: `makeDirectories_of_locate`.
-/

namespace DesktopTags.Files

variable {files before middle after : Files} {here location target : Location}
  {node : Node} {names : List String} {path name : String}

/-! ## What stays -/

/-- What was somewhere before is there afterwards, as it was. -/
structure Keeps (before after : Files) : Prop where
  workplace : after.workplace = before.workplace
  room : after.room = before.room
  nodeAt :
    ∀ {location : Location} {node : Node},
      before.nodeAt location = some node → after.nodeAt location = some node

/-- Directories are all that is new. -/
structure AddsDirectories (before after : Files) : Prop extends before.Keeps after where
  file :
    ∀ {location : Location} {bytes : ByteArray},
      after.nodeAt location = some (.file bytes) →
        before.nodeAt location = some (.file bytes)

theorem Keeps.refl (files : Files) : files.Keeps files :=
  ⟨rfl, rfl, id⟩

theorem Keeps.trans (first : before.Keeps middle) (second : middle.Keeps after) :
    before.Keeps after where
  workplace := second.workplace.trans first.workplace
  room := second.room.trans first.room
  nodeAt := fun present => second.nodeAt (first.nodeAt present)

theorem AddsDirectories.refl (files : Files) : files.AddsDirectories files :=
  ⟨.refl files, id⟩

theorem AddsDirectories.trans
    (first : before.AddsDirectories middle) (second : middle.AddsDirectories after) :
    before.AddsDirectories after where
  toKeeps := first.toKeeps.trans second.toKeeps
  file := fun present => first.file (second.file present)

theorem Keeps.vacant (keeps : before.Keeps after) (vacant : after.nodeAt location = none) :
    before.nodeAt location = none := by
  apply Option.eq_none_iff_forall_not_mem.mpr
  intro node present
  rw [keeps.nodeAt present] at vacant
  cases vacant

theorem Keeps.locate
    (keeps : before.Keeps after) (leads : before.locate path = .ok target) :
    after.locate path = .ok target :=
  locate_of_directories leads keeps.workplace keeps.nodeAt

theorem find_eq_ok_iff (files : Files) (path : String) (node : Node) :
    files.find path = .ok node ↔
      ∃ location, files.locate path = .ok location ∧ files.nodeAt location = some node := by
  rw [find]
  cases files.locate path with
  | error fault => simp
  | ok location => cases present : files.nodeAt location <;> simp [present]

theorem find_of_vacant
    (leads : files.locate path = .ok location) (vacant : files.nodeAt location = none) :
    files.find path = .error .missing := by
  rw [find, leads]
  simp only [vacant]

theorem Keeps.find (keeps : before.Keeps after) (found : before.find path = .ok node) :
    after.find path = .ok node := by
  obtain ⟨location, leads, present⟩ := (find_eq_ok_iff before path node).mp found
  exact (find_eq_ok_iff after path node).mpr
    ⟨location, keeps.locate leads, keeps.nodeAt present⟩

/-! ## Something new -/

/-- A file has an entry of its own; only directories can do without. -/
theorem nodeAt_eq_file_iff (files : Files) (here : Location) (bytes : ByteArray) :
    files.nodeAt here = some (.file bytes) ↔
      (files.nodes.find? fun entry => entry.1 = here).map Prod.snd = some (.file bytes) := by
  rw [Files.nodeAt]
  cases files.nodes.find? fun entry => entry.1 = here with
  | some entry => simp
  | none => simp

theorem nodeAt_put_eq_file_iff
    (other : here ≠ location) (node : Node) (bytes : ByteArray) :
    (files.put location node).nodeAt here = some (.file bytes) ↔
      files.nodeAt here = some (.file bytes) := by
  rw [nodeAt_eq_file_iff, nodeAt_eq_file_iff, find?_put other]

theorem ne_directory_of_vacant (vacant : files.nodeAt location = none) :
    files.nodeAt location ≠ some .directory := by
  rw [vacant]
  exact nofun

theorem keeps_put (vacant : files.nodeAt location = none) (node : Node) :
    files.Keeps (files.put location node) where
  workplace := rfl
  room := rfl
  nodeAt := by
    intro here found present
    have other : here ≠ location := by
      rintro rfl
      rw [vacant] at present
      cases present
    cases found with
    | file bytes =>
        exact (nodeAt_put_eq_file_iff other node bytes).mpr present
    | directory =>
        exact nodeAt_put_of_directory present (ne_directory_of_vacant vacant) node

/-- Besides a file that is put among new directories there are only old files. -/
theorem AddsDirectories.file_put
    {bytes placed : ByteArray} (adds : before.AddsDirectories after)
    (present : (after.put target (.file placed)).nodeAt location = some (.file bytes)) :
    before.nodeAt location = some (.file bytes) ∨ location = target ∧ bytes = placed := by
  by_cases same : location = target
  · subst same
    rw [nodeAt_put] at present
    cases present
    exact .inr ⟨rfl, rfl⟩
  · exact .inl (adds.file ((nodeAt_put_eq_file_iff same _ bytes).mp present))

theorem addsDirectories_put (vacant : files.nodeAt location = none) :
    files.AddsDirectories (files.put location .directory) where
  toKeeps := keeps_put vacant .directory
  file := by
    intro here bytes present
    have other : here ≠ location := by
      rintro rfl
      rw [nodeAt_put] at present
      cases present
    exact (nodeAt_put_eq_file_iff other .directory bytes).mp present

theorem provide_of_some (present : files.nodeAt location = some node) :
    files.provide location = files := by
  rw [provide, present]

theorem addsDirectories_provide (files : Files) (location : Location) :
    files.AddsDirectories (files.provide location) := by
  rw [provide]
  split
  · exact .refl files
  · exact addsDirectories_put ‹_›

theorem nodeAt_provide
    (noFile : ∀ bytes, files.nodeAt location ≠ some (.file bytes)) :
    (files.provide location).nodeAt location = some .directory := by
  rw [provide]
  cases present : files.nodeAt location with
  | none => exact nodeAt_put files location .directory
  | some node =>
      cases node with
      | file bytes => exact absurd present (noFile bytes)
      | directory => exact present

/-! ## Following names -/

theorem addsDirectories_makeFollowing
    (files : Files) (here : Location) (names : List String) :
    files.AddsDirectories (files.makeFollowing here names).files := by
  induction names generalizing files here with
  | nil =>
      rw [makeFollowing]
      split
      · exact .refl files
      · exact addsDirectories_provide files here
  | cons name rest inductionHypothesis =>
      rw [makeFollowing]
      split
      · exact .refl files
      · have provided := addsDirectories_provide files here
        split
        · exact provided
        · exact provided.trans (inductionHypothesis _ _)

theorem follow_append (files : Files) (here : Location) (front back : List String) :
    files.follow here (front ++ back) =
      (files.follow here front).bind fun middle => files.follow middle back := by
  induction front generalizing here with
  | nil => rfl
  | cons name rest inductionHypothesis =>
      rw [List.cons_append, Files.follow, Files.follow]
      split
      · rfl
      · rfl
      · split
        · rfl
        · exact inductionHypothesis (here.enter name)

/-- Names that lead to a directory already have none made. -/
theorem makeFollowing_of_follow
    (leads : files.follow here names = .ok target)
    (directory : files.nodeAt target = some .directory) :
    files.makeFollowing here names = ⟨.ok (), files⟩ := by
  induction names generalizing here with
  | nil =>
      cases leads
      rw [makeFollowing, directory, provide_of_some directory]
  | cons name rest inductionHypothesis =>
      rw [Files.follow] at leads
      split at leads
      · cases leads
      · cases leads
      · rename_i present
        split at leads
        · cases leads
        · rename_i short
          rw [makeFollowing, present]
          simp only [if_neg short, provide_of_some present]
          exact inductionHypothesis leads

/-- The directory that was made is where the names lead. -/
theorem follow_of_makeFollowing
    (made : (files.makeFollowing here names).result = .ok ()) :
    ∃ target,
      (files.makeFollowing here names).files.follow here names = .ok target ∧
        (files.makeFollowing here names).files.nodeAt target = some .directory := by
  induction names generalizing files here with
  | nil =>
      rw [makeFollowing] at made ⊢
      split at made
      · cases made
      · rename_i noFile
        exact ⟨here, rfl, nodeAt_provide noFile⟩
  | cons name rest inductionHypothesis =>
      rw [makeFollowing] at made ⊢
      split at made
      · cases made
      · rename_i noFile
        split at made
        · cases made
        · rename_i short
          obtain ⟨target, leads, directory⟩ := inductionHypothesis made
          have later := addsDirectories_makeFollowing (files.provide here) (here.enter name) rest
          rw [if_neg short]
          refine ⟨target, ?_, directory⟩
          rw [Files.follow, later.nodeAt (nodeAt_provide noFile)]
          simpa only [if_neg short] using leads

/-! ## Following paths -/

theorem addsDirectories_makeDirectories (files : Files) (path : String) :
    files.AddsDirectories (files.makeDirectories path).files := by
  rw [makeDirectories]
  split
  · exact .refl files
  · exact addsDirectories_makeFollowing files (files.startOf path) (namesOf path)

theorem makeDirectory_eq_ok_iff (before after : Files) (path : String) :
    before.makeDirectory path = .ok after ↔ before.makeDirectories path = ⟨.ok (), after⟩ := by
  rw [makeDirectory]
  cases before.makeDirectories path with
  | mk result files =>
      cases result with
      | error fault => simp [Except.map]
      | ok => simp [Except.map]

theorem addsDirectories_makeDirectory (making : before.makeDirectory path = .ok after) :
    before.AddsDirectories after := by
  have adds := addsDirectories_makeDirectories before path
  rwa [(makeDirectory_eq_ok_iff before after path).mp making] at adds

theorem namesOf_append (path : String) (plain : '/' ∉ name.toList) :
    namesOf (path ++ "/" ++ name) = namesOf path ++ [name] := by
  have slash : "/".toList = ['/'] := rfl
  rw [namesOf, String.toList_append, String.toList_append, slash, List.append_assoc,
    List.singleton_append, List.splitOn_append_cons_self, List.splitOn_eq_singleton plain,
    List.map_append, List.map_singleton, String.ofList_toList]
  rfl

theorem startOf_append (files : Files) (filled : path ≠ "") (more : String) :
    files.startOf (path ++ more) = files.startOf path := by
  obtain ⟨first, rest, chars⟩ : ∃ first rest, path.toList = first :: rest := by
    apply List.exists_cons_of_ne_nil
    intro empty
    exact filled (String.toList_inj.mp empty)
  simp only [startOf, String.toList_append, chars, List.cons_append, List.head?_cons]

theorem append_ne_empty (filled : path ≠ "") (more : String) : path ++ more ≠ "" := by
  simp [filled]

theorem utf8ByteSize_le_append (path more : String) :
    path.utf8ByteSize ≤ (path ++ more).utf8ByteSize := by
  rw [String.utf8ByteSize_append]
  exact Nat.le_add_right _ _

/-- The way to a name in a directory leads through the directory. -/
theorem locate_append
    (filled : path ≠ "") (plain : '/' ∉ name.toList)
    (short : (path ++ "/" ++ name).utf8ByteSize ≤ pathLimit) :
    files.locate (path ++ "/" ++ name) =
      (files.follow (files.startOf path) (namesOf path)).bind fun middle =>
        files.follow middle [name] := by
  have longer : path ++ "/" ++ name ≠ "" := by
    rw [String.append_assoc]
    exact append_ne_empty filled ("/" ++ name)
  rw [locate, if_neg longer, if_neg (Nat.not_lt.mpr short), namesOf_append path plain,
    follow_append, String.append_assoc, startOf_append files filled]

/-- Where a path leads on behind a directory, the directory is there and none is made. -/
theorem makeDirectories_of_locate
    (filled : path ≠ "") (plain : '/' ∉ name.toList)
    (leads : files.locate (path ++ "/" ++ name) = .ok target) :
    files.makeDirectories path = ⟨.ok (), files⟩ := by
  have short : (path ++ "/" ++ name).utf8ByteSize ≤ pathLimit := by
    rw [locate] at leads
    split at leads
    · cases leads
    split at leads
    · cases leads
    · exact Nat.le_of_not_lt ‹_›
  have shorter : path.utf8ByteSize ≤ pathLimit := by
    rw [String.append_assoc] at short
    exact Nat.le_trans (utf8ByteSize_le_append path ("/" ++ name)) short
  rw [locate_append filled plain short] at leads
  rw [makeDirectories, if_neg (Nat.not_lt.mpr shorter)]
  cases middle : files.follow (files.startOf path) (namesOf path) with
  | error fault =>
      rw [middle] at leads
      cases leads
  | ok directory =>
      rw [middle] at leads
      refine makeFollowing_of_follow middle ?_
      replace leads : files.follow directory [name] = .ok target := leads
      rw [Files.follow] at leads
      split at leads
      · cases leads
      · cases leads
      · assumption

/-- Behind a directory that was made, a path leads on to every name that is not too
long. -/
theorem locate_of_makeDirectory
    (filled : path ≠ "") (plain : '/' ∉ name.toList)
    (making : before.makeDirectory path = .ok after)
    (short : (path ++ "/" ++ name).utf8ByteSize ≤ pathLimit)
    (shortName : name.utf8ByteSize ≤ nameLimit) :
    ∃ target, after.locate (path ++ "/" ++ name) = .ok target := by
  have made := (makeDirectory_eq_ok_iff before after path).mp making
  have workplace := (addsDirectories_makeDirectory making).workplace
  have start : after.startOf path = before.startOf path := by
    simp only [startOf, workplace]
  rw [locate_append filled plain short, start]
  rw [makeDirectories] at made
  split at made
  · cases made
  · have there := follow_of_makeFollowing (congrArg Attempt.result made)
    rw [made] at there
    obtain ⟨directory, leads, present⟩ := there
    refine ⟨directory.enter name, ?_⟩
    rw [leads]
    simp only [Except.bind, Files.follow, present, if_neg (Nat.not_lt.mpr shortName)]

end DesktopTags.Files
