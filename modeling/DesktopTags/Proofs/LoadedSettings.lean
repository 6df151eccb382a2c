import DesktopTags.Proofs.Directories
import DesktopTags.Proofs.SavedSettings

/-!
# Loading settings, once and again

Loading leaves alone whatever is there, and creates the standard file only where there was
nothing; without room for its text only a part of the file stays, and loading fails. What was
loaded is loaded once more, from the file that was there or from the one that was created:
`loading_settings_keeps_files`.
-/

namespace DesktopTags

variable {files before made : Files} {source : SettingsSource} {loaded : Loaded}
  {location : Location} {node : Node} {home text : String}

/-! ## What loading may do -/

/-- Where the one file lies that loading may add: where the standard path leads and nothing
was. -/
structure Loaded.Adds
    (before : Files) (source : SettingsSource) (loaded : Loaded) (location : Location) :
    Prop where
  unnamed : ∃ home, source = .standard home
  vacant : before.nodeAt location = none
  absent : ∀ node, before.find source.path ≠ .ok node
  leads : loaded.files.locate source.path = .ok location

/-- There is room for the standard file, and it is created with the standard settings. -/
structure Loaded.Creates
    (before : Files) (source : SettingsSource) (loaded : Loaded)
    (location : Location) (bytes : ByteArray) : Prop
    extends loaded.Adds before source location where
  result : loaded.result = .ok .standard
  bytes :
    ∃ text, Settings.standard.toToml? = some text ∧
      before.HasRoom location (fileHeading ++ text).utf8ByteSize ∧
        bytes = (fileHeading ++ text).toUTF8

/-- There is room only for a part of the standard file, and loading fails. -/
structure Loaded.CutsShort
    (before : Files) (source : SettingsSource) (loaded : Loaded)
    (location : Location) (bytes : ByteArray) : Prop
    extends loaded.Adds before source location where
  result : loaded.result = .error (.file .noRoom)
  bytes :
    ∃ text limit, Settings.standard.toToml? = some text ∧
      before.room location = some limit ∧ limit < (fileHeading ++ text).utf8ByteSize ∧
        bytes = (fileHeading ++ text).toUTF8.extract 0 limit

/-- What loading owes the files it finds, and itself the next time. -/
structure Loaded.Careful
    (before : Files) (source : SettingsSource) (loaded : Loaded) : Prop where
  /-- What was there stays as it was, also when loading fails. -/
  keeps : before.Keeps loaded.files
  /-- What is there already is read, and nothing is made. -/
  found :
    ∀ {node : Node}, before.find source.path = .ok node →
      loaded = ⟨readSettings before source.path, before⟩
  /-- For a file that is named, nothing is made either way. -/
  named : ∀ {path : String}, source = .named path → loaded.files = before
  missing :
    ∀ {path : String} {fault : FileFault}, source = .named path →
      before.find path = .error fault → loaded.result = .error (.file fault)
  /-- Every file is an old one or the one that may be added, and that one is only cut short for
  want of room. -/
  created :
    ∀ {location : Location} {bytes : ByteArray},
      loaded.files.nodeAt location = some (.file bytes) →
        before.nodeAt location = some (.file bytes) ∨
          loaded.Creates before source location bytes ∨
            loaded.CutsShort before source location bytes
  /-- Where there is none, the standard file is added to its directory if the directory can be
  made and the path is not too long. -/
  creates :
    ∀ {home : String} {made : Files}, source = .standard home →
      before.makeDirectory (settingsDirectory home) = .ok made →
      source.path.utf8ByteSize ≤ Files.pathLimit →
      (∀ node, made.find source.path ≠ .ok node) →
        ∃ location bytes,
          loaded.files.nodeAt location = some (.file bytes) ∧
            (loaded.Creates before source location bytes ∨
              loaded.CutsShort before source location bytes)
  /-- What was loaded is loaded again, and then nothing changes. -/
  again :
    ∀ {settings : Settings}, loaded.result = .ok settings →
      loadSettings loaded.files source = ⟨.ok settings, loaded.files⟩

/-! ## The standard file -/

theorem path_standard (home : String) :
    (SettingsSource.standard home).path = settingsDirectory home ++ "/" ++ "config.toml" := by
  rw [String.append_assoc]
  rfl

theorem settingsDirectory_ne_empty (home : String) : settingsDirectory home ≠ "" := by
  simp [settingsDirectory]

theorem slash_not_mem_config : '/' ∉ "config.toml".toList := by
  decide

theorem toToml?_standard : ∃ text, Settings.standard.toToml? = some text :=
  toToml?_of_small (by decide)

/-- A file that is there is read from the files as they are. -/
theorem loadSettings_of_found (found : files.find source.path = .ok node) :
    loadSettings files source = ⟨readSettings files source.path, files⟩ := by
  cases source with
  | named path =>
      rfl
  | standard home =>
      obtain ⟨location, leads, -⟩ := (files.find_eq_ok_iff _ node).mp found
      rw [path_standard] at leads
      have nothing :=
        Files.makeDirectories_of_locate (settingsDirectory_ne_empty home)
          slash_not_mem_config leads
      have making := (Files.makeDirectory_eq_ok_iff _ _ _).mpr nothing
      simp only [loadSettings, making, found]

/-- Where there is nothing yet, the standard settings are created, or as much of them as there
is room for. -/
theorem loadSettings_of_vacant
    (making : files.makeDirectory (settingsDirectory home) = .ok made)
    (leads : made.locate (SettingsSource.standard home).path = .ok location)
    (vacant : made.nodeAt location = none)
    (written : Settings.standard.toToml? = some text) :
    made.HasRoom location (fileHeading ++ text).utf8ByteSize ∧
        loadSettings files (.standard home) =
          ⟨.ok .standard, made.put location (.file (fileHeading ++ text).toUTF8)⟩ ∨
      ∃ limit, made.room location = some limit ∧ limit < (fileHeading ++ text).utf8ByteSize ∧
        loadSettings files (.standard home) =
          ⟨.error (.file .noRoom),
            made.put location (.file ((fileHeading ++ text).toUTF8.extract 0 limit))⟩ := by
  have missing := Files.find_of_vacant leads vacant
  have replaced := Files.ne_directory_of_vacant vacant
  rcases made.hasRoom_or_exists_lt location (fileHeading ++ text).utf8ByteSize with
    room | ⟨limit, limited, short⟩
  · have saved := saveSettings_of_hasRoom written leads replaced room
    refine .inl ⟨room, ?_⟩
    simp only [loadSettings, making, missing, saved]
    rfl
  · have saved := saveSettings_of_lt written leads replaced limited short
    refine .inr ⟨limit, limited, short, ?_⟩
    simp only [loadSettings, making, missing, saved]
    rfl

/-- The ways that loading the standard file can go, from the files with those directories
on the way to it that could be made. -/
inductive LoadsStandard (made : Files) (path : String) : Loaded → Prop where
  | failed (fault : StorageFault) : LoadsStandard made path ⟨.error fault, made⟩
  | found {node : Node} (present : made.find path = .ok node) :
      LoadsStandard made path ⟨readSettings made path, made⟩
  | cutShort {location : Location} {text : String} {limit : Nat}
      (leads : made.locate path = .ok location)
      (vacant : made.nodeAt location = none)
      (written : Settings.standard.toToml? = some text)
      (limited : made.room location = some limit)
      (short : limit < (fileHeading ++ text).utf8ByteSize) :
      LoadsStandard made path
        ⟨.error (.file .noRoom),
          made.put location (.file ((fileHeading ++ text).toUTF8.extract 0 limit))⟩
  | created {location : Location} {text : String}
      (leads : made.locate path = .ok location)
      (vacant : made.nodeAt location = none)
      (written : Settings.standard.toToml? = some text)
      (room : made.HasRoom location (fileHeading ++ text).utf8ByteSize) :
      LoadsStandard made path
        ⟨.ok .standard, made.put location (.file (fileHeading ++ text).toUTF8)⟩

theorem loadsStandard_of_made
    (making : files.makeDirectory (settingsDirectory home) = .ok made) :
    LoadsStandard made (SettingsSource.standard home).path
      (loadSettings files (.standard home)) := by
  obtain ⟨text, written⟩ := toToml?_standard
  cases leads : made.locate (SettingsSource.standard home).path with
  | error fault =>
      have saved := saveSettings_of_error written (Files.create_of_error leads)
      simp only [loadSettings, making, Files.find, leads, saved]
      exact .failed (.file fault)
  | ok location =>
      cases present : made.nodeAt location with
      | none =>
          rcases loadSettings_of_vacant making leads present written with
            ⟨room, same⟩ | ⟨limit, limited, short, same⟩
          · rw [same]
            exact .created leads present written room
          · rw [same]
            exact .cutShort leads present written limited short
      | some node =>
          have found := (made.find_eq_ok_iff _ node).mpr ⟨location, leads, present⟩
          simp only [loadSettings, making, found]
          exact .found found

theorem loadsStandard (files : Files) (home : String) :
    LoadsStandard (files.makeDirectories (settingsDirectory home)).files
      (SettingsSource.standard home).path (loadSettings files (.standard home)) := by
  cases steps : files.makeDirectories (settingsDirectory home) with
  | mk result made =>
      cases result with
      | error fault =>
          have refused : files.makeDirectory (settingsDirectory home) = .error fault := by
            rw [Files.makeDirectory, steps]
            rfl
          simp only [loadSettings, refused, steps]
          exact .failed (.file fault)
      | ok =>
          exact loadsStandard_of_made ((Files.makeDirectory_eq_ok_iff _ _ _).mpr steps)

/-! ## Afterwards -/

theorem LoadsStandard.keeps
    {path : String} (loads : LoadsStandard made path loaded) :
    made.Keeps loaded.files := by
  cases loads with
  | failed fault => exact .refl made
  | found present => exact .refl made
  | cutShort leads vacant => exact Files.keeps_put vacant _
  | created leads vacant => exact Files.keeps_put vacant _

/-- A standard file that was created is loaded as what it was created from. -/
theorem LoadsStandard.again
    {settings : Settings}
    (loads : LoadsStandard made (SettingsSource.standard home).path loaded)
    (result : loaded.result = .ok settings) :
    loadSettings loaded.files (.standard home) = ⟨.ok settings, loaded.files⟩ := by
  cases loads with
  | failed fault =>
      cases result
  | found present =>
      rw [loadSettings_of_found present]
      exact congrArg (Loaded.mk · made) result
  | cutShort =>
      cases result
  | @created location text leads vacant written =>
      cases result
      have replaced := Files.ne_directory_of_vacant vacant
      have found :
          (made.put location (.file (fileHeading ++ text).toUTF8)).find
              (SettingsSource.standard home).path =
            .ok (.file (fileHeading ++ text).toUTF8) :=
        (Files.find_eq_ok_iff _ _ _).mpr
          ⟨location, Files.locate_put leads replaced _, Files.nodeAt_put made location _⟩
      have read := Files.readText_put leads replaced (fileHeading ++ text)
      rw [loadSettings_of_found found]
      simp only [readSettings, read, Settings.ofToml?_toToml written]

/-- A file that is put where the standard path leads and nothing is yet has been added. -/
theorem adds_of_vacant
    (keeps : before.Keeps made)
    (leads : made.locate (SettingsSource.standard home).path = .ok location)
    (vacant : made.nodeAt location = none)
    (result : Except StorageFault Settings) (bytes : ByteArray) :
    Loaded.Adds before (.standard home) ⟨result, made.put location (.file bytes)⟩ location where
  unnamed := ⟨home, rfl⟩
  vacant := keeps.vacant vacant
  absent := by
    intro node found
    have later := keeps.find found
    rw [Files.find_of_vacant leads vacant] at later
    cases later
  leads := Files.locate_put leads (Files.ne_directory_of_vacant vacant) _

theorem creates_of_vacant
    (keeps : before.Keeps made)
    (leads : made.locate (SettingsSource.standard home).path = .ok location)
    (vacant : made.nodeAt location = none)
    (written : Settings.standard.toToml? = some text)
    (room : made.HasRoom location (fileHeading ++ text).utf8ByteSize) :
    Loaded.Creates before (.standard home)
      ⟨.ok .standard, made.put location (.file (fileHeading ++ text).toUTF8)⟩
      location (fileHeading ++ text).toUTF8 where
  toAdds := adds_of_vacant keeps leads vacant _ _
  result := rfl
  bytes := by
    rw [Files.HasRoom, keeps.room] at room
    exact ⟨text, written, room, rfl⟩

theorem cutsShort_of_vacant
    {limit : Nat}
    (keeps : before.Keeps made)
    (leads : made.locate (SettingsSource.standard home).path = .ok location)
    (vacant : made.nodeAt location = none)
    (written : Settings.standard.toToml? = some text)
    (limited : made.room location = some limit)
    (short : limit < (fileHeading ++ text).utf8ByteSize) :
    Loaded.CutsShort before (.standard home)
      ⟨.error (.file .noRoom),
        made.put location (.file ((fileHeading ++ text).toUTF8.extract 0 limit))⟩
      location ((fileHeading ++ text).toUTF8.extract 0 limit) where
  toAdds := adds_of_vacant keeps leads vacant _ _
  result := rfl
  bytes := by
    rw [keeps.room] at limited
    exact ⟨text, limit, written, limited, short, rfl⟩

/-- A file that is there after loading was there, or it was added. -/
theorem LoadsStandard.created_of_file
    {bytes : ByteArray}
    (loads : LoadsStandard made (SettingsSource.standard home).path loaded)
    (adds : before.AddsDirectories made)
    (present : loaded.files.nodeAt location = some (.file bytes)) :
    before.nodeAt location = some (.file bytes) ∨
      loaded.Creates before (.standard home) location bytes ∨
        loaded.CutsShort before (.standard home) location bytes := by
  cases loads with
  | failed fault =>
      exact .inl (adds.file present)
  | found there =>
      exact .inl (adds.file present)
  | cutShort leads vacant written limited short =>
      rcases adds.file_put present with old | ⟨rfl, rfl⟩
      · exact .inl old
      · exact .inr (.inr (cutsShort_of_vacant adds.toKeeps leads vacant written limited short))
  | created leads vacant written room =>
      rcases adds.file_put present with old | ⟨rfl, rfl⟩
      · exact .inl old
      · exact .inr (.inl (creates_of_vacant adds.toKeeps leads vacant written room))

/-- Once its directory is made, the standard file is added, whole or cut short. Of what a
disk may refuse only long paths and a lack of room are known here, no permissions. -/
theorem exists_added
    (making : before.makeDirectory (settingsDirectory home) = .ok made)
    (short : (SettingsSource.standard home).path.utf8ByteSize ≤ Files.pathLimit)
    (absent : ∀ node, made.find (SettingsSource.standard home).path ≠ .ok node) :
    ∃ location bytes,
      (loadSettings before (.standard home)).files.nodeAt location = some (.file bytes) ∧
        ((loadSettings before (.standard home)).Creates before (.standard home) location bytes ∨
          (loadSettings before (.standard home)).CutsShort before (.standard home) location
            bytes) := by
  rw [path_standard] at short
  obtain ⟨location, leads⟩ :=
    Files.locate_of_makeDirectory (settingsDirectory_ne_empty home) slash_not_mem_config
      making short (by decide)
  rw [← path_standard] at leads
  have vacant : made.nodeAt location = none := by
    apply Option.eq_none_iff_forall_not_mem.mpr
    intro node present
    exact absent node ((made.find_eq_ok_iff _ node).mpr ⟨location, leads, present⟩)
  obtain ⟨text, written⟩ := toToml?_standard
  have keeps := (Files.addsDirectories_makeDirectory making).toKeeps
  rcases loadSettings_of_vacant making leads vacant written with
    ⟨room, same⟩ | ⟨limit, limited, lacking, same⟩
  · rw [same]
    exact ⟨location, _, Files.nodeAt_put made location _,
      .inl (creates_of_vacant keeps leads vacant written room)⟩
  · rw [same]
    exact ⟨location, _, Files.nodeAt_put made location _,
      .inr (cutsShort_of_vacant keeps leads vacant written limited lacking)⟩

/-! ## Both sources -/

/-- Whatever the files hold and wherever settings are loaded from: what is there stays, a named
file is only read, the standard file is created where there is none and nowhere else, and what
was loaded is loaded again with nothing changed. -/
theorem loading_settings_keeps_files (files : Files) (source : SettingsSource) :
    (loadSettings files source).Careful files source := by
  cases source with
  | named path =>
      exact
        { keeps := .refl files
          found := fun _ => rfl
          named := fun _ => rfl
          missing := by
            rintro _ fault ⟨⟩ absent
            simp only [loadSettings, readSettings, Files.readText, absent]
          created := .inl
          creates := by
            intro home made standard
            cases standard
          again := by
            intro settings result
            exact congrArg (Loaded.mk · files) result }
  | standard home =>
      have loads := loadsStandard files home
      have adds := files.addsDirectories_makeDirectories (settingsDirectory home)
      exact
        { keeps := adds.toKeeps.trans loads.keeps
          found := loadSettings_of_found
          named := by
            intro path named
            cases named
          missing := by
            intro path fault named
            cases named
          created := loads.created_of_file adds
          creates := by
            rintro _ made ⟨⟩ making short absent
            exact exists_added making short absent
          again := loads.again }

/-- On a first run the standard file is created beside the files of others, and the second run
reads it. Without room loading fails, and the files of others stay. A file with the wrong
settings is refused and stays. -/
theorem loading_settings_keeps_files_of_three_disks :
    let source : SettingsSource := .standard "/home/me"
    let hosts : Node := .file "127.0.0.1 localhost".toUTF8
    let fresh : Files := { nodes := [(["etc", "hosts"], hosts)] }
    let first := loadSettings fresh source
    let full : Files := { fresh with room := fun _ => some 0 }
    let wrong : Node := .file "tags = 3".toUTF8
    let older : Files := { nodes := [(["home", "me", "tagwm", "config.toml"], wrong)] }
    first.Careful fresh source ∧
      first.result = .ok .standard ∧
      first.files.find "/etc/hosts" = .ok hosts ∧
      loadSettings first.files source = ⟨.ok .standard, first.files⟩ ∧
      (loadSettings full source).result = .error (.file .noRoom) ∧
      (loadSettings full source).files.find "/etc/hosts" = .ok hosts ∧
      loadSettings older source = ⟨.error .notSettings, older⟩ := by
  intro source hosts fresh first full wrong older
  let made (room : Location → Option Nat) : Files :=
    { nodes :=
        [(["home", "me", "tagwm"], .directory), (["home", "me"], .directory),
          (["home"], .directory), (["etc", "hosts"], hosts)]
      room }
  have path : source.path = "/home/me/tagwm/config.toml" := rfl
  have making (room : Location → Option Nat) :
      { fresh with room }.makeDirectory (settingsDirectory "/home/me") = .ok (made room) := by
    rw [Files.makeDirectory_eq_ok_iff]
    rfl
  have absent (room : Location → Option Nat) :
      ∀ node, (made room).find source.path ≠ .ok node := by
    have missing : (made room).find source.path = .error .missing := by
      rw [path]
      rfl
    rw [missing]
    exact nofun
  have there (room : Location → Option Nat) :
      { fresh with room }.find "/etc/hosts" = .ok hosts :=
    rfl
  have careful := loading_settings_keeps_files fresh source
  have crowded := loading_settings_keeps_files full source
  have created : first.result = .ok .standard := by
    obtain ⟨location, bytes, -, created | short⟩ :=
      careful.creates rfl (making _) (by decide) (absent _)
    · exact created.result
    · obtain ⟨text, limit, -, limited, -⟩ := short.bytes
      cases limited
  have cut : (loadSettings full source).result = .error (.file .noRoom) := by
    obtain ⟨location, bytes, -, created | short⟩ :=
      crowded.creates rfl (making _) (by decide) (absent _)
    · obtain ⟨text, -, room, -⟩ := created.bytes
      have none : (fileHeading ++ text).utf8ByteSize ≤ 0 := room 0 rfl
      have heading : 0 < fileHeading.utf8ByteSize := by decide
      rw [String.utf8ByteSize_append] at none
      omega
    · exact short.result
  have found : older.find source.path = .ok wrong := by
    rw [path]
    rfl
  have unread : readSettings older source.path = .error .notSettings := by
    rw [path]
    rfl
  have refused := (loading_settings_keeps_files older source).found found
  rw [unread] at refused
  exact ⟨careful, created, careful.keeps.find (there _), careful.again created, cut,
    crowded.keeps.find (there _), refused⟩

end DesktopTags
