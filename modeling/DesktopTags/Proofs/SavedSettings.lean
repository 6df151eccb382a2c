import DesktopTags.Proofs.SettingsText
import DesktopTags.Proofs.WrittenFiles

/-!
# Settings in a file

Settings that are saved are loaded as they were, and settings that no text can be made of leave
every file alone: `saved_settings_load`. A file is emptied before anything is written to it,
so one without room for the text loses what it held: `saveSettings_of_lt`.
-/

namespace DesktopTags

variable {files : Files} {path text : String} {location : Location} {settings : Settings}

/-! ## Texts -/

theorem toToml?_of_small (small : settings.dispatchBudget < 0x8000000000000000) :
    ∃ text, settings.toToml? = some text :=
  ⟨_, if_pos (settings.fitsToml_iff.mpr small)⟩

theorem toToml?_of_large (large : 0x8000000000000000 ≤ settings.dispatchBudget) :
    settings.toToml? = none := by
  refine if_neg fun fits => ?_
  have small := settings.fitsToml_iff.mp fits
  omega

/-! ## Saving -/

theorem saveSettings_of_unwritten
    (files : Files) (path : String) (unwritten : settings.toToml? = none) :
    saveSettings files path settings = ⟨.error .tooLarge, files⟩ := by
  simp only [saveSettings, unwritten]

theorem saveSettings_of_error
    {fault : FileFault}
    (written : settings.toToml? = some text) (failed : files.create path = .error fault) :
    saveSettings files path settings = ⟨.error (.file fault), files⟩ := by
  simp only [saveSettings, written, failed]

/-- Saving comes to one attempt to write the whole text to an empty file. -/
theorem saveSettings_of_leads
    (written : settings.toToml? = some text)
    (leads : files.locate path = .ok location)
    (replaced : files.nodeAt location ≠ some .directory) :
    saveSettings files path settings =
      let attempt :=
        (files.put location (.file .empty)).append location (fileHeading ++ text).toUTF8
      ⟨attempt.result.mapError .file, attempt.files⟩ := by
  have whole : (fileHeading ++ text).toUTF8 = fileHeading.toUTF8 ++ text.toUTF8 :=
    String.toByteArray_append
  simp only [saveSettings, written, Files.create_of_leads leads replaced,
    Files.append_andThen_append, whole]

theorem saveSettings_of_hasRoom
    (written : settings.toToml? = some text)
    (leads : files.locate path = .ok location)
    (replaced : files.nodeAt location ≠ some .directory)
    (room : files.HasRoom location (fileHeading ++ text).utf8ByteSize) :
    saveSettings files path settings =
      ⟨.ok (), files.put location (.file (fileHeading ++ text).toUTF8)⟩ := by
  have enough : files.HasRoom location (fileHeading ++ text).toUTF8.size := room
  simp only [saveSettings_of_leads written leads replaced,
    Files.append_created_of_hasRoom enough]
  rfl

/-- Where there is no room for the text, as much of it stays as there is room for, in place of
what was there. -/
theorem saveSettings_of_lt
    {limit : Nat}
    (written : settings.toToml? = some text)
    (leads : files.locate path = .ok location)
    (replaced : files.nodeAt location ≠ some .directory)
    (limited : files.room location = some limit)
    (short : limit < (fileHeading ++ text).utf8ByteSize) :
    saveSettings files path settings =
      ⟨.error (.file .noRoom),
        files.put location (.file ((fileHeading ++ text).toUTF8.extract 0 limit))⟩ := by
  have lacking : limit < (fileHeading ++ text).toUTF8.size := short
  simp only [saveSettings_of_leads written leads replaced,
    Files.append_created_of_lt limited lacking]
  rfl

/-- The ways that saving can go. -/
inductive Saves (files : Files) (path : String) (settings : Settings) : Saved → Prop where
  | unwritten : settings.toToml? = none → Saves files path settings ⟨.error .tooLarge, files⟩
  | unopened {fault : FileFault} (failed : files.create path = .error fault) :
      Saves files path settings ⟨.error (.file fault), files⟩
  | cutShort {location : Location} {text : String} {limit : Nat}
      (written : settings.toToml? = some text)
      (leads : files.locate path = .ok location)
      (replaced : files.nodeAt location ≠ some .directory)
      (limited : files.room location = some limit)
      (short : limit < (fileHeading ++ text).utf8ByteSize) :
      Saves files path settings
        ⟨.error (.file .noRoom),
          files.put location (.file ((fileHeading ++ text).toUTF8.extract 0 limit))⟩
  | saved {location : Location} {text : String}
      (written : settings.toToml? = some text)
      (leads : files.locate path = .ok location)
      (replaced : files.nodeAt location ≠ some .directory)
      (room : files.HasRoom location (fileHeading ++ text).utf8ByteSize) :
      Saves files path settings
        ⟨.ok (), files.put location (.file (fileHeading ++ text).toUTF8)⟩

theorem saves (files : Files) (path : String) (settings : Settings) :
    Saves files path settings (saveSettings files path settings) := by
  cases written : settings.toToml? with
  | none =>
      rw [saveSettings_of_unwritten files path written]
      exact .unwritten written
  | some text =>
      cases opened : files.create path with
      | error fault =>
          rw [saveSettings_of_error written opened]
          exact .unopened opened
      | ok handle =>
          obtain ⟨location, created⟩ := handle
          obtain ⟨leads, replaced, -⟩ := (Files.create_eq_ok_iff _ _ _ _).mp opened
          rcases files.hasRoom_or_exists_lt location (fileHeading ++ text).utf8ByteSize with
            room | ⟨limit, limited, short⟩
          · rw [saveSettings_of_hasRoom written leads replaced room]
            exact .saved written leads replaced room
          · rw [saveSettings_of_lt written leads replaced limited short]
            exact .cutShort written leads replaced limited short

namespace Saves

variable {saved : Saved}

/-- Settings are saved only if a file with their text can be created. -/
theorem creatable
    (saves : Saves files path settings saved) (written : settings.toToml? = some text)
    (succeeded : saved.result = .ok ()) :
    files.Creatable path (fileHeading ++ text) := by
  cases saves with
  | unwritten => cases succeeded
  | unopened failed => cases succeeded
  | cutShort => cases succeeded
  | @saved location same known leads replaced room =>
      rw [written] at known
      cases known
      exact ⟨location, leads, replaced, room⟩

/-- What fails for another reason than a lack of room fails before a file is created. -/
theorem files_eq
    {fault : StorageFault}
    (saves : Saves files path settings saved) (failed : saved.result = .error fault)
    (roomy : fault ≠ .file .noRoom) :
    saved.files = files := by
  cases saves with
  | unwritten => rfl
  | unopened => rfl
  | cutShort =>
      cases failed
      exact absurd rfl roomy
  | saved => cases failed

theorem loads
    (saves : Saves files path settings saved) (succeeded : saved.result = .ok ()) :
    loadSettings saved.files (.named path) = ⟨.ok settings, saved.files⟩ := by
  cases saves with
  | unwritten => cases succeeded
  | unopened failed => cases succeeded
  | cutShort => cases succeeded
  | @saved location text written leads replaced room =>
      have read := Files.readText_put leads replaced (fileHeading ++ text)
      simp only [loadSettings, readSettings, read, Settings.ofToml?_toToml written]

end Saves

/-! ## Saving and loading -/

theorem saveSettings_eq_ok_iff
    (files : Files) (path : String) (written : settings.toToml? = some text) :
    (saveSettings files path settings).result = .ok () ↔
      files.Creatable path (fileHeading ++ text) := by
  constructor
  · exact (saves files path settings).creatable written
  · rintro ⟨location, leads, replaced, room⟩
    rw [saveSettings_of_hasRoom written leads replaced room]

/-- Settings that fit are saved exactly where a file with their text can be created, and are
then loaded as they were, whatever their texts hold. Settings with a budget that does not fit
are refused, and all files are as before. So they are whenever saving fails before a file is
created, which is whenever it fails for another reason than a lack of room. -/
theorem saved_settings_load (files : Files) (path : String) (settings : Settings) :
    (settings.dispatchBudget < 0x8000000000000000 →
      ∃ text, settings.toToml? = some text ∧
        ((saveSettings files path settings).result = .ok () ↔
          files.Creatable path (fileHeading ++ text)) ∧
        (files.Creatable path (fileHeading ++ text) →
          loadSettings (saveSettings files path settings).files (.named path) =
            ⟨.ok settings, (saveSettings files path settings).files⟩)) ∧
    (0x8000000000000000 ≤ settings.dispatchBudget →
      saveSettings files path settings = ⟨.error .tooLarge, files⟩) ∧
    ∀ fault, (saveSettings files path settings).result = .error fault →
      fault ≠ .file .noRoom →
        (saveSettings files path settings).files = files := by
  refine ⟨fun small => ?_, fun large => ?_, fun fault failed roomy => ?_⟩
  · obtain ⟨text, written⟩ := toToml?_of_small small
    have succeeds := saveSettings_eq_ok_iff files path written
    refine ⟨text, written, succeeds, fun creatable => ?_⟩
    exact (saves files path settings).loads (succeeds.mpr creatable)
  · exact saveSettings_of_unwritten files path (toToml?_of_large large)
  · exact (saves files path settings).files_eq failed roomy

/-- An older file is replaced by texts that need each kind of quotes, with no room to spare, and
stays when the budget is one too large. -/
theorem saved_settings_load_over_older_file :
    let older : Location := ["home", "old.toml"]
    let files : Files :=
      { nodes := [(older, .file "tags = []".toUTF8)]
        workplace := ["home"]
        room := fun location => if location = older then some 206 else some 0 }
    let path := "../home/./old.toml"
    let settings : Settings :=
      { tags := ["", "\"", "'\\", "\n''\\", "'''\"\"\"\"", "\x00\t\r\n\x7f", "# \u2028"]
        selectFirstTag := false
        dispatchBudget := 0x7fffffffffffffff
        logLevel := "\"\"\"\n'''\r" }
    let greedy : Settings := { settings with dispatchBudget := 0x8000000000000000 }
    (∃ text, settings.toToml? = some text ∧ files.Creatable path (fileHeading ++ text)) ∧
      (saveSettings files path settings).result = .ok () ∧
      loadSettings (saveSettings files path settings).files (.named path) =
        ⟨.ok settings, (saveSettings files path settings).files⟩ ∧
      saveSettings files path greedy = ⟨.error .tooLarge, files⟩ := by
  intro older files path settings greedy
  have names : Files.namesOf path = ["..", "home", ".", "old.toml"] := by decide
  have short : ∀ name ∈ ["..", "home", ".", "old.toml"],
      ¬Files.nameLimit < name.utf8ByteSize := by
    decide
  have leads : files.locate path = .ok older := by
    rw [Files.locate, names, if_neg (by decide), if_neg (by decide)]
    simp only [List.forall_mem_cons] at short
    simp [files, path, older, short, Files.startOf, Files.follow, Files.nodeAt, Location.enter]
  have size :
      settings.toToml?.map (fun text => (fileHeading ++ text).utf8ByteSize) = some 206 := by
    decide +kernel
  obtain ⟨text, written, succeeds, loads⟩ :=
    (saved_settings_load files path settings).1 (by decide)
  have creatable : files.Creatable path (fileHeading ++ text) := by
    have there : files.nodeAt older = some (.file "tags = []".toUTF8) := rfl
    have limited : files.room older = some 206 := rfl
    refine ⟨older, leads, ?_, ?_⟩
    · rw [there]
      intro directory
      cases directory
    · intro limit known
      rw [limited] at known
      cases known
      rw [written, Option.map_some, Option.some_inj] at size
      exact Nat.le_of_eq size
  exact ⟨⟨text, written, creatable⟩, succeeds.mpr creatable, loads creatable,
    (saved_settings_load files path greedy).2.1 (by decide)⟩

end DesktopTags
