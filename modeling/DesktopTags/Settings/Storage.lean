import DesktopTags.Files
import DesktopTags.Settings.Entries

namespace DesktopTags

/-! ## Settings in files -/

/-- Why settings cannot be loaded or saved. -/
inductive StorageFault where
  | file (fault : FileFault)
  /-- The text is no TOML, or a setting in it has the wrong type. -/
  | notSettings
  /-- A number is too large for TOML. -/
  | tooLarge
deriving DecidableEq

def StorageFault.message : StorageFault → String
  | .file fault => fault.message
  | .notSettings => "TOML parse error"
  | .tooLarge => "a number is too large for a settings file"

/-- Which file settings are loaded from. -/
inductive SettingsSource where
  /-- A file that a user names. -/
  | named (path : String)
  /-- The file in the user's directory for configuration. -/
  | standard (home : String)
deriving DecidableEq

/-- The directory of the program among those of others. -/
def settingsDirectory (home : String) : String :=
  home ++ "/tagwm"

def SettingsSource.path : SettingsSource → String
  | .named path => path
  | .standard home => settingsDirectory home ++ "/config.toml"

/-- What stands at the top of every file that is saved. -/
def fileHeading : String :=
  "# tagwm configuration\n\n"

/-- What saving settings gave, and the files afterwards. -/
structure Saved where
  result : Except StorageFault Unit
  files : Files

/-- Save settings in a file. The text is made first; only then is the file created or emptied,
and the heading and the text are written to it. -/
def saveSettings (files : Files) (path : String) (settings : Settings) : Saved :=
  match settings.toToml? with
  | none => ⟨.error .tooLarge, files⟩
  | some text =>
      match files.create path with
      | .error fault => ⟨.error (.file fault), files⟩
      | .ok (location, created) =>
          let written := (created.append location fileHeading.toUTF8).andThen fun headed =>
            headed.append location text.toUTF8
          ⟨written.result.mapError .file, written.files⟩

/-- Load settings from a file that has to be there. -/
def readSettings (files : Files) (path : String) : Except StorageFault Settings :=
  match files.readText path with
  | .error fault => .error (.file fault)
  | .ok text =>
      match Settings.ofToml? text with
      | some settings => .ok settings
      | none => .error .notSettings

/-- What loading settings gave, and the files afterwards. -/
structure Loaded where
  result : Except StorageFault Settings
  files : Files

/-- Load settings. If the standard file is not there yet, it is created with the
standard settings, in a directory that is made for it; a named file has to be
there. -/
def loadSettings (files : Files) (source : SettingsSource) : Loaded :=
  match source with
  | .named path => ⟨readSettings files path, files⟩
  | .standard home =>
      match files.makeDirectory (settingsDirectory home) with
      | .error fault =>
          ⟨.error (.file fault), (files.makeDirectories (settingsDirectory home)).files⟩
      | .ok files =>
          match files.find source.path with
          | .ok _ => ⟨readSettings files source.path, files⟩
          | .error _ =>
              let saved := saveSettings files source.path Settings.standard
              ⟨saved.result.map fun _ => Settings.standard, saved.files⟩

end DesktopTags
