import DesktopTags.CommandLine.Help
import DesktopTags.Display
import DesktopTags.Overview
import DesktopTags.Settings.Check
import DesktopTags.Settings.Storage
import DesktopTags.Stored

namespace DesktopTags

/-! ## Running the checker -/

/-- Everything a run leaves behind. -/
structure Report where
  code : Nat
  output : String
  log : List String
  files : Files

/-- Report the activation of a tag. -/
def activationReporter : Handler Unit where
  name := SignalKind.activatedChanged.name
  react signal desktop memory :=
    match signal.target with
    | .tag ref =>
        let name := match desktop.tag ref with
          | .ok tag => tag.name
          | .error _ => ""
        { desktop, memory, log := [.tagActivated name] }
    | .client _ => { desktop, memory }

/-- The first dispatch of a session without a screen. -/
def startupDelivery (settings : Settings) : Session.Delivery Nat Unit :=
  let session : Session Nat Unit := {
    settings
    desktop := (Desktop.start settings).desktop
    server := loggingDisplay
    display := 0
    memory := () }
  (session.connect activationReporter).dispatch

namespace Report

def ofLines (lines : List String) : String :=
  String.join (lines.map (· ++ "\n"))

/-- A step of the run, in blue. -/
def stepLine (text : String) : String :=
  "\x1b[0;94m::\x1b[0m " ++ text

/-- Something went well, in green. -/
def successLine (text : String) : String :=
  "\x1b[0;92m    -> " ++ text ++ " \x1b[0m"

/-- Something went wrong, in red, up to the end of the reason. -/
def failureOpening (reason : String) : String :=
  "\x1b[1;91mERROR:\x1b[0m\x1b[1m " ++ reason

def opening : String :=
  ofLines [
    stepLine ("tagwm version: " ++ Help.programVersion),
    stepLine "Loading configuration . . ."]

/-- Why nothing could be loaded. Where a text is at fault the output stops after
the kind of fault. -/
def ofFault (fault : StorageFault) (files : Files) : Report :=
  let ending := if fault = .notSettings then "" else " \x1b[0m\n"
  ⟨1, opening ++ failureOpening fault.message ++ ending, [], files⟩

/-- Check settings, and show the desktop they start with. -/
def ofSettings (settings : Settings) (verbose : Bool) (files : Files) : Report :=
  let (filter, fault?) := LogFilter.forSession settings.logLevel
  let tags := settings.checkTags verbose
  let log := settings.checkLogLevel verbose
  let delivery := startupDelivery settings
  let events :=
    (fault?.map fun fault => LogEvent.fallingBack fault.message).toList
      ++ (Desktop.start settings).log
      ++ delivery.log
      ++ [.startupDelivered delivery.delivered.length]
  let overview := Overview.codec.encode delivery.session.desktop.overview
  let lines :=
    [successLine "Configuration loaded OK"]
      ++ tags.lines
      ++ log.lines
      ++ [stepLine "Startup tag state:", overview.pretty]
      ++ if tags.passed && log.passed then [successLine "All checks passed"] else []
  ⟨0, opening ++ ofLines lines, filter.lines events, files⟩

end Report

/-- Do what a command line asks for. `home` is where the standard file lies. -/
def runCommand (home : String) (files : Files) : Command → Report
  | .help => ⟨0, Help.text, [], files⟩
  | .version => ⟨0, Help.versionText, [], files⟩
  | .misuse => ⟨2, "", [], files⟩
  | .check path? verbose =>
      let source := match path? with
        | some path => SettingsSource.named path
        | none => .standard home
      let loaded := loadSettings files source
      match loaded.result with
      | .ok settings => Report.ofSettings settings verbose loaded.files
      | .error fault => Report.ofFault fault loaded.files

end DesktopTags
