import DesktopTags.CommandLine.Run

namespace DesktopTags.Program

/-! ## The program -/

/-- The directory for configuration files. -/
def configurationHome : IO String := do
  match ← IO.getEnv "XDG_CONFIG_HOME" with
  | some home => if home.startsWith "/" then return home
  | none => pure ()
  match ← IO.getEnv "HOME" with
  | some home => return home ++ "/.config"
  | none => throw (IO.userError "no home directory is known")

/-- What a path leads to, if anything. -/
def look (path : String) : IO (Option Node) := do
  try
    let bytes ← IO.FS.readBinFile path
    return some (.file bytes)
  catch
    | .noFileOrDirectory .. => return none
    | _ => return some .directory

/-- What is on the way that names lead on from a path. Nothing lies behind a file. Behind a
directory that is missing only the steps back out of it lead on; `missing` tells how many of
them it takes. -/
def survey (files : Files) (way : String) (missing : Nat) : List String → IO Files
  | [] => return files
  | name :: rest => do
      if 0 < missing then
        let depth :=
          if name = "" || name = "." then missing
          else if name = ".." then missing - 1
          else missing + 1
        survey files way depth rest
      else
        let path := way ++ name
        match ← look (if path = "" then "/" else path) with
        | none => survey files way 1 rest
        | some node =>
            let files := files.put (files.locationOf (path ++ "/")) node
            match node with
            | .file _ => return files
            | .directory => survey files (path ++ "/") 0 rest

/-- The part of the disk that a path touches. The directory that the program runs
in has no name here; it lies deep enough for every step back in the path. -/
def surroundings (path : String) : IO Files :=
  let names := Files.namesOf path
  survey { workplace := names.map fun _ => "." } "" 0 names

/-- Write a file that was not there before. -/
def keepNewFile (home path : String) (before after : Files) : IO Unit := do
  match before.nodeAt (before.locationOf path), after.find path with
  | none, .ok (.file bytes) => do
      IO.FS.createDirAll (settingsDirectory home)
      IO.FS.writeBinFile path bytes
  | _, _ => pure ()

end DesktopTags.Program

section

open DesktopTags Program

/-- Do what the arguments ask for, and show what came of it. -/
def main (arguments : List String) : IO UInt32 := do
  let command := Command.ofArguments arguments
  let home ← match command with
    | .check none _ => configurationHome
    | _ => pure ""
  let path := match command with
    | .check (some path) _ => path
    | _ => (SettingsSource.standard home).path
  let before ← surroundings path
  let report := runCommand home before command
  keepNewFile home path before report.files
  let output ← IO.getStdout
  output.putStr report.output
  let errors ← IO.getStderr
  for line in report.log do
    errors.putStrLn line
  return UInt32.ofNat report.code

end
