namespace DesktopTags

/-! ## What a command line asks for -/

/-- The options that can be given. -/
inductive Flag where
  | verbose
  | help
  | version
deriving DecidableEq

namespace Flag

def all : List Flag :=
  [.verbose, .help, .version]

def short : Flag → Char
  | .verbose => 'v'
  | .help => 'h'
  | .version => 'V'

def long : Flag → String
  | .verbose => "verbose"
  | .help => "help"
  | .version => "version"

/-- What an option does, for the help text. -/
def purpose : Flag → String
  | .verbose => "Outputs received configuration file."
  | .help => "Print help"
  | .version => "Print version"

def ofShort? (c : Char) : Option Flag :=
  all.find? fun flag => flag.short = c

def ofLong? (name : String) : Option Flag :=
  all.find? fun flag => flag.long = name

end Flag

/-- What the program is to do. -/
inductive Command where
  /-- Check the settings in a file, or the standard ones. -/
  | check (path? : Option String) (verbose : Bool)
  | help
  | version
  /-- The arguments make no sense. -/
  | misuse
deriving DecidableEq

namespace Command

/-- Apply a flag to what is known so far. Some settle the matter at once; the
others tell whether to be verbose from now on, which is asked for only once. -/
def afterFlag (verbose : Bool) : Flag → Except Command Bool
  | .verbose => if verbose then .error .misuse else .ok true
  | .help => .error .help
  | .version => .error .version

/-- Several flags behind one hyphen. -/
def afterLetters (verbose : Bool) : List Char → Except Command Bool
  | [] => .ok verbose
  | letter :: rest =>
      match Flag.ofShort? letter with
      | none => .error .misuse
      | some flag => do
          let verbose ← afterFlag verbose flag
          afterLetters verbose rest

/-- Read arguments from left to right. Behind two hyphens no more flags follow; a
lone hyphen is no flag. At most one argument may be a path. -/
def ofArgumentsFrom
    (path? : Option String)
    (verbose flagsOver : Bool) :
    List String → Command
  | [] => .check path? verbose
  | argument :: rest =>
      let flags := if flagsOver then none else
        match argument.toList with
        | ['-'] => none
        | '-' :: letters => some letters
        | _ => none
      match flags with
      | none =>
          if path?.isSome then .misuse
          else ofArgumentsFrom (some argument) verbose flagsOver rest
      | some ['-'] => ofArgumentsFrom path? verbose true rest
      | some letters =>
          let after := match letters with
            | '-' :: name =>
                match Flag.ofLong? (.ofList name) with
                | some flag => afterFlag verbose flag
                | none => .error .misuse
            | _ => afterLetters verbose letters
          match after with
          | .ok verbose => ofArgumentsFrom path? verbose flagsOver rest
          | .error command => command

def ofArguments (arguments : List String) : Command :=
  ofArgumentsFrom none false false arguments

end Command

end DesktopTags
