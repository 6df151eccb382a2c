import DesktopTags.CommandLine

namespace DesktopTags

/-! ## The help text -/

namespace Help

def programName : String := "tagwm check"

def programVersion : String := "0.1.0"

def about : String :=
  "Checks the configuration and prints the tag state it starts with"

/-- Name and purpose of the only argument that is no flag. -/
def input : String × String :=
  ("[INPUT]", "Sets the input file to use. Uses the default config file otherwise.")

/-- Names and their purposes in two columns, two blanks apart. -/
def columns (rows : List (String × String)) : List String :=
  let width := (rows.map fun row => row.1.length).foldl max 0
  rows.map fun (name, purpose) =>
    "  " ++ name ++ String.ofList (List.replicate (width - name.length + 2) ' ') ++ purpose

/-- A heading above its rows. -/
def part (heading : String) (rows : List (String × String)) : String :=
  "\n".intercalate ((heading ++ ":") :: columns rows)

def flagRow (flag : Flag) : String × String :=
  ("-" ++ String.singleton flag.short ++ ", --" ++ flag.long, flag.purpose)

/-- A piece of the layout: text, or a slot that is filled in. -/
inductive Piece where
  | verbatim (text : String)
  | name
  | version
  | about
  | usageHeading
  | usage
  | arguments
deriving DecidableEq

namespace Piece

/-- How a piece stands in the template. -/
def placeholder : Piece → String
  | .verbatim text => text
  | .name => "\x7bname\x7d"
  | .version => "\x7bversion\x7d"
  | .about => "\x7babout-with-newline\x7d"
  | .usageHeading => "\x7busage-heading\x7d"
  | .usage => "\x7busage\x7d"
  | .arguments => "\x7ball-args\x7d"

/-- How a piece reads in the help text. -/
def filled : Piece → String
  | .verbatim text => text
  | .name => programName
  | .version => programVersion
  | .about => Help.about ++ "\n"
  | .usageHeading => "Usage:"
  | .usage => "tagwm-check [OPTIONS] [INPUT]"
  | .arguments =>
      part "Arguments" [input] ++ "\n\n" ++ part "Options" (Flag.all.map flagRow)

end Piece

def layout : List Piece :=
  [.name, .verbatim " ", .version, .verbatim "\n", .about, .verbatim "\n",
    .usageHeading, .verbatim " ", .usage, .verbatim "\n\n", .arguments, .verbatim "\n"]

def template : String :=
  String.join (layout.map Piece.placeholder)

def text : String :=
  String.join (layout.map Piece.filled)

def versionText : String :=
  programName ++ " " ++ programVersion ++ "\n"

end Help

end DesktopTags
