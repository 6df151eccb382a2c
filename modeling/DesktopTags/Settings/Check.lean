import DesktopTags.LogFilter
import DesktopTags.Settings

namespace DesktopTags

/-! ## Checking settings -/

/-- Whether a check passed, and the lines it printed. -/
structure Verdict where
  passed : Bool
  lines : List String
deriving DecidableEq

/-- Keep one of each run of equal neighbours. -/
def collapseRuns : List String → List String
  | [] => []
  | [name] => [name]
  | name :: next :: rest =>
      if name = next then collapseRuns (next :: rest)
      else name :: collapseRuns (next :: rest)

/-- The different names of a list, in order. -/
def distinctNames (names : List String) : List String :=
  collapseRuns (names.mergeSort fun a b => decide (a ≤ b))

/-- Whether some name occurs more than once. -/
def hasRepeatedName (names : List String) : Bool :=
  (distinctNames names).length ≠ names.length

namespace Settings

def repeatedNamesNote : String :=
  "Note: some tag names are used more than once, they will be told apart by position only."

/-- What a user would want to know about the tags and the budget. Repeated names
are worth a note, but they do no harm. -/
def checkTags (settings : Settings) (verbose : Bool) : Verdict :=
  let opening := if verbose then ["Checking the tag list."] else []
  if settings.tags.isEmpty then
    ⟨false, opening
      ++ ["No tags are configured, nothing can be shown until a tag is created."]⟩
  else
    let note := if hasRepeatedName settings.tags then [repeatedNamesNote] else []
    if settings.dispatchBudget = 0 then
      ⟨false, opening ++ note ++ ["dispatch_budget is 0, no signal will ever be delivered."]⟩
    else
      ⟨true, opening ++ note ++ if verbose then ["Tags are okay."] else []⟩

/-- Whether the log filter can be read. -/
def checkLogLevel (settings : Settings) (verbose : Bool) : Verdict :=
  let opening := if verbose then ["Trying to parse log_level."] else []
  match LogFilter.ofText? LogFilter.debugDirective settings.logLevel with
  | .ok _ => ⟨true, opening ++ if verbose then ["Log level is ok."] else []⟩
  | .error fault => ⟨false, opening ++ ["Log level is invalid: " ++ fault.message]⟩

end Settings

end DesktopTags
