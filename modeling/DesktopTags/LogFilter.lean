import DesktopTags.LogEvent
import DesktopTags.Text.Alphanumeric
import DesktopTags.Text.Blank

namespace DesktopTags

/-! ## Filter directives

A filter is a list of directives between commas. Each is a level, a target, or
both with an equals sign between; a span in brackets may follow the target, and
fields in braces the name of the span. -/

/-- Why a filter text is refused. -/
inductive FilterFault where
  | directive
  | level
deriving DecidableEq

def FilterFault.message : FilterFault → String
  | .directive => "invalid filter directive"
  | .level =>
      "error parsing level filter: expected one of \"off\", \"error\", \"warn\", "
        ++ "\"info\", \"debug\", \"trace\", or a number 0-5"

/-- The last level that passes; none if the filter is off. -/
abbrev Threshold : Type := Option Level

/-- A level written as a number from 0 to 5. -/
def Threshold.ofDigits? (digits : List Char) : Option Threshold :=
  if digits.isEmpty || digits.any fun c => !c.isDigit then none
  else
    match digits.foldl (fun value c => value * 10 + (c.toNat - '0'.toNat)) 0 with
    | 0 => some none
    | 1 => some (some .error)
    | 2 => some (some .warn)
    | 3 => some (some .info)
    | 4 => some (some .debug)
    | 5 => some (some .trace)
    | _ => none

/-- A level written as a word, in any case. -/
def Threshold.ofWord? (word : String) : Option Threshold :=
  match String.ofList (word.toList.map Char.toLower) with
  | "off" => some none
  | "error" => some (some .error)
  | "warn" => some (some .warn)
  | "info" => some (some .info)
  | "debug" => some (some .debug)
  | "trace" => some (some .trace)
  | _ => none

def Threshold.ofText? (text : String) : Option Threshold :=
  let digits := match text.toList with
    | '+' :: rest => rest
    | all => all
  (Threshold.ofDigits? digits).or (Threshold.ofWord? text)

/-- One directive. Without a level of its own it lets everything pass. A field is
listed with whether a value is asked of it. -/
structure Directive where
  target : Option String := none
  threshold : Threshold := some .trace
  span : Bool := false
  fields : List (String × Bool) := []
deriving DecidableEq

namespace Directive

/-! ### Reading one directive -/

/-- Where the reader is, and where the piece it is in began. -/
inductive Stage where
  | start
  | word (began : Nat)
  | span (began : Nat)
  | field (began : Nat)
  | afterFields
  | afterSpan
  | level (began : Nat)

/-- The characters whose first byte lies in a range of positions. -/
def cut (began ended : Nat) (offset : Nat) : List Char → List Char
  | [] => []
  | c :: rest =>
      let later := cut began ended (offset + c.utf8Size) rest
      if began ≤ offset && offset < ended then c :: later else later

def piece (text : List Char) (began ended : Nat) : String :=
  String.ofList (cut began ended 0 text)

def mayStart (c : Char) : Bool :=
  c = '-' || c = ':' || c = '_' || Text.isAlphanumeric c

/-- A field and the value asked of it, divided by the first equals sign. -/
def fieldOf (text : String) : String × Bool :=
  (String.ofList (text.toList.takeWhile (· ≠ '=')), text.toList.contains '=')

/-- Take one character at a byte position. -/
def step (text : List Char) (position : Nat) (c : Char) :
    Stage → Directive → Except FilterFault (Stage × Directive)
  | .start, directive =>
      if c = '[' then .ok (.span (position + 1), directive)
      else if mayStart c then .ok (.word position, directive)
      else .error .directive
  | .word began, directive =>
      if c = '=' then
        .ok (.level (position + 1), { directive with target := piece text began position })
      else if c = '[' then
        .ok (.span (position + 1), { directive with target := piece text began position })
      else .ok (.word began, directive)
  | .span began, directive =>
      if c = ']' then .ok (.afterSpan, { directive with span := true })
      else if c = '{' then
        .ok (.field (position + 1),
          { directive with span := piece text began position ≠ "" })
      else .ok (.span began, directive)
  | .field began, directive =>
      if c = '}' then
        let field := piece text began position
        if field = "" then .error .directive
        else
          .ok (.afterFields, { directive with fields := directive.fields ++ [fieldOf field] })
      else .ok (.field began, directive)
  | .afterFields, directive =>
      if c = ']' then .ok (.afterSpan, directive) else .error .directive
  | .afterSpan, directive =>
      if c = '=' then .ok (.level (position + 1), directive) else .error .directive
  | .level began, directive => .ok (.level began, directive)

/-- Close the piece the text ends in. A lone word is a level if it can be one. -/
def finish (text : List Char) : Stage → Directive → Except FilterFault Directive
  | .word began, directive =>
      let word := piece text began (String.ofList text).utf8ByteSize
      match Threshold.ofText? word with
      | some threshold => .ok { directive with threshold }
      | none => .ok { directive with target := word }
  | .level began, directive =>
      let word := piece text began (String.ofList text).utf8ByteSize
      if word = "" then .ok directive
      else
        match Threshold.ofText? word with
        | some threshold => .ok { directive with threshold }
        | none => .error .level
  | .afterSpan, directive => .ok directive
  | _, _ => .error .directive

/-- Take the characters ahead one by one, the first at a byte position. -/
def walk (text : List Char) :
    Nat → Stage → Directive → List Char → Except FilterFault Directive
  | _, stage, directive, [] => finish text stage directive
  | position, stage, directive, c :: rest => do
      let (stage, directive) ← step text position c stage directive
      walk text (position + c.utf8Size) stage directive rest

/-- Read one directive. The walk passes over white space at both ends but counts
positions from where it starts, while pieces are cut from the whole text. -/
def ofChars? (text : List Char) : Except FilterFault Directive :=
  walk text 0 .start {} (Text.trim text)

/-! ### What a directive lets pass -/

/-- The only field that a logged event has. -/
def eventField : String :=
  "message"

/-- A directive on spans says nothing about events outside of them. -/
def appliesToEvents (directive : Directive) : Bool :=
  !directive.span && directive.fields.all fun field => !field.2

/-- A target covers all events whose target it begins. -/
def covers (directive : Directive) (event : LogEvent) : Bool :=
  directive.appliesToEvents
    && (directive.target.all fun target => target.toList.isPrefixOf event.target.toList)
    && directive.fields.all fun field => field.1 = eventField

/-- How specific a directive is: a target beats none, a long one a short one, and
between equal targets the number of fields decides. -/
def weight (directive : Directive) : Nat × Nat :=
  (directive.target.elim 0 fun target => target.utf8ByteSize + 1, directive.fields.length)

def outweighs (heavy light : Directive) : Bool :=
  light.weight.1 < heavy.weight.1
    || (light.weight.1 = heavy.weight.1 && light.weight.2 ≤ heavy.weight.2)

end Directive

/-! ## Filters -/

/-- Directives in the order they were given. -/
structure LogFilter where
  directives : List Directive
deriving DecidableEq

namespace LogFilter

/-- The most specific directive that covers an event, the last one of equals. -/
def ruling? (filter : LogFilter) (event : LogEvent) : Option Directive :=
  (filter.directives.filter (Directive.covers · event)).foldl
    (fun best? directive =>
      match best? with
      | some best => if directive.outweighs best then some directive else some best
      | none => some directive)
    none

/-- Whether an event is wanted. What no directive covers is not. -/
def accepts (filter : LogFilter) (event : LogEvent) : Bool :=
  ((filter.ruling? event).bind Directive.threshold).any fun limit =>
    event.level.verbosity ≤ limit.verbosity

/-- The parts of a text between commas, empty ones left out. -/
def parts (text : List Char) : List (List Char) :=
  (text.splitOn ',').filter fun part => !part.isEmpty

/-- Read a filter. Where the text has no directive, `fallback` stands in. -/
def ofText? (fallback : Directive) (text : String) : Except FilterFault LogFilter := do
  let directives ← (parts text.toList).mapM Directive.ofChars?
  pure ⟨if directives.isEmpty then [fallback] else directives⟩

/-- Everything from debug upwards. -/
def debugDirective : Directive :=
  { threshold := some .debug }

/-- The filter a session logs through, and what was wrong with the text. A text
that cannot be read gives the debug filter. -/
def forSession (text : String) : LogFilter × Option FilterFault :=
  match ofText? debugDirective text with
  | .ok filter => (filter, none)
  | .error fault => (⟨[debugDirective]⟩, some fault)

/-- The lines of the wanted events. -/
def lines (filter : LogFilter) (log : List LogEvent) : List String :=
  (log.filter filter.accepts).map LogEvent.line

end LogFilter

end DesktopTags
