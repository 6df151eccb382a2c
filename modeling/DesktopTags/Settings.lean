namespace DesktopTags

/-- What a user can configure. -/
structure Settings where
  /-- The names of the tags that are there from the start. -/
  tags : List String := (List.range' 1 9).map toString
  /-- Whether the first of them is shown at once. -/
  selectFirstTag : Bool := true
  /-- How many effects one dispatch delivers at most. Handlers that go on
  reacting to their own effects are cut off here. -/
  dispatchBudget : Nat := 10000
  /-- Which log lines are wanted. -/
  logLevel : String := "info"
deriving DecidableEq

/-- The settings of someone who configured nothing. -/
def Settings.standard : Settings := {}

/-- One thing that can be set. -/
inductive Setting where
  | tags
  | selectFirstTag
  | dispatchBudget
  | logLevel
deriving DecidableEq

/-- The key a setting is written under. -/
def Setting.key : Setting → String
  | .tags => "tags"
  | .selectFirstTag => "select_first_tag"
  | .dispatchBudget => "dispatch_budget"
  | .logLevel => "log_level"

/-- All settings, in the order they are written. -/
def Setting.all : List Setting :=
  [.tags, .selectFirstTag, .dispatchBudget, .logLevel]

end DesktopTags
