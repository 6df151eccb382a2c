import DesktopTags.Handle

namespace DesktopTags

/-! ## What is announced, and about whom -/

/-- The object a signal is sent on, or carries as its argument. -/
inductive SignalTarget where
  | tag (tag : TagRef)
  | client (client : ClientId)
deriving DecidableEq

inductive SignalKind where
  | nameChanged
  | selectedChanged
  | activatedChanged
  | tagged
  | untagged
deriving DecidableEq

/-- The name a handler is connected under. -/
def SignalKind.name : SignalKind → String
  | .nameChanged => "property.name"
  | .selectedChanged => "property.selected"
  | .activatedChanged => "property.activated"
  | .tagged => "tagged"
  | .untagged => "untagged"

/-- An event published on an object. Property signals carry no argument. A
membership change is announced twice: on the client with the tag as argument,
and on the tag with the client as argument. -/
structure Signal where
  target : SignalTarget
  kind : SignalKind
  argument : Option SignalTarget
deriving DecidableEq

namespace SignalTarget

def tag? : SignalTarget → Option TagRef
  | .tag ref => some ref
  | .client _ => none

def client? : SignalTarget → Option ClientId
  | .tag _ => none
  | .client id => some id

/-- A target spelled out for a log line. -/
def describe : SignalTarget → String
  | .tag ref => "Tag(" ++ ref.describe ++ ")"
  | .client id => "Client(" ++ id.describe ++ ")"

end SignalTarget

namespace Signal

def property (tag : TagRef) (kind : SignalKind) : Signal :=
  ⟨.tag tag, kind, none⟩

/-- The client's half of a membership change. -/
def onClient (client : ClientId) (kind : SignalKind) (tag : TagRef) : Signal :=
  ⟨.client client, kind, some (.tag tag)⟩

/-- The tag's half of a membership change. -/
def onTag (tag : TagRef) (kind : SignalKind) (client : ClientId) : Signal :=
  ⟨.tag tag, kind, some (.client client)⟩

def name (signal : Signal) : String :=
  signal.kind.name

def argumentCount (signal : Signal) : Nat :=
  if signal.argument.isSome then 1 else 0

/-- The tag a signal concerns: its target if that is a tag, else its argument. -/
def tag? (signal : Signal) : Option TagRef :=
  signal.target.tag?.or (signal.argument.bind SignalTarget.tag?)

/-- The client a signal concerns: its target if that is a client, else its
argument. -/
def client? (signal : Signal) : Option ClientId :=
  signal.target.client?.or (signal.argument.bind SignalTarget.client?)

end Signal

end DesktopTags
