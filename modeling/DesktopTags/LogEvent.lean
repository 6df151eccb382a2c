import DesktopTags.Effect
import DesktopTags.Tag
import DesktopTags.Text.Quoted

namespace DesktopTags

/-- How much an event matters, from the most to the least. -/
inductive Level where
  | error
  | warn
  | info
  | debug
  | trace
deriving DecidableEq

namespace Level

/-- How talkative a level is: an error is the least, a trace the most. -/
def verbosity : Level → Nat
  | .error => 1
  | .warn => 2
  | .info => 3
  | .debug => 4
  | .trace => 5

def label : Level → String
  | .error => "ERROR"
  | .warn => "WARN"
  | .info => "INFO"
  | .debug => "DEBUG"
  | .trace => "TRACE"

end Level

/-! ## What the library reports about its own work -/

/-- Everything that can be logged. -/
inductive LogEvent where
  | started (tags : Nat)
  | alreadyManaged (client : ClientId)
  | destroyed (tag : TagRef) (old : Tag)
  | created (tag : TagRef) (name : String)
  | handedBack (tag : TagRef) (old : Tag)
  | alreadyActivated (tag : TagRef)
  | alreadyDeactivated (tag : TagRef)
  | missingFromRegistry (tag : TagRef)
  | refusedSelection (tag : TagRef)
  | alreadyTagged (client : ClientId) (tag : TagRef)
  | unmanaged (client : ClientId)
  | reconciled (tag : TagRef) (requested : Nat)
  | deliveringRequest (request : DisplayRequest)
  | deliveringSignal (signal : Signal)
  | budgetSpent (budget : Nat) (left : Nat)
  | displayAsked (request : DisplayRequest)
  | displayFlushed (executed : Nat)
  | fallingBack (reason : String)
  | tagActivated (name : String)
  | startupDelivered (effects : Nat)
deriving DecidableEq

namespace LogEvent

def level : LogEvent → Level
  | .missingFromRegistry _ | .budgetSpent .. | .fallingBack _ => .warn
  | .started _ | .destroyed .. | .created .. | .handedBack .. | .refusedSelection _
  | .unmanaged _ | .displayAsked _ | .tagActivated _ | .startupDelivered _ => .debug
  | .alreadyManaged _ | .alreadyActivated _ | .alreadyDeactivated _ | .alreadyTagged ..
  | .reconciled .. | .deliveringRequest _ | .deliveringSignal _ | .displayFlushed _ => .trace

/-- The part of the program an event belongs to; log filters select by it. -/
def target : LogEvent → String
  | .started _ | .alreadyManaged _ | .destroyed .. => "tagwm_core::state"
  | .created .. | .handedBack .. | .alreadyActivated _ | .alreadyDeactivated _
  | .missingFromRegistry _ => "tagwm_core::handlers::activation_handler"
  | .refusedSelection _ => "tagwm_core::handlers::selection_handler"
  | .alreadyTagged .. | .unmanaged _ => "tagwm_core::handlers::membership_handler"
  | .reconciled .. => "tagwm_core::handlers::reconcile_handler"
  | .deliveringRequest _ | .deliveringSignal _ | .budgetSpent .. =>
      "tagwm_core::models::manager"
  | .displayAsked _ | .displayFlushed _ => "tagwm::display_server"
  | .fallingBack _ | .tagActivated _ | .startupDelivered _ => "tagwm_check"

/-- What a display without a screen says when it is asked for something. -/
def displayMessage : DisplayRequest → String
  | .invalidateBanning => "Banning needs an update"
  | .updateWorkarea screen => "Workarea of " ++ screen.label ++ " needs an update"
  | .updateClientDesktop client => "Desktop of client " ++ client.label ++ " changed"
  | request => "Desktop list changed: " ++ request.describe

def message : LogEvent → String
  | .started tags => "Started with " ++ toString tags ++ " tags"
  | .alreadyManaged client => "Client " ++ client.label ++ " is already managed"
  | .destroyed tag old =>
      "Destroyed tag " ++ tag.describe ++ " (" ++ Text.quoted old.name ++ ") with "
        ++ toString old.clients.length ++ " clients"
  | .created tag name => "Created tag " ++ tag.describe ++ " named " ++ Text.quoted name
  | .handedBack tag old =>
      "Destroyed tag " ++ tag.describe ++ " (" ++ Text.quoted old.name ++ ")"
  | .alreadyActivated tag => "Tag " ++ tag.describe ++ " is already activated"
  | .alreadyDeactivated tag => "Tag " ++ tag.describe ++ " is already deactivated"
  | .missingFromRegistry tag =>
      "Activated tag " ++ tag.describe ++ " was missing from the registry"
  | .refusedSelection tag => "Refusing to select inactive tag " ++ tag.describe
  | .alreadyTagged client tag =>
      "Client " ++ client.label ++ " is already tagged with " ++ tag.describe
  | .unmanaged client => "Unmanaged client " ++ client.label
  | .reconciled tag requested =>
      "Reconciled " ++ tag.describe ++ " to " ++ toString requested ++ " clients"
  | .deliveringRequest request => "DisplayAction: " ++ request.describe
  | .deliveringSignal signal =>
      "Signal: " ++ signal.name ++ " on " ++ signal.target.describe
  | .budgetSpent budget left =>
      "Dispatch budget of " ++ toString budget ++ " spent, " ++ toString left
        ++ " effects left queued"
  | .displayAsked request => displayMessage request
  | .displayFlushed executed => "Executed " ++ toString executed ++ " display actions so far"
  | .fallingBack reason => "Falling back to debug logging: " ++ reason
  | .tagActivated name => "Tag " ++ Text.quoted name ++ " activated"
  | .startupDelivered effects => "Delivered " ++ toString effects ++ " startup effects"

/-- An event as one line of a log. -/
def line (event : LogEvent) : String :=
  event.level.label ++ " " ++ event.target ++ ": " ++ event.message

end LogEvent

end DesktopTags
