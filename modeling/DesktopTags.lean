import DesktopTags.Desktop.Call
import DesktopTags.Main
import DesktopTags.Text.Lossy
import DesktopTags.Proofs.Arena
import DesktopTags.Proofs.Operation
import DesktopTags.Proofs.Lifecycle
import DesktopTags.Proofs.Membership
import DesktopTags.Proofs.Reconciliation
import DesktopTags.Proofs.Change
import DesktopTags.Proofs.Settlement
import DesktopTags.Proofs.Dismissal
import DesktopTags.Proofs.Calls
import DesktopTags.Proofs.Refusals
import DesktopTags.Proofs.Run
import DesktopTags.Proofs.Journal
import DesktopTags.Proofs.ReferenceCounts
import DesktopTags.Proofs.Endings
import DesktopTags.Proofs.MemberReplacement
import DesktopTags.Proofs.DeliveryOrder
import DesktopTags.Proofs.MembershipNotices
import DesktopTags.Proofs.RefusedCalls
import DesktopTags.Proofs.DisplayCache
import DesktopTags.Proofs.Footprint
import DesktopTags.Proofs.Activation
import DesktopTags.Proofs.Mentions
import DesktopTags.Proofs.SlotUse
import DesktopTags.Proofs.Generations
import DesktopTags.Proofs.Departure
import DesktopTags.Proofs.SplitBudget
import DesktopTags.Proofs.SeparateTags
import DesktopTags.Proofs.Digits
import DesktopTags.Proofs.JsonText
import DesktopTags.Proofs.Restoring
import DesktopTags.Proofs.Dumps
import DesktopTags.Proofs.QuotedText
import DesktopTags.Proofs.TomlValues
import DesktopTags.Proofs.SettingsText
import DesktopTags.Proofs.SavedSettings
import DesktopTags.Proofs.RepeatedCalls
import DesktopTags.Proofs.OppositeCalls
import DesktopTags.Proofs.Deactivation
import DesktopTags.Proofs.CurrentTag
import DesktopTags.Proofs.Portrayal
import DesktopTags.Proofs.FirstDispatch
import DesktopTags.Proofs.FocusRuns
import DesktopTags.Proofs.LineEnds
import DesktopTags.Proofs.LaterLines
import DesktopTags.Proofs.TomlLines
import DesktopTags.Proofs.JsonParts
import DesktopTags.Proofs.MissingSettings
import DesktopTags.Proofs.PeakUse
import DesktopTags.Proofs.RepeatedNames
import DesktopTags.Proofs.Directories
import DesktopTags.Proofs.LoadedSettings
