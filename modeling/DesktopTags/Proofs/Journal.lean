import DesktopTags.Proofs.Run
import Mathlib.Data.List.Nodup
import Mathlib.Logic.Function.Basic

/-!
# The signals as a journal

An observer who starts with nothing and follows the signals knows the registry,
which tags are shown and who their members are, up to the signals that still
wait in the queue.
-/

namespace DesktopTags

/-- What an observer of the signals knows. -/
structure Journal where
  registry : List TagRef
  selected : TagRef → Bool
  members : TagRef → List ClientId

/-- What a desktop shows to an observer who may look at it. A tag that is gone
is not shown and has no members. -/
def Desktop.journal (desktop : Desktop) : Journal where
  registry := desktop.registry.tags
  selected := fun ref => (desktop.tags.get? ref).any Tag.selected
  members := fun ref => (desktop.tags.get? ref).elim [] Tag.clients

namespace Journal

def empty : Journal where
  registry := []
  selected := fun _ => false
  members := fun _ => []

/-- A tag comes into the registry or leaves it. -/
def toggle (journal : Journal) (ref : TagRef) : Journal :=
  { journal with
    registry :=
      if ref ∈ journal.registry then journal.registry.erase ref
      else journal.registry ++ [ref] }

/-- A tag comes into view or goes out of view. -/
def flip (journal : Journal) (ref : TagRef) : Journal :=
  { journal with
    selected :=
      Function.update journal.selected ref (!journal.selected ref) }

/-- The members of a tag change. -/
def regroup
    (journal : Journal) (ref : TagRef)
    (change : List ClientId → List ClientId) : Journal :=
  { journal with
    members :=
      Function.update journal.members ref (change (journal.members ref)) }

/-- The journal once a tag and the registry are known anew. -/
def revise
    (journal : Journal) (registry : List TagRef) (ref : TagRef)
    (tag : Tag) : Journal where
  registry
  selected := Function.update journal.selected ref tag.selected
  members := Function.update journal.members ref tag.clients

/-- Take note of a signal. The client's half of a membership change tells
nothing new. -/
def record (journal : Journal) (signal : Signal) : Journal :=
  match signal.target, signal.kind, signal.argument with
  | .tag ref, .activatedChanged, _ => journal.toggle ref
  | .tag ref, .selectedChanged, _ => journal.flip ref
  | .tag ref, .tagged, some (.client client) =>
      journal.regroup ref fun members => members ++ [client]
  | .tag ref, .untagged, some (.client client) =>
      journal.regroup ref fun members => members.erase client
  | _, _, _ => journal

/-- Take note of one effect. -/
def note (journal : Journal) : Effect → Journal
  | .display _ => journal
  | .emit signal => journal.record signal

/-- Take note of effects in their order. -/
def read (journal : Journal) (effects : List Effect) : Journal :=
  effects.foldl note journal

/-- The journal tells the registry and all about the live tags, and nothing
about any other tag. -/
structure Describes (journal : Journal) (desktop : Desktop) : Prop where
  registry : journal.registry = desktop.registry.tags
  live :
    ∀ ref tag, desktop.tags.get? ref = some tag →
      journal.selected ref = tag.selected ∧
        journal.members ref = tag.clients
  gone :
    ∀ ref, desktop.tags.get? ref = none →
      ref ∉ journal.registry ∧ journal.selected ref = false ∧
        journal.members ref = []

@[simp]
theorem read_nil (journal : Journal) : journal.read [] = journal :=
  rfl

@[simp]
theorem read_cons
    (journal : Journal) (effect : Effect) (rest : List Effect) :
    journal.read (effect :: rest) = (journal.note effect).read rest :=
  rfl

@[simp]
theorem read_append (journal : Journal) (first second : List Effect) :
    journal.read (first ++ second) = (journal.read first).read second :=
  List.foldl_append

@[simp]
theorem note_display (journal : Journal) (request : DisplayRequest) :
    journal.note (.display request) = journal :=
  rfl

@[simp]
theorem regroup_regroup
    (journal : Journal) (ref : TagRef)
    (first second : List ClientId → List ClientId) :
    (journal.regroup ref first).regroup ref second =
      journal.regroup ref fun members => second (first members) := by
  simp [regroup]

@[simp]
theorem regroup_id (journal : Journal) (ref : TagRef) :
    (journal.regroup ref fun members => members) = journal := by
  simp [regroup]

section Revise

variable {journal : Journal} {ref : TagRef} {tag : Tag}

theorem revise_of_same
    {registry : List TagRef}
    (listed : journal.registry = registry)
    (shown : journal.selected ref = tag.selected)
    (staffed : journal.members ref = tag.clients) :
    journal.revise registry ref tag = journal := by
  rw [revise, ← listed, ← shown, ← staffed, Function.update_eq_self,
    Function.update_eq_self]

theorem revise_toggle
    {registry : List TagRef}
    (listed : (journal.toggle ref).registry = registry)
    (shown : journal.selected ref = tag.selected)
    (staffed : journal.members ref = tag.clients) :
    journal.revise registry ref tag = journal.toggle ref := by
  rw [← revise_of_same listed shown staffed]
  rfl

theorem revise_flip
    {registry : List TagRef}
    (listed : journal.registry = registry)
    (shown : (!journal.selected ref) = tag.selected)
    (staffed : journal.members ref = tag.clients) :
    journal.revise registry ref tag = journal.flip ref := by
  rw [revise, ← listed, ← shown, ← staffed, Function.update_eq_self]
  rfl

theorem revise_regroup
    {registry : List TagRef} {change : List ClientId → List ClientId}
    (listed : journal.registry = registry)
    (shown : journal.selected ref = tag.selected)
    (staffed : change (journal.members ref) = tag.clients) :
    journal.revise registry ref tag = journal.regroup ref change := by
  rw [revise, ← listed, ← shown, ← staffed, Function.update_eq_self]
  rfl

/-- A tag that is known anew need not be known before. -/
theorem revise_of_flip
    (journal : Journal) (registry : List TagRef) (ref : TagRef) (tag : Tag) :
    (journal.flip ref).revise registry ref tag =
      journal.revise registry ref tag := by
  simp [revise, flip]

end Revise

/-! ## Blocks of effects -/

theorem read_desktopListChanged (journal : Journal) (ref : TagRef) :
    journal.read (Desktop.desktopListChanged ref) = journal.toggle ref :=
  rfl

theorem read_hidden (journal : Journal) (ref : TagRef) (tag : Tag) :
    journal.read (Desktop.hidden ref tag) =
      if tag.selected then journal.flip ref else journal := by
  unfold Desktop.hidden
  split <;> rfl

theorem read_selectionChanged
    (journal : Journal) (screens : List Screen) (ref : TagRef) :
    journal.read (Desktop.selectionChanged screens ref) =
      journal.flip ref := by
  have silent :
      journal.read
          (screens.map fun screen =>
            .display (.updateWorkarea screen.id)) =
        journal := by
    induction screens with
    | nil =>
        rfl
    | cons screen rest inductionHypothesis =>
        rw [List.map_cons, read_cons, note_display, inductionHypothesis]
  rw [Desktop.selectionChanged, read_append, read_append]
  simp only [read_cons, read_nil, note_display, silent]
  rfl

theorem read_tagBlock
    (journal : Journal) (ref : TagRef) (client : ClientId)
    (screen : ScreenId) :
    journal.read (Effect.tagBlock ref client screen) =
      journal.regroup ref fun members => members ++ [client] :=
  rfl

theorem read_untagBlock
    (journal : Journal) (ref : TagRef) (client : ClientId)
    (screen : ScreenId) :
    journal.read (Effect.untagBlock ref client screen) =
      journal.regroup ref fun members => members.erase client :=
  rfl

theorem read_tagBlocks
    {table : ClientTable} {clients : List ClientId}
    (managed : ∀ client ∈ clients, table.contains client = true)
    (journal : Journal) (ref : TagRef) :
    journal.read (Desktop.tagBlocks table ref clients) =
      journal.regroup ref fun members => members ++ clients := by
  induction clients generalizing journal with
  | nil =>
      simp [Desktop.tagBlocks]
  | cons client rest inductionHypothesis =>
      obtain ⟨known, restManaged⟩ := List.forall_mem_cons.1 managed
      obtain ⟨entry, found⟩ := (ClientTable.contains_iff table client).1 known
      rw [Desktop.tagBlocks_cons found, read_append, read_tagBlock,
        inductionHypothesis restManaged, regroup_regroup]
      simp only [List.append_assoc, List.singleton_append]

theorem read_untagBlocks
    {table : ClientTable} {clients : List ClientId}
    (managed : ∀ client ∈ clients, table.contains client = true)
    (journal : Journal) (ref : TagRef) :
    journal.read (Desktop.untagBlocks table ref clients) =
      journal.regroup ref fun members => members.diff clients := by
  induction clients generalizing journal with
  | nil =>
      simp [Desktop.untagBlocks]
  | cons client rest inductionHypothesis =>
      obtain ⟨known, restManaged⟩ := List.forall_mem_cons.1 managed
      obtain ⟨entry, found⟩ := (ClientTable.contains_iff table client).1 known
      rw [Desktop.untagBlocks_cons found, read_append, read_untagBlock,
        inductionHypothesis restManaged, regroup_regroup]
      simp only [List.diff_cons]

end Journal

/-! ## Every change is announced -/

namespace Desktop

variable {desktop : Desktop} {ref : TagRef} {old : Occupant}

theorem journal_selected_of_live
    (live : desktop.tags.occupant? ref = some old) :
    desktop.journal.selected ref = old.tag.selected := by
  simp [journal, Arena.get?, live]

theorem journal_members_of_live
    (live : desktop.tags.occupant? ref = some old) :
    desktop.journal.members ref = old.tag.clients := by
  simp [journal, Arena.get?, live]

/-- A settled tag is seen as it is. If it ends with that, it is neither shown
nor has members. -/
theorem journal_settle
    (live : desktop.tags.occupant? ref = some old)
    {tag : Tag} (fit : tag.Fit desktop.clients) (handles : Nat)
    (registry : Registry) (effects : List Effect) :
    (((desktop.settle ref (.counted tag handles)).enlist
        registry).announce effects).journal =
      desktop.journal.revise registry.tags ref tag := by
  have found := Arena.get?_settle live (.counted tag handles)
  have kept :
      ((Arena.remains (.counted tag handles)).map
          Occupant.tag).any Tag.selected =
        tag.selected ∧
      ((Arena.remains (.counted tag handles)).map
          Occupant.tag).elim [] Tag.clients =
        tag.clients := by
    unfold Arena.remains
    split
    · rename_i spent
      obtain ⟨empty, _, hidden⟩ := fit.bare spent
      rw [hidden, empty]
      exact ⟨rfl, rfl⟩
    · exact ⟨rfl, rfl⟩
  simp only [journal, Journal.revise, announce_tags, enlist, settle_tags,
    found]
  refine congrArg₂ (Journal.mk registry.tags) ?_ ?_
  · funext other
    by_cases same : other = ref
    · subst same
      simpa using kept.1
    · simp [same]
  · funext other
    by_cases same : other = ref
    · subst same
      simpa using kept.2
    · simp [same]

/-- An alteration announces what an observer sees of it. -/
theorem Alteration.read_journal
    (sound : desktop.Sound)
    (live : desktop.tags.occupant? ref = some old)
    {tag : Tag} {handles : Nat} {registry : Registry}
    {effects : List Effect}
    (alteration :
      Alteration desktop ref old.tag old.handles
        tag handles registry effects) :
    desktop.journal.read effects =
      desktop.journal.revise registry.tags ref tag := by
  have shown := journal_selected_of_live live
  have staffed := journal_members_of_live live
  have registered := sound.registered_iff live
  have fit := sound.fit live
  cases alteration with
  | hold =>
      exact (Journal.revise_of_same rfl shown staffed).symm
  | giveBack =>
      exact (Journal.revise_of_same rfl shown staffed).symm
  | rename =>
      exact (Journal.revise_of_same rfl shown staffed).symm
  | activate inactive =>
      have absent : ref ∉ desktop.registry.tags := by
        rw [registered, inactive]
        exact Bool.false_ne_true
      rw [Journal.read_desktopListChanged]
      refine (Journal.revise_toggle ?_ shown staffed).symm
      simp [Journal.toggle, journal, absent, Registry.push]
  | deactivate active =>
      have present := registered.2 active
      have unlisted :
          (desktop.journal.toggle ref).registry =
            (desktop.registry.erase ref).tags := by
        simp [Journal.toggle, journal, present, Registry.erase]
      rw [Journal.read_append, Journal.read_hidden,
        Journal.read_desktopListChanged]
      cases visible : old.tag.selected with
      | false =>
          symm
          apply Journal.revise_toggle unlisted
          · exact shown.trans visible
          · exact staffed
      | true =>
          rw [if_pos rfl, ← Journal.revise_of_flip]
          symm
          apply Journal.revise_toggle
          · exact unlisted
          · simp [Journal.flip, shown, visible, retired]
          · exact staffed
  | select different allowed =>
      rw [Journal.read_selectionChanged]
      symm
      apply Journal.revise_flip rfl
      · rw [shown]
        exact Bool.not_eq.2 different
      · exact staffed
  | regroup keeps joining nodup new managed =>
      have leavingManaged :
          ∀ client ∈ old.tag.clients.filter fun client => !keeps client,
            desktop.clients.contains client = true := by
        intro client leaves
        exact fit.clients_managed client (List.mem_filter.1 leaves).1
      have staying :
          old.tag.clients.diff
              (old.tag.clients.filter fun client => !keeps client) =
            old.tag.clients.filter keeps := by
        rw [fit.clients_nodup.sdiff_eq_filter]
        apply List.filter_congr
        intro client member
        simp [member]
      rw [Journal.read_append, Journal.read_untagBlocks leavingManaged,
        Journal.read_tagBlocks managed, Journal.regroup_regroup]
      symm
      apply Journal.revise_regroup rfl
      · exact shown
      · rw [staffed, staying]

/-- A new tag is neither in the registry nor shown, and has no members. -/
theorem Sound.journal_create (sound : desktop.Sound) (name : String) :
    journal { desktop with tags := (desktop.tags.insert { name }).2 } =
      desktop.journal := by
  have fresh := sound.tidy.occupant?_insert_ref { name }
  have found := sound.tidy.occupant?_insert { name }
  refine congrArg₂ (Journal.mk desktop.registry.tags) ?_ ?_
  · funext other
    rw [Arena.get?, found]
    by_cases same : other = (desktop.tags.insert { name }).1
    · subst same
      simp [Arena.get?, fresh]
    · simp [Arena.get?, same]
  · funext other
    rw [Arena.get?, found]
    by_cases same : other = (desktop.tags.insert { name }).1
    · subst same
      simp [Arena.get?, fresh]
    · simp [Arena.get?, same]

/-- A change announces what an observer sees of it. -/
theorem Change.read_journal
    {before after : Desktop} {effects : List Effect}
    (change : Change before effects after) (sound : before.Sound) :
    before.journal.read effects = after.journal := by
  cases change with
  | create name =>
      exact (sound.journal_create name).symm
  | alter live alteration =>
      have fit := alteration.fit (sound.fit live)
      rw [alteration.read_journal sound live, journal_settle live fit]
  | addScreen => rfl
  | manage => rfl
  | dismiss => rfl
  | focus => rfl
  | unfocus => rfl

theorem Changes.read_journal
    {before after : Desktop} {effects : List Effect}
    (changes : Changes before effects after) (sound : before.Sound) :
    before.journal.read effects = after.journal := by
  induction changes with
  | none =>
      rfl
  | next changes change inductionHypothesis =>
      rw [Journal.read_append, inductionHypothesis]
      exact change.read_journal (changes.sound sound)

/-- The journal that looking at a sound desktop gives describes it. -/
theorem Sound.describes (sound : desktop.Sound) :
    desktop.journal.Describes desktop where
  registry := rfl
  live := by
    intro ref tag found
    simp [journal, found]
  gone := by
    intro ref missing
    have gone : desktop.tags.occupant? ref = none := by
      simpa [Arena.get?] using missing
    refine ⟨sound.notMem_registry_of_gone gone, ?_, ?_⟩
    · simp [journal, missing]
    · simp [journal, missing]

end Desktop

/-! ## Runs -/

namespace Moment

/-- What an observer knows who has followed the signals so far and then goes on
over those that still wait. -/
def journal (moment : Moment) : Journal :=
  (Journal.empty.read moment.deliveries).read moment.desktop.queue

theorem Step.journal_eq
    {before after : Moment} (step : Step before after)
    (sound : before.desktop.Sound)
    (known : before.journal = before.desktop.journal) :
    after.journal = after.desktop.journal := by
  cases step with
  | call call =>
      obtain ⟨effects, changes⟩ := sound.run_changes call
      have announced := changes.read_journal sound
      rw [← known] at announced
      rw [journal, deliveries_call]
      simp only [Moment.call, changes.queue, Journal.read_append]
      exact announced
  | @deliver effect queue front =>
      rw [journal, front, Journal.read_cons] at known
      rw [journal, deliveries_deliver, Journal.read_append]
      exact known

/-- Looking at the desktop tells what following the signals tells. -/
theorem Reached.journal_eq {moment : Moment} (reached : moment.Reached) :
    moment.journal = moment.desktop.journal := by
  apply reached.induction
  · rfl
  · intro before after step sound known
    exact step.journal_eq sound known

/-- At every moment of every run the signals that were delivered, followed by
those that wait, describe the desktop. A dispatch is a part of a run that
delivers just what the dispatch delivers, whatever its handlers call. -/
theorem journal_describes {moment : Moment} (reached : moment.Reached) :
    moment.journal.Describes moment.desktop ∧
      ∀ {σ μ : Type} (session : Session σ μ),
        session.desktop = moment.desktop →
        (∀ handler ∈ session.handlers, handler.Reenters) →
          ∃ after : Moment, moment.Leads after ∧
            after.desktop = session.dispatch.session.desktop ∧
            after.deliveries =
              moment.deliveries ++ session.dispatch.delivered ∧
            after.journal.Describes after.desktop := by
  constructor
  · rw [reached.journal_eq]
    exact reached.sound.describes
  · intro σ μ session now reenter
    obtain ⟨after, leads, last, delivered⟩ :=
      session.dispatch_leads reenter moment now.symm
    have later := reached.leads leads
    refine ⟨after, leads, last, delivered, ?_⟩
    rw [later.journal_eq]
    exact later.sound.describes

/-- A tag with one member, and a handler that hides the tag as soon as it hears
of the member. -/
theorem journal_describes_one_member :
    let moment := (start { tags := ["main"] }).calls
      [.addScreen "DP-1", .manageClient ⟨7⟩ ⟨0⟩, .tagClient ⟨0, 0⟩ ⟨7⟩]
    let session := Session.answering moment.desktop "tagged"
      [.setSelected ⟨0, 0⟩ false]
    moment.Reached ∧
      moment.journal.registry = [⟨0, 0⟩] ∧
      moment.journal.selected ⟨0, 0⟩ = true ∧
      moment.journal.members ⟨0, 0⟩ = [⟨7⟩] ∧
      (∀ handler ∈ session.handlers, handler.Reenters) ∧
      ∃ after : Moment, moment.Leads after ∧
        after.desktop = session.dispatch.session.desktop ∧
        after.journal.selected ⟨0, 0⟩ = false ∧
        after.journal.members ⟨0, 0⟩ = [⟨7⟩] := by
  intro moment session
  have reached : moment.Reached :=
    (Reached.start _).leads (leads_calls _ _)
  have reenter : ∀ handler ∈ session.handlers, handler.Reenters :=
    Session.answering_reenter _ _ _
  obtain ⟨now, dispatched⟩ := journal_describes reached
  obtain ⟨after, leads, last, _, later⟩ := dispatched session rfl reenter
  obtain ⟨shown, staffed⟩ :=
    now.live ⟨0, 0⟩ ⟨"main", true, true, [⟨7⟩]⟩ (by decide)
  have hidden := later.live ⟨0, 0⟩ ⟨"main", false, true, [⟨7⟩]⟩
    (by rw [last]; decide)
  exact ⟨reached, now.registry.trans (by decide), shown, staffed, reenter,
    after, leads, last, hidden⟩

end Moment

end DesktopTags
