import DesktopTags.Proofs.Endings
import DesktopTags.Proofs.Refusals
import DesktopTags.Proofs.Run
import Mathlib.Data.Finset.Card
import Mathlib.Data.List.Nodup
import Mathlib.Logic.Function.Basic

/-!
# Reference counts

What keeps a tag alive can be told from outside: the handles that calls have
handed out and not taken back, the place of the tag in the registry, and its
members. The counts in the arena say the same at every moment of every run.
-/

namespace DesktopTags

/-! ## Handles handed out -/

/-- The handles on each tag after a happening. A new tag comes with one. -/
def Happening.tally (handed : TagRef → Int) : Happening → TagRef → Int
  | .called (.newTag _) (.ok (.tag ref)) => Function.update handed ref 1
  | .called (.holdTag ref) (.ok _) =>
      Function.update handed ref (handed ref + 1)
  | .called (.releaseTag ref) (.ok _) =>
      Function.update handed ref (handed ref - 1)
  | _ => handed

/-- The handles on each tag, counted along a history. -/
def handedOver (history : List Happening) : TagRef → Int :=
  history.foldl Happening.tally fun _ => 0

namespace Moment

/-- The handles that are out on a tag. -/
def handed (moment : Moment) (ref : TagRef) : Int :=
  handedOver moment.history ref

/-- All that refers to a tag: handles, the registry and members. -/
def holders (moment : Moment) (ref : TagRef) : Int :=
  moment.handed ref +
    ((moment.desktop.tags.get? ref).any Tag.activated).toNat +
    ((moment.desktop.tags.get? ref).elim [] Tag.clients).length

/-- The calls that were made, refused or not. -/
def operations (moment : Moment) : Nat :=
  moment.history.countP fun happening => happening.delivery?.isNone

end Moment

namespace Desktop

open Operation

variable {desktop : Desktop} {ref : TagRef}

theorem Settles.handles
    {α : Type} {given : Int} {spends : Occupant → Prop}
    {outcome : Outcome α}
    (settles : Settles desktop ref given spends outcome) (other : TagRef) :
    (outcome.desktop.tags.handles other : Int) =
      desktop.tags.handles other +
        if other = ref then balance given outcome.answer else 0 := by
  cases settles with
  | unchanged _ _ idle =>
      simp [idle]
  | @altered old new _ _ answer _ live alteration counted _ handled =>
      by_cases same : other = ref
      · subst same
        have before : desktop.tags.handles other = old.handles := by
          simp [Arena.handles, live]
        have after :
            (desktop.tags.settle other new).handles other =
              new.handles := by
          simp only [Arena.handles, Arena.occupant?_settle live, if_true,
            Arena.remains]
          split
          · rename_i spent
            rw [counted] at spent
            exact (((Occupant.counted_refs_eq_zero_iff _ _).1 spent).1).symm
          · rfl
        simp only [announce_tags, enlist, settle_tags, after, before,
          if_true]
        exact handled
      · simp [Arena.handles, enlist, Arena.occupant?_settle live, same]

theorem tally_of_subject
    {call : Call} (about : call.subject? = some ref)
    (answer : Except Fault Reply) (handed : TagRef → Int) :
    (Happening.called call answer).tally handed =
      Function.update handed ref
        (handed ref + balance call.given answer) := by
  cases call with
  | holdTag tag =>
      cases about
      cases answer with
      | ok => rfl
      | error => simp [Happening.tally]
  | releaseTag tag =>
      cases about
      cases answer with
      | ok => rfl
      | error => simp [Happening.tally]
  | newTag name => cases about
  | _ => simp [Happening.tally, Call.given]

theorem tally_of_idle
    {call : Call} (idle : call.given = 0)
    (notNew : ∀ name, call ≠ .newTag name)
    (answer : Except Fault Reply) (handed : TagRef → Int) :
    (Happening.called call answer).tally handed = handed := by
  cases call with
  | newTag name => exact absurd rfl (notNew name)
  | holdTag tag => cases idle
  | releaseTag tag => cases idle
  | _ => rfl

/-- Untagging takes no handle. -/
theorem Bereaves.handles
    {after : Desktop} {client : ClientId} {screen : ScreenId}
    {log : List LogEvent}
    (sound : desktop.Sound)
    (bereaves :
      Bereaves desktop client screen (desktop.tagsHolding client) log after)
    (ref : TagRef) :
    after.tags.handles ref = desktop.tags.handles ref := by
  simp only [Arena.handles, bereaves.occupant? ref]
  by_cases holds : ref ∈ desktop.tagsHolding client
  · obtain ⟨old, live, member⟩ :=
      (mem_tagsHolding_iff desktop client ref).1 holds
    rw [if_pos holds, live, Option.bind_some, Option.elim_some,
      Arena.remains]
    split
    · rename_i spent
      exact ((sound.without_refs_eq_zero_iff live member).1 spent).1.symm
    · rfl
  · rw [if_neg holds]

/-- Every call changes the handles by just what its answer tells. -/
theorem Sound.handles_run (sound : desktop.Sound) (call : Call) :
    (fun ref => ((call.run desktop).desktop.tags.handles ref : Int)) =
      (Happening.called call (call.run desktop).answer).tally
        fun ref => desktop.tags.handles ref := by
  funext other
  rcases sound.run_cases call with
    ⟨ref, about, settles⟩ | ⟨name, rfl⟩ | ⟨client, rfl⟩ |
      ⟨idle, notNew, _, still⟩
  · rw [settles.handles, tally_of_subject about]
    by_cases same : other = ref
    · subst same
      simp
    · simp [same]
  · have found := sound.tidy.occupant?_insert { name } other
    rw [Call.run, bind_pure_apply, newTag_apply]
    simp only [Arena.handles, found, Except.map, Happening.tally]
    by_cases same : other = (desktop.tags.insert { name }).1
    · simp [same]
    · simp [same]
  · rw [tally_of_idle rfl (by simp), Call.run, Call.thenDone_apply]
    cases known : desktop.clients.get? client with
    | none =>
        rw [unmanageClient_of_stranger known]
    | some entry =>
        obtain ⟨after, log, done, bereaves⟩ :=
          unmanageClient_of_managed sound known
        rw [done]
        exact congrArg Nat.cast (bereaves.handles sound other)
  · rw [tally_of_idle idle notNew, still.tags]

/-! ## Counts of one desktop -/

theorem refs_eq_holders
    (sound : desktop.Sound) (ref : TagRef) :
    desktop.tags.refs ref =
      desktop.tags.handles ref +
        ((desktop.tags.get? ref).any Tag.activated).toNat +
        ((desktop.tags.get? ref).elim [] Tag.clients).length := by
  cases live : desktop.tags.occupant? ref with
  | none =>
      simp [Arena.refs, Arena.handles, Arena.get?, live]
  | some old =>
      have count := sound.refs_eq live
      simpa [Arena.refs, Arena.handles, Arena.get?, live] using count

theorem contains_iff_refs (sound : desktop.Sound) (ref : TagRef) :
    desktop.tags.contains ref = true ↔ 1 ≤ desktop.tags.refs ref := by
  cases live : desktop.tags.occupant? ref with
  | none =>
      simp [Arena.refs, Arena.contains, live]
  | some old =>
      have referred : 1 ≤ old.refs := sound.referred live
      simpa [Arena.refs, Arena.contains, live] using referred

/-- The arena holds as many tags as something refers to. -/
theorem instances_eq_card (sound : desktop.Sound) :
    ∃ refs : Finset TagRef,
      (∀ ref, ref ∈ refs ↔ desktop.tags.refs ref ≠ 0) ∧
        desktop.instances = refs.card := by
  refine ⟨desktop.tags.refList.toFinset, ?_, ?_⟩
  · intro ref
    rw [List.mem_toFinset, Arena.mem_refList_iff, contains_iff_refs sound]
    omega
  · rw [List.toFinset_card_of_nodup desktop.tags.refList_nodup,
      Arena.length_refList]
    rfl

/-- There are no more clients than 32-bit numbers. -/
theorem length_le_of_nodup
    {clients : List ClientId} (nodup : clients.Nodup) :
    clients.length ≤ UInt32.size := by
  have injective :
      Function.Injective fun client : ClientId => client.number.toNat := by
    intro first second same
    cases first
    cases second
    exact congrArg ClientId.mk (UInt32.toNat_inj.1 same)
  have numbers := nodup.map injective
  have bounded :
      (clients.map fun client => client.number.toNat) ⊆
        List.range UInt32.size := by
    intro number member
    obtain ⟨client, _, same⟩ := List.mem_map.1 member
    rw [List.mem_range, ← same]
    exact client.number.toNat_lt_size
  have fewer := (numbers.subperm bounded).length_le
  rwa [List.length_map, List.length_range] at fewer

end Desktop

/-! ## Runs -/

/-- A call hands out at most one handle. -/
theorem Happening.tally_le
    {handed : TagRef → Int} {bound : Int} (nonneg : 0 ≤ bound)
    (within : ∀ ref, handed ref ≤ bound)
    (call : Call) (answer : Except Fault Reply) (ref : TagRef) :
    (Happening.called call answer).tally handed ref ≤ bound + 1 := by
  have before := within ref
  have single :
      ∀ (other : TagRef) (count : Int), count ≤ bound + 1 →
        Function.update handed other count ref ≤ bound + 1 := by
    intro other count small
    rw [Function.update_apply]
    split
    · exact small
    · omega
  cases answer with
  | error fault =>
      cases call <;> exact Int.le_add_one before
  | ok reply =>
      cases call with
      | newTag name =>
          cases reply with
          | tag fresh => exact single fresh 1 (by omega)
          | _ => exact Int.le_add_one before
      | holdTag tag =>
          have other := within tag
          exact single tag _ (by omega)
      | releaseTag tag =>
          have other := within tag
          exact single tag _ (by omega)
      | _ => exact Int.le_add_one before

namespace Moment

theorem handed_call (moment : Moment) (call : Call) :
    (moment.call call).handed =
      (Happening.called call (call.run moment.desktop).answer).tally
        moment.handed := by
  funext ref
  simp only [handed, handedOver, Moment.call, List.foldl_append,
    List.foldl_cons, List.foldl_nil]
  rfl

theorem handed_deliver
    (moment : Moment) (effect : Effect) (queue : List Effect) :
    (moment.deliver effect queue).handed = moment.handed := by
  funext ref
  simp [handed, handedOver, Moment.deliver, Happening.tally]

theorem operations_call (moment : Moment) (call : Call) :
    (moment.call call).operations = moment.operations + 1 := by
  simp [operations, Moment.call, Happening.delivery?]

theorem operations_deliver
    (moment : Moment) (effect : Effect) (queue : List Effect) :
    (moment.deliver effect queue).operations = moment.operations := by
  simp [operations, Moment.deliver, Happening.delivery?]

theorem Step.handed_eq
    {before after : Moment} (step : Step before after)
    (sound : before.desktop.Sound)
    (told :
      before.handed = fun ref => (before.desktop.tags.handles ref : Int)) :
    after.handed = fun ref => (after.desktop.tags.handles ref : Int) := by
  cases step with
  | call call =>
      rw [handed_call, told]
      exact (sound.handles_run call).symm
  | deliver =>
      rw [handed_deliver, told]
      rfl

/-- The handles in the arena are those that calls have handed out. -/
theorem Reached.handed_eq {moment : Moment} (reached : moment.Reached) :
    moment.handed = fun ref => (moment.desktop.tags.handles ref : Int) := by
  apply reached.induction
  · rfl
  · intro before after step sound told
    exact step.handed_eq sound told

theorem Step.handed_le
    {before after : Moment} (step : Step before after)
    (within : ∀ ref, before.handed ref ≤ before.operations) (ref : TagRef) :
    after.handed ref ≤ after.operations := by
  cases step with
  | call call =>
      rw [handed_call, operations_call, Int.natCast_add]
      exact Happening.tally_le (Int.natCast_nonneg _) within _ _ ref
  | deliver =>
      rw [handed_deliver, operations_deliver]
      exact within ref

theorem Reached.handed_le {moment : Moment} (reached : moment.Reached) :
    ∀ ref, moment.handed ref ≤ moment.operations := by
  apply reached.induction
  · intro ref
    exact Int.le_refl 0
  · intro before after step _ within
    exact step.handed_le within

/-- The counts of a moment are exact. -/
structure Counted (moment : Moment) : Prop where
  handles :
    ∀ ref, (moment.desktop.tags.handles ref : Int) = moment.handed ref
  refs : ∀ ref, (moment.desktop.tags.refs ref : Int) = moment.holders ref
  live_iff :
    ∀ ref, moment.desktop.tags.contains ref = true ↔
      1 ≤ moment.desktop.tags.refs ref
  /-- There is room for the two references that a call takes on its way. -/
  bounded :
    2 * moment.operations < UInt64.size →
      ∀ ref, moment.desktop.tags.refs ref + 2 < UInt64.size
  instances :
    ∃ refs : Finset TagRef,
      (∀ ref, ref ∈ refs ↔ moment.holders ref ≠ 0) ∧
        moment.desktop.instances = refs.card

theorem Reached.counted {moment : Moment} (reached : moment.Reached) :
    moment.Counted := by
  have sound := reached.sound
  have handles :
      ∀ ref,
        (moment.desktop.tags.handles ref : Int) = moment.handed ref := by
    intro ref
    rw [reached.handed_eq]
  have refs :
      ∀ ref,
        (moment.desktop.tags.refs ref : Int) = moment.holders ref := by
    intro ref
    rw [Desktop.refs_eq_holders sound, holders, ← handles]
    simp
  refine ⟨handles, refs, Desktop.contains_iff_refs sound, ?_, ?_⟩
  · intro few ref
    have within := reached.handed_le ref
    have sum := Desktop.refs_eq_holders sound ref
    have members :
        ((moment.desktop.tags.get? ref).elim [] Tag.clients).length ≤
          UInt32.size := by
      cases live : moment.desktop.tags.occupant? ref with
      | none =>
          simp [Arena.get?, live]
      | some old =>
          have fewer :=
            Desktop.length_le_of_nodup (sound.fit live).clients_nodup
          simpa [Arena.get?, live] using fewer
    have active :=
      Bool.toNat_le ((moment.desktop.tags.get? ref).any Tag.activated)
    have out := handles ref
    simp only [UInt32.size, UInt64.size] at few members ⊢
    omega
  · obtain ⟨live, isLive, card⟩ := Desktop.instances_eq_card sound
    refine ⟨live, ?_, card⟩
    intro ref
    have count := refs ref
    rw [isLive ref]
    omega

end Moment

/-- A call takes back no reference that is not there, and ends a tag only with
its last one. -/
structure Desktop.TakesBack (desktop : Desktop) (call : Call) : Prop where
  returned :
    ∀ ref, (call.run desktop).answer = .error (.notHeld ref) →
      call = .releaseTag ref ∧ desktop.tags.contains ref = true ∧
        desktop.tags.handles ref = 0
  ends :
    ∀ ref old, desktop.tags.occupant? ref = some old →
      ((call.run desktop).desktop.tags.occupant? ref = none ↔
        call.Ends ref old)
  reports :
    ReportsEnds desktop (call.run desktop).log (call.run desktop).desktop

theorem Desktop.Sound.takesBack
    {desktop : Desktop} (sound : desktop.Sound) (call : Call) :
    desktop.TakesBack call where
  returned := by
    intro ref refused
    have fault := sound.run_fault call
    rw [refused, faultOf_error] at fault
    exact returned_of_refusal fault.symm
  ends := by
    intro ref old live
    exact sound.gone_iff_ends call live
  reports := sound.run_reportsEnds call

/-- At every moment of every run the counts are exact, and every call that may
come next respects them. A dispatch is a part of a run, whatever its handlers
call. -/
theorem Moment.reference_counts_exact
    {moment : Moment} (reached : moment.Reached) :
    moment.Counted ∧
      (∀ call, moment.desktop.TakesBack call) ∧
      ∀ {σ μ : Type} (session : Session σ μ),
        session.desktop = moment.desktop →
        (∀ handler ∈ session.handlers, handler.Reenters) →
          ∃ after : Moment, moment.Leads after ∧
            after.desktop = session.dispatch.session.desktop ∧
            after.Counted := by
  refine ⟨reached.counted, reached.sound.takesBack, ?_⟩
  intro σ μ session now reenter
  obtain ⟨after, leads, last, _⟩ :=
    session.dispatch_leads reenter moment now.symm
  exact ⟨after, leads, last, (reached.leads leads).counted⟩

/-- A tag whose three handles have all been given back lives on with its member,
until the member is untagged. -/
theorem Moment.reference_counts_of_member :
    let moment := (start { tags := ["main"] }).calls
      [.addScreen "DP-1", .manageClient ⟨7⟩ ⟨0⟩, .newTag "spare",
        .holdTag ⟨1, 0⟩, .holdTag ⟨1, 0⟩, .tagClient ⟨1, 0⟩ ⟨7⟩,
        .releaseTag ⟨1, 0⟩, .releaseTag ⟨1, 0⟩, .releaseTag ⟨1, 0⟩,
        .releaseTag ⟨1, 0⟩]
    let session := Session.answering moment.desktop "tagged"
      [.untagClient ⟨7⟩ ⟨1, 0⟩]
    moment.Reached ∧
      moment.handed ⟨1, 0⟩ = 0 ∧
      moment.holders ⟨1, 0⟩ = 1 ∧
      moment.desktop.TakesBack (.untagClient ⟨7⟩ ⟨1, 0⟩) ∧
      (∀ handler ∈ session.handlers, handler.Reenters) ∧
      ∃ after : Moment, moment.Leads after ∧
        after.desktop = session.dispatch.session.desktop ∧
        after.holders ⟨1, 0⟩ = 0 := by
  intro moment session
  have reached : moment.Reached :=
    (Reached.start _).leads (leads_calls _ _)
  have reenter : ∀ handler ∈ session.handlers, handler.Reenters :=
    Session.answering_reenter _ _ _
  obtain ⟨now, takesBack, dispatched⟩ := reference_counts_exact reached
  obtain ⟨after, leads, last, later⟩ := dispatched session rfl reenter
  refine ⟨reached, ?_, ?_, takesBack _, reenter, after, leads, last, ?_⟩
  · rw [← now.handles]
    decide
  · rw [← now.refs]
    decide
  · rw [← later.refs, last]
    decide

end DesktopTags
