import DesktopTags.Proofs.Generations
import DesktopTags.Proofs.Population

/-!
# Calls made twice

Most calls say how things shall be. Made a second time right after the first,
such a call finds them so, or stops where the first one stopped, and leaves the
desktop as it is.
-/

namespace DesktopTags

/-- The calls that say how things shall be. -/
def Call.Repeatable : Call → Prop
  | .activate _ => True
  | .deactivate _ => True
  | .setActivated _ _ => True
  | .setSelected _ _ => True
  | .tagClient _ _ => True
  | .untagClient _ _ => True
  | .setClients _ _ => True
  | .manageClient _ _ => True
  | .focusClient _ => True
  | .unfocus => True
  | _ => False

/-- A call that is carried out and destroys the tag that it is about. -/
structure Call.Destroys (desktop : Desktop) (call : Call) (ref : TagRef) :
    Prop where
  about : call.subject? = some ref
  carried_out : ∃ reply, (call.run desktop).answer = .ok reply
  lived : desktop.tags.contains ref = true
  gone : (call.run desktop).desktop.tags.contains ref = false

namespace Desktop

open Operation

/-- A call that is made twice leaves the desktop as the first one left it. The
second call answers what the first one answered, or, if the first one destroyed
its tag, that there is no such tag. -/
structure Repeats (desktop : Desktop) (call : Call) : Prop where
  unchanged :
    (call.run (call.run desktop).desktop).desktop = (call.run desktop).desktop
  answer_of_destroyed :
    ∀ ref, call.Destroys desktop ref →
      (call.run (call.run desktop).desktop).answer = .error (.unknownTag ref)
  answer_of_kept :
    (∀ ref, ¬ call.Destroys desktop ref) →
      (call.run (call.run desktop).desktop).answer = (call.run desktop).answer

section Repeats

variable {desktop after : Desktop} {call : Call} {ref : TagRef}
  {old : Occupant} {client : ClientId} {answer : Except Fault Reply}
  {reply : Reply} {log logAgain : List LogEvent}

/-! ## How a second call can turn out -/

/-- A call that does nothing the first time does nothing the second time. -/
theorem Repeats.of_idle (idle : call.run desktop = ⟨answer, desktop, log⟩) :
    desktop.Repeats call := by
  have same : (call.run desktop).desktop = desktop := by rw [idle]
  refine ⟨by rw [same, same], ?_, fun _ => by rw [same]⟩
  intro ref destroys
  have gone := destroys.gone
  rw [same, destroys.lived] at gone
  cases gone

/-- The tag is still there, and the call finds nothing left to do. -/
theorem Repeats.of_again
    (first : call.run desktop = ⟨answer, after, log⟩)
    (again : call.run after = ⟨answer, after, logAgain⟩)
    (kept :
      ∀ ref, call.subject? = some ref → after.tags.contains ref = true) :
    desktop.Repeats call := by
  refine ⟨by rw [first, again], ?_, fun _ => by rw [first, again]⟩
  intro ref destroys
  have gone := destroys.gone
  rw [first, kept ref destroys.about] at gone
  cases gone

/-- The first call was carried out and its tag is gone. -/
theorem Repeats.of_gone
    (about : call.subject? = some ref)
    (lived : desktop.tags.contains ref = true)
    (first : call.run desktop = ⟨.ok reply, after, log⟩)
    (gone : after.tags.occupant? ref = none)
    (managed :
      ∀ client, call.client? = some client →
        after.clients.contains client = true) :
    desktop.Repeats call := by
  have refused := (stale_of_gone gone).unknownTag call about managed
  have destroyed : call.Destroys desktop ref :=
    ⟨about, ⟨reply, by rw [first]⟩, lived,
      by rw [first]; exact contains_eq_false_iff.2 gone⟩
  refine ⟨by rw [first, refused], ?_, fun none => absurd destroyed (none ref)⟩
  intro other destroys
  have same : some ref = some other := about.symm.trans destroys.about
  cases same
  rw [first, refused]

/-- A call that is carried out and settles its tag: either nothing refers to the
tag any more, or it is looked for again. -/
theorem Repeats.of_settle
    (new : Occupant) (about : call.subject? = some ref)
    (live : desktop.tags.occupant? ref = some old)
    (first : call.run desktop = ⟨.ok reply, after, log⟩)
    (settled : after.tags = desktop.tags.settle ref new)
    (managed :
      ∀ client, call.client? = some client →
        after.clients.contains client = true)
    (again :
      after.tags.occupant? ref = some new →
        ∃ log, call.run after = ⟨.ok reply, after, log⟩) :
    desktop.Repeats call := by
  have found := Arena.occupant?_settle live new ref
  rw [if_pos rfl, ← settled, Arena.remains] at found
  split at found
  · exact .of_gone about (contains_of_live live) first found managed
  · obtain ⟨_, second⟩ := again found
    refine .of_again first second ?_
    intro other aboutOther
    rw [about] at aboutOther
    cases aboutOther
    exact contains_of_live found

/-- Two names for one call. -/
theorem Repeats.of_same_run
    {other : Call} (repeats : desktop.Repeats other)
    (run : call.run = other.run)
    (about : call.subject? = other.subject?) : desktop.Repeats call := by
  have destroys_iff :
      ∀ ref, call.Destroys desktop ref ↔ other.Destroys desktop ref := by
    intro ref
    constructor
    · rintro ⟨subject, carriedOut, lived, gone⟩
      rw [run] at carriedOut gone
      exact ⟨about ▸ subject, carriedOut, lived, gone⟩
    · rintro ⟨subject, carriedOut, lived, gone⟩
      rw [← run] at carriedOut gone
      exact ⟨about.symm ▸ subject, carriedOut, lived, gone⟩
  constructor
  · rw [run]
    exact repeats.unchanged
  · intro ref destroys
    rw [run]
    exact repeats.answer_of_destroyed ref ((destroys_iff ref).1 destroys)
  · intro none
    rw [run]
    exact repeats.answer_of_kept fun ref destroys =>
      none ref ((destroys_iff ref).2 destroys)

/-! ## The registry and the selection -/

theorem Sound.activate_repeats (sound : desktop.Sound) (ref : TagRef) :
    desktop.Repeats (.activate ref) := by
  cases live : desktop.tags.occupant? ref with
  | none =>
      exact .of_idle (Call.thenDone_of (activate_of_gone live))
  | some old =>
      cases active : old.tag.activated with
      | true =>
          exact .of_idle (Call.thenDone_of (activate_of_active live active))
      | false =>
          have first := activate_of_inactive live (sound.referred live) active
          refine .of_settle
            { old with
              tag := { old.tag with activated := true }
              refs := old.refs + 1 }
            rfl live (Call.thenDone_of first) rfl nofun ?_
          intro found
          exact ⟨_, Call.thenDone_of (activate_of_active found rfl)⟩

theorem Sound.deactivate_repeats (sound : desktop.Sound) (ref : TagRef) :
    desktop.Repeats (.deactivate ref) := by
  cases live : desktop.tags.occupant? ref with
  | none =>
      exact .of_idle (Call.thenDone_of (deactivate_of_gone live))
  | some old =>
      cases active : old.tag.activated with
      | false =>
          exact .of_idle
            (Call.thenDone_of (deactivate_of_inactive live active))
      | true =>
          have registered := (sound.registered_iff live).2 active
          have first := deactivate_of_active live (sound.referred live) active
            registered
          refine .of_settle
            { old with tag := retired old.tag, refs := old.refs - 1 }
            rfl live (Call.thenDone_of first) rfl nofun ?_
          intro found
          exact ⟨_, Call.thenDone_of (deactivate_of_inactive found rfl)⟩

theorem Sound.setActivated_repeats
    (sound : desktop.Sound) (ref : TagRef) (activated : Bool) :
    desktop.Repeats (.setActivated ref activated) := by
  cases activated with
  | true =>
      exact (sound.activate_repeats ref).of_same_run rfl rfl
  | false =>
      exact (sound.deactivate_repeats ref).of_same_run rfl rfl

theorem Sound.setSelected_repeats
    (sound : desktop.Sound) (ref : TagRef) (selected : Bool) :
    desktop.Repeats (.setSelected ref selected) := by
  cases live : desktop.tags.occupant? ref with
  | none =>
      exact .of_idle (Call.thenDone_of (setSelected_of_gone live selected))
  | some old =>
      rcases selection_cases old.tag selected with
        same | ⟨different, allowed⟩ | ⟨rfl, unselected, inactive⟩
      · exact .of_idle (Call.thenDone_of (setSelected_of_same live same))
      · have first := setSelected_of_change live (sound.referred live)
          different allowed
        refine .of_settle { old with tag := { old.tag with selected } }
          rfl live (Call.thenDone_of first) rfl nofun ?_
        intro found
        exact ⟨_, Call.thenDone_of (setSelected_of_same found rfl)⟩
      · exact .of_idle (Call.thenDone_of
          (setSelected_of_inactive live unselected inactive))

/-! ## One edge -/

theorem Sound.tagClient_repeats
    (sound : desktop.Sound) (ref : TagRef) (client : ClientId) :
    desktop.Repeats (.tagClient ref client) := by
  cases known : desktop.clients.get? client with
  | none =>
      exact .of_idle (Call.thenDone_of (tagClient_of_stranger known ref))
  | some entry =>
      cases live : desktop.tags.occupant? ref with
      | none =>
          exact .of_idle (Call.thenDone_of (tagClient_of_gone known live))
      | some old =>
          by_cases member : client ∈ old.tag.clients
          · exact .of_idle (Call.thenDone_of
              (tagClient_of_member known live (sound.referred live) member))
          · have first := tagClient_of_new known live member
            refine .of_settle
              { old with tag := old.tag.add client, refs := old.refs + 1 }
              rfl live (Call.thenDone_of first) rfl ?_ ?_
            · rintro _ ⟨⟩
              exact (ClientTable.contains_iff _ _).2 ⟨entry, known⟩
            · intro found
              have joined : client ∈ (old.tag.add client).clients := by
                simp [Tag.add]
              exact ⟨_, Call.thenDone_of (tagClient_of_member (by exact known)
                found (Nat.succ_pos old.refs) joined)⟩

theorem Sound.untagClient_repeats
    (sound : desktop.Sound) (client : ClientId) (ref : TagRef) :
    desktop.Repeats (.untagClient client ref) := by
  cases known : desktop.clients.get? client with
  | none =>
      exact .of_idle (Call.thenDone_of (untagClient_of_stranger known ref))
  | some entry =>
      cases live : desktop.tags.occupant? ref with
      | none =>
          exact .of_idle (Call.thenDone_of (untagClient_of_gone known live))
      | some old =>
          by_cases member : client ∈ old.tag.clients
          · have first := untagClient_of_member known live
              (sound.referred live) member
            refine .of_settle (old.without client)
              rfl live (Call.thenDone_of first) rfl ?_ ?_
            · rintro _ ⟨⟩
              exact (ClientTable.contains_iff _ _).2 ⟨entry, known⟩
            · intro found
              have left : client ∉ (old.tag.remove client).clients :=
                (sound.fit live).clients_nodup.not_mem_erase
              exact ⟨_, Call.thenDone_of
                (untagClient_of_outsider (by exact known) found left)⟩
          · exact .of_idle (Call.thenDone_of
              (untagClient_of_outsider known live member))

/-! ## All members at once -/

/-- A tag that is given the members and the references that it has. -/
theorem staffed_self
    (live : desktop.tags.occupant? ref = some old)
    (referred : 0 < old.refs)
    (crowd : old.tag.clients.length ≤ old.refs) :
    desktop.staffed ref old (old.refs - old.tag.clients.length)
        old.tag.clients [] =
      desktop := by
  rw [staffed, announce_nil, Nat.sub_add_cancel crowd]
  exact settle_self live referred

/-- A request for just the members that a tag has. -/
theorem Sound.setClients_of_same
    (sound : desktop.Sound) (live : desktop.tags.occupant? ref = some old)
    {requested : List ClientId}
    (same : ∀ client, client ∈ old.tag.clients ↔ client ∈ requested) :
    ∃ log, setClients ref requested desktop =
      ⟨.ok old.tag.clients, desktop, log⟩ := by
  have fit := sound.fit live
  have crowd := sound.crowd live
  have subset : ∀ member ∈ old.tag.clients, member ∈ requested :=
    fun member => (same member).1
  have known : ∀ client ∈ requested, client ∈ old.tag.clients :=
    fun client => (same client).2
  obtain ⟨log, _, done⟩ :=
    setClients_of_managed live crowd fit.clients_nodup fit.clients_managed
      fun client asked => fit.clients_managed client (known client asked)
  simp only [reconciled_of_subset subset, dismissed_of_subset subset,
    newcomers_of_subset known, untagBlocks, tagBlocks, List.flatMap_nil,
    List.append_nil, staffed_self live (sound.referred live) crowd] at done
  exact ⟨_, done⟩

/-- A request that is refused behind just the members that a tag has. -/
theorem Sound.setClients_of_same_front
    (sound : desktop.Sound) (live : desktop.tags.occupant? ref = some old)
    {front : List ClientId} {stranger : ClientId} (rest : List ClientId)
    (unmanaged : desktop.clients.contains stranger = false)
    (same : ∀ client, client ∈ old.tag.clients ↔ client ∈ front) :
    ∃ log, setClients ref (front ++ stranger :: rest) desktop =
      ⟨.error (.unknownClient stranger), desktop, log⟩ := by
  have fit := sound.fit live
  have crowd := sound.crowd live
  have referred := sound.referred live
  have known : ∀ client ∈ front, client ∈ old.tag.clients :=
    fun client => (same client).2
  obtain ⟨log, _, stopped⟩ :=
    setClients_of_late_stranger live referred crowd rest
      (fun client asked => fit.clients_managed client (known client asked))
      unmanaged fun member => (same member).1
  simp only [newcomers_of_subset known, tagBlocks, List.flatMap_nil,
    List.append_nil, staffed_self live referred crowd] at stopped
  exact ⟨_, stopped⟩

theorem Sound.setClients_repeats_of_managed
    (sound : desktop.Sound) (live : desktop.tags.occupant? ref = some old)
    {requested : List ClientId}
    (managed : ∀ client ∈ requested, desktop.clients.contains client = true) :
    desktop.Repeats (.setClients ref requested) := by
  have fit := sound.fit live
  have soundAfter := sound.run (.setClients ref requested)
  obtain ⟨_, _, done⟩ :=
    setClients_of_managed live (sound.crowd live) fit.clients_nodup
      fit.clients_managed managed
  have first := Call.setClients_of done
  rw [first] at soundAfter
  refine .of_settle
    { old with
      tag := { old.tag with clients := reconciled old.tag.clients requested }
      refs :=
        old.refs - old.tag.clients.length +
          (reconciled old.tag.clients requested).length }
    rfl live first rfl nofun ?_
  intro found
  obtain ⟨_, again⟩ :=
    soundAfter.setClients_of_same found (mem_reconciled_iff _ _)
  exact ⟨_, Call.setClients_of again⟩

/-- The members are those named before the stranger after the first call, so the
second one walks past all of them and stops at the stranger, too. -/
theorem Sound.setClients_repeats_of_late_stranger
    (sound : desktop.Sound) (live : desktop.tags.occupant? ref = some old)
    {front : List ClientId} {stranger : ClientId} (rest : List ClientId)
    (managed : ∀ client ∈ front, desktop.clients.contains client = true)
    (unmanaged : desktop.clients.contains stranger = false)
    (late : ∀ member ∈ old.tag.clients, member ∈ front) :
    desktop.Repeats (.setClients ref (front ++ stranger :: rest)) := by
  have referred := sound.referred live
  have crowd := sound.crowd live
  have soundAfter := sound.run (.setClients ref (front ++ stranger :: rest))
  obtain ⟨_, _, stopped⟩ :=
    setClients_of_late_stranger live referred crowd rest managed unmanaged late
  have first := Call.setClients_of stopped
  rw [first] at soundAfter
  have found := occupant?_settle_self live
    { old with
      tag :=
        { old.tag with
          clients := old.tag.clients ++ newcomers old.tag.clients front }
      refs :=
        old.refs - old.tag.clients.length +
          (old.tag.clients ++ newcomers old.tag.clients front).length }
    (by simp only [List.length_append]; omega)
  have same := mem_reconciled_iff old.tag.clients front
  rw [reconciled_of_subset late] at same
  obtain ⟨_, again⟩ :=
    soundAfter.setClients_of_same_front found rest unmanaged same
  refine .of_again first (Call.setClients_of again) ?_
  rintro _ ⟨⟩
  exact contains_of_live found

theorem Sound.setClients_repeats
    (sound : desktop.Sound) (ref : TagRef) (requested : List ClientId) :
    desktop.Repeats (.setClients ref requested) := by
  cases live : desktop.tags.occupant? ref with
  | none =>
      exact .of_idle (Call.setClients_of (setClients_of_gone live requested))
  | some old =>
      rcases managed_or_stranger desktop.clients requested with
        managed | ⟨front, stranger, rest, split, managed, unmanaged⟩
      · exact sound.setClients_repeats_of_managed live managed
      · subst split
        by_cases late : ∀ member ∈ old.tag.clients, member ∈ front
        · exact sound.setClients_repeats_of_late_stranger live rest managed
            unmanaged late
        · exact .of_idle (Call.setClients_of
            (setClients_of_early_stranger live (sound.referred live)
              (sound.crowd live) rest managed unmanaged late))

/-! ## Clients and the focus -/

theorem manageClient_repeats
    (desktop : Desktop) (client : ClientId) (screen : ScreenId) :
    desktop.Repeats (.manageClient client screen) := by
  cases known : desktop.hasScreen screen with
  | false =>
      exact .of_idle (Call.thenDone_of (manageClient_of_unknown known))
  | true =>
      cases managed : desktop.clients.contains client with
      | true =>
          exact .of_idle
            (Call.thenDone_of (manageClient_of_managed known managed))
      | false =>
          have first := manageClient_of_new known managed
          have listed :
              (desktop.clients.insert client screen).contains client =
                true :=
            (ClientTable.contains_insert_iff _ _ _ _).2 (Or.inr rfl)
          have again :
              manageClient client screen
                  { desktop with
                    clients := desktop.clients.insert client screen } =
                ⟨.ok (),
                  { desktop with
                    clients := desktop.clients.insert client screen },
                  [.alreadyManaged client]⟩ :=
            manageClient_of_managed known listed
          exact .of_again (Call.thenDone_of first) (Call.thenDone_of again)
            nofun

theorem focusClient_repeats (desktop : Desktop) (client : ClientId) :
    desktop.Repeats (.focusClient client) := by
  cases known : desktop.clients.get? client with
  | none =>
      exact .of_idle (Call.thenDone_of (focusClient_of_stranger known))
  | some entry =>
      have first := focusClient_of_managed known
      have again :
          focusClient client
              { desktop with focus := desktop.focus.focus client } =
            ⟨.ok (), { desktop with focus := desktop.focus.focus client },
              []⟩ := by
        rw [focusClient_of_managed (by exact known)]
        simp only [FocusHistory.focus_focus]
      exact .of_again (Call.thenDone_of first) (Call.thenDone_of again) nofun

theorem unfocus_repeats (desktop : Desktop) : desktop.Repeats .unfocus := by
  have again :
      unfocus { desktop with focus := desktop.focus.unfocus } =
        ⟨.ok (), { desktop with focus := desktop.focus.unfocus }, []⟩ := by
    simp only [unfocus, change, FocusHistory.unfocus_unfocus]
  exact .of_again rfl (Call.thenDone_of again) nofun

end Repeats

/-- A call that says how things shall be does nothing when it is made a second
time right after the first. -/
theorem repeated_call_rests
    {desktop : Desktop} (reachable : desktop.Reachable)
    {call : Call} (repeatable : call.Repeatable) : desktop.Repeats call := by
  have sound := reachable.sound
  cases call with
  | activate tag => exact sound.activate_repeats tag
  | deactivate tag => exact sound.deactivate_repeats tag
  | setActivated tag activated =>
      exact sound.setActivated_repeats tag activated
  | setSelected tag selected => exact sound.setSelected_repeats tag selected
  | tagClient tag client => exact sound.tagClient_repeats tag client
  | untagClient client tag => exact sound.untagClient_repeats client tag
  | setClients tag requested => exact sound.setClients_repeats tag requested
  | manageClient client screen =>
      exact desktop.manageClient_repeats client screen
  | focusClient client => exact desktop.focusClient_repeats client
  | unfocus => exact desktop.unfocus_repeats
  | newTag name => cases repeatable
  | holdTag tag => cases repeatable
  | releaseTag tag => cases repeatable
  | setName tag name => cases repeatable
  | unmanageClient client => cases repeatable
  | addScreen output => cases repeatable

/-- A request that is refused after it has let a client join, and a call that
destroys its own tag. -/
theorem repeated_call_rests_of_refused_and_last :
    let desktop := (Desktop.start { tags := ["main", "mail"] }).desktop.after
      [.addScreen "DP-1", .manageClient ⟨1⟩ ⟨0⟩, .manageClient ⟨2⟩ ⟨0⟩,
        .tagClient ⟨0, 0⟩ ⟨1⟩]
    let request : Call := .setClients ⟨0, 0⟩ [⟨2⟩, ⟨1⟩, ⟨2⟩, ⟨9⟩]
    let last : Call := .deactivate ⟨1, 0⟩
    desktop.Reachable ∧ request.Repeatable ∧ last.Repeatable ∧
      desktop.Repeats request ∧ desktop.Repeats last ∧
      (request.run desktop).answer = .error (.unknownClient ⟨9⟩) ∧
      (request.run desktop).desktop.clientsOf ⟨0, 0⟩ = .ok [⟨1⟩, ⟨2⟩] ∧
      last.Destroys desktop ⟨1, 0⟩ ∧
      (last.run (last.run desktop).desktop).answer =
        .error (.unknownTag ⟨1, 0⟩) := by
  intro desktop request last
  have reachable : desktop.Reachable := (Reachable.start _).after _
  have requested : desktop.Repeats request :=
    repeated_call_rests reachable trivial
  have ended : desktop.Repeats last := repeated_call_rests reachable trivial
  have destroys : last.Destroys desktop ⟨1, 0⟩ :=
    ⟨rfl, ⟨.done, by decide⟩, by decide, by decide⟩
  exact ⟨reachable, trivial, trivial, requested, ended, by decide, by decide,
    destroys, ended.answer_of_destroyed ⟨1, 0⟩ destroys⟩

end Desktop

end DesktopTags
