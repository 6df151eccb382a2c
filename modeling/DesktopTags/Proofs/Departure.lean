import DesktopTags.Proofs.MembershipNotices
import DesktopTags.Proofs.Population
import DesktopTags.Proofs.RefusedCalls

/-!
# The departure of a client

A client that is unmanaged leaves every tag and every other part of the desktop
that mentioned it, and nothing else changes. So a client that comes later under
the same id has nothing of the earlier one.
-/

namespace DesktopTags

/-- What is left of an occupant when a member leaves. -/
structure Occupant.Loses
    (client : ClientId) (old new : Occupant) : Prop where
  tag :
    new.tag =
      { old.tag with
        clients := old.tag.clients.filter fun member => member ≠ client }
  refs : new.refs + 1 = old.refs
  handles : new.handles = old.handles

namespace Desktop

open Operation

variable {desktop after : Desktop} {ref : TagRef} {old : Occupant}
  {client : ClientId} {screen : ScreenId} {log : List LogEvent}

/-- A desktop that a client leaves, and that keeps everything else. The tags that
held the client lose one member, and those that nothing else refers to end. All
that is queued is one block for each of them, in slot order. -/
structure Departs
    (desktop : Desktop) (client : ClientId) (screen : ScreenId)
    (after : Desktop) : Prop where
  queue :
    ∃ refs : List TagRef,
      refs.Pairwise (fun left right => left.slot < right.slot) ∧
        (∀ ref, ref ∈ refs ↔ desktop.isTagged client ref = true) ∧
        after.queue =
          desktop.queue ++
            refs.flatMap fun ref => Effect.untagBlock ref client screen
  ended_iff :
    ∀ ref old, desktop.tags.occupant? ref = some old →
      client ∈ old.tag.clients →
        (after.tags.occupant? ref = none ↔
          old.tag.clients = [client] ∧ old.tag.activated = false ∧
            old.handles = 0)
  loses :
    ∀ ref old new, desktop.tags.occupant? ref = some old →
      client ∈ old.tag.clients →
        after.tags.occupant? ref = some new → old.Loses client new
  spared :
    ∀ ref, desktop.isTagged client ref = false →
      after.tags.occupant? ref = desktop.tags.occupant? ref
  untagged : ∀ ref, after.isTagged client ref = false
  clients :
    after.clients.clients =
      desktop.clients.clients.filter fun entry => entry.id ≠ client
  unmanaged : after.clients.contains client = false
  current :
    after.focus.current? =
      if desktop.focus.current? = some client then none
      else desktop.focus.current?
  history :
    desktop.focus.current? ≠ some client →
      after.focus.entries =
        desktop.focus.entries.filter fun focused => focused ≠ some client
  remembered :
    ∀ other, some other ∈ after.focus.entries →
      other ≠ client ∧ some other ∈ desktop.focus.entries
  registry : after.registry = desktop.registry
  screens : after.screens = desktop.screens

theorem isTagged_iff (desktop : Desktop) (client : ClientId) (ref : TagRef) :
    desktop.isTagged client ref = true ↔
      ∃ old, desktop.tags.occupant? ref = some old ∧
        client ∈ old.tag.clients := by
  simp only [isTagged_eq, Option.any_eq_true, Tag.hasClient_iff]

theorem Bereaves.clients_eq
    {holding : List TagRef}
    (bereaves : Bereaves desktop client screen holding log after) :
    after.clients = desktop.clients := by
  have same := congrArg Desktop.clients bereaves.rest
  exact same

theorem Bereaves.focus_eq
    {holding : List TagRef}
    (bereaves : Bereaves desktop client screen holding log after) :
    after.focus = desktop.focus := by
  have same := congrArg Desktop.focus bereaves.rest
  exact same

/-- A tag that keeps its slot lost just the member that left. -/
theorem Bereaves.loses
    {new : Occupant} (sound : desktop.Sound)
    (bereaves :
      Bereaves desktop client screen (desktop.tagsHolding client) log after)
    (live : desktop.tags.occupant? ref = some old)
    (member : client ∈ old.tag.clients)
    (kept : after.tags.occupant? ref = some new) :
    old.Loses client new := by
  have holds :=
    (mem_tagsHolding_iff desktop client ref).2 ⟨old, live, member⟩
  have nodup := (sound.fit live).clients_nodup
  have referred := sound.referred live
  rw [bereaves.occupant? ref, if_pos holds, live, Option.bind_some,
    Arena.remains] at kept
  split at kept
  · cases kept
  · cases kept
    refine ⟨?_, ?_, rfl⟩
    · simp [Occupant.without, Tag.remove, nodup.erase_eq_filter, bne,
        beq_eq_decide]
    · simp only [Occupant.without]
      omega

theorem Sound.departs
    (sound : desktop.Sound)
    (bereaves :
      Bereaves desktop client screen (desktop.tagsHolding client) log after) :
    desktop.Departs client screen (after.forget client) where
  queue :=
    ⟨desktop.tagsHolding client,
      desktop.tags.refList_sorted.sublist
        (desktop.tagsHolding_sublist client),
      fun ref =>
        (mem_tagsHolding_iff desktop client ref).trans
          (isTagged_iff desktop client ref).symm,
      congrArg Desktop.queue bereaves.rest⟩
  ended_iff := by
    intro ref old live member
    rw [forget, bereaves.gone_iff sound live, Occupant.OnlyMembers]
    tauto
  loses := by
    intro ref old new live member kept
    exact bereaves.loses sound live member kept
  spared := by
    intro ref outside
    have spared : ref ∉ desktop.tagsHolding client := by
      rw [mem_tagsHolding_iff, ← isTagged_iff, outside]
      exact Bool.false_ne_true
    rw [forget, bereaves.occupant? ref, if_neg spared]
  untagged := by
    intro ref
    rw [← Bool.not_eq_true, isTagged_iff]
    rintro ⟨new, live, member⟩
    exact bereaves.untagged sound ref new live member
  clients := by
    rw [forget, bereaves.clients_eq]
    exact ClientTable.clients_erase sound.table_nodup client
  unmanaged := by
    rw [forget, bereaves.clients_eq, ← Bool.not_eq_true,
      ClientTable.contains_iff_mem, ClientTable.ids_erase]
    exact sound.table_nodup.not_mem_erase
  current := by
    rw [forget, bereaves.focus_eq]
    exact desktop.focus.current?_forget client
  history := by
    intro unfocused
    rw [forget, bereaves.focus_eq]
    simp only [FocusHistory.forget, if_neg unfocused]
  remembered := by
    rw [forget, bereaves.focus_eq]
    intro other member
    exact FocusHistory.mem_of_mem_forget member
  registry := by
    have same := congrArg Desktop.registry bereaves.rest
    exact same
  screens := by
    have same := congrArg Desktop.screens bereaves.rest
    exact same

/-! ## A client that comes later -/

/-- A client that has just come: it is managed, in no tag, and has never had the
focus. -/
structure New
    (desktop : Desktop) (client : ClientId) (screen : ScreenId) : Prop where
  managed : desktop.clients.get? client = some ⟨client, screen⟩
  untagged : ∀ ref, desktop.isTagged client ref = false
  unfocused : desktop.focus.current? ≠ some client
  forgotten : some client ∉ desktop.focus.entries

theorem Sound.new_of_insert
    (sound : desktop.Sound)
    (stranger : desktop.clients.contains client = false)
    (screen : ScreenId) :
    { desktop with clients := desktop.clients.insert client screen }.New
      client screen := by
  have absent := (ClientTable.contains_eq_false_iff _ _).1 stranger
  have forgotten : some client ∉ desktop.focus.entries := by
    intro remembered
    have managed := sound.focus_managed client remembered
    exact Bool.false_ne_true (stranger.symm.trans managed)
  refine ⟨?_, ?_, ?_, forgotten⟩
  · rw [ClientTable.get?] at absent
    simp [ClientTable.get?, ClientTable.insert, List.find?_append, absent]
  · intro ref
    rw [← Bool.not_eq_true]
    intro tagged
    obtain ⟨old, live, member⟩ := (isTagged_iff _ client ref).1 tagged
    have managed := (sound.fit live).clients_managed client member
    exact Bool.false_ne_true (stranger.symm.trans managed)
  · intro focused
    exact forgotten (FocusHistory.mem_of_current? focused)

/-- Unmanaging a client succeeds and takes nothing from the desktop but what
mentions the client. However the run goes on, a client that is managed under
this id again is in no tag and has never had the focus. -/
theorem unmanageClient_erases
    {desktop : Desktop} (reachable : desktop.Reachable)
    {client : ClientId} {entry : Client}
    (managed : desktop.clients.get? client = some entry) :
    ((Call.unmanageClient client).run desktop).answer = .ok .done ∧
      desktop.Departs client entry.screen
        ((Call.unmanageClient client).run desktop).desktop ∧
      ∀ moment : Moment, moment.Reached → moment.desktop = desktop →
        ∀ later, (moment.call (.unmanageClient client)).Leads later →
          later.desktop.clients.contains client = false →
            ∀ screen, later.desktop.hasScreen screen = true →
              let again := (Call.manageClient client screen).run later.desktop
              again.answer = .ok .done ∧ again.desktop.New client screen ∧
                again.desktop.queue = later.desktop.queue := by
  have sound := reachable.sound
  obtain ⟨after, log, done, bereaves⟩ :=
    unmanageClient_of_managed sound managed
  rw [Call.run, Call.thenDone_apply, done]
  refine ⟨rfl, sound.departs bereaves, ?_⟩
  intro moment reached _ later leads stranger screen known again
  have departed := reached.step (.call moment (.unmanageClient client))
  have soundLater := (departed.leads leads).sound
  have comes : again = _ :=
    bind_of_ok (manageClient_of_new known stranger) _
  rw [comes]
  exact ⟨rfl, soundLater.new_of_insert stranger screen, rfl⟩

/-- A focused client in two tags, one of which only the client keeps alive. The
other tag stays, and the same id comes back with nothing. -/
theorem unmanageClient_erases_from_two_tags :
    let moment := (Moment.start { tags := ["main"] }).calls
      [.addScreen "DP-1", .manageClient ⟨7⟩ ⟨0⟩, .manageClient ⟨8⟩ ⟨0⟩,
        .newTag "web", .tagClient ⟨1, 0⟩ ⟨7⟩, .releaseTag ⟨1, 0⟩,
        .tagClient ⟨0, 0⟩ ⟨8⟩, .tagClient ⟨0, 0⟩ ⟨7⟩, .focusClient ⟨7⟩]
    let after := ((Call.unmanageClient ⟨7⟩).run moment.desktop).desktop
    let again := ((Call.manageClient ⟨7⟩ ⟨0⟩).run after).desktop
    moment.desktop.Reachable ∧
      moment.desktop.clients.get? ⟨7⟩ = some ⟨⟨7⟩, ⟨0⟩⟩ ∧
      moment.desktop.Departs ⟨7⟩ ⟨0⟩ after ∧
      after.tags.contains ⟨1, 0⟩ = false ∧
      after.tags.get? ⟨0, 0⟩ = some ⟨"main", true, true, [⟨8⟩]⟩ ∧
      after.clients.contains ⟨7⟩ = false ∧
      after.hasScreen ⟨0⟩ = true ∧
      again.New ⟨7⟩ ⟨0⟩ := by
  intro moment after again
  have reached : moment.Reached :=
    (Moment.Reached.start _).leads (Moment.leads_calls _ _)
  have reachable : moment.desktop.Reachable := by
    rw [Moment.desktop_calls]
    exact (Reachable.start _).after _
  have managed : moment.desktop.clients.get? ⟨7⟩ = some ⟨⟨7⟩, ⟨0⟩⟩ := by
    decide
  obtain ⟨_, departs, returns⟩ := unmanageClient_erases reachable managed
  have known : after.hasScreen ⟨0⟩ = true := by decide
  obtain ⟨_, new, _⟩ := returns moment reached rfl
    (moment.call (.unmanageClient ⟨7⟩)) .refl departs.unmanaged ⟨0⟩ known
  exact ⟨reachable, managed, departs, by decide, by decide,
    departs.unmanaged, known, new⟩

end Desktop

end DesktopTags
