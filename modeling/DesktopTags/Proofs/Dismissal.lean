import DesktopTags.Desktop.Population
import DesktopTags.Proofs.Settlement

namespace DesktopTags.Desktop

open Operation

/-! ## The tags that hold a client -/

theorem mem_tagsHolding_iff
    (desktop : Desktop) (client : ClientId) (ref : TagRef) :
    ref ∈ desktop.tagsHolding client ↔
      ∃ old, desktop.tags.occupant? ref = some old ∧
        client ∈ old.tag.clients := by
  simp only [tagsHolding, List.mem_map, List.mem_filter, Prod.exists,
    Arena.mem_toList_iff, Arena.get?, Option.map_eq_some_iff,
    Tag.hasClient_iff, exists_and_right, exists_eq_right]
  constructor
  · rintro ⟨tag, ⟨old, live, same⟩, member⟩
    subst same
    exact ⟨old, live, member⟩
  · rintro ⟨old, live, member⟩
    exact ⟨old.tag, ⟨old, live, rfl⟩, member⟩

theorem tagsHolding_sublist (desktop : Desktop) (client : ClientId) :
    (desktop.tagsHolding client).Sublist desktop.tags.refList :=
  List.filter_sublist.map Prod.fst

theorem tagsHolding_nodup (desktop : Desktop) (client : ClientId) :
    (desktop.tagsHolding client).Nodup :=
  desktop.tags.refList_nodup.sublist (desktop.tagsHolding_sublist client)

/-! ## Untagging a client from one tag after the other -/

/-- What is queued when a client leaves the tags of a list. -/
def farewells (client : ClientId) (screen : ScreenId) (refs : List TagRef) :
    List Effect :=
  refs.flatMap fun ref => Effect.untagBlock ref client screen

/-- A desktop on which a client has left the tags of a list and nothing else has
changed. The log reports which of the tags ended with that. -/
structure Bereaves
    (desktop : Desktop) (client : ClientId) (screen : ScreenId)
    (holding : List TagRef) (log : List LogEvent) (after : Desktop) :
    Prop where
  changes : Changes desktop (farewells client screen holding) after
  rest :
    { after with tags := desktop.tags } =
      desktop.announce (farewells client screen holding)
  occupant? :
    ∀ ref, after.tags.occupant? ref =
      if ref ∈ holding then
        (desktop.tags.occupant? ref).bind fun old =>
          Arena.remains (old.without client)
      else desktop.tags.occupant? ref
  spent_of_event :
    ∀ event ∈ log, ∀ ended, event.ending? = some ended →
      ∃ ref ∈ holding, ∃ old, desktop.tags.occupant? ref = some old ∧
        ended = (ref, (old.without client).tag) ∧
        (old.without client).refs = 0
  event_of_spent :
    ∀ ref ∈ holding, ∀ old, desktop.tags.occupant? ref = some old →
      (old.without client).refs = 0 →
        ∃ event ∈ log,
          event.ending? = some (ref, (old.without client).tag)

section Loop

variable {client : ClientId} {entry : Client}

/-- The occupant that untagging leaves has exact counts again. -/
theorem Sound.without
    {desktop : Desktop} {ref : TagRef} {old : Occupant}
    (sound : desktop.Sound) (live : desktop.tags.occupant? ref = some old)
    (member : client ∈ old.tag.clients) :
    old.without client =
      .counted (old.tag.remove client) old.handles := by
  have count := sound.refs_eq live
  have nonempty := List.length_pos_of_mem member
  have shorter := List.length_erase_of_mem member
  simp only [Occupant.without, Occupant.counted, Tag.remove]
  congr 1
  omega

theorem untagClient_change
    {desktop : Desktop} {ref : TagRef} {old : Occupant}
    (sound : desktop.Sound)
    (managed : desktop.clients.get? client = some entry)
    (live : desktop.tags.occupant? ref = some old)
    (member : client ∈ old.tag.clients) :
    Change desktop (Effect.untagBlock ref client entry.screen)
      ((desktop.settle ref (old.without client)).announce
        (Effect.untagBlock ref client entry.screen)) := by
  have alteration :
      Alteration desktop ref old.tag old.handles _ old.handles
        desktop.registry _ :=
    .part managed (sound.fit live).clients_nodup member
  have change := Change.alter live alteration
  rw [← sound.without live member] at change
  exact change

theorem Bereaves.nil
    (desktop : Desktop) (client : ClientId) (screen : ScreenId) :
    Bereaves desktop client screen [] [] desktop where
  changes := .none desktop
  rest := by simp [farewells]
  occupant? := by simp
  spent_of_event := by simp
  event_of_spent := by simp

theorem Bereaves.cons
    {desktop after : Desktop} {ref : TagRef} {old : Occupant}
    {rest : List TagRef} {log : List LogEvent}
    (sound : desktop.Sound)
    (managed : desktop.clients.get? client = some entry)
    (live : desktop.tags.occupant? ref = some old)
    (member : client ∈ old.tag.clients) (absent : ref ∉ rest)
    (bereaves :
      Bereaves
        ((desktop.settle ref (old.without client)).announce
          (Effect.untagBlock ref client entry.screen))
        client entry.screen rest log after) :
    Bereaves desktop client entry.screen (ref :: rest)
      (parting ref (old.without client) ++ log) after := by
  have found := Arena.occupant?_settle live (old.without client)
  have untouched :
      ∀ other ∈ rest,
        ((desktop.settle ref (old.without client)).announce
            (Effect.untagBlock ref client entry.screen)).tags.occupant?
              other =
          desktop.tags.occupant? other := by
    intro other inRest
    have different : other ≠ ref := by
      intro same
      exact absent (same ▸ inRest)
    rw [announce_tags, settle_tags, found, if_neg different]
  have first := reports_parting ref (old.without client) quiet_nil
  rw [List.nil_append] at first
  constructor
  · have step := untagClient_change sound managed live member
    exact step.changes.trans bereaves.changes
  · have same := congrArg
      (fun result : Desktop => { result with tags := desktop.tags })
      bereaves.rest
    rw [farewells, List.flatMap_cons, ← announce_announce]
    exact same
  · intro other
    rw [bereaves.occupant? other]
    by_cases inRest : other ∈ rest
    · rw [if_pos inRest, if_pos (List.mem_cons_of_mem ref inRest),
        untouched other inRest]
    · rw [if_neg inRest, announce_tags, settle_tags, found]
      by_cases same : other = ref
      · subst same
        rw [if_pos rfl, if_pos List.mem_cons_self, live, Option.bind_some]
      · rw [if_neg same, if_neg (by simp [same, inRest])]
  · intro event logged ended isEnd
    rcases List.mem_append.1 logged with now | later
    · obtain ⟨same, spent⟩ := first.spent_of_event event now ended isEnd
      exact ⟨ref, List.mem_cons_self, old, live, same, spent⟩
    · obtain ⟨other, inRest, found, lives, same, spent⟩ :=
        bereaves.spent_of_event event later ended isEnd
      rw [untouched other inRest] at lives
      exact ⟨other, List.mem_cons_of_mem ref inRest, found, lives, same,
        spent⟩
  · intro other listed found lives spent
    rcases List.mem_cons.1 listed with same | inRest
    · subst same
      rw [live] at lives
      cases lives
      obtain ⟨event, now, isEnd⟩ := first.event_of_spent spent
      exact ⟨event, List.mem_append_left log now, isEnd⟩
    · rw [← untouched other inRest] at lives
      obtain ⟨event, later, isEnd⟩ :=
        bereaves.event_of_spent other inRest found lives spent
      exact ⟨event, List.mem_append_right _ later, isEnd⟩

theorem forAll_untagClient
    {desktop : Desktop} (sound : desktop.Sound)
    (managed : desktop.clients.get? client = some entry)
    (holding : List TagRef) (nodup : holding.Nodup)
    (members :
      ∀ ref ∈ holding, ∃ old, desktop.tags.occupant? ref = some old ∧
        client ∈ old.tag.clients) :
    ∃ after log,
      forAll (untagClient client) holding desktop = ⟨.ok (), after, log⟩ ∧
        Bereaves desktop client entry.screen holding log after := by
  induction holding generalizing desktop with
  | nil =>
      exact ⟨desktop, [], rfl, .nil desktop client entry.screen⟩
  | cons ref rest inductionHypothesis =>
      obtain ⟨old, live, member⟩ := members ref List.mem_cons_self
      obtain ⟨absent, restNodup⟩ := List.nodup_cons.1 nodup
      have step := untagClient_change sound managed live member
      have leaves := untagClient_of_member managed live
        (sound.referred live) member
      have restMembers :
          ∀ other ∈ rest, ∃ found,
            (desktop.settle ref (old.without client)).tags.occupant? other =
                some found ∧
              client ∈ found.tag.clients := by
        intro other inRest
        have different : other ≠ ref := by
          intro same
          exact absent (same ▸ inRest)
        rw [settle_tags, Arena.occupant?_settle live, if_neg different]
        exact members other (List.mem_cons_of_mem ref inRest)
      obtain ⟨after, log, done, bereaves⟩ :=
        inductionHypothesis (step.sound sound) managed restNodup restMembers
      refine ⟨after, parting ref (old.without client) ++ log, ?_,
        bereaves.cons sound managed live member absent⟩
      rw [forAll, bind_of_ok leaves, done]

end Loop

/-! ## The end of a client -/

theorem unmanageClient_of_stranger
    {desktop : Desktop} {client : ClientId}
    (stranger : desktop.clients.get? client = none) :
    unmanageClient client desktop =
      ⟨.error (.unknownClient client), desktop, []⟩ := by
  rw [unmanageClient,
    ask_bind_of_error (ClientTable.screenOf_of_stranger stranger)]

/-- A desktop that has forgotten a client. -/
def forget (desktop : Desktop) (client : ClientId) : Desktop :=
  { desktop with
    focus := desktop.focus.forget client
    clients := desktop.clients.erase client }

theorem unmanageClient_of_managed
    {desktop : Desktop} (sound : desktop.Sound)
    {client : ClientId} {entry : Client}
    (managed : desktop.clients.get? client = some entry) :
    ∃ after log,
      unmanageClient client desktop =
          ⟨.ok (), after.forget client, log ++ [.unmanaged client]⟩ ∧
        Bereaves desktop client entry.screen
          (desktop.tagsHolding client) log after := by
  have members :
      ∀ ref ∈ desktop.tagsHolding client, ∃ old,
        desktop.tags.occupant? ref = some old ∧
          client ∈ old.tag.clients := by
    intro ref holds
    exact (mem_tagsHolding_iff desktop client ref).1 holds
  obtain ⟨after, log, done, bereaves⟩ :=
    forAll_untagClient sound managed (desktop.tagsHolding client)
      (desktop.tagsHolding_nodup client) members
  refine ⟨after, log, ?_, bereaves⟩
  rw [unmanageClient,
    ask_bind_of_ok (ClientTable.screenOf_of_managed managed), read_bind,
    bind_of_ok done, change_bind, report_apply]
  rfl

/-- Nothing mentions a client that has left every tag. -/
theorem Bereaves.untagged
    {desktop after : Desktop} {client : ClientId} {screen : ScreenId}
    {log : List LogEvent}
    (sound : desktop.Sound)
    (bereaves :
      Bereaves desktop client screen (desktop.tagsHolding client) log after)
    (ref : TagRef) (new : Occupant)
    (live : after.tags.occupant? ref = some new) :
    client ∉ new.tag.clients := by
  intro member
  rw [bereaves.occupant? ref] at live
  split at live
  · obtain ⟨old, wasLive, remains⟩ := Option.bind_eq_some_iff.1 live
    unfold Arena.remains at remains
    split at remains
    · cases remains
    · cases remains
      have nodup := (sound.fit wasLive).clients_nodup
      exact nodup.not_mem_erase member
  · rename_i outside
    exact outside
      ((mem_tagsHolding_iff desktop client ref).2 ⟨new, live, member⟩)

theorem unmanageClient_changes
    {desktop : Desktop} (sound : desktop.Sound) (client : ClientId) :
    ∃ effects,
      Changes desktop effects (unmanageClient client desktop).desktop := by
  cases known : desktop.clients.get? client with
  | none =>
      rw [unmanageClient_of_stranger known]
      exact ⟨[], .none desktop⟩
  | some entry =>
      obtain ⟨after, log, done, bereaves⟩ :=
        unmanageClient_of_managed sound known
      have dismissal := Change.dismiss (bereaves.untagged sound)
      rw [done]
      exact ⟨_, bereaves.changes.trans dismissal.changes⟩

end DesktopTags.Desktop
