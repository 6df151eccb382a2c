import DesktopTags.Proofs.Calls

/-!
# The end of a tag

A call ends a tag exactly if it gives back the last thing that refers to it, and
logs the end. What ends is an empty tag out of the registry and out of view.
-/

namespace DesktopTags

open Operation

/-- A call ends a tag if it spends what refers to the tag. A call about one tag
ends no other. -/
def Call.Ends (call : Call) (ref : TagRef) (old : Occupant) : Prop :=
  (∀ tag, call.subject? = some tag → tag = ref) ∧ call.Spends old

namespace Desktop

/-- The log of a call reports the tags that the call has ended, and no others. -/
structure ReportsEnds (before : Desktop) (log : List LogEvent)
    (after : Desktop) : Prop where
  ended_of_event :
    ∀ event ∈ log, ∀ ref tag, event.ending? = some (ref, tag) →
      before.tags.contains ref = true ∧ after.tags.contains ref = false ∧
        tag.clients = [] ∧ tag.activated = false ∧ tag.selected = false
  event_of_ended :
    ∀ ref, before.tags.contains ref = true →
      after.tags.contains ref = false →
        ∃ event ∈ log, ∃ tag, event.ending? = some (ref, tag)

variable {desktop : Desktop} {ref other : TagRef} {old : Occupant}

theorem contains_of_live (live : desktop.tags.occupant? ref = some old) :
    desktop.tags.contains ref = true := by
  simp [Arena.contains, live]

theorem contains_eq_true_iff :
    desktop.tags.contains ref = true ↔
      ∃ old, desktop.tags.occupant? ref = some old :=
  Option.isSome_iff_exists

theorem contains_eq_false_iff :
    desktop.tags.contains ref = false ↔
      desktop.tags.occupant? ref = none := by
  simp [Arena.contains]

/-! ## Calls about one tag -/

section Settles

variable {α : Type} {given : Int} {spends : Occupant → Prop}
  {outcome : Outcome α}

theorem Settles.gone_iff
    (settles : Settles desktop ref given spends outcome)
    (live : desktop.tags.occupant? other = some old) :
    outcome.desktop.tags.occupant? other = none ↔
      ref = other ∧ spends old := by
  cases settles with
  | unchanged _ _ _ spares =>
      simp only [live, reduceCtorEq, false_iff]
      rintro ⟨same, spent⟩
      subst same
      exact spares old live spent
  | @altered settled new _ _ _ _ settledLive _ _ _ _ ends =>
      simp only [announce_tags, enlist, settle_tags,
        Arena.occupant?_settle settledLive]
      by_cases same : other = ref
      · subst same
        rw [live] at settledLive
        cases settledLive
        rw [if_pos rfl, Arena.remains_eq_none_iff, ends]
        simp
      · rw [if_neg same, live]
        simp [Ne.symm same]

theorem Settles.reportsEnds
    (settles : Settles desktop ref given spends outcome)
    (sound : desktop.Sound) :
    ReportsEnds desktop outcome.log outcome.desktop := by
  cases settles with
  | unchanged _ quiet =>
      constructor
      · intro event logged ended tag isEnd
        rw [quiet event logged] at isEnd
        cases isEnd
      · intro ended was is
        rw [was] at is
        cases is
  | @altered old new _ _ _ _ live alteration counted reports =>
      have found := Arena.occupant?_settle live new
      constructor
      · intro event logged ended tag isEnd
        obtain ⟨same, spent⟩ :=
          reports.spent_of_event event logged (ended, tag) isEnd
        cases same
        have gone := (Arena.remains_eq_none_iff new).2 spent
        have fit := alteration.fit (sound.fit live)
        rw [counted] at spent
        refine ⟨contains_of_live live, ?_, fit.bare spent⟩
        rw [contains_eq_false_iff, announce_tags, enlist, settle_tags,
          found, if_pos rfl, gone]
      · intro ended was is
        rw [contains_eq_false_iff, announce_tags, enlist, settle_tags,
          found] at is
        by_cases same : ended = ref
        · subst same
          rw [if_pos rfl, Arena.remains_eq_none_iff] at is
          obtain ⟨event, logged, isEnd⟩ := reports.event_of_spent is
          exact ⟨event, logged, new.tag, isEnd⟩
        · rw [if_neg same] at is
          rw [contains_eq_true_iff, is] at was
          obtain ⟨_, impossible⟩ := was
          cases impossible

end Settles

/-! ## The end of a client -/

section Bereaves

variable {after : Desktop} {client : ClientId} {screen : ScreenId}
  {log : List LogEvent}

theorem Bereaves.gone_iff
    (sound : desktop.Sound)
    (bereaves :
      Bereaves desktop client screen (desktop.tagsHolding client) log after)
    (live : desktop.tags.occupant? ref = some old) :
    after.tags.occupant? ref = none ↔ old.OnlyMembers [client] := by
  rw [bereaves.occupant? ref, live]
  by_cases member : client ∈ old.tag.clients
  · have holds :=
      (mem_tagsHolding_iff desktop client ref).2 ⟨old, live, member⟩
    rw [if_pos holds, Option.bind_some, Arena.remains_eq_none_iff]
    exact sound.without_refs_eq_zero_iff live member
  · have outside : ref ∉ desktop.tagsHolding client := by
      intro holds
      obtain ⟨found, same, isMember⟩ :=
        (mem_tagsHolding_iff desktop client ref).1 holds
      rw [live] at same
      cases same
      exact member isMember
    rw [if_neg outside]
    constructor
    · intro impossible
      cases impossible
    · intro last
      exact absurd last.member member

theorem Bereaves.reportsEnds
    (sound : desktop.Sound)
    (bereaves :
      Bereaves desktop client screen (desktop.tagsHolding client) log after) :
    ReportsEnds desktop log after := by
  constructor
  · intro event logged ended tag isEnd
    obtain ⟨ref, holds, old, live, same, spent⟩ :=
      bereaves.spent_of_event event logged (ended, tag) isEnd
    cases same
    obtain ⟨_, same, member⟩ :=
      (mem_tagsHolding_iff desktop client ended).1 holds
    rw [live] at same
    cases same
    have last := (sound.without_refs_eq_zero_iff live member).1 spent
    have gone := (bereaves.gone_iff sound live).2 last
    have empty : (old.tag.remove client).clients = [] := by
      rw [Tag.remove, last.2.2, List.erase_cons_head]
    have hidden : old.tag.selected = false := by
      have active := (sound.fit live).active_of_selected
      rw [last.2.1] at active
      simpa using active
    exact ⟨contains_of_live live, contains_eq_false_iff.2 gone, empty,
      last.2.1, hidden⟩
  · intro ended was is
    obtain ⟨old, live⟩ := contains_eq_true_iff.1 was
    have last :=
      (bereaves.gone_iff sound live).1 (contains_eq_false_iff.1 is)
    have holds :=
      (mem_tagsHolding_iff desktop client ended).2 ⟨old, live, last.member⟩
    have spent := (sound.without_refs_eq_zero_iff live last.member).2 last
    obtain ⟨event, logged, isEnd⟩ :=
      bereaves.event_of_spent ended holds old live spent
    exact ⟨event, logged, _, isEnd⟩

end Bereaves

/-! ## All calls -/

theorem ReportsEnds.of_still
    {α : Type} {outcome : Outcome α} (still : Still desktop outcome) :
    ReportsEnds desktop outcome.log outcome.desktop := by
  constructor
  · intro event logged ended tag isEnd
    rw [still.quiet event logged] at isEnd
    cases isEnd
  · intro ended was is
    rw [still.tags, was] at is
    cases is

theorem newTag_reportsEnds (sound : desktop.Sound) (name : String) :
    ReportsEnds desktop (newTag name desktop).log
      (newTag name desktop).desktop := by
  have found := sound.tidy.occupant?_insert { name }
  rw [newTag_apply]
  constructor
  · intro event logged ended tag isEnd
    rw [List.mem_singleton.1 logged] at isEnd
    cases isEnd
  · intro ended was is
    rw [contains_eq_false_iff, found] at is
    split at is
    · cases is
    · rw [contains_eq_true_iff, is] at was
      obtain ⟨_, impossible⟩ := was
      cases impossible

/-- A call ends just the tags that it gives the last reference back of. -/
theorem Sound.gone_iff_ends
    (sound : desktop.Sound) (call : Call)
    (live : desktop.tags.occupant? ref = some old) :
    (call.run desktop).desktop.tags.occupant? ref = none ↔
      call.Ends ref old := by
  rcases sound.run_cases call with
    ⟨tag, about, settles⟩ | ⟨name, rfl⟩ | ⟨client, rfl⟩ |
      ⟨_, _, spares, still⟩
  · rw [settles.gone_iff live, Call.Ends, about]
    simp
  · have found := sound.tidy.occupant?_insert { name } ref
    rw [Call.run, bind_pure_apply, newTag_apply]
    simp only [found, live, Call.Ends, Call.Spends, and_false, iff_false]
    split <;> simp
  · rw [Call.run, Call.thenDone_apply]
    cases known : desktop.clients.get? client with
    | none =>
        rw [unmanageClient_of_stranger known, live]
        constructor
        · intro impossible
          cases impossible
        · rintro ⟨_, last⟩
          obtain ⟨entry, managed⟩ := sound.managed_of_member live last.member
          rw [known] at managed
          cases managed
    | some entry =>
        obtain ⟨after, log, done, bereaves⟩ :=
          unmanageClient_of_managed sound known
        have gone := bereaves.gone_iff sound live
        rw [done, Call.Ends, Call.Spends]
        simpa [Call.subject?, forget] using gone
  · rw [still.tags, live]
    simp [Call.Ends, spares old]

/-- The log of a call tells which tags have ended. -/
theorem Sound.run_reportsEnds (sound : desktop.Sound) (call : Call) :
    ReportsEnds desktop (call.run desktop).log (call.run desktop).desktop := by
  rcases sound.run_cases call with
    ⟨tag, about, settles⟩ | ⟨name, rfl⟩ | ⟨client, rfl⟩ |
      ⟨_, _, _, still⟩
  · exact settles.reportsEnds sound
  · rw [Call.run, bind_pure_apply]
    exact newTag_reportsEnds sound name
  · rw [Call.run, Call.thenDone_apply]
    cases known : desktop.clients.get? client with
    | none =>
        rw [unmanageClient_of_stranger known]
        exact .of_still (.of_same desktop _ quiet_nil)
    | some entry =>
        obtain ⟨after, log, done, bereaves⟩ :=
          unmanageClient_of_managed sound known
        have reports := bereaves.reportsEnds sound
        rw [done]
        constructor
        · intro event logged
          rcases List.mem_append.1 logged with untagging | last
          · exact reports.ended_of_event event untagging
          · intro ended tag isEnd
            rw [List.mem_singleton.1 last] at isEnd
            cases isEnd
        · intro ended was is
          obtain ⟨event, untagging, isEnd⟩ :=
            reports.event_of_ended ended was is
          exact ⟨event, List.mem_append_left _ untagging, isEnd⟩
  · exact .of_still still

end Desktop

end DesktopTags
