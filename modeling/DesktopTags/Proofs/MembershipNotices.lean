import DesktopTags.Proofs.Run
import Mathlib.Data.List.Nodup

/-!
# Membership changes are announced

A call queues one block of five effects for each client that it makes a member
of a tag, one for each that it takes out of a tag, and tells of no other
memberships.
-/

namespace DesktopTags

/-! ## Queued effects in stretches -/

/-- A stretch of the queue: what tells that a client has joined a tag or left
it, or an effect of another kind. -/
inductive Notice where
  | joined (tag : TagRef) (client : ClientId) (screen : ScreenId)
  | left (tag : TagRef) (client : ClientId) (screen : ScreenId)
  | other (effect : Effect)

/-- The effects that tell of a membership, apart from the requests that are made
on other occasions as well. -/
def Effect.tellsMembership : Effect → Bool
  | .display (.updateClientDesktop _) => true
  | .display _ => false
  | .emit signal => signal.kind = .tagged ∨ signal.kind = .untagged

namespace Notice

def effects : Notice → List Effect
  | .joined tag client screen =>
      [.display (.updateClientDesktop client),
       .display .invalidateBanning,
       .display (.updateWorkarea screen),
       .emit ⟨.client client, .tagged, some (.tag tag)⟩,
       .emit ⟨.tag tag, .tagged, some (.client client)⟩]
  | .left tag client screen =>
      [.display .invalidateBanning,
       .display (.updateClientDesktop client),
       .display (.updateWorkarea screen),
       .emit ⟨.client client, .untagged, some (.tag tag)⟩,
       .emit ⟨.tag tag, .untagged, some (.client client)⟩]
  | .other effect => [effect]

/-- The membership that a notice is about. -/
def edge? : Notice → Option (TagRef × ClientId)
  | .joined tag client _ => some (tag, client)
  | .left tag client _ => some (tag, client)
  | .other _ => none

/-- The effect that a notice ends with. -/
def closing : Notice → Effect
  | .joined tag client _ => .emit ⟨.tag tag, .tagged, some (.client client)⟩
  | .left tag client _ => .emit ⟨.tag tag, .untagged, some (.client client)⟩
  | .other effect => effect

theorem effects_eq (notice : Notice) :
    notice.effects = notice.effects.dropLast ++ [notice.closing] := by
  cases notice <;> rfl

/-- The effect that ends a block tells which membership the block is about. -/
theorem edge?_of_closing_mem
    {notice other : Notice} {edge : TagRef × ClientId}
    (told : notice.edge? = some edge)
    (silent :
      ∀ effect, other = .other effect → effect.tellsMembership = false)
    (inside : notice.closing ∈ other.effects) :
    other.edge? = some edge := by
  cases other with
  | other effect =>
      have quiet := silent effect rfl
      rw [← List.mem_singleton.1 inside] at quiet
      cases notice with
      | other => cases told
      | joined => cases quiet
      | left => cases quiet
  | joined tag client screen =>
      cases notice with
      | other => cases told
      | left => simp [closing, effects] at inside
      | joined =>
          cases told
          simp_all [closing, effects, edge?]
  | left tag client screen =>
      cases notice with
      | other => cases told
      | joined => simp [closing, effects] at inside
      | left =>
          cases told
          simp_all [closing, effects, edge?]

theorem closing_notMem_dropLast
    {notice : Notice} (told : notice.edge? ≠ none) :
    notice.closing ∉ notice.effects.dropLast := by
  cases notice with
  | joined => simp [closing, effects]
  | left => simp [closing, effects]
  | other => exact absurd rfl told

/-- One notice for each membership of a list, if its client is managed. -/
def each
    (kind : TagRef → ClientId → ScreenId → Notice)
    (table : ClientTable) (edges : List (TagRef × ClientId)) :
    List Notice :=
  edges.filterMap fun edge =>
    (table.get? edge.2).map fun entry => kind edge.1 edge.2 entry.screen

section Each

variable {kind : TagRef → ClientId → ScreenId → Notice}
  {table : ClientTable} {edges : List (TagRef × ClientId)}

theorem mem_each_iff {notice : Notice} :
    notice ∈ each kind table edges ↔
      ∃ tag client screen, (tag, client) ∈ edges ∧
        table.screenOf client = .ok screen ∧
          kind tag client screen = notice := by
  simp only [each, List.mem_filterMap, Option.map_eq_some_iff, Prod.exists]
  refine exists_congr fun tag => exists_congr fun client => ?_
  constructor
  · rintro ⟨listed, entry, managed, same⟩
    exact ⟨entry.screen, listed, ClientTable.screenOf_of_managed managed,
      same⟩
  · rintro ⟨screen, listed, recorded, same⟩
    cases known : table.get? client with
    | none =>
        rw [ClientTable.screenOf_of_stranger known] at recorded
        cases recorded
    | some entry =>
        rw [ClientTable.screenOf_of_managed known] at recorded
        cases recorded
        exact ⟨listed, entry, rfl, same⟩

theorem flatMap_each
    (table : ClientTable) (edges : List (TagRef × ClientId))
    (block : TagRef → ClientId → ScreenId → List Effect)
    (told : ∀ tag client screen,
      (kind tag client screen).effects = block tag client screen) :
    (each kind table edges).flatMap effects =
      edges.flatMap fun edge =>
        (table.get? edge.2).elim [] fun entry =>
          block edge.1 edge.2 entry.screen := by
  induction edges with
  | nil =>
      rfl
  | cons edge rest inductionHypothesis =>
      rw [List.flatMap_cons, ← inductionHypothesis]
      cases known : table.get? edge.2 with
      | none =>
          simp [each, known]
      | some entry =>
          simp [each, known, told]

theorem edges_each
    (told : ∀ tag client screen,
      (kind tag client screen).edge? = some (tag, client))
    (managed : ∀ edge ∈ edges, table.contains edge.2 = true) :
    (each kind table edges).filterMap edge? = edges := by
  induction edges with
  | nil =>
      rfl
  | cons edge rest inductionHypothesis =>
      obtain ⟨known, restManaged⟩ := List.forall_mem_cons.1 managed
      obtain ⟨entry, found⟩ :=
        (ClientTable.contains_iff table edge.2).1 known
      have later := inductionHypothesis restManaged
      simp only [each] at later ⊢
      rw [List.filterMap_cons_some (by rw [found]; rfl),
        List.filterMap_cons_some (told edge.1 edge.2 entry.screen), later]

end Each

end Notice

/-- What the queue has grown by, in stretches. Each membership that differs
between two desktops has one block, with the screen that was recorded for the
client before, and nothing outside these blocks tells of a membership. -/
structure Desktop.Announces
    (before after : Desktop) (notices : List Notice) : Prop where
  queue : after.queue = before.queue ++ notices.flatMap Notice.effects
  joined_iff :
    ∀ tag client screen,
      Notice.joined tag client screen ∈ notices ↔
        before.isTagged client tag = false ∧
          after.isTagged client tag = true ∧
          before.clients.screenOf client = .ok screen
  left_iff :
    ∀ tag client screen,
      Notice.left tag client screen ∈ notices ↔
        before.isTagged client tag = true ∧
          after.isTagged client tag = false ∧
          before.clients.screenOf client = .ok screen
  managed :
    ∀ tag client,
      before.isTagged client tag ≠ after.isTagged client tag →
        ∃ screen, before.clients.screenOf client = .ok screen
  once : (notices.filterMap Notice.edge?).Nodup
  silent :
    ∀ effect, Notice.other effect ∈ notices →
      effect.tellsMembership = false

namespace Desktop

variable {desktop before after : Desktop} {ref : TagRef} {old : Occupant}

/-! ## Memberships of a changed desktop -/

theorem isTagged_eq
    (desktop : Desktop) (client : ClientId) (ref : TagRef) :
    desktop.isTagged client ref =
      (desktop.tags.occupant? ref).any
        fun occupant => occupant.tag.hasClient client := by
  rw [isTagged, Arena.get?, Option.any_map]

theorem any_remains_counted
    (tag : Tag) (handles : Nat) (client : ClientId) :
    ((Arena.remains (.counted tag handles)).any
        fun occupant => occupant.tag.hasClient client) =
      tag.hasClient client := by
  unfold Arena.remains
  split
  · -- A tag ends without members, so its end is no loss to anyone.
    rename_i spent
    obtain ⟨_, _, empty⟩ :=
      (Occupant.counted_refs_eq_zero_iff tag handles).1 spent
    simp [Tag.hasClient, empty]
  · rfl

theorem isTagged_settle
    (live : desktop.tags.occupant? ref = some old)
    (tag : Tag) (handles : Nat) (registry : Registry)
    (effects : List Effect) (client : ClientId) (other : TagRef) :
    (((desktop.settle ref (.counted tag handles)).enlist
        registry).announce effects).isTagged client other =
      if other = ref then tag.hasClient client
      else desktop.isTagged client other := by
  rw [isTagged_eq, isTagged_eq, announce_tags, enlist, settle_tags,
    Arena.occupant?_settle live]
  split
  · exact any_remains_counted tag handles client
  · rfl

theorem isTagged_of_live
    (live : desktop.tags.occupant? ref = some old) (client : ClientId) :
    desktop.isTagged client ref = old.tag.hasClient client := by
  rw [isTagged_eq, live, Option.any_some]

/-! ## Changes that leave the members alone -/

theorem announces_of_silent
    {effects : List Effect}
    (queue : after.queue = before.queue ++ effects)
    (same :
      ∀ client tag,
        after.isTagged client tag = before.isTagged client tag)
    (silent : ∀ effect ∈ effects, effect.tellsMembership = false) :
    Announces before after (effects.map Notice.other) where
  queue := by
    rw [queue, List.flatMap_map]
    simp [Notice.effects]
  joined_iff := by
    intro tag client screen
    refine iff_of_false (by simp) ?_
    rintro ⟨outside, inside, _⟩
    rw [same, outside] at inside
    cases inside
  left_iff := by
    intro tag client screen
    refine iff_of_false (by simp) ?_
    rintro ⟨inside, outside, _⟩
    rw [same, inside] at outside
    cases outside
  managed := by
    intro tag client different
    exact absurd (same client tag).symm different
  once := by
    have none : (effects.map Notice.other).filterMap Notice.edge? = [] := by
      apply List.filterMap_eq_nil_iff.2
      simp [Notice.edge?]
    rw [none]
    exact List.nodup_nil
  silent := by
    simpa using silent

/-! ## Changes of the members -/

/-- The memberships that end and those that begin from one desktop to another,
all of managed clients. -/
structure Exchange
    (before after : Desktop) (leaving joining : List (TagRef × ClientId)) :
    Prop where
  leaving_nodup : leaving.Nodup
  joining_nodup : joining.Nodup
  left :
    ∀ tag client, (tag, client) ∈ leaving →
      before.isTagged client tag = true
  new :
    ∀ tag client, (tag, client) ∈ joining →
      before.isTagged client tag = false
  leaving_managed :
    ∀ edge ∈ leaving, before.clients.contains edge.2 = true
  joining_managed :
    ∀ edge ∈ joining, before.clients.contains edge.2 = true
  isTagged_iff :
    ∀ tag client,
      after.isTagged client tag = true ↔
        (before.isTagged client tag = true ∧ (tag, client) ∉ leaving) ∨
          (tag, client) ∈ joining

section Exchange

variable {leaving joining : List (TagRef × ClientId)}

theorem Exchange.began_iff
    (exchange : Exchange before after leaving joining)
    (tag : TagRef) (client : ClientId) :
    (tag, client) ∈ joining ↔
      before.isTagged client tag = false ∧
        after.isTagged client tag = true := by
  rw [exchange.isTagged_iff]
  constructor
  · intro joins
    exact ⟨exchange.new tag client joins, Or.inr joins⟩
  · rintro ⟨outside, ⟨inside, _⟩ | joins⟩
    · rw [outside] at inside
      cases inside
    · exact joins

theorem Exchange.ended_iff
    (exchange : Exchange before after leaving joining)
    (tag : TagRef) (client : ClientId) :
    (tag, client) ∈ leaving ↔
      before.isTagged client tag = true ∧
        after.isTagged client tag = false := by
  rw [← Bool.not_eq_true, exchange.isTagged_iff]
  constructor
  · intro leaves
    have inside := exchange.left tag client leaves
    refine ⟨inside, ?_⟩
    rintro (⟨_, stays⟩ | joins)
    · exact stays leaves
    · rw [exchange.new tag client joins] at inside
      cases inside
  · rintro ⟨inside, ended⟩
    by_cases leaves : (tag, client) ∈ leaving
    · exact leaves
    · exact absurd (Or.inl ⟨inside, leaves⟩) ended

theorem Exchange.managed
    (exchange : Exchange before after leaving joining)
    {tag : TagRef} {client : ClientId}
    (different :
      before.isTagged client tag ≠ after.isTagged client tag) :
    ∃ screen, before.clients.screenOf client = .ok screen := by
  have known : before.clients.contains client = true := by
    cases was : before.isTagged client tag with
    | false =>
        rw [was, ne_eq, eq_comm, Bool.not_eq_false] at different
        have joins := (exchange.began_iff tag client).2 ⟨was, different⟩
        exact exchange.joining_managed _ joins
    | true =>
        rw [was, ne_eq, eq_comm, Bool.not_eq_true] at different
        have leaves := (exchange.ended_iff tag client).2 ⟨was, different⟩
        exact exchange.leaving_managed _ leaves
  obtain ⟨entry, found⟩ :=
    (ClientTable.contains_iff before.clients client).1 known
  exact ⟨entry.screen, ClientTable.screenOf_of_managed found⟩

theorem Exchange.nodup
    (exchange : Exchange before after leaving joining) :
    (leaving ++ joining).Nodup := by
  refine List.nodup_append.2
    ⟨exchange.leaving_nodup, exchange.joining_nodup, ?_⟩
  rintro ⟨tag, client⟩ leaves other joins same
  subst same
  have inside := exchange.left tag client leaves
  rw [exchange.new tag client joins] at inside
  cases inside

theorem Exchange.announces
    (exchange : Exchange before after leaving joining)
    (queue :
      after.queue =
        before.queue ++
          (Notice.each .left before.clients leaving ++
            Notice.each .joined before.clients joining).flatMap
              Notice.effects) :
    Announces before after
      (Notice.each .left before.clients leaving ++
        Notice.each .joined before.clients joining) where
  queue := queue
  joined_iff := by
    intro tag client screen
    rw [← and_assoc, ← exchange.began_iff, List.mem_append,
      Notice.mem_each_iff, Notice.mem_each_iff]
    constructor
    · rintro (⟨_, _, _, _, _, same⟩ | ⟨_, _, _, joins, recorded, same⟩)
      · cases same
      · cases same
        exact ⟨joins, recorded⟩
    · rintro ⟨joins, recorded⟩
      exact Or.inr ⟨tag, client, screen, joins, recorded, rfl⟩
  left_iff := by
    intro tag client screen
    rw [← and_assoc, ← exchange.ended_iff, List.mem_append,
      Notice.mem_each_iff, Notice.mem_each_iff]
    constructor
    · rintro (⟨_, _, _, leaves, recorded, same⟩ | ⟨_, _, _, _, _, same⟩)
      · cases same
        exact ⟨leaves, recorded⟩
      · cases same
    · rintro ⟨leaves, recorded⟩
      exact Or.inl ⟨tag, client, screen, leaves, recorded, rfl⟩
  managed := by
    intro tag client different
    exact exchange.managed different
  once := by
    rw [List.filterMap_append,
      Notice.edges_each (fun _ _ _ => rfl) exchange.leaving_managed,
      Notice.edges_each (fun _ _ _ => rfl) exchange.joining_managed]
    exact exchange.nodup
  silent := by
    intro effect told
    rw [List.mem_append, Notice.mem_each_iff, Notice.mem_each_iff] at told
    simp at told

end Exchange

/-! ## Calls about one tag -/

theorem announces_of_members
    (live : desktop.tags.occupant? ref = some old)
    {tag : Tag} (members : tag.clients = old.tag.clients)
    (handles : Nat) (registry : Registry) {effects : List Effect}
    (silent : ∀ effect ∈ effects, effect.tellsMembership = false) :
    Announces desktop
      (((desktop.settle ref (.counted tag handles)).enlist
        registry).announce effects)
      (effects.map Notice.other) := by
  refine announces_of_silent rfl ?_ silent
  intro client other
  rw [isTagged_settle live]
  split
  · rename_i same
    rw [same, isTagged_of_live live, Tag.hasClient, members, Tag.hasClient]
  · rfl

theorem silent_selectionChanged (screens : List Screen) (ref : TagRef) :
    ∀ effect ∈ selectionChanged screens ref,
      effect.tellsMembership = false := by
  simp only [selectionChanged, List.forall_mem_append, List.forall_mem_map]
  refine ⟨⟨by simp [Effect.tellsMembership], fun _ _ => rfl⟩, ?_⟩
  simp [Effect.property, Signal.property, Effect.tellsMembership]

theorem silent_desktopListChanged (ref : TagRef) :
    ∀ effect ∈ desktopListChanged ref, effect.tellsMembership = false := by
  simp [desktopListChanged, Effect.property, Signal.property,
    Effect.tellsMembership]

theorem silent_hidden (ref : TagRef) (tag : Tag) :
    ∀ effect ∈ hidden ref tag, effect.tellsMembership = false := by
  unfold hidden
  split
  · simp [Effect.property, Signal.property, Effect.tellsMembership]
  · simp

theorem exchange_of_regroup
    (fit : old.tag.Fit desktop.clients)
    (live : desktop.tags.occupant? ref = some old)
    (keeps : ClientId → Bool) {joining : List ClientId}
    (nodup : joining.Nodup)
    (new : ∀ client ∈ joining, client ∉ old.tag.clients)
    (managed :
      ∀ client ∈ joining, desktop.clients.contains client = true)
    (effects : List Effect) :
    Exchange desktop
      (((desktop.settle ref (.counted
          { old.tag with clients := old.tag.clients.filter keeps ++ joining }
          old.handles)).enlist desktop.registry).announce effects)
      ((old.tag.clients.filter fun client => !keeps client).map
        fun client => (ref, client))
      (joining.map fun client => (ref, client)) := by
  have injective :
      Function.Injective fun client : ClientId => (ref, client) := by
    intro first second same
    exact (Prod.mk.inj same).2
  have was := isTagged_of_live live
  constructor
  · exact (fit.clients_nodup.filter _).map injective
  · exact nodup.map injective
  · intro tag client leaves
    obtain ⟨_, dropped, same⟩ := List.mem_map.1 leaves
    cases same
    rw [was, Tag.hasClient_iff]
    exact (List.mem_filter.1 dropped).1
  · intro tag client joins
    obtain ⟨_, joined, same⟩ := List.mem_map.1 joins
    cases same
    rw [was, Tag.hasClient_eq_false_iff]
    exact new client joined
  · rw [List.forall_mem_map]
    intro client dropped
    exact fit.clients_managed client (List.mem_filter.1 dropped).1
  · rw [List.forall_mem_map]
    exact managed
  · intro tag client
    rw [isTagged_settle live]
    by_cases same : tag = ref
    · subst same
      rw [if_pos rfl, was, Tag.hasClient_iff, Tag.hasClient_iff]
      simp only [List.mem_append, List.mem_filter, List.mem_map,
        Prod.mk.injEq, true_and, exists_eq_right, Bool.not_eq_true',
        not_and, Bool.not_eq_false]
      refine or_congr_left (and_congr_right fun member => ?_)
      exact ⟨fun kept _ => kept, fun kept => kept member⟩
    · simp [same, Ne.symm same]

theorem Alteration.announces
    (sound : desktop.Sound)
    (live : desktop.tags.occupant? ref = some old)
    {tag : Tag} {handles : Nat} {registry : Registry}
    {effects : List Effect}
    (alteration :
      Alteration desktop ref old.tag old.handles
        tag handles registry effects) :
    ∃ notices,
      Announces desktop
        (((desktop.settle ref (.counted tag handles)).enlist
          registry).announce effects)
        notices := by
  cases alteration with
  | hold =>
      exact ⟨_, announces_of_members live rfl _ _ (by simp)⟩
  | giveBack =>
      exact ⟨_, announces_of_members live rfl _ _ (by simp)⟩
  | activate =>
      refine ⟨_, announces_of_members live ?_ _ _ ?_⟩
      · rfl
      · exact silent_desktopListChanged ref
  | deactivate =>
      refine ⟨_, announces_of_members live ?_ _ _ ?_⟩
      · rfl
      · exact List.forall_mem_append.2
          ⟨silent_hidden ref old.tag, silent_desktopListChanged ref⟩
  | select =>
      refine ⟨_, announces_of_members live ?_ _ _ ?_⟩
      · rfl
      · exact silent_selectionChanged desktop.screens ref
  | rename =>
      refine ⟨_, announces_of_members live ?_ _ _ ?_⟩
      · rfl
      · simp [Effect.property, Signal.property, Effect.tellsMembership]
  | regroup keeps joining nodup new managed =>
      have exchange := exchange_of_regroup (sound.fit live) live keeps
        nodup new managed
      refine ⟨_, (exchange _).announces ?_⟩
      rw [List.flatMap_append,
        Notice.flatMap_each _ _ Effect.untagBlock (fun _ _ _ => rfl),
        Notice.flatMap_each _ _ Effect.tagBlock (fun _ _ _ => rfl),
        List.flatMap_map, List.flatMap_map]
      rfl

theorem Settles.announces
    {α : Type} {given : Int} {spends : Occupant → Prop}
    {outcome : Outcome α} (sound : desktop.Sound)
    (settles : Settles desktop ref given spends outcome) :
    ∃ notices, Announces desktop outcome.desktop notices := by
  cases settles with
  | unchanged =>
      exact ⟨_, announces_of_silent (List.append_nil _).symm
        (fun _ _ => rfl) (by simp)⟩
  | altered _ live alteration counted =>
      rw [counted]
      exact alteration.announces sound live

/-! ## Every call -/

theorem Sound.isTagged_create
    (sound : desktop.Sound) (name : String)
    (client : ClientId) (tag : TagRef) :
    isTagged { desktop with tags := (desktop.tags.insert { name }).2 }
        client tag =
      desktop.isTagged client tag := by
  rw [isTagged_eq, isTagged_eq, sound.tidy.occupant?_insert]
  split
  · rename_i fresh
    rw [fresh, sound.tidy.occupant?_insert_ref]
    rfl
  · rfl

theorem newTag_announces (sound : desktop.Sound) (name : String) :
    Announces desktop
      { desktop with tags := (desktop.tags.insert { name }).2 } [] := by
  have tagged := sound.isTagged_create name
  show Announces desktop _ (([] : List Effect).map Notice.other)
  exact announces_of_silent (List.append_nil _).symm tagged (by simp)

theorem Bereaves.exchange
    {after : Desktop} {client : ClientId} {entry : Client}
    {log : List LogEvent} (sound : desktop.Sound)
    (managed : desktop.clients.get? client = some entry)
    (bereaves :
      Bereaves desktop client entry.screen
        (desktop.tagsHolding client) log after) :
    Exchange desktop (after.forget client)
      ((desktop.tagsHolding client).map fun ref => (ref, client)) [] := by
  have known :=
    (ClientTable.contains_iff desktop.clients client).2 ⟨entry, managed⟩
  constructor
  · refine (desktop.tagsHolding_nodup client).map ?_
    intro first second same
    exact (Prod.mk.inj same).1
  · exact List.nodup_nil
  · intro tag other leaves
    obtain ⟨_, holds, same⟩ := List.mem_map.1 leaves
    cases same
    obtain ⟨old, live, member⟩ :=
      (mem_tagsHolding_iff desktop client tag).1 holds
    rw [isTagged_of_live live, Tag.hasClient_iff]
    exact member
  · simp
  · rw [List.forall_mem_map]
    intro ref _
    exact known
  · simp
  · intro tag other
    have now : (after.forget client).tags = after.tags := rfl
    rw [isTagged_eq, now, bereaves.occupant? tag]
    by_cases holds : tag ∈ desktop.tagsHolding client
    · obtain ⟨old, live, member⟩ :=
        (mem_tagsHolding_iff desktop client tag).1 holds
      rw [if_pos holds, live, Option.bind_some, sound.without live member,
        any_remains_counted, isTagged_of_live live, Tag.hasClient_iff,
        Tag.hasClient_iff, Tag.remove,
        (sound.fit live).clients_nodup.mem_erase_iff]
      simp [holds, and_comm, eq_comm]
    · rw [if_neg holds, ← isTagged_eq]
      simp [holds]

theorem unmanageClient_announces
    (sound : desktop.Sound) (client : ClientId) :
    ∃ notices,
      Announces desktop (unmanageClient client desktop).desktop notices := by
  cases known : desktop.clients.get? client with
  | none =>
      rw [unmanageClient_of_stranger known]
      exact ⟨_, announces_of_silent (List.append_nil _).symm
        (fun _ _ => rfl) (by simp)⟩
  | some entry =>
      obtain ⟨after, log, done, bereaves⟩ :=
        unmanageClient_of_managed sound known
      rw [done]
      refine ⟨_, (bereaves.exchange sound known).announces ?_⟩
      have queue := congrArg Desktop.queue bereaves.rest
      refine queue.trans (congrArg (desktop.queue ++ ·) ?_)
      rw [List.flatMap_append,
        Notice.flatMap_each _ _ Effect.untagBlock (fun _ _ _ => rfl),
        List.flatMap_map]
      simp [known, farewells, Notice.each]

/-- Every call announces the memberships that it changes. -/
theorem Sound.run_announces (sound : desktop.Sound) (call : Call) :
    ∃ notices, Announces desktop (call.run desktop).desktop notices := by
  rcases sound.run_cases call with
    ⟨ref, _, settles⟩ | ⟨name, rfl⟩ | ⟨client, rfl⟩ | ⟨_, _, _, still⟩
  · exact settles.announces sound
  · exact ⟨[], newTag_announces sound name⟩
  · rw [Call.run, Call.thenDone_apply]
    exact unmanageClient_announces sound client
  · refine ⟨_, announces_of_silent still.changes.queue ?_ (by simp)⟩
    intro client tag
    rw [isTagged, isTagged, still.tags]

/-! ## One block each -/

section Announces

variable {notices : List Notice}

theorem Announces.closing_notMem
    (announces : Announces before after notices)
    {notice : Notice} {edge : TagRef × ClientId}
    (told : notice.edge? = some edge)
    {part : List Notice} (sublist : part.Sublist notices)
    (others : edge ∉ part.filterMap Notice.edge?) :
    notice.closing ∉ part.flatMap Notice.effects := by
  intro inside
  obtain ⟨other, listed, inBlock⟩ := List.mem_flatMap.1 inside
  have same := Notice.edge?_of_closing_mem told
    (fun effect isOther =>
      announces.silent effect (isOther ▸ sublist.subset listed))
    inBlock
  exact others (List.mem_filterMap.2 ⟨other, listed, same⟩)

/-- The block of a changed membership occurs once. -/
theorem Announces.existsUnique_block
    (announces : Announces before after notices)
    {notice : Notice} (listed : notice ∈ notices)
    (told : notice.edge? ≠ none) :
    ∃! front, ∃ back,
      notices.flatMap Notice.effects =
        front ++ notice.effects ++ back := by
  obtain ⟨edge, about⟩ := Option.ne_none_iff_exists'.1 told
  obtain ⟨first, last, split⟩ := List.append_of_mem listed
  have once := announces.once
  rw [split, List.filterMap_append, List.filterMap_cons_some about] at once
  obtain ⟨_, behind, apart⟩ := List.nodup_append.1 once
  have notFirst :=
    announces.closing_notMem about
      (by rw [split]; exact List.sublist_append_left first _)
      (fun member => apart edge member edge List.mem_cons_self rfl)
  have notLast :=
    announces.closing_notMem about
      (by
        rw [split]
        exact (List.sublist_cons_self notice last).trans
          (List.sublist_append_right first _))
      (List.nodup_cons.1 behind).1
  have here :
      notices.flatMap Notice.effects =
        first.flatMap Notice.effects ++ notice.effects ++
          last.flatMap Notice.effects := by
    simp [split]
  refine ⟨_, ⟨_, here⟩, ?_⟩
  rintro front ⟨back, there⟩
  -- The last effect of the block occurs nowhere else, so it marks the place.
  rw [here, notice.effects_eq] at there
  simp only [List.append_assoc, List.singleton_append] at there
  rw [← List.append_assoc, ← List.append_assoc front] at there
  have inFront :
      notice.closing ∉
        first.flatMap Notice.effects ++ notice.effects.dropLast := by
    rw [List.mem_append, not_or]
    exact ⟨notFirst, Notice.closing_notMem_dropLast told⟩
  obtain ⟨same, _⟩ :=
    (List.append_cons_inj_of_notMem inFront notLast).1 there
  exact (List.append_cancel_right same).symm

end Announces

/-- What a call queues tells exactly which memberships it has changed: one block
for each client that has joined a tag or left it, and no word of any other. -/
theorem membership_effects_exact
    {desktop : Desktop} (reachable : desktop.Reachable) (call : Call) :
    ∃ notices,
      Announces desktop (call.run desktop).desktop notices ∧
        ∀ notice ∈ notices, notice.edge? ≠ none →
          ∃! front, ∃ back,
            notices.flatMap Notice.effects =
              front ++ notice.effects ++ back := by
  obtain ⟨notices, announces⟩ := reachable.sound.run_announces call
  refine ⟨notices, announces, ?_⟩
  intro notice listed told
  exact announces.existsUnique_block listed told

/-- A client that is no longer managed leaves two tags, one of which ends with
that. -/
theorem membership_effects_exact_of_last_member :
    let desktop := (Desktop.start { tags := ["main"] }).desktop.after
      [.addScreen "DP-1", .manageClient ⟨7⟩ ⟨0⟩, .newTag "spare",
        .tagClient ⟨0, 0⟩ ⟨7⟩, .tagClient ⟨1, 0⟩ ⟨7⟩, .releaseTag ⟨1, 0⟩]
    let after := ((Call.unmanageClient ⟨7⟩).run desktop).desktop
    desktop.Reachable ∧
      desktop.tags.contains ⟨1, 0⟩ = true ∧
      after.tags.contains ⟨1, 0⟩ = false ∧
      ∃ notices, Announces desktop after notices ∧
        Notice.left ⟨0, 0⟩ ⟨7⟩ ⟨0⟩ ∈ notices ∧
        Notice.left ⟨1, 0⟩ ⟨7⟩ ⟨0⟩ ∈ notices ∧
        ∃! front, ∃ back,
          notices.flatMap Notice.effects =
            front ++ (Notice.left ⟨1, 0⟩ ⟨7⟩ ⟨0⟩).effects ++ back := by
  intro desktop after
  have reachable : desktop.Reachable := (Reachable.start _).after _
  obtain ⟨notices, announces, unique⟩ :=
    membership_effects_exact reachable (.unmanageClient ⟨7⟩)
  have stays := (announces.left_iff ⟨0, 0⟩ ⟨7⟩ ⟨0⟩).2 (by decide)
  have ends := (announces.left_iff ⟨1, 0⟩ ⟨7⟩ ⟨0⟩).2 (by decide)
  exact ⟨reachable, by decide, by decide, notices, announces, stays, ends,
    unique _ ends (by simp [Notice.edge?])⟩

end Desktop

end DesktopTags
