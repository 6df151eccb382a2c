import DesktopTags.Proofs.Run

/-!
# Replacing all members of a tag

On every desktop that a run comes to, `setClients` either does exactly what was
asked for, or stops at the first client that is not managed. Then it has either
done nothing, or what the part of the request before that client asks for.
-/

namespace DesktopTags.Desktop

open Operation

/-! ## Requests of managed clients -/

/-- The tag with the members that a request leaves it, and all that refers to
it. -/
def rejoined (old : Occupant) (requested : List ClientId) : Occupant :=
  .counted
    { old.tag with clients := reconciled old.tag.clients requested }
    old.handles

/-- What a request queues: the members that leave, then the clients that join,
one block each. -/
def turnover
    (table : ClientTable) (ref : TagRef)
    (members requested : List ClientId) : List Effect :=
  untagBlocks table ref (dismissed members requested) ++
    tagBlocks table ref (newcomers members requested)

/-- A live tag has got the members that were asked for, and nothing else has
changed but the queue. -/
structure Replaces
    (desktop : Desktop) (ref : TagRef) (old : Occupant)
    (requested : List ClientId) (after : Desktop) : Prop where
  queue :
    after.queue =
      desktop.queue ++
        turnover desktop.clients ref old.tag.clients requested
  /-- None of these blocks is empty. -/
  managed :
    ∀ client ∈ old.tag.clients ++ requested,
      ∃ entry, desktop.clients.get? client = some entry
  tag :
    after.tags.occupant? ref =
      if old.handles = 0 ∧ old.tag.activated = false ∧
          reconciled old.tag.clients requested = [] then
        none
      else some (rejoined old requested)
  others :
    ∀ other, other ≠ ref →
      after.tags.occupant? other = desktop.tags.occupant? other
  tags : after.tags = desktop.tags.settle ref (rejoined old requested)
  registry : after.registry = desktop.registry
  clients : after.clients = desktop.clients
  focus : after.focus = desktop.focus
  screens : after.screens = desktop.screens

section Sound

variable {desktop : Desktop} {ref : TagRef} {old : Occupant}

theorem staffed_eq_rejoined
    (sound : desktop.Sound) (live : desktop.tags.occupant? ref = some old)
    (requested : List ClientId) (effects : List Effect) :
    desktop.staffed ref old (old.refs - old.tag.clients.length)
        (reconciled old.tag.clients requested) effects =
      (desktop.settle ref (rejoined old requested)).announce effects := by
  have count := sound.refs_eq live
  have same :
      old.refs - old.tag.clients.length =
        old.handles + old.tag.activated.toNat := by
    omega
  rw [staffed, same]
  rfl

theorem rejoined_refs_eq_zero_iff
    (old : Occupant) (requested : List ClientId) :
    (rejoined old requested).refs = 0 ↔
      old.handles = 0 ∧ old.tag.activated = false ∧
        reconciled old.tag.clients requested = [] :=
  Occupant.counted_refs_eq_zero_iff _ _

theorem Sound.setClients_replaces
    (sound : desktop.Sound) (live : desktop.tags.occupant? ref = some old)
    {requested : List ClientId}
    (managed :
      ∀ client ∈ requested, desktop.clients.contains client = true) :
    (setClients ref requested desktop).answer =
        .ok (reconciled old.tag.clients requested) ∧
      Replaces desktop ref old requested
        (setClients ref requested desktop).desktop := by
  have fit := sound.fit live
  obtain ⟨log, _, done⟩ :=
    setClients_of_managed live (sound.crowd live) fit.clients_nodup
      fit.clients_managed managed
  rw [staffed_eq_rejoined sound live] at done
  rw [done]
  refine ⟨rfl, ?_⟩
  have found := Arena.occupant?_settle live (rejoined old requested)
  constructor
  · rfl
  · intro client named
    apply (ClientTable.contains_iff desktop.clients client).1
    rcases List.mem_append.1 named with member | asked
    · exact fit.clients_managed client member
    · exact managed client asked
  · rw [announce_tags, settle_tags, found, if_pos rfl, Arena.remains]
    simp only [rejoined_refs_eq_zero_iff]
  · intro other different
    rw [announce_tags, settle_tags, found, if_neg different]
  · rfl
  · rfl
  · rfl
  · rfl
  · rfl

end Sound

/-- A request of managed clients is carried out exactly. The members that are
requested stay in their order, and the others that are requested follow in the
order of the request, each once. -/
theorem setClients_exact
    {desktop : Desktop} (reachable : desktop.Reachable)
    {ref : TagRef} {old : Occupant}
    (live : desktop.tags.occupant? ref = some old)
    {requested : List ClientId}
    (managed :
      ∀ client ∈ requested, desktop.clients.contains client = true) :
    (setClients ref requested desktop).answer =
        .ok (reconciled old.tag.clients requested) ∧
      Replaces desktop ref old requested
        (setClients ref requested desktop).desktop :=
  reachable.sound.setClients_replaces live managed

/-- The first member leaves, the second stays, and a third client that is named
twice joins once. -/
theorem setClients_exact_of_three :
    let desktop := (Desktop.start { tags := ["main"] }).desktop.after
      [.addScreen "DP-1", .manageClient ⟨1⟩ ⟨0⟩, .manageClient ⟨2⟩ ⟨0⟩,
        .manageClient ⟨3⟩ ⟨0⟩, .setClients ⟨0, 0⟩ [⟨1⟩, ⟨2⟩]]
    let request : List ClientId := [⟨3⟩, ⟨2⟩, ⟨3⟩]
    desktop.Reachable ∧
      desktop.tags.occupant? ⟨0, 0⟩ =
        some ⟨⟨"main", true, true, [⟨1⟩, ⟨2⟩]⟩, 3, 0⟩ ∧
      (∀ client ∈ request, desktop.clients.contains client = true) ∧
      (setClients ⟨0, 0⟩ request desktop).answer = .ok [⟨2⟩, ⟨3⟩] ∧
      (setClients ⟨0, 0⟩ request desktop).desktop.queue =
        desktop.queue ++
          (Effect.untagBlock ⟨0, 0⟩ ⟨1⟩ ⟨0⟩ ++
            Effect.tagBlock ⟨0, 0⟩ ⟨3⟩ ⟨0⟩) := by
  intro desktop request
  have reachable : desktop.Reachable := (Reachable.start _).after _
  have live :
      desktop.tags.occupant? ⟨0, 0⟩ =
        some ⟨⟨"main", true, true, [⟨1⟩, ⟨2⟩]⟩, 3, 0⟩ := by
    decide
  have managed :
      ∀ client ∈ request, desktop.clients.contains client = true := by
    decide
  obtain ⟨answered, replaces⟩ := setClients_exact reachable live managed
  refine ⟨reachable, live, managed, answered.trans (congrArg Except.ok ?_),
    replaces.queue.trans ?_⟩
  · decide
  · decide

/-! ## Requests with a client that is not managed -/

/-- A part of a request that names all members keeps them, lets others join and
lets nobody leave. -/
structure Extends
    (desktop : Desktop) (ref : TagRef) (old : Occupant)
    (front : List ClientId) (after : Desktop) : Prop where
  carried_out : after = (setClients ref front desktop).desktop
  tag :
    after.tags.occupant? ref =
      some
        { old with
          tag :=
            { old.tag with
              clients :=
                old.tag.clients ++ newcomers old.tag.clients front }
          refs := old.refs + (newcomers old.tag.clients front).length }
  queue :
    after.queue =
      desktop.queue ++
        tagBlocks desktop.clients ref (newcomers old.tag.clients front)

section Stranger

variable {desktop : Desktop} {ref : TagRef} {old : Occupant}

theorem Sound.setClients_extends
    (sound : desktop.Sound) (live : desktop.tags.occupant? ref = some old)
    {front : List ClientId} {stranger : ClientId} (rest : List ClientId)
    (managed : ∀ client ∈ front, desktop.clients.contains client = true)
    (unmanaged : desktop.clients.contains stranger = false)
    (late : ∀ member ∈ old.tag.clients, member ∈ front) :
    (setClients ref (front ++ stranger :: rest) desktop).answer =
        .error (.unknownClient stranger) ∧
      Extends desktop ref old front
        (setClients ref (front ++ stranger :: rest) desktop).desktop := by
  have fit := sound.fit live
  have crowd := sound.crowd live
  have referred := sound.referred live
  obtain ⟨_, _, stopped⟩ :=
    setClients_of_late_stranger live referred crowd rest managed unmanaged
      late
  obtain ⟨_, _, done⟩ :=
    setClients_of_managed live crowd fit.clients_nodup fit.clients_managed
      managed
  rw [reconciled_of_subset late, dismissed_of_subset late] at done
  have count :
      old.refs - old.tag.clients.length +
          (old.tag.clients ++ newcomers old.tag.clients front).length =
        old.refs + (newcomers old.tag.clients front).length := by
    rw [List.length_append]
    omega
  rw [stopped]
  refine ⟨rfl, ?_⟩
  constructor
  · rw [done]
    rfl
  · rw [staffed, count]
    apply occupant?_settle_self live
    exact Nat.add_pos_left referred _
  · rfl

/-- No block for a new member tells that somebody has left. -/
theorem notMem_tagBlocks_of_untagged
    (table : ClientTable) (ref : TagRef) (clients : List ClientId)
    {signal : Signal} (left : signal.kind = .untagged) :
    Effect.emit signal ∉ tagBlocks table ref clients := by
  intro queued
  obtain ⟨client, _, inBlock⟩ := List.mem_flatMap.1 queued
  cases found : table.get? client with
  | none =>
      simp [found] at inBlock
  | some entry =>
      simp only [found, Option.elim_some, Effect.tagBlock, List.mem_cons,
        Effect.emit.injEq, reduceCtorEq, List.not_mem_nil, or_false,
        false_or] at inBlock
      rcases inBlock with same | same
      · rw [same] at left
        cases left
      · rw [same] at left
        cases left

end Stranger

/-- A request with a client that is not managed is refused at that client. If
some member is not named before it, the desktop stays as it is; otherwise the
part of the request before it is carried out. Either way all members stay, and
nothing that is queued tells that one has left. -/
theorem setClients_refused
    {desktop : Desktop} (reachable : desktop.Reachable)
    {ref : TagRef} {old : Occupant}
    (live : desktop.tags.occupant? ref = some old)
    {requested : List ClientId} {position : Nat} {stranger : ClientId}
    (named : requested[position]? = some stranger)
    (unmanaged : desktop.clients.contains stranger = false)
    (first :
      ∀ client ∈ requested.take position,
        desktop.clients.contains client = true) :
    (setClients ref requested desktop).answer =
        .error (.unknownClient stranger) ∧
      ((∃ member ∈ old.tag.clients, member ∉ requested.take position) →
        (setClients ref requested desktop).desktop = desktop) ∧
      ((∀ member ∈ old.tag.clients, member ∈ requested.take position) →
        Extends desktop ref old (requested.take position)
          (setClients ref requested desktop).desktop) ∧
      (∃ new,
        (setClients ref requested desktop).desktop.tags.occupant? ref =
            some new ∧
          ∀ member ∈ old.tag.clients, member ∈ new.tag.clients) ∧
      ∃ effects,
        (setClients ref requested desktop).desktop.queue =
            desktop.queue ++ effects ∧
          ∀ signal : Signal, signal.kind = .untagged →
            Effect.emit signal ∉ effects := by
  have sound := reachable.sound
  obtain ⟨inside, same⟩ := List.getElem?_eq_some_iff.1 named
  have split :
      requested.take position ++ stranger :: requested.drop (position + 1) =
        requested := by
    rw [← same, ← List.drop_eq_getElem_cons inside, List.take_append_drop]
  by_cases late : ∀ member ∈ old.tag.clients, member ∈ requested.take position
  · obtain ⟨refused, grown⟩ :=
      sound.setClients_extends live (requested.drop (position + 1)) first
        unmanaged late
    rw [split] at refused grown
    refine ⟨refused, ?_, fun _ => grown, ?_, ?_⟩
    · rintro ⟨member, isMember, missing⟩
      exact absurd (late member isMember) missing
    · refine ⟨_, grown.tag, ?_⟩
      intro member isMember
      exact List.mem_append_left _ isMember
    · refine ⟨_, grown.queue, ?_⟩
      intro signal left
      exact notMem_tagBlocks_of_untagged _ _ _ left
  · have stopped :=
      setClients_of_early_stranger live (sound.referred live)
        (sound.crowd live) (requested.drop (position + 1)) first unmanaged
        late
    rw [split] at stopped
    rw [stopped]
    refine ⟨rfl, fun _ => rfl, fun all => absurd all late, ?_, ?_⟩
    · exact ⟨old, live, fun _ isMember => isMember⟩
    · exact ⟨[], (List.append_nil _).symm, by simp⟩

/-- A client that is not managed, behind both members and a client that joins. -/
theorem setClients_refused_behind_members :
    let desktop := (Desktop.start { tags := ["main"] }).desktop.after
      [.addScreen "DP-1", .manageClient ⟨1⟩ ⟨0⟩, .manageClient ⟨2⟩ ⟨0⟩,
        .manageClient ⟨3⟩ ⟨0⟩, .setClients ⟨0, 0⟩ [⟨1⟩, ⟨2⟩]]
    let request : List ClientId := [⟨2⟩, ⟨3⟩, ⟨1⟩, ⟨9⟩, ⟨3⟩]
    desktop.Reachable ∧
      desktop.tags.occupant? ⟨0, 0⟩ =
        some ⟨⟨"main", true, true, [⟨1⟩, ⟨2⟩]⟩, 3, 0⟩ ∧
      request[3]? = some ⟨9⟩ ∧
      desktop.clients.contains ⟨9⟩ = false ∧
      (∀ client ∈ request.take 3, desktop.clients.contains client = true) ∧
      (setClients ⟨0, 0⟩ request desktop).answer =
        .error (.unknownClient ⟨9⟩) ∧
      (setClients ⟨0, 0⟩ request desktop).desktop =
        (setClients ⟨0, 0⟩ [⟨2⟩, ⟨3⟩, ⟨1⟩] desktop).desktop := by
  intro desktop request
  have reachable : desktop.Reachable := (Reachable.start _).after _
  have live :
      desktop.tags.occupant? ⟨0, 0⟩ =
        some ⟨⟨"main", true, true, [⟨1⟩, ⟨2⟩]⟩, 3, 0⟩ := by
    decide
  have named : request[3]? = some ⟨9⟩ := rfl
  have unmanaged : desktop.clients.contains ⟨9⟩ = false := by
    decide
  have first :
      ∀ client ∈ request.take 3, desktop.clients.contains client = true := by
    decide
  obtain ⟨refused, _, carriedOut, _⟩ :=
    setClients_refused reachable live named unmanaged first
  exact ⟨reachable, live, named, unmanaged, first, refused,
    (carriedOut (by decide)).carried_out⟩

end DesktopTags.Desktop
