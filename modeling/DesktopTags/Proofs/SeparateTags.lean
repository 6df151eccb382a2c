import DesktopTags.Proofs.Run

/-!
# Calls about different tags

What a call about a live tag does depends on that tag, the managed clients and
the screens only, and it touches nothing else but the registry, the queue and
the vacant slots. So two calls about different tags may change places.
-/

namespace DesktopTags

/-! ## The registry -/

/-- What becomes of a tag's place in the registry. -/
inductive Listing where
  | kept
  | appended
  | removed
deriving DecidableEq

def Listing.apply (listing : Listing) (ref : TagRef) (registry : Registry) :
    Registry :=
  match listing with
  | .kept => registry
  | .appended => registry.push ref
  | .removed => registry.erase ref

namespace Registry

/-- A tag goes to the end and another one leaves, in either order. -/
theorem push_erase_comm
    (registry : Registry) {left right : TagRef} (different : left ≠ right) :
    (registry.push left).erase right = (registry.erase right).push left := by
  simp only [push, erase, Registry.mk.injEq]
  by_cases listed : right ∈ registry.tags
  · exact List.erase_append_left [left] listed
  · have notLast : right ∉ [left] := by
      rw [List.mem_singleton]
      exact different.symm
    rw [List.erase_append_right [left] listed, List.erase_of_not_mem notLast,
      List.erase_of_not_mem listed]

theorem erase_comm (registry : Registry) (left right : TagRef) :
    (registry.erase left).erase right = (registry.erase right).erase left := by
  simp only [erase, List.erase_comm left right]

end Registry

/-- Changes of two tags' places may change their order, unless both tags are
appended. -/
theorem Listing.apply_comm
    {left right : TagRef} (different : left ≠ right) {first second : Listing}
    (notBoth : ¬ (first = .appended ∧ second = .appended))
    (registry : Registry) :
    second.apply right (first.apply left registry) =
      first.apply left (second.apply right registry) := by
  cases first with
  | kept => rfl
  | appended =>
      cases second with
      | kept => rfl
      | appended => exact absurd ⟨rfl, rfl⟩ notBoth
      | removed => exact registry.push_erase_comm different
  | removed =>
      cases second with
      | kept => rfl
      | appended => exact (registry.push_erase_comm different.symm).symm
      | removed => exact registry.erase_comm left right

/-- The other entries of the registry keep their order. -/
theorem Listing.filter_apply
    (listing : Listing) (ref : TagRef) (registry : Registry) :
    ((listing.apply ref registry).tags.filter fun other => other ≠ ref) =
      registry.tags.filter fun other => other ≠ ref := by
  cases listing with
  | kept => rfl
  | appended => simp [Listing.apply, Registry.push]
  | removed =>
      simp only [Listing.apply, Registry.erase]
      induction registry.tags with
      | nil => rfl
      | cons head rest inductionHypothesis =>
          by_cases same : head = ref
          · simp [same]
          · rw [List.erase_cons_tail (by simpa using same),
              List.filter_cons_of_pos (by simpa using same),
              List.filter_cons_of_pos (by simpa using same),
              inductionHypothesis]

/-! ## What a call about one tag does -/

namespace Call

/-- The calls that put a tag into the registry. -/
def Enlists (old : Occupant) : Call → Prop
  | .activate _ => old.tag.activated = false
  | .setActivated _ activated => activated = true ∧ old.tag.activated = false
  | _ => False

end Call

namespace Desktop

/-- What a call does to a live tag: its answer, the occupant it leaves in the
tag's slot, what becomes of the tag's place in the registry, and what it
queues. -/
structure Deed where
  answer : Except Fault Reply
  occupant : Occupant
  listing : Listing := .kept
  effects : List Effect := []

/-- A deed that leaves the tag alone. -/
def Deed.idle (answer : Except Fault Reply) (old : Occupant) : Deed where
  answer
  occupant := old

/-- The desktop after a deed. -/
def Deed.apply (deed : Deed) (ref : TagRef) (desktop : Desktop) : Desktop :=
  ((desktop.settle ref deed.occupant).enlist
    (deed.listing.apply ref desktop.registry)).announce deed.effects

/-- A sound desktop with these screens and clients, on which a live tag has this
occupant. -/
structure Shows
    (desktop : Desktop) (screens : List Screen) (clients : ClientTable)
    (ref : TagRef) (old : Occupant) : Prop where
  sound : desktop.Sound
  screens : desktop.screens = screens
  clients : desktop.clients = clients
  live : desktop.tags.occupant? ref = some old

/-- A call does the same deed wherever these screens, these clients and this
occupant of the tag are found. -/
structure Deed.Of
    (deed : Deed) (screens : List Screen) (clients : ClientTable)
    (ref : TagRef) (old : Occupant) (call : Call) : Prop where
  run :
    ∀ desktop : Desktop, desktop.Shows screens clients ref old →
      ∃ log, call.run desktop = ⟨deed.answer, deed.apply ref desktop, log⟩
  enlists : deed.listing = .appended → call.Enlists old

section Deeds

variable {screens : List Screen} {clients : ClientTable}
  {ref : TagRef} {old : Occupant} {call : Call}

theorem Deed.apply_silent
    (answer : Except Fault Reply) (new : Occupant) (desktop : Desktop) :
    Deed.apply ⟨answer, new, .kept, []⟩ ref desktop =
      desktop.settle ref new :=
  announce_nil (desktop.settle ref new)

/-- A call that leaves the tag alone. -/
theorem Deed.of_idle
    {answer : Except Fault Reply}
    (run :
      ∀ desktop : Desktop, desktop.Shows screens clients ref old →
        ∃ log, call.run desktop = ⟨answer, desktop, log⟩) :
    Deed.Of (.idle answer old) screens clients ref old call := by
  refine ⟨fun desktop shows => ?_, nofun⟩
  rw [idle, apply_silent,
    settle_self shows.live (shows.sound.referred shows.live)]
  exact run desktop shows

theorem holdTag_deed :
    Deed.Of ⟨.ok .done,
        { old with refs := old.refs + 1, handles := old.handles + 1 },
        .kept, []⟩
      screens clients ref old (.holdTag ref) := by
  refine ⟨fun desktop shows => ?_, nofun⟩
  rw [Deed.apply_silent]
  exact ⟨_, Call.thenDone_of (holdTag_of_live shows.live)⟩

theorem releaseTag_deed :
    ∃ deed, Deed.Of deed screens clients ref old (.releaseTag ref) := by
  by_cases held : 0 < old.handles
  · refine ⟨⟨.ok .done,
      { old with refs := old.refs - 1, handles := old.handles - 1 },
      .kept, []⟩, fun desktop shows => ?_, nofun⟩
    have referred := shows.sound.referred shows.live
    rw [Deed.apply_silent]
    exact ⟨_, Call.thenDone_of (releaseTag_of_held shows.live referred held)⟩
  · have returned : old.handles = 0 := by omega
    refine ⟨.idle (.error (.notHeld ref)) old, Deed.of_idle fun desktop shows => ?_⟩
    exact ⟨_, Call.thenDone_of (releaseTag_of_returned shows.live returned)⟩

theorem activate_deed :
    ∃ deed, Deed.Of deed screens clients ref old (.activate ref) := by
  cases active : old.tag.activated with
  | true =>
      refine ⟨.idle (.ok .done) old, Deed.of_idle fun desktop shows => ?_⟩
      exact ⟨_, Call.thenDone_of (activate_of_active shows.live active)⟩
  | false =>
      refine ⟨⟨.ok .done,
        { old with
          tag := { old.tag with activated := true }
          refs := old.refs + 1 },
        .appended, desktopListChanged ref⟩,
        fun desktop shows => ?_, fun _ => active⟩
      have referred := shows.sound.referred shows.live
      exact ⟨_, Call.thenDone_of
        (activate_of_inactive shows.live referred active)⟩

theorem deactivate_deed :
    ∃ deed, Deed.Of deed screens clients ref old (.deactivate ref) := by
  cases active : old.tag.activated with
  | false =>
      refine ⟨.idle (.ok .done) old, Deed.of_idle fun desktop shows => ?_⟩
      exact ⟨_, Call.thenDone_of (deactivate_of_inactive shows.live active)⟩
  | true =>
      refine ⟨⟨.ok .done,
        { old with tag := retired old.tag, refs := old.refs - 1 },
        .removed, hidden ref old.tag ++ desktopListChanged ref⟩,
        fun desktop shows => ?_, nofun⟩
      have referred := shows.sound.referred shows.live
      have registered := (shows.sound.registered_iff shows.live).2 active
      exact ⟨_, Call.thenDone_of
        (deactivate_of_active shows.live referred active registered)⟩

theorem setActivated_deed (activated : Bool) :
    ∃ deed, Deed.Of deed screens clients ref old
      (.setActivated ref activated) := by
  cases activated with
  | true =>
      obtain ⟨deed, run, enlists⟩ :
          ∃ deed, Deed.Of deed screens clients ref old (.activate ref) :=
        activate_deed
      exact ⟨deed, run, fun appended => ⟨rfl, enlists appended⟩⟩
  | false =>
      obtain ⟨deed, run, enlists⟩ :
          ∃ deed, Deed.Of deed screens clients ref old (.deactivate ref) :=
        deactivate_deed
      exact ⟨deed, run, fun appended => absurd (enlists appended) id⟩

theorem setSelected_deed (selected : Bool) :
    ∃ deed, Deed.Of deed screens clients ref old
      (.setSelected ref selected) := by
  rcases selection_cases old.tag selected with
    same | ⟨different, allowed⟩ | ⟨rfl, unselected, inactive⟩
  · refine ⟨.idle (.ok .done) old, Deed.of_idle fun desktop shows => ?_⟩
    exact ⟨_, Call.thenDone_of (setSelected_of_same shows.live same)⟩
  · refine ⟨⟨.ok .done, { old with tag := { old.tag with selected } },
      .kept, selectionChanged screens ref⟩,
      fun desktop shows => ?_, nofun⟩
    have referred := shows.sound.referred shows.live
    rw [← shows.screens]
    exact ⟨_, Call.thenDone_of
      (setSelected_of_change shows.live referred different allowed)⟩
  · refine ⟨.idle (.ok .done) old, Deed.of_idle fun desktop shows => ?_⟩
    exact ⟨_, Call.thenDone_of
      (setSelected_of_inactive shows.live unselected inactive)⟩

theorem setName_deed (name : String) :
    Deed.Of ⟨.ok .done, { old with tag := { old.tag with name } },
        .kept,
        [Effect.property ref .nameChanged, .display .updateDesktopNames]⟩
      screens clients ref old (.setName ref name) := by
  refine ⟨fun desktop shows => ?_, nofun⟩
  have referred := shows.sound.referred shows.live
  exact ⟨_, Call.thenDone_of (setName_of_live shows.live referred name)⟩

theorem tagClient_deed (client : ClientId) :
    ∃ deed, Deed.Of deed screens clients ref old (.tagClient ref client) := by
  cases known : clients.get? client with
  | none =>
      refine ⟨.idle (.error (.unknownClient client)) old, Deed.of_idle fun desktop shows => ?_⟩
      rw [← shows.clients] at known
      exact ⟨_, Call.thenDone_of (tagClient_of_stranger known ref)⟩
  | some entry =>
      by_cases member : client ∈ old.tag.clients
      · refine ⟨.idle (.ok .done) old, Deed.of_idle fun desktop shows => ?_⟩
        have referred := shows.sound.referred shows.live
        rw [← shows.clients] at known
        exact ⟨_, Call.thenDone_of
          (tagClient_of_member known shows.live referred member)⟩
      · refine ⟨⟨.ok .done,
          { old with tag := old.tag.add client, refs := old.refs + 1 },
          .kept, Effect.tagBlock ref client entry.screen⟩,
          fun desktop shows => ?_, nofun⟩
        rw [← shows.clients] at known
        exact ⟨_, Call.thenDone_of (tagClient_of_new known shows.live member)⟩

theorem untagClient_deed (client : ClientId) :
    ∃ deed, Deed.Of deed screens clients ref old
      (.untagClient client ref) := by
  cases known : clients.get? client with
  | none =>
      refine ⟨.idle (.error (.unknownClient client)) old, Deed.of_idle fun desktop shows => ?_⟩
      rw [← shows.clients] at known
      exact ⟨_, Call.thenDone_of (untagClient_of_stranger known ref)⟩
  | some entry =>
      by_cases member : client ∈ old.tag.clients
      · refine ⟨⟨.ok .done, old.without client, .kept,
          Effect.untagBlock ref client entry.screen⟩,
          fun desktop shows => ?_, nofun⟩
        have referred := shows.sound.referred shows.live
        rw [← shows.clients] at known
        exact ⟨_, Call.thenDone_of
          (untagClient_of_member known shows.live referred member)⟩
      · refine ⟨.idle (.ok .done) old, Deed.of_idle fun desktop shows => ?_⟩
        rw [← shows.clients] at known
        exact ⟨_, Call.thenDone_of
          (untagClient_of_outsider known shows.live member)⟩

theorem setClients_deed (requested : List ClientId) :
    ∃ deed, Deed.Of deed screens clients ref old
      (.setClients ref requested) := by
  rcases managed_or_stranger clients requested with
    managed | ⟨front, stranger, rest, split, managed, unmanaged⟩
  · refine ⟨⟨.ok (.clients (reconciled old.tag.clients requested)),
      { old with
        tag :=
          { old.tag with clients := reconciled old.tag.clients requested }
        refs :=
          old.refs - old.tag.clients.length +
            (reconciled old.tag.clients requested).length },
      .kept,
      untagBlocks clients ref (dismissed old.tag.clients requested) ++
        tagBlocks clients ref (newcomers old.tag.clients requested)⟩,
      fun desktop shows => ?_, nofun⟩
    have crowd := shows.sound.crowd shows.live
    have fit := shows.sound.fit shows.live
    rw [← shows.clients] at managed
    obtain ⟨_, _, done⟩ :=
      setClients_of_managed shows.live crowd fit.clients_nodup
        fit.clients_managed managed
    rw [← shows.clients]
    exact ⟨_, Call.setClients_of done⟩
  · subst split
    by_cases late : ∀ member ∈ old.tag.clients, member ∈ front
    · refine ⟨⟨.error (.unknownClient stranger),
        { old with
          tag :=
            { old.tag with
              clients :=
                old.tag.clients ++ newcomers old.tag.clients front }
          refs :=
            old.refs - old.tag.clients.length +
              (old.tag.clients ++
                newcomers old.tag.clients front).length },
        .kept, tagBlocks clients ref (newcomers old.tag.clients front)⟩,
        fun desktop shows => ?_, nofun⟩
      have referred := shows.sound.referred shows.live
      have crowd := shows.sound.crowd shows.live
      rw [← shows.clients] at managed unmanaged
      obtain ⟨_, _, done⟩ :=
        setClients_of_late_stranger shows.live referred crowd rest managed
          unmanaged late
      rw [← shows.clients]
      exact ⟨_, Call.setClients_of done⟩
    · refine ⟨.idle (.error (.unknownClient stranger)) old,
        Deed.of_idle fun desktop shows => ?_⟩
      have referred := shows.sound.referred shows.live
      have crowd := shows.sound.crowd shows.live
      rw [← shows.clients] at managed unmanaged
      exact ⟨_, Call.setClients_of
        (setClients_of_early_stranger shows.live referred crowd rest managed
          unmanaged late)⟩

/-- Every call about a live tag does some deed. -/
theorem exists_deed
    (screens : List Screen) (clients : ClientTable) (old : Occupant)
    (about : call.subject? = some ref) :
    ∃ deed, Deed.Of deed screens clients ref old call := by
  cases call with
  | holdTag tag =>
      cases about
      exact ⟨_, holdTag_deed⟩
  | releaseTag tag =>
      cases about
      exact releaseTag_deed
  | activate tag =>
      cases about
      exact activate_deed
  | deactivate tag =>
      cases about
      exact deactivate_deed
  | setActivated tag activated =>
      cases about
      exact setActivated_deed activated
  | setSelected tag selected =>
      cases about
      exact setSelected_deed selected
  | setName tag name =>
      cases about
      exact ⟨_, setName_deed name⟩
  | tagClient tag client =>
      cases about
      exact tagClient_deed client
  | untagClient client tag =>
      cases about
      exact untagClient_deed client
  | setClients tag requested =>
      cases about
      exact setClients_deed requested
  | newTag name => cases about
  | manageClient client screen => cases about
  | unmanageClient client => cases about
  | focusClient client => cases about
  | unfocus => cases about
  | addScreen output => cases about

end Deeds

/-! ## Two deeds -/

section Pairs

variable {desktop : Desktop} {left right : TagRef} {old other : Occupant}

/-- What a call about the left tag leaves alone: the right tag with its place among the
other tags of the registry, and the screens, the clients and the focus. -/
structure Spares
    (desktop : Desktop) (ref other : TagRef) (after : Desktop) : Prop where
  slot :
    after.tags.slots[other.slot]? = desktop.tags.slots[other.slot]?
  occupant : after.tags.occupant? other = desktop.tags.occupant? other
  registry :
    after.registry.tags.filter (· ≠ ref) =
      desktop.registry.tags.filter (· ≠ ref)
  screens : after.screens = desktop.screens
  clients : after.clients = desktop.clients
  focus : after.focus = desktop.focus

theorem Deed.spares
    (deed : Deed) (apart : left.slot ≠ right.slot) (desktop : Desktop) :
    desktop.Spares left right (deed.apply left desktop) := by
  have same := Arena.slot_settle_of_ne desktop.tags apart deed.occupant
  refine ⟨same, ?_, ?_, rfl, rfl, rfl⟩
  · exact Arena.occupant?_congr_slot same
  · exact deed.listing.filter_apply left desktop.registry

/-- After a deed the other tag is found as before. -/
theorem Deed.shows_other
    (deed : Deed) (apart : left.slot ≠ right.slot)
    (sound : (deed.apply left desktop).Sound)
    (rightLive : desktop.tags.occupant? right = some other) :
    (deed.apply left desktop).Shows desktop.screens desktop.clients
      right other where
  sound := sound
  screens := rfl
  clients := rfl
  live := by
    rw [(deed.spares apart desktop).occupant, rightLive]

/-- Two desktops that differ at most in the order of their queues and of their
vacant slots. -/
structure Alike (desktop other : Desktop) : Prop where
  slots : desktop.tags.slots = other.tags.slots
  registry : desktop.registry = other.registry
  screens : desktop.screens = other.screens
  clients : desktop.clients = other.clients
  focus : desktop.focus = other.focus

/-- Two calls that may change places. -/
structure Swaps
    (desktop : Desktop) (left right : TagRef) (first second : Call) :
    Prop where
  firstAnswer :
    (first.run (second.run desktop).desktop).answer =
      (first.run desktop).answer
  secondAnswer :
    (second.run (first.run desktop).desktop).answer =
      (second.run desktop).answer
  alike :
    Alike (second.run (first.run desktop).desktop).desktop
      (first.run (second.run desktop).desktop).desktop
  /-- Each call queues one block of effects, wherever it comes. -/
  queue :
    ∃ firstEffects secondEffects,
      (first.run desktop).desktop.queue = desktop.queue ++ firstEffects ∧
      (second.run desktop).desktop.queue = desktop.queue ++ secondEffects ∧
      (second.run (first.run desktop).desktop).desktop.queue =
        desktop.queue ++ firstEffects ++ secondEffects ∧
      (first.run (second.run desktop).desktop).desktop.queue =
        desktop.queue ++ secondEffects ++ firstEffects
  /-- The vacant slots differ only if both tags are destroyed. -/
  free :
    let oneWay := (second.run (first.run desktop).desktop).desktop.tags
    let otherWay := (first.run (second.run desktop).desktop).desktop.tags
    if oneWay.contains left = false ∧ oneWay.contains right = false then
      oneWay.free = right.slot :: left.slot :: desktop.tags.free ∧
        otherWay.free = left.slot :: right.slot :: desktop.tags.free
    else
      oneWay.free = otherWay.free

theorem Deed.alike
    (first second : Deed) (apart : left.slot ≠ right.slot)
    (different : left ≠ right)
    (notBoth : ¬ (first.listing = .appended ∧ second.listing = .appended))
    (desktop : Desktop) :
    Alike (second.apply right (first.apply left desktop))
      (first.apply left (second.apply right desktop)) where
  slots :=
    desktop.tags.slots_settle_comm apart first.occupant second.occupant
  registry := Listing.apply_comm different notBoth desktop.registry
  screens := rfl
  clients := rfl
  focus := rfl

theorem Deed.free_apply (deed : Deed) (ref : TagRef) (desktop : Desktop) :
    (deed.apply ref desktop).tags.free =
      Arena.freed ref deed.occupant ++ desktop.tags.free :=
  desktop.tags.free_settle ref deed.occupant

/-- A deed destroys its tag if nothing refers to it any more. -/
theorem Deed.gone_iff
    (deed : Deed) (live : desktop.tags.occupant? left = some old) :
    (deed.apply left desktop).tags.contains left = false ↔
      deed.occupant.refs = 0 := by
  have settled := Arena.occupant?_settle live deed.occupant left
  rw [if_pos rfl] at settled
  rw [← Arena.remains_eq_none_iff, ← settled, Arena.contains]
  exact Option.isSome_eq_false_iff.trans Option.isNone_iff_eq_none

/-- Both orders free the same slots, each call its own. -/
theorem Deed.free_swap
    (first second : Deed) (apart : left.slot ≠ right.slot)
    (leftLive : desktop.tags.occupant? left = some old)
    (rightLive : desktop.tags.occupant? right = some other) :
    let oneWay := (second.apply right (first.apply left desktop)).tags
    let otherWay := (first.apply left (second.apply right desktop)).tags
    if oneWay.contains left = false ∧ oneWay.contains right = false then
      oneWay.free = right.slot :: left.slot :: desktop.tags.free ∧
        otherWay.free = left.slot :: right.slot :: desktop.tags.free
    else
      oneWay.free = otherWay.free := by
  intro oneWay otherWay
  have leftGone : oneWay.contains left = false ↔ first.occupant.refs = 0 := by
    have kept :=
      (second.spares apart.symm (first.apply left desktop)).occupant
    rw [Arena.contains, kept, ← Arena.contains]
    exact first.gone_iff leftLive
  have rightGone :
      oneWay.contains right = false ↔ second.occupant.refs = 0 :=
    second.gone_iff ((first.spares apart desktop).occupant.trans rightLive)
  have oneFree :
      oneWay.free =
        Arena.freed right second.occupant ++
          (Arena.freed left first.occupant ++ desktop.tags.free) := by
    rw [← first.free_apply, ← second.free_apply]
  have otherFree :
      otherWay.free =
        Arena.freed left first.occupant ++
          (Arena.freed right second.occupant ++ desktop.tags.free) := by
    rw [← second.free_apply, ← first.free_apply]
  by_cases leftSpent : first.occupant.refs = 0
  · by_cases rightSpent : second.occupant.refs = 0
    · rw [if_pos ⟨leftGone.2 leftSpent, rightGone.2 rightSpent⟩, oneFree,
        otherFree]
      simp [Arena.freed, leftSpent, rightSpent]
    · rw [if_neg fun both => rightSpent (rightGone.1 both.2), oneFree,
        otherFree]
      simp [Arena.freed, rightSpent]
  · rw [if_neg fun both => leftSpent (leftGone.1 both.1), oneFree, otherFree]
    simp [Arena.freed, leftSpent]

end Pairs

/-- Calls about different tags know nothing of each other: each of them leaves
the other tag alone, and they may change places, unless both put their tag at
the end of the registry. -/
theorem separate_calls_swap
    {desktop : Desktop} (reachable : desktop.Reachable)
    {left right : TagRef} (different : left ≠ right)
    {old other : Occupant}
    (leftLive : desktop.tags.occupant? left = some old)
    (rightLive : desktop.tags.occupant? right = some other)
    {first second : Call}
    (aboutLeft : first.subject? = some left)
    (aboutRight : second.subject? = some right)
    (notBoth : ¬ (first.Enlists old ∧ second.Enlists other)) :
    desktop.Spares left right (first.run desktop).desktop ∧
      desktop.Spares right left (second.run desktop).desktop ∧
      desktop.Swaps left right first second := by
  have sound := reachable.sound
  have apart := Arena.slot_ne_of_live leftLive rightLive different
  obtain ⟨one, oneRuns, oneEnlists⟩ :=
    exists_deed desktop.screens desktop.clients old aboutLeft
  obtain ⟨two, twoRuns, twoEnlists⟩ :=
    exists_deed desktop.screens desktop.clients other aboutRight
  -- Each deed is the same on the desktop and behind the other deed.
  obtain ⟨_, firstDone⟩ := oneRuns desktop ⟨sound, rfl, rfl, leftLive⟩
  obtain ⟨_, secondDone⟩ := twoRuns desktop ⟨sound, rfl, rfl, rightLive⟩
  have soundFirst := sound.run first
  have soundSecond := sound.run second
  rw [firstDone] at soundFirst
  rw [secondDone] at soundSecond
  obtain ⟨_, secondLater⟩ :=
    twoRuns _ (one.shows_other apart soundFirst rightLive)
  obtain ⟨_, firstLater⟩ :=
    oneRuns _ (two.shows_other apart.symm soundSecond leftLive)
  have notBothAppended :
      ¬ (one.listing = .appended ∧ two.listing = .appended) := by
    rintro ⟨oneAppends, twoAppends⟩
    exact notBoth ⟨oneEnlists oneAppends, twoEnlists twoAppends⟩
  have swaps : desktop.Swaps left right first second := by
    constructor
    · rw [secondDone, firstLater, firstDone]
    · rw [firstDone, secondLater, secondDone]
    · rw [firstDone, secondDone, secondLater, firstLater]
      exact one.alike two apart different notBothAppended desktop
    · rw [firstDone, secondDone, secondLater, firstLater]
      exact ⟨one.effects, two.effects, rfl, rfl, rfl, rfl⟩
    · rw [firstDone, secondDone, secondLater, firstLater]
      exact one.free_swap two apart leftLive rightLive
  rw [firstDone, secondDone]
  exact ⟨one.spares apart desktop, two.spares apart.symm desktop, swaps⟩

/-- Two tags that are both destroyed, one by leaving the registry and one with
its last member. -/
theorem separate_calls_swap_of_last_holders :
    let desktop := (Desktop.start { tags := ["main"] }).desktop.after
      [.addScreen "DP-1", .manageClient ⟨7⟩ ⟨0⟩, .newTag "web",
        .tagClient ⟨1, 0⟩ ⟨7⟩, .releaseTag ⟨1, 0⟩]
    let first : Call := .deactivate ⟨0, 0⟩
    let second : Call := .setClients ⟨1, 0⟩ []
    let oneWay := (second.run (first.run desktop).desktop).desktop
    let otherWay := (first.run (second.run desktop).desktop).desktop
    desktop.Reachable ∧
      desktop.tags.occupant? ⟨0, 0⟩ = some ⟨⟨"main", true, true, []⟩, 1, 0⟩ ∧
      desktop.tags.occupant? ⟨1, 0⟩ =
        some ⟨⟨"web", false, false, [⟨7⟩]⟩, 1, 0⟩ ∧
      desktop.Spares ⟨0, 0⟩ ⟨1, 0⟩ (first.run desktop).desktop ∧
      desktop.Spares ⟨1, 0⟩ ⟨0, 0⟩ (second.run desktop).desktop ∧
      desktop.Swaps ⟨0, 0⟩ ⟨1, 0⟩ first second ∧
      oneWay.tags.free = [1, 0] ∧ otherWay.tags.free = [0, 1] := by
  intro desktop first second oneWay otherWay
  have reachable : desktop.Reachable := (Reachable.start _).after _
  have main :
      desktop.tags.occupant? ⟨0, 0⟩ =
        some ⟨⟨"main", true, true, []⟩, 1, 0⟩ := by decide
  have web :
      desktop.tags.occupant? ⟨1, 0⟩ =
        some ⟨⟨"web", false, false, [⟨7⟩]⟩, 1, 0⟩ := by decide
  obtain ⟨sparesWeb, sparesMain, swaps⟩ :
      desktop.Spares ⟨0, 0⟩ ⟨1, 0⟩ (first.run desktop).desktop ∧
        desktop.Spares ⟨1, 0⟩ ⟨0, 0⟩ (second.run desktop).desktop ∧
        desktop.Swaps ⟨0, 0⟩ ⟨1, 0⟩ first second :=
    separate_calls_swap reachable (by decide) main web rfl rfl
      fun both => both.1
  exact ⟨reachable, main, web, sparesWeb, sparesMain, swaps,
    by decide, by decide⟩

end Desktop

end DesktopTags
