import DesktopTags.Overview
import DesktopTags.Proofs.Journal
import DesktopTags.Proofs.MembershipNotices

/-!
# Displays that cache

A display may keep what it has seen of a desktop and look again only when a
request tells it to. Whatever is out of date at such a display has a request in
the queue.
-/

namespace DesktopTags

/-- What a display keeps: the number of desktops, their names, which tags are
shown with their members, and the tags that hold each client. A tag that is gone
is not shown and has no members, and nothing holds a client that is not
managed. -/
structure Cache where
  count : Nat
  names : List String
  shown : TagRef → Bool
  members : TagRef → ClientId → Bool
  holding : ClientId → TagRef → Bool

namespace Cache

def of (desktop : Desktop) : Cache where
  count := desktop.registry.tags.length
  names := desktop.overview.desktopNames
  shown := desktop.isSelected
  members := fun tag client => desktop.isTagged client tag
  holding := desktop.isTagged

/-- Two caches agree on the part that a request is about. No part is about the
usable area of a screen. -/
def Agree (first second : Cache) : DisplayRequest → Prop
  | .updateDesktopCount => first.count = second.count
  | .updateDesktopNames => first.names = second.names
  | .invalidateBanning =>
      first.shown = second.shown ∧ first.members = second.members
  | .updateClientDesktop client =>
      first.holding client = second.holding client
  | .updateWorkarea _ => True

def refresh (cache seen : Cache) : DisplayRequest → Cache
  | .updateDesktopCount => { cache with count := seen.count }
  | .updateDesktopNames => { cache with names := seen.names }
  | .invalidateBanning =>
      { cache with shown := seen.shown, members := seen.members }
  | .updateClientDesktop client =>
      { cache with
        holding :=
          Function.update cache.holding client (seen.holding client) }
  | .updateWorkarea _ => cache

/-- The cache after a delivery. Signals do not reach the display. -/
def afterDelivery (cache : Cache) (desktop : Desktop) : Effect → Cache
  | .display request => cache.refresh (of desktop) request
  | .emit _ => cache

section

variable {σ μ : Type}

/-- The cache after a delivery run. The display looks at the desktop that the
handlers before have left. -/
def afterDrain : Nat → Session σ μ → Cache → Cache
  | 0, _, cache => cache
  | budget + 1, session, cache =>
      match session.desktop.queue with
      | [] => cache
      | effect :: queue =>
          let taken : Session σ μ :=
            { session with desktop := { session.desktop with queue } }
          afterDrain budget (Session.deliver effect taken).1
            (cache.afterDelivery taken.desktop effect)

def afterDispatch (session : Session σ μ) (cache : Cache) : Cache :=
  afterDrain session.settings.dispatchBudget session cache

end

/-! ## Parts of a cache -/

variable {first second third : Cache}

theorem Agree.of_eq (same : first = second) (request : DisplayRequest) :
    first.Agree second request := by
  subst same
  cases request <;> simp [Agree]

theorem Agree.trans
    {request : DisplayRequest}
    (left : first.Agree second request)
    (right : second.Agree third request) :
    first.Agree third request := by
  cases request with
  | updateWorkarea => trivial
  | invalidateBanning =>
      exact ⟨left.1.trans right.1, left.2.trans right.2⟩
  | updateDesktopCount => exact Eq.trans left right
  | updateDesktopNames => exact Eq.trans left right
  | updateClientDesktop => exact Eq.trans left right

theorem eq_of_agree
    (agree : ∀ request, first.Agree second request) : first = second := by
  have count : first.count = second.count := agree .updateDesktopCount
  have names : first.names = second.names := agree .updateDesktopNames
  obtain ⟨shown, members⟩ := agree .invalidateBanning
  have holding : first.holding = second.holding := by
    funext client
    exact agree (.updateClientDesktop client)
  cases first
  cases second
  rw [mk.injEq]
  exact ⟨count, names, shown, members, holding⟩

theorem refresh_agree
    (cache seen : Cache) (request : DisplayRequest) :
    (cache.refresh seen request).Agree seen request := by
  cases request <;> simp [refresh, Agree]

/-- Looking again never puts another part out of date. -/
theorem Agree.refresh
    {cache seen : Cache} {other : DisplayRequest}
    (agree : cache.Agree seen other) (request : DisplayRequest) :
    (cache.refresh seen request).Agree seen other := by
  by_cases same : other = request
  · rw [same]
    exact refresh_agree cache seen request
  · cases request with
    | updateClientDesktop client =>
        cases other with
        | updateClientDesktop otherClient =>
            have different : otherClient ≠ client := by
              intro equal
              exact same (by rw [equal])
            simp only [Agree, Cache.refresh]
            rw [Function.update_of_ne different]
            exact agree
        | _ => exact agree
    | _ =>
        cases other <;> first | exact agree | exact absurd rfl same

end Cache

/-! ## Every change requests what it puts out of date -/

namespace Desktop

variable {desktop before after : Desktop} {ref : TagRef} {old : Occupant}

theorem desktopNames_eq (desktop : Desktop) :
    desktop.overview.desktopNames =
      desktop.registry.tags.filterMap fun ref =>
        (desktop.tags.get? ref).map Tag.name := by
  have listed := List.zipIdx_map_fst 0 desktop.registry.tags
  conv_rhs => rw [← listed, List.filterMap_map]
  simp only [overview, tagOverviews, List.map_filterMap, Option.map_map]
  rfl

theorem desktopNames_congr
    (listed : before.registry = after.registry)
    (named :
      ∀ ref ∈ after.registry.tags,
        (before.tags.get? ref).map Tag.name =
          (after.tags.get? ref).map Tag.name) :
    before.overview.desktopNames = after.overview.desktopNames := by
  rw [desktopNames_eq, desktopNames_eq, listed]
  exact List.filterMap_congr named

/-- The block of a changed membership requests both parts that tell it. -/
theorem Announces.requests
    {notices : List Notice} (announces : Announces before after notices)
    {effects : List Effect} (queue : after.queue = before.queue ++ effects)
    {client : ClientId} {tag : TagRef}
    (different :
      before.isTagged client tag ≠ after.isTagged client tag) :
    .display .invalidateBanning ∈ effects ∧
      .display (.updateClientDesktop client) ∈ effects := by
  have told : effects = notices.flatMap Notice.effects := by
    apply List.append_cancel_left
    rw [← queue, announces.queue]
  obtain ⟨screen, recorded⟩ := announces.managed tag client different
  have block :
      .joined tag client screen ∈ notices ∨
        .left tag client screen ∈ notices := by
    rw [announces.joined_iff, announces.left_iff]
    cases was : before.isTagged client tag with
    | false =>
        have joins : after.isTagged client tag = true := by
          simpa [was] using different
        exact Or.inl ⟨rfl, joins, recorded⟩
    | true =>
        have leaves : after.isTagged client tag = false := by
          simpa [was] using different
        exact Or.inr ⟨rfl, leaves, recorded⟩
  simp only [told, List.mem_flatMap]
  rcases block with joined | left
  · exact ⟨⟨_, joined, by simp [Notice.effects]⟩,
      ⟨_, joined, by simp [Notice.effects]⟩⟩
  · exact ⟨⟨_, left, by simp [Notice.effects]⟩,
      ⟨_, left, by simp [Notice.effects]⟩⟩

section Alteration

variable {tag : Tag} {handles : Nat} {registry : Registry}
  {effects : List Effect}

theorem Alteration.listed
    (alteration :
      Alteration desktop ref old.tag old.handles
        tag handles registry effects) :
    desktop.registry = registry ∨
      .display .updateDesktopCount ∈ effects ∧
        .display .updateDesktopNames ∈ effects := by
  cases alteration with
  | activate => exact Or.inr (by simp [desktopListChanged])
  | deactivate => exact Or.inr (by simp [desktopListChanged])
  | _ => exact Or.inl rfl

theorem Alteration.named
    (alteration :
      Alteration desktop ref old.tag old.handles
        tag handles registry effects) :
    old.tag.name = tag.name ∨ .display .updateDesktopNames ∈ effects := by
  cases alteration with
  | rename => exact Or.inr (by simp)
  | _ => exact Or.inl rfl

theorem Alteration.shown
    (alteration :
      Alteration desktop ref old.tag old.handles
        tag handles registry effects) :
    old.tag.selected = tag.selected ∨
      .display .invalidateBanning ∈ effects := by
  cases alteration with
  | select => exact Or.inr (by simp [selectionChanged])
  | deactivate =>
      cases visible : old.tag.selected with
      | false => exact Or.inl rfl
      | true => exact Or.inr (by simp [hidden, visible])
  | _ => exact Or.inl rfl

theorem Alteration.desktopNames
    (sound : desktop.Sound)
    (live : desktop.tags.occupant? ref = some old)
    (alteration :
      Alteration desktop ref old.tag old.handles
        tag handles registry effects)
    (listed : desktop.registry = registry)
    (named : old.tag.name = tag.name) :
    desktop.overview.desktopNames =
      (((desktop.settle ref (.counted tag handles)).enlist
        registry).announce effects).overview.desktopNames := by
  have found := Arena.occupant?_settle live (.counted tag handles)
  have later := sound.alter live alteration
  apply desktopNames_congr
  · exact listed
  · intro other present
    obtain ⟨new, kept, _⟩ := (later.mem_registry_iff other).1 present
    rw [announce_tags, enlist, settle_tags] at kept ⊢
    rw [Arena.get?_settle live]
    by_cases same : other = ref
    · -- The registry only lists live tags, so this one has not ended.
      have unspent : (Occupant.counted tag handles).refs ≠ 0 := by
        intro spent
        rw [found, if_pos same, Arena.remains, if_pos spent] at kept
        cases kept
      rw [if_pos same, Arena.remains, if_neg unspent, same, Arena.get?, live]
      exact congrArg some named
    · rw [if_neg same]

theorem Alteration.isSelected
    (sound : desktop.Sound)
    (live : desktop.tags.occupant? ref = some old)
    (alteration :
      Alteration desktop ref old.tag old.handles
        tag handles registry effects)
    (shown : old.tag.selected = tag.selected) :
    desktop.isSelected =
      (((desktop.settle ref (.counted tag handles)).enlist
        registry).announce effects).isSelected := by
  have fit := alteration.fit (sound.fit live)
  have was : desktop.isSelected ref = tag.selected :=
    (journal_selected_of_live live).trans shown
  have now :
      (((desktop.settle ref (.counted tag handles)).enlist
          registry).announce effects).isSelected =
        Function.update desktop.isSelected ref tag.selected :=
    congrArg Journal.selected
      (journal_settle live fit handles registry effects)
  rw [now, ← was, Function.update_eq_self]

/-- An alteration requests what it puts out of date, and so do all changes. -/
theorem Alteration.agree
    (sound : desktop.Sound)
    (live : desktop.tags.occupant? ref = some old)
    (alteration :
      Alteration desktop ref old.tag old.handles
        tag handles registry effects)
    (request : DisplayRequest) :
    (Cache.of desktop).Agree
        (.of (((desktop.settle ref (.counted tag handles)).enlist
          registry).announce effects)) request ∨
      .display request ∈ effects := by
  obtain ⟨notices, announces⟩ := alteration.announces sound live
  cases request with
  | updateWorkarea => exact Or.inl trivial
  | updateDesktopCount =>
      rcases alteration.listed with listed | ⟨requested, _⟩
      · have length := congrArg (fun registry => registry.tags.length) listed
        exact Or.inl length
      · exact Or.inr requested
  | updateDesktopNames =>
      rcases alteration.listed with listed | ⟨_, requested⟩
      · rcases alteration.named with named | requested
        · exact Or.inl (alteration.desktopNames sound live listed named)
        · exact Or.inr requested
      · exact Or.inr requested
  | invalidateBanning =>
      rcases alteration.shown with shown | requested
      · rw [or_iff_not_imp_right]
        intro quiet
        constructor
        · exact alteration.isSelected sound live shown
        · funext other client
          by_contra different
          exact quiet (announces.requests rfl different).1
      · exact Or.inr requested
  | updateClientDesktop client =>
      rw [or_iff_not_imp_right]
      intro quiet
      funext other
      by_contra different
      exact quiet (announces.requests rfl different).2

end Alteration

theorem cache_congr
    (tags : before.tags = after.tags)
    (registry : before.registry = after.registry) :
    Cache.of before = .of after := by
  have names : before.overview.desktopNames = after.overview.desktopNames := by
    rw [desktopNames_eq, desktopNames_eq, tags, registry]
  have shown : before.isSelected = after.isSelected := by
    funext ref
    rw [isSelected, isSelected, tags]
  have tagged : before.isTagged = after.isTagged := by
    funext client ref
    rw [isTagged, isTagged, tags]
  rw [Cache.of, Cache.of, registry, names, shown, tagged]

theorem Sound.cache_create (sound : desktop.Sound) (name : String) :
    Cache.of { desktop with tags := (desktop.tags.insert { name }).2 } =
      .of desktop := by
  let after : Desktop :=
    { desktop with tags := (desktop.tags.insert { name }).2 }
  have names :
      after.overview.desktopNames = desktop.overview.desktopNames := by
    apply desktopNames_congr
    · rfl
    · intro ref present
      obtain ⟨old, live, _⟩ := (sound.mem_registry_iff ref).1 present
      have different : ref ≠ (desktop.tags.insert { name }).1 := by
        intro same
        rw [same, sound.tidy.occupant?_insert_ref] at live
        cases live
      rw [Arena.get?, sound.tidy.occupant?_insert, if_neg different,
        Arena.get?]
  have shown : after.isSelected = desktop.isSelected :=
    congrArg Journal.selected (sound.journal_create name)
  have tagged : after.isTagged = desktop.isTagged := by
    funext client ref
    exact sound.isTagged_create name client ref
  show Cache.of after = .of desktop
  rw [Cache.of, Cache.of, names, shown, tagged]

theorem Change.agree
    {effects : List Effect} (change : Change before effects after)
    (sound : before.Sound) (request : DisplayRequest) :
    (Cache.of before).Agree (.of after) request ∨
      .display request ∈ effects := by
  cases change with
  | create name =>
      exact Or.inl (.of_eq (sound.cache_create name).symm request)
  | alter live alteration =>
      exact alteration.agree sound live request
  | _ =>
      left
      apply Cache.Agree.of_eq
      exact cache_congr rfl rfl

theorem Changes.agree
    {effects : List Effect} (changes : Changes before effects after)
    (sound : before.Sound) (request : DisplayRequest) :
    (Cache.of before).Agree (.of after) request ∨
      .display request ∈ effects := by
  induction changes with
  | none =>
      exact Or.inl (.of_eq rfl request)
  | next changes change inductionHypothesis =>
      rw [List.mem_append]
      rcases inductionHypothesis with earlier | requested
      · rcases change.agree (changes.sound sound) request with now | requested
        · exact Or.inl (earlier.trans now)
        · exact Or.inr (Or.inr requested)
      · exact Or.inr (Or.inl requested)

end Desktop

/-! ## A display that watches from the start -/

/-- The desktops that calls and dispatches come to from an empty one, each with
the cache of a display that has watched all the way. With `deliver` these are
also the desktops between two deliveries of a dispatch and between two calls of
a handler. -/
inductive Watched : Desktop → Cache → Prop
  | empty : Watched {} (.of {})
  | call {desktop : Desktop} {cache : Cache}
      (watched : Watched desktop cache) (call : Call) :
      Watched (call.run desktop).desktop cache
  | deliver {desktop : Desktop} {cache : Cache} {effect : Effect}
      {queue : List Effect} (watched : Watched desktop cache)
      (front : desktop.queue = effect :: queue) :
      Watched { desktop with queue }
        (cache.afterDelivery { desktop with queue } effect)
  | dispatch {σ μ : Type} {session : Session σ μ} {cache : Cache}
      (watched : Watched session.desktop cache)
      (reenter : ∀ handler ∈ session.handlers, handler.Reenters) :
      Watched session.dispatch.session.desktop (cache.afterDispatch session)

/-- Whatever a cache has not seen yet, a request in the queue is about. -/
structure Cache.Follows (cache : Cache) (desktop : Desktop) : Prop where
  sound : desktop.Sound
  requested :
    ∀ request, cache.Agree (.of desktop) request ∨
      .display request ∈ desktop.queue

namespace Cache.Follows

variable {cache : Cache} {desktop : Desktop}

theorem changes
    {after : Desktop} {effects : List Effect}
    (follows : cache.Follows desktop)
    (changes : Desktop.Changes desktop effects after) :
    cache.Follows after where
  sound := changes.sound follows.sound
  requested := by
    intro request
    rw [changes.queue, List.mem_append]
    rcases follows.requested request with seen | waits
    · rcases changes.agree follows.sound request with same | queued
      · exact Or.inl (seen.trans same)
      · exact Or.inr (Or.inr queued)
    · exact Or.inr (Or.inl waits)

theorem call (follows : cache.Follows desktop) (call : Call) :
    cache.Follows (call.run desktop).desktop := by
  obtain ⟨effects, changes⟩ := follows.sound.run_changes call
  exact follows.changes changes

theorem deliver
    {effect : Effect} {queue : List Effect}
    (follows : cache.Follows desktop)
    (front : desktop.queue = effect :: queue) :
    (cache.afterDelivery { desktop with queue } effect).Follows
      { desktop with queue } where
  sound := { follows.sound with }
  requested := by
    intro request
    have now : Cache.of { desktop with queue } = .of desktop :=
      Desktop.cache_congr rfl rfl
    have waiting := follows.requested request
    rw [front, List.mem_cons] at waiting
    rw [now]
    cases effect with
    | emit signal =>
        rcases waiting with seen | delivered | waits
        · exact Or.inl seen
        · cases delivered
        · exact Or.inr waits
    | display delivery =>
        rw [Cache.afterDelivery, now]
        rcases waiting with seen | delivered | waits
        · exact Or.inl (seen.refresh delivery)
        · -- The request leaves the queue, and its part is up to date.
          cases delivered
          exact Or.inl (refresh_agree cache _ request)
        · exact Or.inr waits

theorem drain
    {σ μ : Type} (budget : Nat) {session : Session σ μ}
    (follows : cache.Follows session.desktop)
    (reenter : ∀ handler ∈ session.handlers, handler.Reenters) :
    (cache.afterDrain budget session).Follows
      (Session.drain budget session).session.desktop := by
  induction budget generalizing session cache with
  | zero =>
      exact follows
  | succ budget inductionHypothesis =>
      cases waiting : session.desktop.queue with
      | nil =>
          simp only [Session.drain, Cache.afterDrain, waiting]
          exact follows
      | cons effect queue =>
          let taken : Session σ μ :=
            { session with desktop := { session.desktop with queue } }
          have told : (cache.afterDelivery taken.desktop effect).Follows
              taken.desktop :=
            follows.deliver waiting
          -- The handlers of a signal are calls like any others.
          obtain ⟨handlers, calls, answered⟩ :=
            Session.deliver_calls effect taken reenter
          obtain ⟨effects, changes⟩ := told.sound.after_changes calls
          have answers := told.changes changes
          rw [← answered] at answers
          simp only [Session.drain, Cache.afterDrain, waiting]
          apply inductionHypothesis answers
          rw [handlers]
          exact reenter

end Cache.Follows

namespace Watched

variable {desktop : Desktop} {cache : Cache}

theorem follows (watched : Watched desktop cache) :
    cache.Follows desktop := by
  induction watched with
  | empty =>
      exact ⟨Desktop.sound_empty, fun request => Or.inl (.of_eq rfl request)⟩
  | call _ call inductionHypothesis =>
      exact inductionHypothesis.call call
  | deliver _ front inductionHypothesis =>
      exact inductionHypothesis.deliver front
  | dispatch _ reenter inductionHypothesis =>
      exact inductionHypothesis.drain _ reenter

theorem after (watched : Watched desktop cache) (calls : List Call) :
    Watched (desktop.after calls) cache := by
  induction calls generalizing desktop with
  | nil =>
      exact watched
  | cons first rest inductionHypothesis =>
      exact inductionHypothesis (watched.call first)

/-- A part of a cache that differs from the desktop has its request in the
queue. When nothing waits, all parts are up to date. -/
theorem stale_part_waits (watched : Watched desktop cache) :
    (∀ request, ¬ cache.Agree (.of desktop) request →
      .display request ∈ desktop.queue) ∧
      (desktop.queue = [] → cache = .of desktop) := by
  have follows := watched.follows
  constructor
  · intro request stale
    exact (follows.requested request).resolve_left stale
  · intro delivered
    apply Cache.eq_of_agree
    intro request
    apply (follows.requested request).resolve_right
    rw [delivered]
    exact List.not_mem_nil

/-- The handler renames the tag at the signals of a new member. A dispatch that
ends before the new name is delivered leaves the old one in the cache; one that
delivers everything does not. -/
theorem stale_part_waits_of_renamed :
    let desktop := Desktop.after {}
      [.newTag "main", .activate ⟨0, 0⟩, .addScreen "DP-1",
        .manageClient ⟨7⟩ ⟨0⟩, .tagClient ⟨0, 0⟩ ⟨7⟩]
    let session := Session.answering desktop "tagged" [.setName ⟨0, 0⟩ "web"]
    let short := { session with settings := { dispatchBudget := 7 } }
    let cut := short.dispatch.session.desktop
    let empty := Cache.of {}
    (empty.afterDispatch short).names = ["main"] ∧
      cut.overview.desktopNames = ["web"] ∧
      .display .updateDesktopNames ∈ cut.queue ∧
      empty.afterDispatch session =
        .of session.dispatch.session.desktop := by
  intro desktop session short cut empty
  have watched : Watched desktop empty := Watched.empty.after _
  have reenter : ∀ handler ∈ session.handlers, handler.Reenters :=
    Session.answering_reenter desktop _ _
  have midway : Watched cut (empty.afterDispatch short) :=
    .dispatch watched reenter
  have finished :
      Watched session.dispatch.session.desktop
        (empty.afterDispatch session) :=
    .dispatch watched reenter
  have old : (empty.afterDispatch short).names = ["main"] := by decide
  have new : cut.overview.desktopNames = ["web"] := by decide
  have stale :
      ¬ (empty.afterDispatch short).Agree (.of cut) .updateDesktopNames := by
    show (empty.afterDispatch short).names ≠ cut.overview.desktopNames
    rw [old, new]
    decide
  exact ⟨old, new, (stale_part_waits midway).1 _ stale,
    (stale_part_waits finished).2 (by decide)⟩

end Watched

end DesktopTags
