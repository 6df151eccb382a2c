import DesktopTags.Proofs.RefusedCalls

/-!
# Who is mentioned on a desktop

A desktop mentions only what is there: its tags list managed clients, its
clients are on screens that were added, and the focus was only ever on managed
clients. So a request that is queued names a screen that was added, or a client
that is managed when the request is queued.
-/

namespace DesktopTags.Desktop

variable {desktop before after : Desktop} {ref : TagRef}
  {client : ClientId} {entry : Client}

/-- Everything that a desktop mentions is there, and nothing is listed twice. -/
structure Grounded (desktop : Desktop) : Prop where
  members_nodup :
    ∀ ref tag, desktop.tags.get? ref = some tag → tag.clients.Nodup
  members_managed :
    ∀ ref tag, desktop.tags.get? ref = some tag →
      ∀ client ∈ tag.clients, desktop.clients.contains client = true
  clients_nodup : (desktop.clients.clients.map Client.id).Nodup
  clients_placed :
    ∀ entry ∈ desktop.clients.clients,
      ∃ screen ∈ desktop.screens, screen.id = entry.screen
  screens_numbered :
    ∀ (index : Nat) (screen : Screen),
      desktop.screens[index]? = some screen → screen.id = ⟨index⟩
  focus_managed :
    ∀ client, some client ∈ desktop.focus.entries →
      desktop.clients.contains client = true

theorem hasScreen_iff (desktop : Desktop) (screen : ScreenId) :
    desktop.hasScreen screen = true ↔
      ∃ known ∈ desktop.screens, known.id = screen := by
  simp [hasScreen]

theorem Sound.grounded (sound : desktop.Sound) : desktop.Grounded where
  members_nodup := by
    intro ref tag found
    obtain ⟨old, live, same⟩ := Option.map_eq_some_iff.1 found
    subst same
    exact (sound.fit live).clients_nodup
  members_managed := by
    intro ref tag found
    obtain ⟨old, live, same⟩ := Option.map_eq_some_iff.1 found
    subst same
    exact (sound.fit live).clients_managed
  clients_nodup := sound.table_nodup
  clients_placed := by
    intro entry listed
    exact (hasScreen_iff desktop _).1 (sound.screens_known entry listed)
  screens_numbered := sound.screens_numbered
  focus_managed := sound.focus_managed

/-! ## What a queued request names -/

/-- What an effect asks to bring up to date is there. -/
def Knows (desktop : Desktop) : Effect → Prop
  | .display (.updateWorkarea screen) => desktop.hasScreen screen = true
  | .display (.updateClientDesktop client) =>
      desktop.clients.contains client = true
  | _ => True

/-- A managed client is on a screen that was added. -/
theorem Sound.hasScreen_of_managed
    (sound : desktop.Sound)
    (managed : desktop.clients.get? client = some entry) :
    desktop.hasScreen entry.screen = true :=
  sound.screens_known entry (List.mem_of_find?_eq_some managed)

/-- A client that joins or leaves a tag is managed, and so is its screen. -/
theorem Sound.knows_block
    (sound : desktop.Sound)
    (managed : desktop.clients.get? client = some entry) (ref : TagRef) :
    (∀ effect ∈ Effect.tagBlock ref client entry.screen,
        desktop.Knows effect) ∧
      ∀ effect ∈ Effect.untagBlock ref client entry.screen,
        desktop.Knows effect := by
  have placed := sound.hasScreen_of_managed managed
  have known :=
    (ClientTable.contains_iff desktop.clients client).2 ⟨entry, managed⟩
  simp [Effect.tagBlock, Effect.untagBlock, Knows, placed, known]

theorem knows_blocks
    {block : ClientId → ScreenId → List Effect}
    (each :
      ∀ client entry, desktop.clients.get? client = some entry →
        ∀ effect ∈ block client entry.screen, desktop.Knows effect)
    (clients : List ClientId) :
    ∀ effect ∈ clients.flatMap fun client =>
        (desktop.clients.get? client).elim [] fun entry =>
          block client entry.screen,
      desktop.Knows effect := by
  intro effect queued
  obtain ⟨client, _, inBlock⟩ := List.mem_flatMap.1 queued
  cases managed : desktop.clients.get? client with
  | none =>
      rw [managed] at inBlock
      cases inBlock
  | some entry =>
      rw [managed] at inBlock
      exact each client entry managed effect inBlock

theorem knows_desktopListChanged (ref : TagRef) :
    ∀ effect ∈ desktopListChanged ref, desktop.Knows effect := by
  simp [desktopListChanged, Knows, Effect.property]

theorem knows_hidden (ref : TagRef) (tag : Tag) :
    ∀ effect ∈ hidden ref tag, desktop.Knows effect := by
  unfold hidden
  split <;> simp [Knows, Effect.property]

theorem knows_selectionChanged (ref : TagRef) :
    ∀ effect ∈ selectionChanged desktop.screens ref,
      desktop.Knows effect := by
  simp only [selectionChanged, List.forall_mem_append, List.forall_mem_map]
  refine ⟨⟨by simp [Knows], ?_⟩, by simp [Knows, Effect.property]⟩
  intro screen added
  exact (hasScreen_iff desktop _).2 ⟨screen, added, rfl⟩

theorem Alteration.knows
    {tag new : Tag} {handles left : Nat} {registry : Registry}
    {effects : List Effect}
    (alteration :
      Alteration desktop ref tag handles new left registry effects)
    (sound : desktop.Sound) :
    ∀ effect ∈ effects, desktop.Knows effect := by
  cases alteration with
  | hold => simp
  | giveBack => simp
  | activate => exact knows_desktopListChanged ref
  | deactivate =>
      exact List.forall_mem_append.2
        ⟨knows_hidden ref tag, knows_desktopListChanged ref⟩
  | select => exact knows_selectionChanged ref
  | rename => simp [Knows, Effect.property]
  | regroup keeps joining =>
      exact List.forall_mem_append.2
        ⟨knows_blocks (fun _ _ managed => (sound.knows_block managed ref).2) _,
          knows_blocks (fun _ _ managed => (sound.knows_block managed ref).1)
            joining⟩

/-- A change that queues effects leaves the screens and the clients alone. -/
theorem Change.knows
    {effects : List Effect} (change : Change before effects after)
    (sound : before.Sound) :
    ∀ effect ∈ effects, before.Knows effect ∧ after.Knows effect := by
  cases change with
  | alter live alteration =>
      intro effect queued
      have known := alteration.knows sound effect queued
      exact ⟨known, known⟩
  | _ => simp

theorem Change.hasScreen
    {effects : List Effect} (change : Change before effects after)
    {screen : ScreenId} (known : before.hasScreen screen = true) :
    after.hasScreen screen = true := by
  cases change with
  | addScreen output =>
      simp only [Desktop.hasScreen, List.any_append, Bool.or_eq_true]
      exact Or.inl known
  | _ => exact known

theorem Changes.hasScreen
    {effects : List Effect} (changes : Changes before effects after)
    {screen : ScreenId} (known : before.hasScreen screen = true) :
    after.hasScreen screen = true := by
  induction changes with
  | none => exact known
  | next _ change inductionHypothesis =>
      exact change.hasScreen inductionHypothesis

/-- In the course of changes an effect is queued by a change from one desktop to
the next, and both have what the effect names. -/
def Timely (before : Desktop) (effect : Effect) (after : Desktop) : Prop :=
  ∃ earlier middle now next later,
    Changes before earlier middle ∧ Change middle now next ∧
      Changes next later after ∧ effect ∈ now ∧
      middle.Knows effect ∧ next.Knows effect

theorem Changes.timely
    {effects : List Effect} (changes : Changes before effects after)
    (sound : before.Sound) :
    ∀ effect ∈ effects, Timely before effect after := by
  induction changes with
  | none => simp
  | next changes change inductionHypothesis =>
      intro effect queued
      rcases List.mem_append.1 queued with earlier | now
      · obtain ⟨_, _, _, _, _, first, queues, rest, known⟩ :=
          inductionHypothesis effect earlier
        exact ⟨_, _, _, _, _, first, queues, rest.next change, known⟩
      · have known := change.knows (changes.sound sound) effect now
        exact ⟨_, _, _, _, _, changes, change, .none _, now, known⟩

/-- A workarea is only asked for on a screen that is still there afterwards. -/
theorem Timely.hasScreen
    {screen : ScreenId}
    (timely : Timely before (.display (.updateWorkarea screen)) after) :
    after.hasScreen screen = true := by
  obtain ⟨_, _, _, _, _, _, _, rest, _, _, known⟩ := timely
  exact rest.hasScreen known

/-! ## What the calls queue -/

/-- An effect that a call queues finds what it names, before the call and at the
time when it is queued. Only a call that ends a client can take that away again
before it is done. -/
structure Finds (desktop : Desktop) (call : Call) (effect : Effect) : Prop where
  before : desktop.Knows effect
  timely : Timely desktop effect (call.run desktop).desktop
  after :
    (∀ client, call ≠ .unmanageClient client) →
      (call.run desktop).desktop.Knows effect

theorem Settles.knows
    {α : Type} {given : Int} {spends : Occupant → Prop}
    {outcome : Outcome α} {effects : List Effect}
    (settles : Settles desktop ref given spends outcome)
    (sound : desktop.Sound)
    (queued : outcome.desktop.queue = desktop.queue ++ effects) :
    ∀ effect ∈ effects,
      desktop.Knows effect ∧ outcome.desktop.Knows effect := by
  cases settles with
  | unchanged =>
      simp [List.self_eq_append_right.1 queued]
  | altered answer live alteration =>
      have same := List.append_cancel_left queued
      subst same
      intro effect now
      have known := alteration.knows sound effect now
      exact ⟨known, known⟩

theorem Sound.knows_farewells
    (sound : desktop.Sound)
    (managed : desktop.clients.get? client = some entry)
    (refs : List TagRef) :
    ∀ effect ∈ farewells client entry.screen refs,
      desktop.Knows effect := by
  intro effect queued
  obtain ⟨ref, _, inBlock⟩ := List.mem_flatMap.1 queued
  exact (sound.knows_block managed ref).2 effect inBlock

theorem Sound.unmanageClient_knows
    {effects : List Effect} (sound : desktop.Sound)
    (queued :
      (unmanageClient client desktop).desktop.queue =
        desktop.queue ++ effects) :
    ∀ effect ∈ effects, desktop.Knows effect := by
  cases managed : desktop.clients.get? client with
  | none =>
      rw [unmanageClient_of_stranger managed] at queued
      simp [List.self_eq_append_right.1 queued]
  | some entry =>
      obtain ⟨after, log, done, bereaves⟩ :=
        unmanageClient_of_managed sound managed
      have said := congrArg Desktop.queue bereaves.rest
      rw [done] at queued
      have same := List.append_cancel_left (said.symm.trans queued)
      rw [← same]
      exact sound.knows_farewells managed _

theorem Sound.finds
    {effects : List Effect} (sound : desktop.Sound) (call : Call)
    (queued :
      (call.run desktop).desktop.queue = desktop.queue ++ effects) :
    ∀ effect ∈ effects, desktop.Finds call effect := by
  obtain ⟨added, changes⟩ := sound.run_changes call
  have same := List.append_cancel_left (changes.queue.symm.trans queued)
  subst same
  intro effect now
  have timely := changes.timely sound effect now
  rcases sound.run_cases call with
    ⟨ref, _, settles⟩ | ⟨name, rfl⟩ | ⟨client, rfl⟩ | ⟨_, _, _, still⟩
  · obtain ⟨before, after⟩ := settles.knows sound queued effect now
    exact ⟨before, timely, fun _ => after⟩
  · have none : added = [] := List.self_eq_append_right.1 queued
    simp [none] at now
  · rw [Call.run, Call.thenDone_apply] at queued
    exact ⟨sound.unmanageClient_knows queued effect now, timely,
      fun other => absurd rfl (other client)⟩
  · have quiet := still.changes.queue
    have none : added = [] :=
      List.append_cancel_left (queued.symm.trans quiet)
    simp [none] at now

end DesktopTags.Desktop

/-! ## Runs -/

namespace DesktopTags.Moment

/-- All effects that were ever queued, in their order. -/
def queued (moment : Moment) : List Effect :=
  moment.deliveries ++ moment.desktop.queue

theorem Step.hasScreen_of_queued
    {before after : Moment} (step : Step before after)
    (sound : before.desktop.Sound)
    (known :
      ∀ screen, .display (.updateWorkarea screen) ∈ before.queued →
        before.desktop.hasScreen screen = true)
    (screen : ScreenId)
    (asked : .display (.updateWorkarea screen) ∈ after.queued) :
    after.desktop.hasScreen screen = true := by
  cases step with
  | call call =>
      obtain ⟨effects, changes⟩ := sound.run_changes call
      rw [queued, deliveries_call] at asked
      simp only [Moment.call, changes.queue] at asked ⊢
      rw [← List.append_assoc] at asked
      rcases List.mem_append.1 asked with earlier | now
      · exact changes.hasScreen (known screen earlier)
      · exact (changes.timely sound _ now).hasScreen
  | @deliver effect queue front =>
      have same : (before.deliver effect queue).queued = before.queued := by
        rw [queued, queued, deliveries_deliver, front]
        simp [Moment.deliver]
      rw [same] at asked
      exact known screen asked

/-- Every workarea that was ever asked for is that of an added screen. -/
theorem Reached.hasAdded_of_queued
    {moment : Moment} (reached : moment.Reached) {screen : ScreenId}
    (asked : .display (.updateWorkarea screen) ∈ moment.queued) :
    moment.HasAdded screen := by
  have known :
      ∀ screen, .display (.updateWorkarea screen) ∈ moment.queued →
        moment.desktop.hasScreen screen = true := by
    apply reached.induction
    · simp [queued, deliveries]
    · intro before after step sound known
      exact step.hasScreen_of_queued sound known
  exact (reached.hasScreen_iff screen).1 (known screen asked)

end DesktopTags.Moment

namespace DesktopTags.Desktop

/-- A desktop that a run comes to mentions only what is there. Each effect that
a call queues finds what it names there when it is queued, and each workarea
that a run ever asked for is that of a screen that the run had added. -/
theorem mentions_grounded
    {desktop : Desktop} (reachable : desktop.Reachable) :
    desktop.Grounded ∧
      (∀ call : Call, ∃ effects,
        (call.run desktop).desktop.queue = desktop.queue ++ effects ∧
          ∀ effect ∈ effects, desktop.Finds call effect) ∧
      ∀ moment : Moment, moment.Reached → moment.desktop = desktop →
        ∀ screen, .display (.updateWorkarea screen) ∈ moment.queued →
          moment.HasAdded screen := by
  have sound := reachable.sound
  refine ⟨sound.grounded, ?_, ?_⟩
  · intro call
    obtain ⟨effects, changes⟩ := sound.run_changes call
    exact ⟨effects, changes.queue, sound.finds call changes.queue⟩
  · intro moment reached _ screen asked
    exact reached.hasAdded_of_queued asked

/-- A focused client in one tag that is unmanaged: what this queues is about a
client that is managed, and nothing mentions the client afterwards. -/
theorem mentions_grounded_of_dismissed :
    let moment := (Moment.start { tags := ["main"] }).calls
      [.addScreen "DP-1", .manageClient ⟨7⟩ ⟨0⟩, .tagClient ⟨0, 0⟩ ⟨7⟩,
        .focusClient ⟨7⟩]
    let after := ((Call.unmanageClient ⟨7⟩).run moment.desktop).desktop
    moment.desktop.Reachable ∧
      some ⟨7⟩ ∈ moment.desktop.focus.entries ∧
      moment.desktop.clients.contains ⟨7⟩ = true ∧
      .display (.updateClientDesktop ⟨7⟩) ∈
        after.queue.drop moment.desktop.queue.length ∧
      Timely moment.desktop (.display (.updateClientDesktop ⟨7⟩)) after ∧
      moment.HasAdded ⟨0⟩ ∧
      after.clients.contains ⟨7⟩ = false ∧
      some ⟨7⟩ ∉ after.focus.entries := by
  intro moment after
  have reached : moment.Reached :=
    (Moment.Reached.start _).leads (Moment.leads_calls _ _)
  have reachable : moment.desktop.Reachable := by
    rw [Moment.desktop_calls]
    exact (Reachable.start _).after _
  obtain ⟨grounded, finds, added⟩ := mentions_grounded reachable
  obtain ⟨later, _, _⟩ :=
    mentions_grounded (reachable.call (.unmanageClient ⟨7⟩))
  obtain ⟨effects, queued, found⟩ := finds (.unmanageClient ⟨7⟩)
  have focused : some ⟨7⟩ ∈ moment.desktop.focus.entries := by decide
  have asked :
      .display (.updateClientDesktop ⟨7⟩) ∈
        after.queue.drop moment.desktop.queue.length := by
    decide
  have gone : after.clients.contains ⟨7⟩ = false := by decide
  have new : .display (.updateClientDesktop ⟨7⟩) ∈ effects := by
    rwa [show after.queue = _ from queued, List.drop_left] at asked
  refine ⟨reachable, focused, grounded.focus_managed _ focused, asked,
    (found _ new).timely, added moment reached rfl ⟨0⟩ (by decide), gone, ?_⟩
  intro remembered
  have managed := later.focus_managed _ remembered
  exact Bool.false_ne_true (gone.symm.trans managed)

end DesktopTags.Desktop
