import DesktopTags.Proofs.Departure

/-!
# Calls that undo each other

A call that adds something, followed by the one that takes it away again, leaves
nothing behind but what the two of them queue. The tag survives the second
call, since it has all its references back.
-/

namespace DesktopTags

/-! ## Additions that are taken back -/

/-- The client that leaves is the one that came last. -/
theorem Tag.remove_add
    {tag : Tag} {client : ClientId} (new : client ∉ tag.clients) :
    (tag.add client).remove client = tag := by
  have same : (tag.clients ++ [client]).erase client = tag.clients := by
    rw [List.erase_append_right [client] new, List.erase_cons_head,
      List.append_nil]
  simp only [Tag.add, Tag.remove, same]

theorem Registry.erase_push
    {registry : Registry} {ref : TagRef} (absent : ref ∉ registry.tags) :
    (registry.push ref).erase ref = registry := by
  simp only [push, erase, List.erase_append_right [ref] absent,
    List.erase_cons_head, List.append_nil]

namespace Desktop

open Operation

/-- Two calls of which the first adds something that is not there on a desktop,
and the second takes it away. The number is that of the effects they queue. -/
inductive Opposite (desktop : Desktop) : Call → Call → Nat → Prop
  | membership {ref : TagRef} {old : Occupant} {client : ClientId}
      (live : desktop.tags.occupant? ref = some old)
      (managed : desktop.clients.contains client = true)
      (new : client ∉ old.tag.clients) :
      Opposite desktop (.tagClient ref client) (.untagClient client ref) 10
  | activation {ref : TagRef} {old : Occupant}
      (live : desktop.tags.occupant? ref = some old)
      (inactive : old.tag.activated = false) :
      Opposite desktop (.activate ref) (.deactivate ref) 6
  | handle {ref : TagRef} {old : Occupant}
      (live : desktop.tags.occupant? ref = some old) :
      Opposite desktop (.holdTag ref) (.releaseTag ref) 0
  | selection {ref : TagRef} {old : Occupant}
      (live : desktop.tags.occupant? ref = some old)
      (active : old.tag.activated = true)
      (unselected : old.tag.selected = false) :
      Opposite desktop (.setSelected ref true) (.setSelected ref false)
        (2 * (2 + desktop.screens.length))
  | tracking {client : ClientId} {screen : ScreenId}
      (stranger : desktop.clients.contains client = false)
      (known : desktop.hasScreen screen = true) :
      Opposite desktop (.manageClient client screen)
        (.unmanageClient client) 0

/-- Two calls, one after the other, that are both carried out and leave a desktop
as it was, but for a number of effects behind those that waited already. -/
structure Cancels
    (desktop : Desktop) (first second : Call) (count : Nat) : Prop where
  first_done : (first.run desktop).answer = .ok .done
  second_done : (second.run (first.run desktop).desktop).answer = .ok .done
  screens : (desktop.after [first, second]).screens = desktop.screens
  clients : (desktop.after [first, second]).clients = desktop.clients
  tags : (desktop.after [first, second]).tags = desktop.tags
  registry : (desktop.after [first, second]).registry = desktop.registry
  focus : (desktop.after [first, second]).focus = desktop.focus
  queue :
    ∃ effects : List Effect, effects.length = count ∧
      (desktop.after [first, second]).queue = desktop.queue ++ effects

section Pairs

variable {desktop between : Desktop} {ref : TagRef} {old new : Occupant}
  {client : ClientId} {first second : Call} {count : Nat}
  {effects : List Effect} {log logAgain : List LogEvent}

theorem Cancels.of_runs
    (there : first.run desktop = ⟨.ok .done, between, log⟩)
    (back :
      second.run between = ⟨.ok .done, desktop.announce effects, logAgain⟩)
    (counted : effects.length = count) :
    desktop.Cancels first second count := by
  have after : desktop.after [first, second] = desktop.announce effects := by
    simp only [Desktop.after, List.foldl_cons, List.foldl_nil, there, back]
  refine ⟨by rw [there], by rw [there, back], ?_, ?_, ?_, ?_, ?_, ?_⟩
  · rw [after, announce]
  · rw [after, announce]
  · rw [after, announce]
  · rw [after, announce]
  · rw [after, announce]
  · rw [after]
    exact ⟨effects, counted, rfl⟩

theorem Cancels.of_silent_runs
    (there : first.run desktop = ⟨.ok .done, between, log⟩)
    (back : second.run between = ⟨.ok .done, desktop, logAgain⟩) :
    desktop.Cancels first second 0 := by
  rw [← desktop.announce_nil] at back
  exact .of_runs there back rfl

/-! ## A live tag that gets another occupant and then its old one again -/

/-- Every screen is asked for its workarea. -/
theorem length_selectionChanged (screens : List Screen) (ref : TagRef) :
    (selectionChanged screens ref).length = 2 + screens.length := by
  simp only [selectionChanged, List.length_append, List.length_map,
    List.length_singleton]
  omega

theorem settle_back
    (live : desktop.tags.occupant? ref = some old) (referred : 0 < old.refs)
    (kept : 0 < new.refs) :
    (desktop.settle ref new).settle ref old = desktop := by
  rw [settle_settle desktop ref kept, settle_self live referred]

theorem Sound.tagClient_cancels
    (sound : desktop.Sound)
    (live : desktop.tags.occupant? ref = some old)
    (managed : desktop.clients.contains client = true)
    (absent : client ∉ old.tag.clients) :
    desktop.Cancels (.tagClient ref client) (.untagClient client ref) 10 := by
  obtain ⟨entry, known⟩ :=
    (ClientTable.contains_iff desktop.clients client).1 managed
  obtain ⟨new, isNew⟩ :
      ∃ new : Occupant,
        new = { old with tag := old.tag.add client, refs := old.refs + 1 } :=
    ⟨_, rfl⟩
  have kept : 0 < new.refs := isNew ▸ Nat.succ_pos old.refs
  have joined : client ∈ new.tag.clients := by
    simp [isNew, Tag.add]
  have restored : new.without client = old := by
    simp only [isNew, Occupant.without, Tag.remove_add absent,
      Nat.add_sub_cancel]
  have there := tagClient_of_new known live absent
  rw [← isNew] at there
  have found :
      ((desktop.settle ref new).announce
        (Effect.tagBlock ref client entry.screen)).tags.occupant? ref =
          some new :=
    occupant?_settle_self live new kept
  have back := untagClient_of_member (by exact known) found kept joined
  rw [restored, settle_announce, settle_back live (sound.referred live) kept,
    announce_announce] at back
  exact .of_runs (Call.thenDone_of there) (Call.thenDone_of back) rfl

theorem Sound.activate_cancels
    (sound : desktop.Sound)
    (live : desktop.tags.occupant? ref = some old)
    (inactive : old.tag.activated = false) :
    desktop.Cancels (.activate ref) (.deactivate ref) 6 := by
  have referred := sound.referred live
  have unselected : old.tag.selected = false := by
    have active := (sound.fit live).active_of_selected
    rw [inactive] at active
    simpa using active
  have unlisted : ref ∉ desktop.registry.tags := by
    rw [sound.registered_iff live, inactive]
    exact Bool.false_ne_true
  obtain ⟨new, isNew⟩ :
      ∃ new : Occupant,
        new =
          { old with
            tag := { old.tag with activated := true }
            refs := old.refs + 1 } :=
    ⟨_, rfl⟩
  have kept : 0 < new.refs := isNew ▸ Nat.succ_pos old.refs
  have restored :
      { new with tag := retired new.tag, refs := new.refs - 1 } = old := by
    rw [isNew]
    cases old with
    | mk tag refs handles =>
        cases tag
        simp_all [retired]
  have unseen : hidden ref new.tag = [] := by
    simp [hidden, isNew, unselected]
  have there := activate_of_inactive live referred inactive
  rw [← isNew] at there
  have found :
      (((desktop.settle ref new).enlist
        (desktop.registry.push ref)).announce
          (desktopListChanged ref)).tags.occupant? ref = some new :=
    occupant?_settle_self live new kept
  have back := deactivate_of_active found kept (by rw [isNew])
    (List.mem_append_right _ (List.mem_singleton_self ref))
  have listing :
      (((desktop.settle ref new).enlist
        (desktop.registry.push ref)).announce
          (desktopListChanged ref)).registry.erase ref = desktop.registry :=
    Registry.erase_push unlisted
  rw [restored, unseen, listing, List.nil_append, settle_announce,
    settle_enlist, settle_back live referred kept, enlist_announce,
    enlist_enlist, enlist_self, announce_announce] at back
  exact .of_runs (Call.thenDone_of there) (Call.thenDone_of back) rfl

theorem Sound.holdTag_cancels
    (sound : desktop.Sound)
    (live : desktop.tags.occupant? ref = some old) :
    desktop.Cancels (.holdTag ref) (.releaseTag ref) 0 := by
  obtain ⟨new, isNew⟩ :
      ∃ new : Occupant,
        new =
          { old with refs := old.refs + 1, handles := old.handles + 1 } :=
    ⟨_, rfl⟩
  have kept : 0 < new.refs := isNew ▸ Nat.succ_pos old.refs
  have held : 0 < new.handles := isNew ▸ Nat.succ_pos old.handles
  have restored :
      { new with refs := new.refs - 1, handles := new.handles - 1 } =
        old := by
    simp only [isNew, Nat.add_sub_cancel]
  have there := holdTag_of_live live
  rw [← isNew] at there
  have found : (desktop.settle ref new).tags.occupant? ref = some new :=
    occupant?_settle_self live new kept
  have back := releaseTag_of_held found kept held
  rw [restored, settle_back live (sound.referred live) kept] at back
  exact .of_silent_runs (Call.thenDone_of there) (Call.thenDone_of back)

theorem Sound.setSelected_cancels
    (sound : desktop.Sound)
    (live : desktop.tags.occupant? ref = some old)
    (active : old.tag.activated = true)
    (unselected : old.tag.selected = false) :
    desktop.Cancels (.setSelected ref true) (.setSelected ref false)
      (2 * (2 + desktop.screens.length)) := by
  have referred := sound.referred live
  obtain ⟨new, isNew⟩ :
      ∃ new : Occupant,
        new = { old with tag := { old.tag with selected := true } } :=
    ⟨_, rfl⟩
  have kept : 0 < new.refs := isNew ▸ referred
  have restored :
      { new with tag := { new.tag with selected := false } } = old := by
    rw [isNew]
    cases old with
    | mk tag refs handles =>
        cases tag
        simp_all
  have unseen : old.tag.selected ≠ true := by simp [unselected]
  have seen : new.tag.selected ≠ false := by simp [isNew]
  have there := setSelected_of_change live referred unseen fun _ => active
  rw [← isNew] at there
  have found :
      ((desktop.settle ref new).announce
        (selectionChanged desktop.screens ref)).tags.occupant? ref =
          some new :=
    occupant?_settle_self live new kept
  have back := setSelected_of_change found kept seen nofun
  rw [restored, settle_announce, settle_back live referred kept,
    announce_announce] at back
  refine .of_runs (Call.thenDone_of there) (Call.thenDone_of back) ?_
  have same :
      ((desktop.settle ref new).announce
        (selectionChanged desktop.screens ref)).screens = desktop.screens :=
    rfl
  rw [same, List.length_append, length_selectionChanged]
  omega

/-! ## A client that comes and goes -/

/-- A client in no tag leaves the table and the focus history only. -/
theorem unmanageClient_of_untagged
    {entry : Client} (managed : desktop.clients.get? client = some entry)
    (untagged : desktop.tagsHolding client = []) :
    unmanageClient client desktop =
      ⟨.ok (), desktop.forget client, [.unmanaged client]⟩ := by
  rw [unmanageClient,
    ask_bind_of_ok (ClientTable.screenOf_of_managed managed), read_bind,
    untagged, forAll, bind_of_quiet (pure_apply () desktop), change_bind,
    report_apply]
  rfl

theorem Sound.manageClient_cancels
    (sound : desktop.Sound)
    (stranger : desktop.clients.contains client = false)
    {screen : ScreenId} (known : desktop.hasScreen screen = true) :
    desktop.Cancels (.manageClient client screen) (.unmanageClient client)
      0 := by
  have there := manageClient_of_new known stranger
  have fresh := sound.new_of_insert stranger screen
  have untagged :
      { desktop with
        clients := desktop.clients.insert client screen }.tagsHolding
          client = [] := by
    apply List.eq_nil_iff_forall_not_mem.2
    intro ref holds
    have tagged :=
      (isTagged_iff _ client ref).2 ((mem_tagsHolding_iff _ client ref).1 holds)
    exact Bool.false_ne_true ((fresh.untagged ref).symm.trans tagged)
  have back := unmanageClient_of_untagged fresh.managed untagged
  simp only [forget, ClientTable.erase_insert stranger,
    FocusHistory.forget_of_notMem fresh.forgotten] at back
  exact .of_silent_runs (Call.thenDone_of there) (Call.thenDone_of back)

end Pairs

/-- Opposite calls undo each other, down to the counts and the vacant slots. -/
theorem opposite_calls_cancel
    {desktop : Desktop} (reachable : desktop.Reachable)
    {first second : Call} {count : Nat}
    (opposite : desktop.Opposite first second count) :
    desktop.Cancels first second count := by
  have sound := reachable.sound
  cases opposite with
  | membership live managed new =>
      exact sound.tagClient_cancels live managed new
  | activation live inactive => exact sound.activate_cancels live inactive
  | handle live => exact sound.holdTag_cancels live
  | selection live active unselected =>
      exact sound.setSelected_cancels live active unselected
  | tracking stranger known =>
      exact sound.manageClient_cancels stranger known

/-- A tag that only the registry holds, beside a vacant slot and below two
screens: a member comes and goes, and the tag is shown and hidden. -/
theorem opposite_calls_cancel_beside_vacant_slot :
    let desktop :=
      (Desktop.start { tags := ["main", "mail", "web"] }).desktop.after
        [.addScreen "DP-1", .addScreen "DP-2", .manageClient ⟨7⟩ ⟨1⟩,
          .deactivate ⟨1, 0⟩]
    desktop.Reachable ∧ desktop.tags.free = [1] ∧
      desktop.Opposite (.tagClient ⟨2, 0⟩ ⟨7⟩) (.untagClient ⟨7⟩ ⟨2, 0⟩) 10 ∧
      desktop.Opposite (.setSelected ⟨2, 0⟩ true)
        (.setSelected ⟨2, 0⟩ false) 8 ∧
      desktop.Cancels (.tagClient ⟨2, 0⟩ ⟨7⟩) (.untagClient ⟨7⟩ ⟨2, 0⟩) 10 ∧
      desktop.Cancels (.setSelected ⟨2, 0⟩ true)
        (.setSelected ⟨2, 0⟩ false) 8 := by
  intro desktop
  have reachable : desktop.Reachable := (Reachable.start _).after _
  have live :
      desktop.tags.occupant? ⟨2, 0⟩ =
        some ⟨⟨"web", false, true, []⟩, 1, 0⟩ := by
    decide
  have membership :
      desktop.Opposite (.tagClient ⟨2, 0⟩ ⟨7⟩) (.untagClient ⟨7⟩ ⟨2, 0⟩) 10 :=
    .membership live (by decide) (by decide)
  have selection :
      desktop.Opposite (.setSelected ⟨2, 0⟩ true)
        (.setSelected ⟨2, 0⟩ false) 8 :=
    .selection live rfl rfl
  exact ⟨reachable, by decide, membership, selection,
    opposite_calls_cancel reachable membership,
    opposite_calls_cancel reachable selection⟩

end Desktop

end DesktopTags
