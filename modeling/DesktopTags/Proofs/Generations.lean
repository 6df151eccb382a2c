import DesktopTags.Proofs.RefusedCalls
import DesktopTags.Proofs.SlotUse
import Mathlib.Data.List.Nodup

/-!
# The names of tags over a run

The tags that are made in one slot are numbered in turn, and the generation of a
name is the number of its tag modulo 2 ^ 32. So a name can only lead to a later
tag of its slot after 2 ^ 32 destructions there; until then a name whose tag is
gone leads nowhere.
-/

namespace DesktopTags

/-! ## Destructions and creations in a history -/

/-- The desktop after a happening. -/
def Happening.next (desktop : Desktop) : Happening → Desktop
  | .called call _ => (call.run desktop).desktop
  | .delivered _ => { desktop with queue := desktop.queue.tail }

/-- The name that a happening gives to a new tag. -/
def Happening.creation? : Happening → Option TagRef
  | .called (.newTag _) (.ok (.tag ref)) => some ref
  | _ => none

/-- The desktop after a list of happenings. -/
def Desktop.replay (desktop : Desktop) (history : List Happening) : Desktop :=
  history.foldl Happening.next desktop

/-- Whether a tag that lived in a slot is gone afterwards. -/
def Arena.loses (before after : Arena) (slot : Nat) : Bool :=
  before.refList.any fun ref => ref.slot = slot && !after.contains ref

/-- How many happenings of a history destroy a tag in a slot. -/
def Desktop.losses (slot : Nat) (desktop : Desktop) : List Happening → Nat
  | [] => 0
  | happening :: rest =>
      let after := happening.next desktop
      (desktop.tags.loses after.tags slot).toNat + after.losses slot rest

namespace Moment

/-- The names of all tags ever made, in their order. -/
def created (moment : Moment) : List TagRef :=
  moment.history.filterMap Happening.creation?

/-- The names of the tags ever made in a slot, in their order. -/
def createdIn (moment : Moment) (slot : Nat) : List TagRef :=
  moment.created.filter fun ref => ref.slot = slot

/-- How many tags were destroyed in a slot. -/
def destroyed (moment : Moment) (slot : Nat) : Nat :=
  Desktop.losses slot {} moment.history

end Moment

namespace Desktop

variable {desktop : Desktop} {slot : Nat}

theorem losses_append
    (slot : Nat) (desktop : Desktop) (first second : List Happening) :
    desktop.losses slot (first ++ second) =
      desktop.losses slot first +
        (desktop.replay first).losses slot second := by
  induction first generalizing desktop with
  | nil =>
      simp [losses, replay]
  | cons happening rest inductionHypothesis =>
      rw [List.cons_append, losses, losses, inductionHypothesis,
        Nat.add_assoc]
      rfl

theorem losses_le_length
    (slot : Nat) (desktop : Desktop) (history : List Happening) :
    desktop.losses slot history ≤ history.length := by
  induction history generalizing desktop with
  | nil =>
      exact Nat.le_refl 0
  | cons happening rest inductionHypothesis =>
      have later := inductionHypothesis (happening.next desktop)
      have now :=
        (desktop.tags.loses (happening.next desktop).tags slot).toNat_le
      simp only [losses, List.length_cons]
      omega

end Desktop

namespace Arena

variable {before after : Arena} {slot : Nat}

theorem loses_iff (before after : Arena) (slot : Nat) :
    before.loses after slot = true ↔
      before.occupied slot = true ∧
        ¬ (after.occupied slot = true ∧
          after.generationAt slot = before.generationAt slot) := by
  simp only [loses, List.any_eq_true, mem_refList_iff, Bool.and_eq_true,
    decide_eq_true_eq, Bool.not_eq_true', ← Bool.not_eq_true,
    contains_iff_occupied]
  constructor
  · rintro ⟨ref, ⟨lived, named⟩, same, gone⟩
    subst same
    exact ⟨lived, by rwa [named]⟩
  · rintro ⟨lived, gone⟩
    exact ⟨⟨slot, before.generationAt slot⟩, ⟨lived, rfl⟩, rfl, gone⟩

/-- A slot that keeps its generation and its tag loses none. -/
theorem loses_eq_false
    (generation : after.generationAt slot = before.generationAt slot)
    (kept : before.occupied slot = true → after.occupied slot = true) :
    before.loses after slot = false := by
  rw [← Bool.not_eq_true, loses_iff]
  rintro ⟨lived, gone⟩
  exact gone ⟨kept lived, generation⟩

end Arena

/-! ## One happening -/

/-- What a happening makes of a slot: nothing, or it ends the tag there, or it
makes a tag there. -/
inductive Turn
    (before after : Arena) (creation : Option TagRef) (slot : Nat) : Prop
  | stays
      (occupied : after.occupied slot = before.occupied slot)
      (generation : after.generationAt slot = before.generationAt slot)
      (elsewhere : ∀ ref, creation = some ref → ref.slot ≠ slot)
  | ends
      (lived : before.occupied slot = true)
      (gone : after.occupied slot = false)
      (generation :
        after.generationAt slot = before.generationAt slot + 1)
      (elsewhere : ∀ ref, creation = some ref → ref.slot ≠ slot)
  | begins
      (vacant : before.occupied slot = false)
      (lives : after.occupied slot = true)
      (generation : after.generationAt slot = before.generationAt slot)
      (named : creation = some ⟨slot, before.generationAt slot⟩)

/-- The names of the first tags of a slot. -/
def firstNames (slot count : Nat) : List TagRef :=
  (List.range count).map fun number => ⟨slot, .ofNat number⟩

section Turn

variable {before after : Arena} {creation : Option TagRef} {slot : Nat}

theorem Arena.Wears.turn (wears : Wears before after slot) :
    Turn before after none slot := by
  cases wears with
  | stays occupied generation =>
      exact .stays occupied generation nofun
  | ends lived gone generation =>
      exact .ends lived gone generation nofun

theorem Arena.Tidy.turn
    {arena : Arena} (tidy : arena.Tidy) (tag : Tag) (slot : Nat) :
    Turn arena (arena.insert tag).2 (some (arena.insert tag).1) slot := by
  obtain ⟨vacant, named⟩ := tidy.insert_vacant tag
  have lives := tidy.occupied_insert tag slot
  have generation := generationAt_insert arena tag slot
  by_cases same : (arena.insert tag).1.slot = slot
  · subst same
    refine .begins vacant (by simp [lives]) generation ?_
    rw [← named]
  · refine .stays (by simp [lives, same]) generation ?_
    rintro ref ⟨⟩
    exact same

theorem filter_of_elsewhere
    (elsewhere : ∀ ref, creation = some ref → ref.slot ≠ slot) :
    (creation.toList.filter fun ref => ref.slot = slot) = [] := by
  rw [List.filter_eq_nil_iff]
  intro ref made
  simpa using elsewhere ref (Option.mem_toList.1 made)

/-- A turn keeps the generation of a slot equal to the number of tags that were
destroyed there, and gives a new tag the next name. -/
theorem Turn.counts
    {count : Nat} (turn : Turn before after creation slot)
    (counted : before.generationAt slot = .ofNat count) :
    after.generationAt slot =
        .ofNat (count + (before.loses after slot).toNat) ∧
      firstNames slot (count + (before.occupied slot).toNat) ++
          creation.toList.filter (fun ref => ref.slot = slot) =
        firstNames slot
          (count + (before.loses after slot).toNat +
            (after.occupied slot).toNat) := by
  cases turn with
  | stays occupied generation elsewhere =>
      have kept := Arena.loses_eq_false generation occupied.trans
      rw [generation, occupied, kept, filter_of_elsewhere elsewhere, counted]
      simp
  | ends lived gone generation elsewhere =>
      have lost := (Arena.loses_iff before after slot).2
        ⟨lived, by simp [gone]⟩
      rw [generation, lived, gone, lost, filter_of_elsewhere elsewhere,
        counted]
      simp
  | begins vacant lives generation named =>
      have kept := Arena.loses_eq_false generation fun _ => lives
      rw [generation, vacant, lives, kept, named, counted]
      simp [firstNames, List.range_succ]

end Turn

theorem Happening.creation?_of_not_newTag
    {call : Call} (makesNone : ∀ name, call ≠ .newTag name)
    (answer : Except Fault Reply) :
    (Happening.called call answer).creation? = none := by
  cases call with
  | newTag name => exact absurd rfl (makesNone name)
  | _ => rfl

namespace Moment

variable {before after moment earlier later : Moment} {ref : TagRef}
  {slot number : Nat}

/-- A step adds one happening, and this makes its turn at every slot. -/
theorem Step.turns
    (step : Step before after) (sound : before.desktop.Sound) :
    ∃ happening : Happening,
      after.history = before.history ++ [happening] ∧
        after.desktop = happening.next before.desktop ∧
        ∀ slot, Turn before.desktop.tags after.desktop.tags
          happening.creation? slot := by
  cases step with
  | @deliver effect queue front =>
      refine ⟨.delivered effect, rfl, ?_, fun slot => ?_⟩
      · simp [Happening.next, Moment.deliver, front]
      · refine .stays rfl rfl ?_
        intro ref made
        cases made
  | call call =>
      refine ⟨_, rfl, rfl, fun slot => ?_⟩
      by_cases makes : ∃ name, call = .newTag name
      · obtain ⟨name, rfl⟩ := makes
        exact sound.tidy.turn { name } slot
      · have makesNone : ∀ name, call ≠ .newTag name := by
          intro name same
          exact makes ⟨name, same⟩
        rw [Happening.creation?_of_not_newTag makesNone]
        exact (call.run_wears makesNone before.desktop slot).turn

/-! ## Whole runs -/

/-- A history tells the desktop it led to. In every slot, the tags that were
made there are numbered in turn, and the generation counts those that are
gone. -/
structure Numbered (moment : Moment) : Prop where
  replayed : Desktop.replay {} moment.history = moment.desktop
  generation :
    ∀ slot, moment.desktop.tags.generationAt slot =
      .ofNat (moment.destroyed slot)
  created :
    ∀ slot, moment.createdIn slot =
      firstNames slot
        (moment.destroyed slot +
          (moment.desktop.tags.occupied slot).toNat)

theorem createdIn_append
    {happening : Happening}
    (added : after.history = before.history ++ [happening]) (slot : Nat) :
    after.createdIn slot =
      before.createdIn slot ++
        happening.creation?.toList.filter fun ref => ref.slot = slot := by
  cases creation : happening.creation? <;>
    simp [createdIn, Moment.created, added, creation]

theorem Numbered.destroyed_append
    {happening : Happening} (numbered : before.Numbered)
    (added : after.history = before.history ++ [happening])
    (now : after.desktop = happening.next before.desktop) (slot : Nat) :
    after.destroyed slot =
      before.destroyed slot +
        (before.desktop.tags.loses after.desktop.tags slot).toNat := by
  rw [destroyed, added, Desktop.losses_append, numbered.replayed, now]
  simp [Desktop.losses, destroyed]

theorem Numbered.step
    (numbered : before.Numbered) (sound : before.desktop.Sound)
    (step : Step before after) : after.Numbered := by
  obtain ⟨happening, added, now, turns⟩ := step.turns sound
  have destroyed := numbered.destroyed_append added now
  refine ⟨?_, fun slot => ?_, fun slot => ?_⟩
  · have replayed := numbered.replayed
    rw [Desktop.replay] at replayed
    rw [added, Desktop.replay, List.foldl_append, replayed]
    exact now.symm
  · rw [destroyed]
    exact ((turns slot).counts (numbered.generation slot)).1
  · rw [destroyed, createdIn_append added, numbered.created slot]
    exact ((turns slot).counts (numbered.generation slot)).2

theorem Reached.numbered (reached : moment.Reached) : moment.Numbered := by
  apply reached.induction
  · exact ⟨rfl, fun slot => rfl, fun slot => rfl⟩
  · intro before after step sound numbered
    exact numbered.step sound step

/-- In the course of a run, the tags that were made and those that are gone in a
slot only become more. -/
theorem Reached.grows
    (reached : earlier.Reached) (leads : earlier.Leads later) (slot : Nat) :
    earlier.destroyed slot ≤ later.destroyed slot ∧
      (earlier.createdIn slot).length ≤ (later.createdIn slot).length := by
  induction leads with
  | refl =>
      exact ⟨Nat.le_refl _, Nat.le_refl _⟩
  | tail path step inductionHypothesis =>
      have middle := reached.leads path
      obtain ⟨happening, added, now, _⟩ := step.turns middle.sound
      rw [middle.numbered.destroyed_append added now, createdIn_append added,
        List.length_append]
      omega

theorem destroyed_le_length (moment : Moment) (slot : Nat) :
    moment.destroyed slot ≤ moment.history.length :=
  Desktop.losses_le_length slot {} moment.history

end Moment

/-! ## Names and numbers -/

theorem ofNat_eq_ofNat_iff (left right : Nat) :
    UInt32.ofNat left = UInt32.ofNat right ↔
      left % UInt32.size = right % UInt32.size := by
  rw [← UInt32.toNat_inj, UInt32.toNat_ofNat', UInt32.toNat_ofNat']

namespace Moment

variable {moment earlier later : Moment} {ref : TagRef} {slot number : Nat}

theorem Numbered.length_createdIn
    (numbered : moment.Numbered) (slot : Nat) :
    (moment.createdIn slot).length =
      moment.destroyed slot +
        (moment.desktop.tags.occupied slot).toNat := by
  rw [numbered.created slot, firstNames, List.length_map, List.length_range]

/-- A name leads to a tag if the number of its tag agrees, up to the wrap, with
the number of the tag that lives in the slot. -/
theorem Numbered.contains_iff
    (numbered : moment.Numbered) (named : ref.generation = .ofNat number) :
    moment.desktop.tags.contains ref = true ↔
      moment.desktop.tags.occupied ref.slot = true ∧
        moment.destroyed ref.slot % UInt32.size = number % UInt32.size := by
  rw [Arena.contains_iff_occupied, numbered.generation, named,
    ofNat_eq_ofNat_iff]

theorem Numbered.mem_created
    (numbered : moment.Numbered) (made : ref ∈ moment.created) :
    ∃ number < (moment.createdIn ref.slot).length,
      ref.generation = .ofNat number := by
  have inSlot : ref ∈ moment.createdIn ref.slot :=
    List.mem_filter.2 ⟨made, by simp⟩
  rw [numbered.length_createdIn]
  rw [numbered.created, firstNames] at inSlot
  obtain ⟨number, inRange, same⟩ := List.mem_map.1 inSlot
  exact ⟨number, List.mem_range.1 inRange, by rw [← same]⟩

/-- If a name leads nowhere, then the tag that it was given to is among those
that were destroyed. -/
theorem Numbered.lt_destroyed_of_gone
    (numbered : moment.Numbered) (named : ref.generation = .ofNat number)
    (made : number < (moment.createdIn ref.slot).length)
    (gone : moment.desktop.tags.contains ref = false) :
    number < moment.destroyed ref.slot := by
  by_contra notDestroyed
  rw [numbered.length_createdIn] at made
  cases occupied : moment.desktop.tags.occupied ref.slot with
  | false =>
      rw [occupied] at made
      exact notDestroyed made
  | true =>
      -- None of the tags of the slot came after it, so it would live there.
      rw [occupied, Bool.toNat_true] at made
      have present := (numbered.contains_iff named).2
        ⟨occupied, congrArg (· % UInt32.size) (by omega)⟩
      exact Bool.false_ne_true (gone.symm.trans present)

/-- When a name leads to a tag again that was live at a moment: the slot is
occupied, and the tags that were destroyed there since are a multiple of 2 ^ 32.
The first of them is the tag itself. -/
structure Resolves (made : Moment) (ref : TagRef) (later : Moment) : Prop where
  contains_iff :
    later.desktop.tags.contains ref = true ↔
      later.desktop.tags.occupied ref.slot = true ∧
        UInt32.size ∣ later.destroyed ref.slot - made.destroyed ref.slot
  ended :
    ∀ middle, made.Leads middle → middle.Leads later →
      middle.desktop.tags.contains ref = false →
        made.destroyed ref.slot < later.destroyed ref.slot

theorem Reached.resolves
    (reached : moment.Reached)
    (lives : moment.desktop.tags.contains ref = true)
    (leads : moment.Leads later) : moment.Resolves ref later := by
  obtain ⟨occupied, generation⟩ := (Arena.contains_iff_occupied _ _).1 lives
  have named := generation.symm.trans (reached.numbered.generation ref.slot)
  constructor
  · rw [(reached.leads leads).numbered.contains_iff named]
    have grows := (reached.grows leads ref.slot).1
    refine and_congr_right fun _ => ?_
    unfold UInt32.size
    omega
  · intro middle toMiddle fromMiddle gone
    have reachedMiddle := reached.leads toMiddle
    have made : moment.destroyed ref.slot <
        (moment.createdIn ref.slot).length := by
      simp [reached.numbered.length_createdIn, occupied]
    have still := (reached.grows toMiddle ref.slot).2
    have ended := reachedMiddle.numbered.lt_destroyed_of_gone named
      (Nat.lt_of_lt_of_le made still) gone
    exact Nat.lt_of_lt_of_le ended
      (reachedMiddle.grows fromMiddle ref.slot).1

/-- Before the wrap, no two tags were given the same name. -/
theorem Numbered.created_nodup
    (numbered : moment.Numbered)
    (bounded : ∀ slot, moment.destroyed slot < UInt32.size) :
    moment.created.Nodup := by
  rw [List.nodup_iff_count_le_one]
  intro ref
  have inSlot :
      (moment.createdIn ref.slot).count ref = moment.created.count ref :=
    List.count_filter (by simp)
  have small := bounded ref.slot
  have one := (moment.desktop.tags.occupied ref.slot).toNat_le
  have nodup : (moment.createdIn ref.slot).Nodup := by
    rw [numbered.created, firstNames]
    refine List.nodup_range.map_on ?_
    intro left leftSmall right rightSmall same
    have generations := congrArg TagRef.generation same
    rw [ofNat_eq_ofNat_iff] at generations
    rw [List.mem_range] at leftSmall rightSmall
    unfold UInt32.size at small generations
    omega
  rw [← inSlot]
  exact List.nodup_iff_count_le_one.1 nodup ref

/-- Before the wrap, a slot whose tag of some name is gone has come to another
generation. -/
theorem Reached.generationAt_ne
    (reached : earlier.Reached) (leads : earlier.Leads moment)
    (bounded : moment.destroyed ref.slot < UInt32.size)
    (made : ref ∈ earlier.created)
    (gone : earlier.desktop.tags.contains ref = false) :
    moment.desktop.tags.generationAt ref.slot ≠ ref.generation := by
  obtain ⟨number, known, named⟩ := reached.numbered.mem_created made
  have ended := reached.numbered.lt_destroyed_of_gone named known gone
  have grows := (reached.grows leads ref.slot).1
  -- The tag's number and the generation's both stay below the wrap.
  rw [(reached.leads leads).numbered.generation, named, ne_eq,
    ofNat_eq_ofNat_iff]
  unfold UInt32.size at bounded ⊢
  omega

end Moment

/-! ## Names that lead nowhere -/

/-- The client that a call about a tag is about, too. -/
def Call.client? : Call → Option ClientId
  | .tagClient _ client => some client
  | .untagClient client _ => some client
  | _ => none

namespace Desktop

variable {desktop : Desktop} {ref : TagRef}

/-- A name that leads nowhere: nothing is found under it, and all that a call
about it does is to name a fault. -/
structure Stale (desktop : Desktop) (ref : TagRef) : Prop where
  get? : desktop.tags.get? ref = none
  contains : desktop.tags.contains ref = false
  refs : desktop.tags.refs ref = 0
  handles : desktop.tags.handles ref = 0
  isTagged : ∀ client, desktop.isTagged client ref = false
  clientsOf : desktop.clientsOf ref = .error (.unknownTag ref)
  unknownTag :
    ∀ call : Call, call.subject? = some ref →
      (∀ client, call.client? = some client →
        desktop.clients.contains client = true) →
      call.run desktop = ⟨.error (.unknownTag ref), desktop, []⟩
  unknownClient :
    ∀ (call : Call) (client : ClientId), call.subject? = some ref →
      call.client? = some client →
      desktop.clients.contains client = false →
      call.run desktop = ⟨.error (.unknownClient client), desktop, []⟩

/-- A call about a tag that is gone asks for its client first. -/
theorem refusal?_of_gone
    (gone : desktop.tags.occupant? ref = none) {call : Call}
    (about : call.subject? = some ref) :
    call.refusal? desktop =
      (call.client?.bind desktop.refusedClient?).or
        (some (.unknownTag ref)) := by
  cases call <;> cases about <;>
    simp [Call.refusal?, Call.client?, refusedTag?_of_gone gone]

theorem run_of_gone
    (gone : desktop.tags.occupant? ref = none) {call : Call}
    (about : call.subject? = some ref) {fault : Fault}
    (refused : call.refusal? desktop = some fault) :
    call.run desktop = ⟨.error fault, desktop, []⟩ := by
  refine run_of_refusal ?_ refused
  cases call with
  | setClients tag requested =>
      cases about
      exact contains_eq_false_iff.2 gone
  | _ => trivial

theorem stale_of_gone (gone : desktop.tags.occupant? ref = none) :
    desktop.Stale ref where
  get? := by simp [Arena.get?, gone]
  contains := by simp [Arena.contains, gone]
  refs := by simp [Arena.refs, gone]
  handles := by simp [Arena.handles, gone]
  isTagged := by simp [isTagged, Arena.get?, gone]
  clientsOf := by simp [clientsOf, tag, Arena.get?, gone, Except.map]
  unknownTag := by
    intro call about managed
    apply run_of_gone gone about
    rw [refusal?_of_gone gone about]
    cases named : call.client? with
    | none =>
        rfl
    | some client =>
        rw [Option.bind_some, refusedClient?_of_managed (managed client named)]
        rfl
  unknownClient := by
    intro call client about named stranger
    apply run_of_gone gone about
    rw [refusal?_of_gone gone about, named, Option.bind_some,
      refusedClient?_of_stranger stranger]
    rfl

end Desktop

/-! ## The guarantee -/

/-- A new tag is there, under the name that the call answers. -/
theorem Desktop.Sound.newTag_lives
    {desktop : Desktop} (sound : desktop.Sound) (name : String) :
    ((Call.newTag name).run desktop).answer =
        .ok (.tag (desktop.tags.insert { name }).1) ∧
      ((Call.newTag name).run desktop).desktop.tags.contains
        (desktop.tags.insert { name }).1 = true := by
  have found := sound.tidy.occupant?_insert { name }
    (desktop.tags.insert { name }).1
  rw [if_pos rfl] at found
  exact ⟨rfl, Option.isSome_iff_exists.2 ⟨_, found⟩⟩

namespace Moment

/-- The tags made in a slot get its names in turn, with the generation counted
modulo 2 ^ 32, and a name whose tag is gone leads to a tag again only after a
positive multiple of 2 ^ 32 destructions in its slot. As long as there are fewer
of them in every slot, names are never given twice, and a name whose tag is gone
leads nowhere for ever, whatever lives in its slot. -/
theorem names_resolve_until_wrap {moment : Moment} (reached : moment.Reached) :
    (∀ slot,
        (moment.createdIn slot).length =
            moment.destroyed slot +
              (moment.desktop.tags.occupied slot).toNat ∧
          ∀ number ref, (moment.createdIn slot)[number]? = some ref →
            ref.slot = slot ∧ ref.generation.toNat = number % UInt32.size) ∧
      (∀ name, ∃ ref,
        ((Call.newTag name).run moment.desktop).answer = .ok (.tag ref) ∧
          (moment.call (.newTag name)).created = moment.created ++ [ref] ∧
          ∀ later, (moment.call (.newTag name)).Leads later →
            (moment.call (.newTag name)).Resolves ref later) ∧
      ((∀ slot, moment.destroyed slot < UInt32.size) →
        moment.created.Nodup ∧
          ∀ earlier : Moment, earlier.Reached → earlier.Leads moment →
            ∀ ref ∈ earlier.created,
              earlier.desktop.tags.contains ref = false →
                moment.desktop.Stale ref ∧
                  ∀ occupant,
                    { moment.desktop with
                      tags := moment.desktop.tags.put ref.slot
                        occupant }.Stale ref) := by
  refine ⟨?_, ?_, ?_⟩
  · intro slot
    refine ⟨reached.numbered.length_createdIn slot, ?_⟩
    intro number ref made
    rw [reached.numbered.created, firstNames, List.getElem?_map,
      Option.map_eq_some_iff] at made
    obtain ⟨_, listed, rfl⟩ := made
    obtain ⟨_, rfl⟩ := List.getElem?_eq_some_iff.1 listed
    simp
  · intro name
    obtain ⟨answered, lives⟩ := reached.sound.newTag_lives name
    refine ⟨_, answered, ?_, fun later leads => ?_⟩
    · simp [Moment.created, Moment.call, answered, Happening.creation?]
    · exact (reached.step (.call moment (.newTag name))).resolves lives leads
  · intro bounded
    refine ⟨reached.numbered.created_nodup bounded, ?_⟩
    intro earlier reachedEarlier leads ref made gone
    have different :=
      reachedEarlier.generationAt_ne leads (bounded ref.slot) made gone
    refine ⟨Desktop.stale_of_gone ?_, fun occupant =>
      Desktop.stale_of_gone ?_⟩
    · exact Arena.occupant?_eq_none_of_generationAt_ne different
    · apply Arena.occupant?_eq_none_of_generationAt_ne
      rwa [Arena.generationAt_put]

/-- A tag that only its maker holds is given back, and the next one takes its
slot. The old name leads nowhere, and the new one is another. -/
theorem names_resolve_until_wrap_in_reused_slot :
    let first := Moment.start { tags := ["main"] }
    let made := first.call (.newTag "mail")
    let earlier := made.call (.releaseTag ⟨1, 0⟩)
    let moment := earlier.call (.newTag "web")
    moment.Reached ∧
      (moment.createdIn 1)[1]? = some ⟨1, 1⟩ ∧
      (⟨1, 1⟩ : TagRef).generation.toNat = 1 % UInt32.size ∧
      made.Resolves ⟨1, 0⟩ moment ∧
      made.destroyed 1 < moment.destroyed 1 ∧
      (∀ slot, moment.destroyed slot < UInt32.size) ∧
      moment.created.Nodup ∧
      ⟨1, 0⟩ ∈ earlier.created ∧
      earlier.desktop.tags.contains ⟨1, 0⟩ = false ∧
      moment.desktop.tags.occupied 1 = true ∧
      moment.desktop.Stale ⟨1, 0⟩ := by
  intro first made earlier moment
  have reachedFirst : first.Reached := .start _
  have reachedEarlier : earlier.Reached :=
    (reachedFirst.step (.call _ _)).step (.call _ _)
  have reached : moment.Reached := reachedEarlier.step (.call _ _)
  have toEarlier : made.Leads earlier := .single (.call _ _)
  have fromEarlier : earlier.Leads moment := .single (.call _ _)
  have gone : earlier.desktop.tags.contains ⟨1, 0⟩ = false := by decide
  obtain ⟨_, makes, _⟩ := names_resolve_until_wrap reachedFirst
  obtain ⟨name, answered, _, resolved⟩ := makes "mail"
  have named : name = ⟨1, 0⟩ := by
    have same : (.ok (.tag ⟨1, 0⟩) : Except Fault Reply) = .ok (.tag name) :=
      answered
    cases same
    rfl
  subst named
  obtain ⟨numbers, _, unique⟩ := names_resolve_until_wrap reached
  have second : (moment.createdIn 1)[1]? = some ⟨1, 1⟩ := rfl
  have short : moment.history.length < UInt32.size := by decide
  have bounded : ∀ slot, moment.destroyed slot < UInt32.size := by
    intro slot
    exact Nat.lt_of_le_of_lt (moment.destroyed_le_length slot) short
  obtain ⟨nodup, stale⟩ := unique bounded
  have known : ⟨1, 0⟩ ∈ earlier.created := by decide
  have resolves := resolved moment (toEarlier.trans fromEarlier)
  exact ⟨reached, second, ((numbers 1).2 1 _ second).2, resolves,
    resolves.ended earlier toEarlier fromEarlier gone, bounded, nodup, known,
    gone, by decide,
    (stale earlier reachedEarlier fromEarlier _ known gone).1⟩

end Moment

end DesktopTags
