import DesktopTags.Proofs.Footprint
import DesktopTags.Proofs.Run

/-!
# Activated tags and the registry

The registry lists exactly the activated tags, each once, and no other tag is
shown. An entry never outlives its tag, so none of them leads to a tag that came
to live in the same slot later.
-/

namespace DesktopTags.Desktop

open Operation

variable {desktop : Desktop} {ref : TagRef}

/-- The registry, the activated tags and the shown tags of a desktop agree. -/
structure Agrees (desktop : Desktop) : Prop where
  registry_nodup : desktop.registry.tags.Nodup
  listed_iff :
    ∀ ref, ref ∈ desktop.registry.tags ↔
      ∃ tag, desktop.tags.get? ref = some tag ∧ tag.activated = true
  active_of_selected :
    ∀ ref tag, desktop.tags.get? ref = some tag →
      tag.selected = true → tag.activated = true
  /-- The slot of an entry holds the tag that the entry names. -/
  kept :
    ∀ ref ∈ desktop.registry.tags, ∃ old,
      desktop.tags.slots[ref.slot]? = some ⟨ref.generation, some old⟩

theorem Sound.agrees (sound : desktop.Sound) : desktop.Agrees where
  registry_nodup := sound.registry_nodup
  listed_iff := by
    intro ref
    rw [sound.mem_registry_iff, Arena.get?]
    cases desktop.tags.occupant? ref <;> simp
  active_of_selected := by
    intro ref tag found shown
    obtain ⟨old, live, same⟩ := Option.map_eq_some_iff.1 found
    subst same
    exact (sound.fit live).active_of_selected shown
  kept := by
    intro ref listed
    obtain ⟨old, live, _⟩ := (sound.mem_registry_iff ref).1 listed
    exact ⟨old, (Arena.occupant?_eq_some_iff _ _ _).1 live⟩

/-! ## The registry is never found wanting -/

/-- No activated tag was missing from the registry. -/
def Unwarned (log : List LogEvent) : Prop :=
  ∀ ref, .missingFromRegistry ref ∉ log

theorem unwarned_admits : Rule.Admits fun _ _ log => Unwarned log where
  elsewhere := by simp [Unwarned]
  event := by
    intro desktop event ordinary ref warned
    exact ordinary ref (List.mem_singleton.1 warned).symm
  put := by simp [Unwarned]
  vacate := by simp [Unwarned]
  chain := by
    intro before middle after first second left right ref warned
    rcases List.mem_append.1 warned with earlier | later
    · exact left ref earlier
    · exact right ref later

/-- An activated tag is in the registry, so taking it out finds it there. -/
theorem deactivate_unwarned (sound : desktop.Sound) (ref : TagRef) :
    Unwarned (deactivate ref desktop).log := by
  cases live : desktop.tags.occupant? ref with
  | none =>
      rw [deactivate_of_gone live]
      simp [Unwarned]
  | some old =>
      cases active : old.tag.activated with
      | false =>
          rw [deactivate_of_inactive live active]
          simp [Unwarned]
      | true =>
          have listed := (sound.registered_iff live).2 active
          rw [deactivate_of_active live (sound.referred live) active listed]
          unfold parting
          split <;> simp [Unwarned]

theorem Sound.run_unwarned (sound : desktop.Sound) (call : Call) :
    Unwarned (call.run desktop).log := by
  cases call with
  | newTag name =>
      rw [Call.run, bind_pure_apply, newTag_apply]
      simp [Unwarned]
  | deactivate ref =>
      rw [Call.run, Call.thenDone_apply]
      exact deactivate_unwarned sound ref
  | setActivated ref activated =>
      cases activated with
      | false =>
          rw [Call.run, Call.thenDone_apply]
          exact deactivate_unwarned sound ref
      | true =>
          exact Call.run_obeys unwarned_admits _ (by simp) (by simp) desktop
  | _ =>
      exact Call.run_obeys unwarned_admits _ (by simp) (by simp) desktop

/-- A call leaves no entry behind for a tag that it ends, gives no new tag a
name that is listed already, and finds no activated tag missing. -/
structure Upkeep (desktop : Desktop) (call : Call) : Prop where
  ended :
    ∀ ref, desktop.tags.contains ref = true →
      (call.run desktop).desktop.tags.contains ref = false →
        ref ∉ (call.run desktop).desktop.registry.tags
  created :
    ∀ name ref, call = .newTag name →
      (call.run desktop).answer = .ok (.tag ref) →
        ref ∉ (call.run desktop).desktop.registry.tags
  unwarned : Unwarned (call.run desktop).log

theorem Sound.upkeep (sound : desktop.Sound) (call : Call) :
    desktop.Upkeep call where
  ended := by
    intro ref _ gone
    apply (sound.run call).notMem_registry_of_gone
    simpa [Arena.contains] using gone
  created := by
    intro name ref isNew answered
    subst isNew
    rw [Call.run, bind_pure_apply, newTag_apply] at answered ⊢
    cases answered
    exact sound.notMem_registry_of_gone
      (sound.tidy.occupant?_insert_ref { name })
  unwarned := sound.run_unwarned call

/-- On every desktop that a run comes to, the registry lists the activated tags,
each once, and only these are shown. No call lets an entry dangle. The calls of
a handler are made on such desktops, too. -/
theorem registry_agrees
    {desktop : Desktop} (reachable : desktop.Reachable) :
    desktop.Agrees ∧ ∀ call, desktop.Upkeep call :=
  ⟨reachable.sound.agrees, reachable.sound.upkeep⟩

/-- The second tag is destroyed with its place in the registry, and the next new
tag takes its slot. -/
theorem registry_agrees_of_reused_slot :
    let desktop := (Desktop.start { tags := ["main", "mail"] }).desktop
    let after := ((Call.deactivate ⟨1, 0⟩).run desktop).desktop
    desktop.Reachable ∧
      ⟨1, 0⟩ ∈ desktop.registry.tags ∧
      Unwarned ((Call.deactivate ⟨1, 0⟩).run desktop).log ∧
      after.tags.contains ⟨1, 0⟩ = false ∧
      ⟨1, 0⟩ ∉ after.registry.tags ∧
      ((Call.newTag "web").run after).answer = .ok (.tag ⟨1, 1⟩) ∧
      ⟨1, 1⟩ ∉ ((Call.newTag "web").run after).desktop.registry.tags := by
  intro desktop after
  have reachable : desktop.Reachable := .start _
  obtain ⟨agrees, upkeep⟩ := registry_agrees reachable
  obtain ⟨_, later⟩ := registry_agrees (reachable.call (.deactivate ⟨1, 0⟩))
  have gone : after.tags.contains ⟨1, 0⟩ = false := by decide
  have answered :
      ((Call.newTag "web").run after).answer = .ok (.tag ⟨1, 1⟩) :=
    rfl
  exact ⟨reachable,
    (agrees.listed_iff ⟨1, 0⟩).2 ⟨⟨"mail", false, true, []⟩, by decide, rfl⟩,
    (upkeep _).unwarned, gone, (upkeep _).ended ⟨1, 0⟩ (by decide) gone,
    answered, (later _).created "web" ⟨1, 1⟩ rfl answered⟩

end DesktopTags.Desktop
