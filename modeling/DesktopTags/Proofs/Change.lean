import DesktopTags.Desktop.Population
import DesktopTags.Proofs.Lifecycle
import DesktopTags.Proofs.Population
import DesktopTags.Proofs.Reconciliation
import DesktopTags.Proofs.Soundness

namespace DesktopTags.Desktop

/-! ## The changes that calls consist of -/

/-- What can happen to a live tag with so many handles: the tag and its handles
afterwards, the registry, and the effects that announce it. -/
inductive Alteration
    (desktop : Desktop) (ref : TagRef) (tag : Tag) (handles : Nat) :
    Tag → Nat → Registry → List Effect → Prop
  | hold :
      Alteration desktop ref tag handles
        tag (handles + 1) desktop.registry []
  | giveBack (held : 0 < handles) :
      Alteration desktop ref tag handles
        tag (handles - 1) desktop.registry []
  | activate (inactive : tag.activated = false) :
      Alteration desktop ref tag handles
        { tag with activated := true } handles
        (desktop.registry.push ref) (desktopListChanged ref)
  | deactivate (active : tag.activated = true) :
      Alteration desktop ref tag handles
        (retired tag) handles
        (desktop.registry.erase ref)
        (hidden ref tag ++ desktopListChanged ref)
  | select {selected : Bool}
      (different : tag.selected ≠ selected)
      (allowed : selected = true → tag.activated = true) :
      Alteration desktop ref tag handles
        { tag with selected } handles
        desktop.registry (selectionChanged desktop.screens ref)
  | rename (name : String) :
      Alteration desktop ref tag handles
        { tag with name } handles desktop.registry
        [Effect.property ref .nameChanged, .display .updateDesktopNames]
  | regroup (keeps : ClientId → Bool) (joining : List ClientId)
      (nodup : joining.Nodup)
      (new : ∀ client ∈ joining, client ∉ tag.clients)
      (managed :
        ∀ client ∈ joining, desktop.clients.contains client = true) :
      Alteration desktop ref tag handles
        { tag with clients := tag.clients.filter keeps ++ joining } handles
        desktop.registry
        (untagBlocks desktop.clients ref
            (tag.clients.filter fun client => !keeps client) ++
          tagBlocks desktop.clients ref joining)

/-- One change of a desktop, with the effects it queues. -/
inductive Change : Desktop → List Effect → Desktop → Prop
  | create (desktop : Desktop) (name : String) :
      Change desktop []
        { desktop with tags := (desktop.tags.insert { name }).2 }
  | alter {desktop : Desktop} {ref : TagRef} {old : Occupant}
      {tag : Tag} {handles : Nat} {registry : Registry}
      {effects : List Effect}
      (live : desktop.tags.occupant? ref = some old)
      (alteration :
        Alteration desktop ref old.tag old.handles
          tag handles registry effects) :
      Change desktop effects
        (((desktop.settle ref (.counted tag handles)).enlist
          registry).announce effects)
  | addScreen (desktop : Desktop) (output : String) :
      Change desktop []
        { desktop with
          screens := desktop.screens ++ [⟨⟨desktop.screens.length⟩, output⟩] }
  | manage {desktop : Desktop} {client : ClientId} {screen : ScreenId}
      (known : desktop.hasScreen screen = true)
      (new : desktop.clients.contains client = false) :
      Change desktop []
        { desktop with clients := desktop.clients.insert client screen }
  | dismiss {desktop : Desktop} {client : ClientId}
      (untagged :
        ∀ ref old, desktop.tags.occupant? ref = some old →
          client ∉ old.tag.clients) :
      Change desktop []
        { desktop with
          focus := desktop.focus.forget client
          clients := desktop.clients.erase client }
  | focus {desktop : Desktop} {client : ClientId}
      (managed : desktop.clients.contains client = true) :
      Change desktop []
        { desktop with focus := desktop.focus.focus client }
  | unfocus (desktop : Desktop) :
      Change desktop []
        { desktop with focus := desktop.focus.unfocus }

/-- Changes one after the other, with all effects they queue. -/
inductive Changes : Desktop → List Effect → Desktop → Prop
  | none (desktop : Desktop) : Changes desktop [] desktop
  | next {before middle after : Desktop} {first second : List Effect} :
      Changes before first middle →
      Change middle second after →
      Changes before (first ++ second) after

theorem Change.changes
    {before after : Desktop} {effects : List Effect}
    (change : Change before effects after) :
    Changes before effects after := by
  simpa using (Changes.none before).next change

theorem Changes.trans
    {before middle after : Desktop} {first second : List Effect}
    (left : Changes before first middle)
    (right : Changes middle second after) :
    Changes before (first ++ second) after := by
  induction right with
  | none =>
      simpa using left
  | next _ change inductionHypothesis =>
      rw [← List.append_assoc]
      exact inductionHypothesis.next change

/-! ## What changes queue -/

theorem Change.queue
    {before after : Desktop} {effects : List Effect}
    (change : Change before effects after) :
    after.queue = before.queue ++ effects := by
  cases change with
  | alter => rfl
  | _ => exact (List.append_nil _).symm

/-- Effects are queued behind those that wait already. -/
theorem Changes.queue
    {before after : Desktop} {effects : List Effect}
    (changes : Changes before effects after) :
    after.queue = before.queue ++ effects := by
  induction changes with
  | none =>
      exact (List.append_nil _).symm
  | next _ change inductionHypothesis =>
      rw [change.queue, inductionHypothesis, List.append_assoc]

/-! ## Changes keep a desktop sound -/

section Alteration

variable {desktop : Desktop} {ref : TagRef} {tag after : Tag}
  {handles left : Nat} {registry : Registry} {effects : List Effect}

theorem Alteration.fit
    (alteration :
      Alteration desktop ref tag handles after left registry effects)
    (fit : tag.Fit desktop.clients) :
    after.Fit desktop.clients := by
  cases alteration with
  | hold =>
      exact fit
  | giveBack =>
      exact fit
  | activate =>
      exact ⟨fun _ => rfl, fit.clients_nodup, fit.clients_managed⟩
  | deactivate =>
      exact ⟨by simp [retired], fit.clients_nodup, fit.clients_managed⟩
  | select _ allowed =>
      exact ⟨allowed, fit.clients_nodup, fit.clients_managed⟩
  | rename =>
      exact ⟨fit.active_of_selected, fit.clients_nodup, fit.clients_managed⟩
  | regroup keeps joining nodup new managed =>
      refine ⟨fit.active_of_selected, ?_, ?_⟩
      · refine List.nodup_append.2
          ⟨fit.clients_nodup.filter keeps, nodup, ?_⟩
        intro client stays other joins same
        subst same
        exact new client joins (List.mem_filter.1 stays).1
      · intro client member
        rcases List.mem_append.1 member with stays | joins
        · exact fit.clients_managed client (List.mem_filter.1 stays).1
        · exact managed client joins

theorem Alteration.registry_nodup
    (alteration :
      Alteration desktop ref tag handles after left registry effects)
    (nodup : desktop.registry.tags.Nodup)
    (registered : ref ∈ desktop.registry.tags ↔ tag.activated = true) :
    registry.tags.Nodup := by
  cases alteration with
  | activate inactive =>
      have absent : ref ∉ desktop.registry.tags := by
        rw [registered, inactive]
        exact Bool.false_ne_true
      refine List.nodup_append.2 ⟨nodup, by simp, ?_⟩
      intro other member entry single same
      rw [List.mem_singleton.1 single] at same
      exact absent (same ▸ member)
  | deactivate =>
      exact nodup.erase ref
  | hold => exact nodup
  | giveBack => exact nodup
  | select => exact nodup
  | rename => exact nodup
  | regroup => exact nodup

/-- An alteration keeps the registry in step with the tag. -/
theorem Alteration.mem_registry_iff
    (alteration :
      Alteration desktop ref tag handles after left registry effects)
    (nodup : desktop.registry.tags.Nodup)
    (registered : ref ∈ desktop.registry.tags ↔ tag.activated = true)
    (other : TagRef) :
    other ∈ registry.tags ↔
      if other = ref then after.activated = true
      else other ∈ desktop.registry.tags := by
  by_cases same : other = ref
  · subst same
    rw [if_pos rfl]
    cases alteration with
    | activate => simp [Registry.push]
    | deactivate =>
        simp [Registry.erase, retired, nodup.not_mem_erase]
    | hold => exact registered
    | giveBack => exact registered
    | select => exact registered
    | rename => exact registered
    | regroup => exact registered
  · rw [if_neg same]
    cases alteration with
    | activate => simp [Registry.push, same]
    | deactivate =>
        simp only [Registry.erase]
        exact List.mem_erase_of_ne same
    | hold => rfl
    | giveBack => rfl
    | select => rfl
    | rename => rfl
    | regroup => rfl

end Alteration

section Preservation

variable {desktop : Desktop} {client : ClientId}

theorem Sound.create (sound : desktop.Sound) (name : String) :
    Sound { desktop with tags := (desktop.tags.insert { name }).2 } := by
  have fresh := sound.tidy.occupant?_insert_ref { name }
  have found := sound.tidy.occupant?_insert { name }
  have only :
      ∀ {ref : TagRef} {old : Occupant},
        (desktop.tags.insert { name }).2.occupant? ref = some old →
          old = ⟨{ name }, 1, 1⟩ ∨
            desktop.tags.occupant? ref = some old := by
    intro ref old live
    rw [found] at live
    split at live
    · exact Or.inl (Option.some.inj live).symm
    · exact Or.inr live
  refine { sound with
    tidy := sound.tidy.insert { name }
    counted := ?_
    referred := ?_
    fit := ?_
    mem_registry_iff := ?_ }
  · intro ref old live
    rcases only live with new | known
    · rw [new]
      rfl
    · exact sound.counted known
  · intro ref old live
    rcases only live with new | known
    · rw [new]
      exact Nat.one_pos
    · exact sound.referred known
  · intro ref old live
    rcases only live with new | known
    · rw [new]
      exact ⟨by simp, List.nodup_nil, by simp⟩
    · exact sound.fit known
  · intro ref
    rw [sound.mem_registry_iff]
    simp only [found]
    by_cases same : ref = (desktop.tags.insert { name }).1
    · subst same
      simp [fresh]
    · simp [same]

theorem Sound.alter
    (sound : desktop.Sound)
    {ref : TagRef} {old : Occupant} {tag : Tag} {handles : Nat}
    {registry : Registry} {effects : List Effect}
    (live : desktop.tags.occupant? ref = some old)
    (alteration :
      Alteration desktop ref old.tag old.handles
        tag handles registry effects) :
    (((desktop.settle ref (.counted tag handles)).enlist
      registry).announce effects).Sound := by
  have found := Arena.occupant?_settle live (.counted tag handles)
  have only :
      ∀ {other : TagRef} {new : Occupant},
        (desktop.tags.settle ref (.counted tag handles)).occupant? other =
            some new →
          (new = .counted tag handles ∧ 0 < new.refs) ∨
            desktop.tags.occupant? other = some new := by
    intro other new kept
    rw [found] at kept
    split at kept
    · unfold Arena.remains at kept
      split at kept
      · cases kept
      · rename_i referred
        cases kept
        exact Or.inl ⟨rfl, Nat.pos_of_ne_zero referred⟩
    · exact Or.inr kept
  refine { sound with
    tidy := sound.tidy.settle live _
    counted := ?_
    referred := ?_
    fit := ?_
    mem_registry_iff := ?_
    registry_nodup :=
      alteration.registry_nodup sound.registry_nodup
        (sound.registered_iff live) }
  · intro other new kept
    rcases only kept with ⟨settled, _⟩ | known
    · rw [settled]
      rfl
    · exact sound.counted known
  · intro other new kept
    rcases only kept with ⟨_, referred⟩ | known
    · exact referred
    · exact sound.referred known
  · intro other new kept
    rcases only kept with ⟨settled, _⟩ | known
    · rw [settled]
      exact alteration.fit (sound.fit live)
    · exact sound.fit known
  · intro other
    rw [show (((desktop.settle ref (.counted tag handles)).enlist
        registry).announce effects).registry = registry from rfl,
      alteration.mem_registry_iff sound.registry_nodup
        (sound.registered_iff live)]
    simp only [announce_tags, enlist, settle_tags, found]
    by_cases same : other = ref
    · simp only [same, if_true, Arena.remains]
      by_cases spent : (Occupant.counted tag handles).refs = 0
      · have inactive :=
          ((Occupant.counted_refs_eq_zero_iff tag handles).1 spent).2.1
        simp [spent, inactive]
      · simp only [if_neg spent, Option.some.injEq, exists_eq_left']
        rfl
    · simp only [same, if_false]
      exact sound.mem_registry_iff other

theorem Sound.addScreen (sound : desktop.Sound) (output : String) :
    Sound { desktop with
      screens :=
        desktop.screens ++ [⟨⟨desktop.screens.length⟩, output⟩] } := by
  refine { sound with
    screens_numbered := ?_
    screens_known := ?_ }
  · intro index screen placed
    rw [List.getElem?_append] at placed
    split at placed
    · exact sound.screens_numbered index screen placed
    · rename_i beyond
      have position := (List.getElem?_eq_some_iff.1 placed).1
      rw [List.length_singleton] at position
      have last : index = desktop.screens.length := by omega
      subst last
      simp only [Nat.sub_self, List.getElem?_cons_zero,
        Option.some.injEq] at placed
      rw [← placed]
  · intro entry member
    have known := sound.screens_known entry member
    simp only [hasScreen, List.any_append, Bool.or_eq_true] at known ⊢
    exact Or.inl known

theorem Sound.manage
    (sound : desktop.Sound) {screen : ScreenId}
    (known : desktop.hasScreen screen = true)
    (new : desktop.clients.contains client = false) :
    Sound { desktop with
      clients := desktop.clients.insert client screen } := by
  refine { sound with
    fit := ?_
    table_nodup := ?_
    screens_known := ?_
    focus_managed := ?_ }
  · intro ref old live
    have fit := sound.fit live
    refine ⟨fit.active_of_selected, fit.clients_nodup, ?_⟩
    intro member listed
    exact (ClientTable.contains_insert_iff _ _ _ _).2
      (Or.inl (fit.clients_managed member listed))
  · have absent : client ∉ desktop.clients.clients.map Client.id := by
      rw [← ClientTable.contains_iff_mem, new]
      exact Bool.false_ne_true
    simp only [ClientTable.insert, List.map_append, List.map_cons,
      List.map_nil]
    refine List.nodup_append.2 ⟨sound.table_nodup, by simp, ?_⟩
    intro listed member other single same
    rw [List.mem_singleton.1 single] at same
    exact absent (same ▸ member)
  · intro entry member
    rcases List.mem_append.1 member with old | single
    · exact sound.screens_known entry old
    · rw [List.mem_singleton.1 single]
      exact known
  · intro focused listed
    exact (ClientTable.contains_insert_iff _ _ _ _).2
      (Or.inl (sound.focus_managed focused listed))

theorem Sound.dismiss
    (sound : desktop.Sound)
    (untagged :
      ∀ ref old, desktop.tags.occupant? ref = some old →
        client ∉ old.tag.clients) :
    Sound { desktop with
      focus := desktop.focus.forget client
      clients := desktop.clients.erase client } := by
  refine { sound with
    fit := ?_
    table_nodup := ?_
    screens_known := ?_
    focus_managed := ?_ }
  · intro ref old live
    have fit := sound.fit live
    refine ⟨fit.active_of_selected, fit.clients_nodup, ?_⟩
    intro member listed
    have different : member ≠ client := by
      intro same
      exact untagged ref old live (same ▸ listed)
    exact (ClientTable.contains_erase_of_ne _ different).2
      (fit.clients_managed member listed)
  · rw [ClientTable.ids_erase]
    exact sound.table_nodup.erase client
  · intro entry member
    exact sound.screens_known entry (List.mem_of_mem_eraseP member)
  · intro focused listed
    obtain ⟨different, known⟩ := FocusHistory.mem_of_mem_forget listed
    exact (ClientTable.contains_erase_of_ne _ different).2
      (sound.focus_managed focused known)

theorem Sound.focus
    (sound : desktop.Sound)
    (managed : desktop.clients.contains client = true) :
    Sound { desktop with focus := desktop.focus.focus client } := by
  refine { sound with focus_managed := ?_ }
  intro focused listed
  rcases FocusHistory.mem_of_mem_focus listed with same | known
  · rw [same]
    exact managed
  · exact sound.focus_managed focused known

theorem Sound.unfocus (sound : desktop.Sound) :
    Sound { desktop with focus := desktop.focus.unfocus } := by
  refine { sound with focus_managed := ?_ }
  intro focused listed
  exact sound.focus_managed focused
    (FocusHistory.mem_of_mem_unfocus listed)

theorem Change.sound
    {before after : Desktop} {effects : List Effect}
    (change : Change before effects after) (sound : before.Sound) :
    after.Sound := by
  cases change with
  | create name =>
      exact sound.create name
  | alter live alteration =>
      exact sound.alter live alteration
  | addScreen output =>
      exact sound.addScreen output
  | manage known new =>
      exact sound.manage known new
  | dismiss untagged =>
      exact sound.dismiss untagged
  | focus managed =>
      exact sound.focus managed
  | unfocus =>
      exact sound.unfocus

theorem Changes.sound
    {before after : Desktop} {effects : List Effect}
    (changes : Changes before effects after) (sound : before.Sound) :
    after.Sound := by
  induction changes with
  | none =>
      exact sound
  | next _ change inductionHypothesis =>
      exact change.sound inductionHypothesis

end Preservation

end DesktopTags.Desktop
