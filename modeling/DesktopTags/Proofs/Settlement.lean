import DesktopTags.Desktop.Call
import DesktopTags.Proofs.Change

namespace DesktopTags

/-! ## What refers to a tag last -/

/-- One handle is all that refers to a tag. -/
def Occupant.LastHandle (old : Occupant) : Prop :=
  old.handles = 1 ∧ old.tag.activated = false ∧ old.tag.clients = []

/-- The registry is all that refers to a tag. -/
def Occupant.OnlyActivated (old : Occupant) : Prop :=
  old.handles = 0 ∧ old.tag.activated = true ∧ old.tag.clients = []

/-- These members are all that refers to a tag. -/
def Occupant.OnlyMembers (members : List ClientId) (old : Occupant) : Prop :=
  old.handles = 0 ∧ old.tag.activated = false ∧ old.tag.clients = members

theorem Occupant.OnlyMembers.member
    {client : ClientId} {old : Occupant}
    (last : old.OnlyMembers [client]) : client ∈ old.tag.clients := by
  rw [last.2.2]
  exact List.mem_cons_self

namespace Desktop

open Operation

/-! ## What a call about one tag leaves behind -/

/-- The log reports the end of a settled tag if nothing refers to it any more,
and the end of no other tag. -/
structure Reports (ref : TagRef) (new : Occupant) (log : List LogEvent) :
    Prop where
  spent_of_event :
    ∀ event ∈ log, ∀ ended, event.ending? = some ended →
      ended = (ref, new.tag) ∧ new.refs = 0
  event_of_spent :
    new.refs = 0 → ∃ event ∈ log, event.ending? = some (ref, new.tag)

theorem reports_of_quiet
    {ref : TagRef} {new : Occupant} {log : List LogEvent}
    (referred : 0 < new.refs) (quiet : Quiet log) :
    Reports ref new log where
  spent_of_event := by
    intro event logged ended isEnd
    rw [quiet event logged] at isEnd
    cases isEnd
  event_of_spent := by
    intro spent
    omega

theorem reports_parting
    (ref : TagRef) (new : Occupant)
    {log : List LogEvent} (quiet : Quiet log) :
    Reports ref new (log ++ parting ref new) := by
  unfold parting
  split
  · rename_i spent
    constructor
    · intro event logged ended isEnd
      rcases List.mem_append.1 logged with earlier | last
      · rw [quiet event earlier] at isEnd
        cases isEnd
      · rw [List.mem_singleton.1 last] at isEnd
        cases isEnd
        exact ⟨rfl, spent⟩
    · intro _
      exact ⟨.destroyed ref new.tag, by simp, rfl⟩
  · rename_i referred
    rw [List.append_nil]
    exact reports_of_quiet (Nat.pos_of_ne_zero referred) quiet

theorem reports_handing (ref : TagRef) (new : Occupant) :
    Reports ref new (handing ref new) := by
  unfold handing
  split
  · rename_i spent
    constructor
    · intro event logged ended isEnd
      rw [List.mem_singleton.1 logged] at isEnd
      cases isEnd
      exact ⟨rfl, spent⟩
    · intro _
      exact ⟨.handedBack ref new.tag, by simp, rfl⟩
  · rename_i referred
    exact reports_of_quiet (Nat.pos_of_ne_zero referred) quiet_nil

/-! ## What a call does to one tag -/

/-- The handles that an answered call has handed out; a refused call hands out
none. -/
def balance {α : Type} (given : Int) : Except Fault α → Int
  | .ok _ => given
  | .error _ => 0

@[simp]
theorem balance_ok {α : Type} (given : Int) (value : α) :
    balance given (.ok value : Except Fault α) = given :=
  rfl

@[simp]
theorem balance_error {α : Type} (given : Int) (fault : Fault) :
    balance given (.error fault : Except Fault α) = 0 :=
  rfl

@[simp]
theorem balance_zero {α : Type} (answer : Except Fault α) :
    balance 0 answer = 0 := by
  cases answer <;> rfl

/-- The outcome of a call about one tag: it leaves the desktop alone, or makes
one alteration. The call hands out `given` handles when it is not refused, and
ends the tag exactly if it `spends` what refers to it. -/
inductive Settles {α : Type} (desktop : Desktop) (ref : TagRef)
    (given : Int) (spends : Occupant → Prop) : Outcome α → Prop
  | unchanged (answer : Except Fault α) {log : List LogEvent}
      (quiet : Quiet log)
      (idle : balance given answer = 0)
      (spares :
        ∀ old, desktop.tags.occupant? ref = some old → ¬ spends old) :
      Settles desktop ref given spends ⟨answer, desktop, log⟩
  | altered {old new : Occupant} {registry : Registry}
      {effects : List Effect} (answer : Except Fault α)
      {log : List LogEvent}
      (live : desktop.tags.occupant? ref = some old)
      (alteration :
        Alteration desktop ref old.tag old.handles
          new.tag new.handles registry effects)
      (counted : new = .counted new.tag new.handles)
      (reports : Reports ref new log)
      (handled : (new.handles : Int) = old.handles + balance given answer)
      (ends : new.refs = 0 ↔ spends old) :
      Settles desktop ref given spends
        ⟨answer,
          ((desktop.settle ref new).enlist registry).announce effects, log⟩

section Settles

variable {α : Type} {desktop : Desktop} {ref : TagRef} {given : Int}
  {spends : Occupant → Prop}

theorem Settles.changes
    {outcome : Outcome α}
    (settles : Settles desktop ref given spends outcome) :
    ∃ effects, Changes desktop effects outcome.desktop := by
  cases settles with
  | unchanged =>
      exact ⟨[], .none desktop⟩
  | @altered old new registry effects _ _ live alteration counted =>
      have change := Change.alter live alteration
      rw [← counted] at change
      exact ⟨effects, change.changes⟩

/-- A call for a tag that is gone. -/
theorem Settles.of_gone
    (gone : desktop.tags.occupant? ref = none) (fault : Fault) :
    Settles desktop ref given spends
      (⟨.error fault, desktop, []⟩ : Outcome α) := by
  apply Settles.unchanged _ quiet_nil (balance_error given fault)
  intro old live
  rw [gone] at live
  cases live

/-- A call that leaves a live tag alone. -/
theorem Settles.of_live
    {old : Occupant} (live : desktop.tags.occupant? ref = some old)
    (answer : Except Fault α) {log : List LogEvent} (quiet : Quiet log)
    (idle : balance given answer = 0) (spares : ¬ spends old) :
    Settles desktop ref given spends ⟨answer, desktop, log⟩ := by
  apply Settles.unchanged answer quiet idle
  intro other same
  rw [live] at same
  cases same
  exact spares

/-- An alteration that leaves the registry alone. -/
theorem Settles.of_settle
    {old new : Occupant} {effects : List Effect}
    {log : List LogEvent} (answer : Except Fault α)
    (live : desktop.tags.occupant? ref = some old)
    (alteration :
      Alteration desktop ref old.tag old.handles
        new.tag new.handles desktop.registry effects)
    (count :
      new.refs =
        new.handles + new.tag.activated.toNat + new.tag.clients.length)
    (reports : Reports ref new log)
    (handled : (new.handles : Int) = old.handles + balance given answer)
    (ends : new.refs = 0 ↔ spends old) :
    Settles desktop ref given spends
      ⟨answer, (desktop.settle ref new).announce effects, log⟩ := by
  exact .altered answer live alteration (Occupant.eq_counted count)
    reports handled ends

/-- An alteration that hands out nothing and keeps the tag. -/
theorem Settles.of_kept
    {old new : Occupant} {registry : Registry} {effects : List Effect}
    {log : List LogEvent} (answer : Except Fault α)
    (live : desktop.tags.occupant? ref = some old)
    (alteration :
      Alteration desktop ref old.tag old.handles
        new.tag new.handles registry effects)
    (count :
      new.refs =
        new.handles + new.tag.activated.toNat + new.tag.clients.length)
    (referred : 0 < new.refs) (quiet : Quiet log)
    (handles : new.handles = old.handles) :
    Settles desktop ref 0 (fun _ => False)
      ⟨answer,
        ((desktop.settle ref new).enlist registry).announce effects,
        log⟩ := by
  refine .altered answer live alteration (Occupant.eq_counted count)
    (reports_of_quiet referred quiet) ?_ ?_
  · rw [handles, balance_zero, Int.add_zero]
  · simp only [iff_false]
    omega

end Settles

/-! ## One lemma for each call -/

section Calls

variable {desktop : Desktop}

theorem holdTag_settles (sound : desktop.Sound) (ref : TagRef) :
    Settles desktop ref 1 (fun _ => False) (holdTag ref desktop) := by
  cases live : desktop.tags.occupant? ref with
  | none =>
      rw [holdTag_of_gone live]
      exact .of_gone live _
  | some old =>
      have count := sound.refs_eq live
      have referred := Nat.succ_pos old.refs
      rw [holdTag_of_live live, ← announce_nil (desktop.settle ref _)]
      apply Settles.of_settle _ live .hold
      · simp only
        omega
      · exact reports_of_quiet referred quiet_nil
      · rw [balance_ok]
        rfl
      · simp

theorem releaseTag_settles (sound : desktop.Sound) (ref : TagRef) :
    Settles desktop ref (-1) Occupant.LastHandle
      (releaseTag ref desktop) := by
  cases live : desktop.tags.occupant? ref with
  | none =>
      rw [releaseTag_of_gone live]
      exact .of_gone live _
  | some old =>
      have count := sound.refs_eq live
      by_cases held : 0 < old.handles
      · rw [releaseTag_of_held live (sound.referred live) held,
          ← announce_nil (desktop.settle ref _)]
        apply Settles.of_settle _ live (.giveBack held)
        · simp only
          omega
        · exact reports_handing ref _
        · rw [balance_ok]
          simp only
          omega
        · rw [Occupant.LastHandle, ← List.length_eq_zero_iff,
            ← Bool.toNat_eq_zero]
          simp only
          omega
      · have returned : old.handles = 0 := by omega
        rw [releaseTag_of_returned live returned]
        apply Settles.of_live live _ quiet_nil (balance_error _ _)
        intro last
        exact held (by rw [last.1]; exact Nat.one_pos)

theorem activate_settles (sound : desktop.Sound) (ref : TagRef) :
    Settles desktop ref 0 (fun _ => False) (activate ref desktop) := by
  cases live : desktop.tags.occupant? ref with
  | none =>
      rw [activate_of_gone live]
      exact .of_gone live _
  | some old =>
      have count := sound.refs_eq live
      cases active : old.tag.activated with
      | true =>
          rw [activate_of_active live active]
          exact .of_live live _ (quiet_nil.cons rfl) (balance_zero _) id
      | false =>
          rw [active, Bool.toNat_false] at count
          rw [activate_of_inactive live (sound.referred live) active]
          apply Settles.of_kept _ live (.activate active)
          · simp only [Bool.toNat_true]
            omega
          · exact Nat.succ_pos old.refs
          · exact quiet_nil
          · rfl

theorem deactivate_settles (sound : desktop.Sound) (ref : TagRef) :
    Settles desktop ref 0 Occupant.OnlyActivated
      (deactivate ref desktop) := by
  cases live : desktop.tags.occupant? ref with
  | none =>
      rw [deactivate_of_gone live]
      exact .of_gone live _
  | some old =>
      have count := sound.refs_eq live
      cases active : old.tag.activated with
      | true =>
          have registered := (sound.registered_iff live).2 active
          rw [active, Bool.toNat_true] at count
          rw [deactivate_of_active live (sound.referred live) active
            registered]
          apply Settles.altered _ live (.deactivate active)
          · apply Occupant.eq_counted
            simp only [retired, Bool.toNat_false]
            omega
          · exact reports_parting ref _ quiet_nil
          · rw [balance_zero, Int.add_zero]
          · rw [Occupant.OnlyActivated, ← List.length_eq_zero_iff]
            simp only [active, true_and]
            omega
      | false =>
          rw [deactivate_of_inactive live active]
          apply Settles.of_live live _ (quiet_nil.cons rfl) (balance_zero _)
          intro last
          rw [last.2.1] at active
          cases active

theorem setActivated_settles
    (sound : desktop.Sound) (ref : TagRef) (activated : Bool) :
    Settles desktop ref 0
      (fun old => activated = false ∧ old.OnlyActivated)
      (setActivated ref activated desktop) := by
  cases activated with
  | true =>
      simpa [setActivated] using activate_settles sound ref
  | false =>
      simpa [setActivated] using deactivate_settles sound ref

theorem setSelected_settles
    (sound : desktop.Sound) (ref : TagRef) (selected : Bool) :
    Settles desktop ref 0 (fun _ => False)
      (setSelected ref selected desktop) := by
  cases live : desktop.tags.occupant? ref with
  | none =>
      rw [setSelected_of_gone live]
      exact .of_gone live _
  | some old =>
      rcases selection_cases old.tag selected with
        same | ⟨different, allowed⟩ | ⟨rfl, unselected, inactive⟩
      · rw [setSelected_of_same live same]
        exact .of_live live _ quiet_nil (balance_zero _) id
      · have referred := sound.referred live
        have count := sound.refs_eq live
        have alteration :
            Alteration desktop ref old.tag old.handles
              { old.tag with selected } old.handles desktop.registry
              (selectionChanged desktop.screens ref) :=
          .select different allowed
        rw [setSelected_of_change live referred different allowed]
        apply Settles.of_kept _ live alteration
        · exact count
        · exact referred
        · exact quiet_nil
        · rfl
      · rw [setSelected_of_inactive live unselected inactive]
        exact .of_live live _ (quiet_nil.cons rfl) (balance_zero _) id

theorem setName_settles
    (sound : desktop.Sound) (ref : TagRef) (name : String) :
    Settles desktop ref 0 (fun _ => False)
      (setName ref name desktop) := by
  cases live : desktop.tags.occupant? ref with
  | none =>
      rw [setName_of_gone live]
      exact .of_gone live _
  | some old =>
      have referred := sound.referred live
      have count := sound.refs_eq live
      have alteration :
          Alteration desktop ref old.tag old.handles
            { old.tag with name } old.handles desktop.registry
            [Effect.property ref .nameChanged,
              .display .updateDesktopNames] :=
        .rename name
      rw [setName_of_live live referred]
      apply Settles.of_kept _ live alteration
      · exact count
      · exact referred
      · exact quiet_nil
      · rfl

end Calls

/-! ## Calls about members -/

section Members

variable {desktop : Desktop} {ref : TagRef} {tag : Tag} {handles : Nat}
  {client : ClientId} {entry : Client}

theorem Alteration.join
    (managed : desktop.clients.get? client = some entry)
    (new : client ∉ tag.clients) :
    Alteration desktop ref tag handles
      (tag.add client) handles desktop.registry
      (Effect.tagBlock ref client entry.screen) := by
  have known :=
    (ClientTable.contains_iff desktop.clients client).2 ⟨entry, managed⟩
  have alteration :
      Alteration desktop ref tag handles _ handles desktop.registry _ :=
    .regroup (fun _ => true) [client] (by simp)
      (by simpa using new) (by simpa using known)
  have staying : (tag.clients.filter fun _ => true) = tag.clients :=
    List.filter_eq_self.2 (by simp)
  have leaving : (tag.clients.filter fun _ => !true) = [] :=
    List.filter_eq_nil_iff.2 (by simp)
  rw [staying, leaving, tagBlocks_cons managed] at alteration
  simpa [Tag.add, untagBlocks, tagBlocks] using alteration

theorem Alteration.part
    (managed : desktop.clients.get? client = some entry)
    (nodup : tag.clients.Nodup) (member : client ∈ tag.clients) :
    Alteration desktop ref tag handles
      (tag.remove client) handles desktop.registry
      (Effect.untagBlock ref client entry.screen) := by
  have alteration :
      Alteration desktop ref tag handles _ handles desktop.registry _ :=
    .regroup (fun other => other != client) [] List.nodup_nil
      (by simp) (by simp)
  have leaving :
      (tag.clients.filter fun other => !(other != client)) = [client] := by
    simp only [bne, Bool.not_not]
    rw [List.filter_beq, nodup.count, if_pos member, List.replicate_one]
  rw [leaving, untagBlocks_cons managed, ← nodup.erase_eq_filter client]
    at alteration
  simpa [Tag.remove, untagBlocks, tagBlocks] using alteration

/-- A request for managed clients is one alteration. -/
theorem Alteration.reconcile
    {requested : List ClientId}
    (managed :
      ∀ client ∈ requested, desktop.clients.contains client = true) :
    Alteration desktop ref tag handles
      { tag with clients := reconciled tag.clients requested } handles
      desktop.registry
      (untagBlocks desktop.clients ref (dismissed tag.clients requested) ++
        tagBlocks desktop.clients ref (newcomers tag.clients requested)) := by
  refine .regroup (fun member => requested.contains member)
    (newcomers tag.clients requested)
    (newcomers_nodup tag.clients requested) ?_ ?_
  · intro client joins
    exact ((mem_newcomers_iff _ _ _).1 joins).2
  · intro client joins
    exact managed client ((mem_newcomers_iff _ _ _).1 joins).1

/-- Untagging ends a tag that only this member holds. -/
theorem Sound.without_refs_eq_zero_iff
    (sound : desktop.Sound) {old : Occupant}
    (live : desktop.tags.occupant? ref = some old)
    (member : client ∈ old.tag.clients) :
    (old.without client).refs = 0 ↔ old.OnlyMembers [client] := by
  have count := sound.refs_eq live
  have nonempty := List.length_pos_of_mem member
  have single :
      old.tag.clients.length = 1 ↔ old.tag.clients = [client] := by
    constructor
    · intro one
      obtain ⟨only, isOnly⟩ := List.length_eq_one_iff.1 one
      rw [isOnly] at member ⊢
      rw [List.mem_singleton.1 member]
    · intro isOnly
      rw [isOnly]
      rfl
  rw [Occupant.OnlyMembers, ← single, ← Bool.toNat_eq_zero]
  simp only [Occupant.without]
  omega

theorem tagClient_settles
    (sound : desktop.Sound) (ref : TagRef) (client : ClientId) :
    Settles desktop ref 0 (fun _ => False)
      (tagClient ref client desktop) := by
  cases known : desktop.clients.get? client with
  | none =>
      rw [tagClient_of_stranger known]
      exact .unchanged _ quiet_nil (balance_zero _) (fun _ _ => id)
  | some entry =>
      cases live : desktop.tags.occupant? ref with
      | none =>
          rw [tagClient_of_gone known live]
          exact .of_gone live _
      | some old =>
          have referred := sound.referred live
          have count := sound.refs_eq live
          by_cases member : client ∈ old.tag.clients
          · rw [tagClient_of_member known live referred member]
            exact .of_live live _ (quiet_nil.cons rfl) (balance_zero _) id
          · rw [tagClient_of_new known live member]
            apply Settles.of_settle _ live (Alteration.join known member)
            · simp only [Tag.add, List.length_append, List.length_singleton]
              omega
            · exact reports_of_quiet (Nat.succ_pos old.refs) quiet_nil
            · rw [balance_zero, Int.add_zero]
            · simp

theorem untagClient_settles
    (sound : desktop.Sound) (client : ClientId) (ref : TagRef) :
    Settles desktop ref 0 (Occupant.OnlyMembers [client])
      (untagClient client ref desktop) := by
  cases known : desktop.clients.get? client with
  | none =>
      rw [untagClient_of_stranger known]
      apply Settles.unchanged _ quiet_nil (balance_zero _)
      intro old live last
      obtain ⟨entry, managed⟩ := sound.managed_of_member live last.member
      rw [known] at managed
      cases managed
  | some entry =>
      cases live : desktop.tags.occupant? ref with
      | none =>
          rw [untagClient_of_gone known live]
          exact .of_gone live _
      | some old =>
          have count := sound.refs_eq live
          by_cases member : client ∈ old.tag.clients
          · have nodup := (sound.fit live).clients_nodup
            have nonempty := List.length_pos_of_mem member
            have shorter := List.length_erase_of_mem member
            rw [untagClient_of_member known live (sound.referred live) member]
            apply Settles.of_settle _ live
              (Alteration.part known nodup member)
            · simp only [Occupant.without, Tag.remove]
              omega
            · exact reports_parting ref _ quiet_nil
            · rw [balance_zero, Int.add_zero]
              rfl
            · exact sound.without_refs_eq_zero_iff live member
          · rw [untagClient_of_outsider known live member]
            apply Settles.of_live live _ quiet_nil (balance_zero _)
            intro last
            exact member last.member

/-- A request is a list of managed clients, up to its first client that is not. -/
theorem managed_or_stranger (table : ClientTable) (requested : List ClientId) :
    (∀ client ∈ requested, table.contains client = true) ∨
      ∃ front stranger rest,
        requested = front ++ stranger :: rest ∧
          (∀ client ∈ front, table.contains client = true) ∧
          table.contains stranger = false := by
  induction requested with
  | nil =>
      exact Or.inl (by simp)
  | cons client requested inductionHypothesis =>
      cases known : table.contains client with
      | false =>
          exact Or.inr ⟨[], client, requested, rfl, by simp, known⟩
      | true =>
          rcases inductionHypothesis with all | first
          · exact Or.inl (by simpa [known] using all)
          · obtain ⟨front, stranger, rest, split, managed, unmanaged⟩ := first
            refine Or.inr
              ⟨client :: front, stranger, rest, ?_, ?_, unmanaged⟩
            · rw [split, List.cons_append]
            · simpa [known] using managed

theorem reconciled_eq_nil_iff (members requested : List ClientId) :
    reconciled members requested = [] ↔ requested = [] := by
  constructor
  · intro empty
    obtain ⟨none, fresh⟩ := List.append_eq_nil_iff.1 empty
    apply List.eq_nil_iff_forall_not_mem.2
    intro client asked
    by_cases member : client ∈ members
    · have stays : client ∈ retained members requested := by
        simp [retained, member, asked]
      rw [none] at stays
      cases stays
    · have joins := (mem_newcomers_iff members requested client).2
        ⟨asked, member⟩
      rw [fresh] at joins
      cases joins
  · intro empty
    subst empty
    simp [reconciled, retained, newcomers]

theorem setClients_settles
    (sound : desktop.Sound) (ref : TagRef) (requested : List ClientId) :
    Settles desktop ref 0
      (fun old => requested = [] ∧ old.OnlyMembers old.tag.clients)
      (setClients ref requested desktop) := by
  cases live : desktop.tags.occupant? ref with
  | none =>
      rw [setClients_of_gone live]
      exact .of_gone live _
  | some old =>
      have referred := sound.referred live
      have crowd := sound.crowd live
      have count := sound.refs_eq live
      have fit := sound.fit live
      rcases managed_or_stranger desktop.clients requested with
        managed | ⟨front, stranger, rest, split, managed, unmanaged⟩
      · obtain ⟨log, quiet, done⟩ :=
          setClients_of_managed live crowd fit.clients_nodup
            fit.clients_managed managed
        have emptied :=
          reconciled_eq_nil_iff old.tag.clients requested
        rw [done]
        apply Settles.of_settle _ live (Alteration.reconcile managed)
        · simp only
          omega
        · exact reports_parting ref _ quiet
        · rw [balance_zero, Int.add_zero]
        · rw [← emptied, ← List.length_eq_zero_iff, Occupant.OnlyMembers,
            ← Bool.toNat_eq_zero]
          simp only [and_true]
          omega
      · subst split
        have asked : front ++ stranger :: rest ≠ [] := by simp
        by_cases late : ∀ member ∈ old.tag.clients, member ∈ front
        · obtain ⟨log, quiet, done⟩ :=
            setClients_of_late_stranger live referred crowd rest managed
              unmanaged late
          have alteration :
              Alteration desktop ref old.tag old.handles _ old.handles
                desktop.registry _ :=
            .reconcile managed
          rw [reconciled_of_subset late, dismissed_of_subset late]
            at alteration
          have remaining :
              0 < old.refs - old.tag.clients.length +
                (old.tag.clients ++
                  newcomers old.tag.clients front).length := by
            rw [List.length_append]
            omega
          rw [done]
          apply Settles.of_settle _ live alteration
          · simp only
            omega
          · exact reports_of_quiet remaining quiet
          · rw [balance_zero, Int.add_zero]
          · constructor
            · intro spent
              simp only at spent
              omega
            · intro last
              exact absurd last.1 asked
        · rw [setClients_of_early_stranger live referred crowd rest managed
            unmanaged late]
          apply Settles.of_live live _ quiet_nil (balance_zero _)
          intro last
          exact asked last.1

end Members

end Desktop

end DesktopTags
