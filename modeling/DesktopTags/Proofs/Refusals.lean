import DesktopTags.Proofs.Calls

namespace DesktopTags

open Operation

/-! ## Why a call is refused -/

/-- A name of a tag that is gone is refused. -/
def Desktop.refusedTag? (desktop : Desktop) (ref : TagRef) : Option Fault :=
  if desktop.tags.contains ref then none else some (.unknownTag ref)

/-- A client that is not managed is refused. -/
def Desktop.refusedClient? (desktop : Desktop) (client : ClientId) :
    Option Fault :=
  if desktop.clients.contains client then none
  else some (.unknownClient client)

/-- The fault that a call is refused with, if it is refused. -/
def Call.refusal? (desktop : Desktop) : Call → Option Fault
  | .newTag _ => none
  | .holdTag tag => desktop.refusedTag? tag
  | .releaseTag tag =>
      (desktop.refusedTag? tag).or
        (if desktop.tags.handles tag = 0 then some (.notHeld tag) else none)
  | .activate tag => desktop.refusedTag? tag
  | .deactivate tag => desktop.refusedTag? tag
  | .setActivated tag _ => desktop.refusedTag? tag
  | .setSelected tag _ => desktop.refusedTag? tag
  | .setName tag _ => desktop.refusedTag? tag
  | .tagClient tag client =>
      (desktop.refusedClient? client).or (desktop.refusedTag? tag)
  | .untagClient client tag =>
      (desktop.refusedClient? client).or (desktop.refusedTag? tag)
  | .setClients tag requested =>
      (desktop.refusedTag? tag).or
        (requested.findSome? desktop.refusedClient?)
  | .manageClient _ screen =>
      if desktop.hasScreen screen then none
      else some (.unknownScreen screen)
  | .unmanageClient client => desktop.refusedClient? client
  | .focusClient client => desktop.refusedClient? client
  | .unfocus => none
  | .addScreen _ => none

/-- The fault of an answer. -/
def faultOf {α : Type} : Except Fault α → Option Fault
  | .ok _ => none
  | .error fault => some fault

@[simp]
theorem faultOf_ok {α : Type} (value : α) :
    faultOf (.ok value : Except Fault α) = none :=
  rfl

@[simp]
theorem faultOf_error {α : Type} (fault : Fault) :
    faultOf (.error fault : Except Fault α) = some fault :=
  rfl

theorem faultOf_map {α β : Type} (answer : Except Fault α) (view : α → β) :
    faultOf (answer.map view) = faultOf answer := by
  cases answer <;> rfl

namespace Desktop

variable {desktop : Desktop} {ref : TagRef} {old : Occupant}
  {client : ClientId} {entry : Client}

theorem refusedTag?_of_live (live : desktop.tags.occupant? ref = some old) :
    desktop.refusedTag? ref = none := by
  simp [refusedTag?, Arena.contains, live]

theorem refusedTag?_of_gone (gone : desktop.tags.occupant? ref = none) :
    desktop.refusedTag? ref = some (.unknownTag ref) := by
  simp [refusedTag?, Arena.contains, gone]

theorem refusedClient?_of_managed
    (managed : desktop.clients.contains client = true) :
    desktop.refusedClient? client = none := by
  simp [refusedClient?, managed]

theorem refusedClient?_of_stranger
    (unmanaged : desktop.clients.contains client = false) :
    desktop.refusedClient? client = some (.unknownClient client) := by
  simp [refusedClient?, unmanaged]

/-! ## The fault of each call -/

theorem holdTag_fault (desktop : Desktop) (ref : TagRef) :
    faultOf (holdTag ref desktop).answer = desktop.refusedTag? ref := by
  cases live : desktop.tags.occupant? ref with
  | none =>
      rw [holdTag_of_gone live, refusedTag?_of_gone live, faultOf_error]
  | some old =>
      rw [holdTag_of_live live, refusedTag?_of_live live, faultOf_ok]

theorem releaseTag_fault (sound : desktop.Sound) (ref : TagRef) :
    faultOf (releaseTag ref desktop).answer =
      (desktop.refusedTag? ref).or
        (if desktop.tags.handles ref = 0 then some (.notHeld ref)
          else none) := by
  cases live : desktop.tags.occupant? ref with
  | none =>
      rw [releaseTag_of_gone live, refusedTag?_of_gone live]
      rfl
  | some old =>
      have referred := sound.referred live
      have handles : desktop.tags.handles ref = old.handles := by
        rw [Arena.handles, live, Option.elim_some]
      rw [refusedTag?_of_live live, Option.none_or, handles]
      by_cases held : 0 < old.handles
      · rw [releaseTag_of_held live referred held, faultOf_ok,
          if_neg (by omega)]
      · rw [releaseTag_of_returned live (by omega), faultOf_error,
          if_pos (by omega)]

theorem activate_fault (sound : desktop.Sound) (ref : TagRef) :
    faultOf (activate ref desktop).answer = desktop.refusedTag? ref := by
  cases live : desktop.tags.occupant? ref with
  | none =>
      rw [activate_of_gone live, refusedTag?_of_gone live, faultOf_error]
  | some old =>
      rw [refusedTag?_of_live live]
      cases active : old.tag.activated with
      | true =>
          rw [activate_of_active live active, faultOf_ok]
      | false =>
          rw [activate_of_inactive live (sound.referred live) active,
            faultOf_ok]

theorem deactivate_fault (sound : desktop.Sound) (ref : TagRef) :
    faultOf (deactivate ref desktop).answer = desktop.refusedTag? ref := by
  cases live : desktop.tags.occupant? ref with
  | none =>
      rw [deactivate_of_gone live, refusedTag?_of_gone live, faultOf_error]
  | some old =>
      rw [refusedTag?_of_live live]
      cases active : old.tag.activated with
      | true =>
          have registered := (sound.registered_iff live).2 active
          rw [deactivate_of_active live (sound.referred live) active
            registered, faultOf_ok]
      | false =>
          rw [deactivate_of_inactive live active, faultOf_ok]

theorem setActivated_fault
    (sound : desktop.Sound) (ref : TagRef) (activated : Bool) :
    faultOf (setActivated ref activated desktop).answer =
      desktop.refusedTag? ref := by
  cases activated with
  | true => exact activate_fault sound ref
  | false => exact deactivate_fault sound ref

theorem setSelected_fault
    (sound : desktop.Sound) (ref : TagRef) (selected : Bool) :
    faultOf (setSelected ref selected desktop).answer =
      desktop.refusedTag? ref := by
  cases live : desktop.tags.occupant? ref with
  | none =>
      rw [setSelected_of_gone live, refusedTag?_of_gone live, faultOf_error]
  | some old =>
      rw [refusedTag?_of_live live]
      rcases selection_cases old.tag selected with
        same | ⟨different, allowed⟩ | ⟨rfl, unselected, inactive⟩
      · rw [setSelected_of_same live same, faultOf_ok]
      · rw [setSelected_of_change live (sound.referred live) different
          allowed, faultOf_ok]
      · rw [setSelected_of_inactive live unselected inactive, faultOf_ok]

theorem setName_fault
    (sound : desktop.Sound) (ref : TagRef) (name : String) :
    faultOf (setName ref name desktop).answer = desktop.refusedTag? ref := by
  cases live : desktop.tags.occupant? ref with
  | none =>
      rw [setName_of_gone live, refusedTag?_of_gone live, faultOf_error]
  | some old =>
      rw [setName_of_live live (sound.referred live),
        refusedTag?_of_live live, faultOf_ok]

/-- A client is looked up before the tag is. -/
theorem refusedClient?_cases (desktop : Desktop) (client : ClientId) :
    (desktop.clients.get? client = none ∧
        desktop.refusedClient? client = some (.unknownClient client)) ∨
      ∃ entry, desktop.clients.get? client = some entry ∧
        desktop.refusedClient? client = none := by
  cases known : desktop.clients.get? client with
  | none =>
      have unmanaged :=
        (ClientTable.contains_eq_false_iff desktop.clients client).2 known
      exact Or.inl ⟨rfl, refusedClient?_of_stranger unmanaged⟩
  | some entry =>
      have managed :=
        (ClientTable.contains_iff desktop.clients client).2 ⟨entry, known⟩
      exact Or.inr ⟨entry, rfl, refusedClient?_of_managed managed⟩

theorem tagClient_fault
    (sound : desktop.Sound) (ref : TagRef) (client : ClientId) :
    faultOf (tagClient ref client desktop).answer =
      (desktop.refusedClient? client).or (desktop.refusedTag? ref) := by
  rcases refusedClient?_cases desktop client with
    ⟨stranger, refused⟩ | ⟨entry, managed, passed⟩
  · rw [tagClient_of_stranger stranger, refused]
    rfl
  · rw [passed, Option.none_or]
    cases live : desktop.tags.occupant? ref with
    | none =>
        rw [tagClient_of_gone managed live, refusedTag?_of_gone live,
          faultOf_error]
    | some old =>
        rw [refusedTag?_of_live live]
        by_cases member : client ∈ old.tag.clients
        · rw [tagClient_of_member managed live (sound.referred live) member,
            faultOf_ok]
        · rw [tagClient_of_new managed live member, faultOf_ok]

theorem untagClient_fault
    (sound : desktop.Sound) (client : ClientId) (ref : TagRef) :
    faultOf (untagClient client ref desktop).answer =
      (desktop.refusedClient? client).or (desktop.refusedTag? ref) := by
  rcases refusedClient?_cases desktop client with
    ⟨stranger, refused⟩ | ⟨entry, managed, passed⟩
  · rw [untagClient_of_stranger stranger, refused]
    rfl
  · rw [passed, Option.none_or]
    cases live : desktop.tags.occupant? ref with
    | none =>
        rw [untagClient_of_gone managed live, refusedTag?_of_gone live,
          faultOf_error]
    | some old =>
        rw [refusedTag?_of_live live]
        by_cases member : client ∈ old.tag.clients
        · rw [untagClient_of_member managed live (sound.referred live)
            member, faultOf_ok]
        · rw [untagClient_of_outsider managed live member, faultOf_ok]

theorem setClients_fault
    (sound : desktop.Sound) (ref : TagRef) (requested : List ClientId) :
    faultOf (setClients ref requested desktop).answer =
      (desktop.refusedTag? ref).or
        (requested.findSome? desktop.refusedClient?) := by
  cases live : desktop.tags.occupant? ref with
  | none =>
      rw [setClients_of_gone live, refusedTag?_of_gone live]
      rfl
  | some old =>
      have referred := sound.referred live
      have crowd := sound.crowd live
      have fit := sound.fit live
      rw [refusedTag?_of_live live, Option.none_or]
      rcases managed_or_stranger desktop.clients requested with
        managed | ⟨front, stranger, rest, split, managed, unmanaged⟩
      · obtain ⟨log, quiet, done⟩ :=
          setClients_of_managed live crowd fit.clients_nodup
            fit.clients_managed managed
        rw [done, faultOf_ok, eq_comm, List.findSome?_eq_none_iff]
        intro client asked
        exact refusedClient?_of_managed (managed client asked)
      · subst split
        have passed : front.findSome? desktop.refusedClient? = none := by
          apply List.findSome?_eq_none_iff.2
          intro client asked
          exact refusedClient?_of_managed (managed client asked)
        rw [List.findSome?_append, passed, Option.none_or,
          List.findSome?_cons, refusedClient?_of_stranger unmanaged]
        by_cases late : ∀ member ∈ old.tag.clients, member ∈ front
        · obtain ⟨log, quiet, done⟩ :=
            setClients_of_late_stranger live referred crowd rest managed
              unmanaged late
          rw [done, faultOf_error]
        · rw [setClients_of_early_stranger live referred crowd rest managed
            unmanaged late, faultOf_error]

theorem manageClient_fault
    (desktop : Desktop) (client : ClientId) (screen : ScreenId) :
    faultOf (manageClient client screen desktop).answer =
      if desktop.hasScreen screen then none
      else some (.unknownScreen screen) := by
  cases known : desktop.hasScreen screen with
  | false =>
      rw [manageClient_of_unknown known, faultOf_error]
      rfl
  | true =>
      rw [if_pos rfl]
      cases managed : desktop.clients.contains client with
      | true =>
          rw [manageClient_of_managed known managed, faultOf_ok]
      | false =>
          rw [manageClient_of_new known managed, faultOf_ok]

theorem unmanageClient_fault (sound : desktop.Sound) (client : ClientId) :
    faultOf (unmanageClient client desktop).answer =
      desktop.refusedClient? client := by
  rcases refusedClient?_cases desktop client with
    ⟨stranger, refused⟩ | ⟨entry, managed, passed⟩
  · rw [unmanageClient_of_stranger stranger, refused, faultOf_error]
  · obtain ⟨after, log, done, _⟩ := unmanageClient_of_managed sound managed
    rw [done, passed, faultOf_ok]

theorem focusClient_fault (desktop : Desktop) (client : ClientId) :
    faultOf (focusClient client desktop).answer =
      desktop.refusedClient? client := by
  rcases refusedClient?_cases desktop client with
    ⟨stranger, refused⟩ | ⟨entry, managed, passed⟩
  · rw [focusClient_of_stranger stranger, refused, faultOf_error]
  · rw [focusClient_of_managed managed, passed, faultOf_ok]

/-- A call is refused exactly with the fault that its arguments call for. -/
theorem Sound.run_fault (sound : desktop.Sound) (call : Call) :
    faultOf (call.run desktop).answer = call.refusal? desktop := by
  cases call with
  | newTag name => rfl
  | unfocus => rfl
  | addScreen output => rfl
  | setClients tag requested =>
      rw [Call.run, bind_pure_apply, faultOf_map]
      exact setClients_fault sound tag requested
  | holdTag tag =>
      rw [Call.run, Call.thenDone_apply, faultOf_map]
      exact holdTag_fault desktop tag
  | releaseTag tag =>
      rw [Call.run, Call.thenDone_apply, faultOf_map]
      exact releaseTag_fault sound tag
  | activate tag =>
      rw [Call.run, Call.thenDone_apply, faultOf_map]
      exact activate_fault sound tag
  | deactivate tag =>
      rw [Call.run, Call.thenDone_apply, faultOf_map]
      exact deactivate_fault sound tag
  | setActivated tag activated =>
      rw [Call.run, Call.thenDone_apply, faultOf_map]
      exact setActivated_fault sound tag activated
  | setSelected tag selected =>
      rw [Call.run, Call.thenDone_apply, faultOf_map]
      exact setSelected_fault sound tag selected
  | setName tag name =>
      rw [Call.run, Call.thenDone_apply, faultOf_map]
      exact setName_fault sound tag name
  | tagClient tag client =>
      rw [Call.run, Call.thenDone_apply, faultOf_map]
      exact tagClient_fault sound tag client
  | untagClient client tag =>
      rw [Call.run, Call.thenDone_apply, faultOf_map]
      exact untagClient_fault sound client tag
  | manageClient client screen =>
      rw [Call.run, Call.thenDone_apply, faultOf_map]
      exact manageClient_fault desktop client screen
  | unmanageClient client =>
      rw [Call.run, Call.thenDone_apply, faultOf_map]
      exact unmanageClient_fault sound client
  | focusClient client =>
      rw [Call.run, Call.thenDone_apply, faultOf_map]
      exact focusClient_fault desktop client

theorem refusedTag?_ne_notHeld (desktop : Desktop) (tag ref : TagRef) :
    desktop.refusedTag? tag ≠ some (.notHeld ref) := by
  unfold refusedTag?
  split <;> simp

theorem refusedClient?_ne_notHeld
    (desktop : Desktop) (client : ClientId) (ref : TagRef) :
    desktop.refusedClient? client ≠ some (.notHeld ref) := by
  unfold refusedClient?
  split <;> simp

/-- Only giving back a handle that nobody holds finds nothing to give back. -/
theorem returned_of_refusal
    {call : Call} (refused : call.refusal? desktop = some (.notHeld ref)) :
    call = .releaseTag ref ∧ desktop.tags.contains ref = true ∧
      desktop.tags.handles ref = 0 := by
  have tags := refusedTag?_ne_notHeld desktop
  have clients := refusedClient?_ne_notHeld desktop
  cases call with
  | releaseTag tag =>
      simp only [Call.refusal?, Option.or_eq_some_iff, tags, false_or]
        at refused
      obtain ⟨passed, returned⟩ := refused
      by_cases none : desktop.tags.handles tag = 0
      · rw [if_pos none] at returned
        cases returned
        refine ⟨rfl, ?_, none⟩
        unfold refusedTag? at passed
        split at passed
        · assumption
        · cases passed
      · rw [if_neg none] at returned
        cases returned
  | setClients tag requested =>
      simp only [Call.refusal?, Option.or_eq_some_iff, tags, false_or]
        at refused
      obtain ⟨client, _, found⟩ := List.exists_of_findSome?_eq_some refused.2
      exact absurd found (clients client ref)
  | manageClient client screen =>
      simp only [Call.refusal?] at refused
      split at refused <;> cases refused
  | _ => simp [Call.refusal?, tags, clients] at refused

end Desktop

end DesktopTags
