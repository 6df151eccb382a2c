import DesktopTags.Proofs.Membership

namespace DesktopTags.Desktop

open Operation

/-! ## Members and requests as lists -/

section Lists

/-- The members that a request keeps, in their order. -/
def retained (members requested : List ClientId) : List ClientId :=
  members.filter fun member => requested.contains member

/-- The members that a request drops, in their order. -/
def dismissed (members requested : List ClientId) : List ClientId :=
  members.filter fun member => !requested.contains member

/-- The requested clients that are no members yet, each where it occurs first. -/
def newcomers (members requested : List ClientId) : List ClientId :=
  (requested.filter fun client => !members.contains client).eraseDups

/-- The members after a request. -/
def reconciled (members requested : List ClientId) : List ClientId :=
  retained members requested ++ newcomers members requested

theorem mem_newcomers_iff
    (members requested : List ClientId) (client : ClientId) :
    client ∈ newcomers members requested ↔
      client ∈ requested ∧ client ∉ members := by
  simp [newcomers, List.mem_eraseDups]

theorem newcomers_cons_of_mem
    {members : List ClientId} {client : ClientId}
    (member : client ∈ members) (rest : List ClientId) :
    newcomers members (client :: rest) = newcomers members rest := by
  simp [newcomers, member]

theorem newcomers_cons_of_notMem
    {members : List ClientId} {client : ClientId}
    (new : client ∉ members) (rest : List ClientId) :
    newcomers members (client :: rest) =
      client :: newcomers (members ++ [client]) rest := by
  have later :
      (rest.filter fun other => !members.contains other).filter
          (fun other => !other == client) =
        rest.filter fun other => !(members ++ [client]).contains other := by
    rw [List.filter_filter]
    apply List.filter_congr
    intro other _
    by_cases same : other = client
    · simp [same]
    · simp [same]
  unfold newcomers
  rw [List.filter_cons_of_pos (by simpa using new), List.eraseDups_cons, later]

theorem newcomers_nodup (members requested : List ClientId) :
    (newcomers members requested).Nodup := by
  induction requested generalizing members with
  | nil =>
      simp [newcomers]
  | cons client rest inductionHypothesis =>
      by_cases member : client ∈ members
      · rw [newcomers_cons_of_mem member]
        exact inductionHypothesis members
      · rw [newcomers_cons_of_notMem member]
        refine List.nodup_cons.2 ⟨?_, inductionHypothesis _⟩
        simp [mem_newcomers_iff]

/-- Dropping members that are not requested leaves the newcomers the same. -/
theorem newcomers_retained (members requested : List ClientId) :
    newcomers (retained members requested) requested =
      newcomers members requested := by
  unfold newcomers
  congr 1
  apply List.filter_congr
  intro client asked
  simp [retained, asked]

theorem retained_of_subset
    {members requested : List ClientId}
    (subset : ∀ member ∈ members, member ∈ requested) :
    retained members requested = members := by
  apply List.filter_eq_self.2
  simpa using subset

theorem dismissed_of_subset
    {members requested : List ClientId}
    (subset : ∀ member ∈ members, member ∈ requested) :
    dismissed members requested = [] := by
  apply List.filter_eq_nil_iff.2
  simpa using subset

theorem reconciled_of_subset
    {members requested : List ClientId}
    (subset : ∀ member ∈ members, member ∈ requested) :
    reconciled members requested =
      members ++ newcomers members requested := by
  rw [reconciled, retained_of_subset subset]

/-- After a request the members are just the requested clients. -/
theorem mem_reconciled_iff
    (members requested : List ClientId) (client : ClientId) :
    client ∈ reconciled members requested ↔ client ∈ requested := by
  rw [reconciled, List.mem_append, mem_newcomers_iff, retained,
    List.mem_filter, List.contains_iff_mem]
  by_cases member : client ∈ members
  · simp [member]
  · simp [member]

/-- Nobody joins who is a member already. -/
theorem newcomers_of_subset
    {members requested : List ClientId}
    (known : ∀ client ∈ requested, client ∈ members) :
    newcomers members requested = [] := by
  apply List.eq_nil_iff_forall_not_mem.2
  intro client joins
  obtain ⟨asked, new⟩ := (mem_newcomers_iff members requested client).1 joins
  exact new (known client asked)

end Lists

/-- What is queued when the clients of a list join a tag, one after the other. -/
def tagBlocks (table : ClientTable) (ref : TagRef) (clients : List ClientId) :
    List Effect :=
  clients.flatMap fun client =>
    (table.get? client).elim [] fun entry =>
      Effect.tagBlock ref client entry.screen

/-- What is queued when the clients of a list leave a tag, one after the other. -/
def untagBlocks (table : ClientTable) (ref : TagRef) (clients : List ClientId) :
    List Effect :=
  clients.flatMap fun client =>
    (table.get? client).elim [] fun entry =>
      Effect.untagBlock ref client entry.screen

theorem tagBlocks_cons
    {table : ClientTable} {client : ClientId} {entry : Client}
    (managed : table.get? client = some entry)
    (ref : TagRef) (rest : List ClientId) :
    tagBlocks table ref (client :: rest) =
      Effect.tagBlock ref client entry.screen ++ tagBlocks table ref rest := by
  simp [tagBlocks, managed]

theorem untagBlocks_cons
    {table : ClientTable} {client : ClientId} {entry : Client}
    (managed : table.get? client = some entry)
    (ref : TagRef) (rest : List ClientId) :
    untagBlocks table ref (client :: rest) =
      Effect.untagBlock ref client entry.screen ++
        untagBlocks table ref rest := by
  simp [untagBlocks, managed]

/-! ## Searching a request -/

section Search

variable {desktop : Desktop}

theorem isRequested_of_managed
    (member : ClientId) {requested : List ClientId}
    (managed : ∀ client ∈ requested, desktop.clients.contains client = true) :
    desktop.isRequested member requested = .ok (requested.contains member) := by
  induction requested with
  | nil =>
      rfl
  | cons client rest inductionHypothesis =>
      have restManaged :
          ∀ other ∈ rest, desktop.clients.contains other = true := by
        intro other inRest
        exact managed other (List.mem_cons_of_mem client inRest)
      have clientManaged := managed client (by simp)
      by_cases same : client = member
      · subst same
        simp [isRequested, clientManaged]
      · have different : ¬ member = client := fun equal => same equal.symm
        simp [isRequested, clientManaged, same, different,
          inductionHypothesis restManaged]

/-- The search for a member ends at the first client that is not managed, unless
the member comes first. -/
theorem isRequested_of_stranger
    (member : ClientId) {front : List ClientId}
    {stranger : ClientId} (rest : List ClientId)
    (managed : ∀ client ∈ front, desktop.clients.contains client = true)
    (unmanaged : desktop.clients.contains stranger = false) :
    desktop.isRequested member (front ++ stranger :: rest) =
      if member ∈ front then .ok true
      else .error (.unknownClient stranger) := by
  induction front with
  | nil =>
      simp [isRequested, unmanaged]
  | cons client front inductionHypothesis =>
      have frontManaged :
          ∀ other ∈ front, desktop.clients.contains other = true := by
        intro other inFront
        exact managed other (List.mem_cons_of_mem client inFront)
      have clientManaged := managed client (by simp)
      by_cases same : client = member
      · subst same
        simp [isRequested, clientManaged]
      · have different : ¬ member = client := fun equal => same equal.symm
        simp [isRequested, clientManaged, same, different,
          inductionHypothesis frontManaged]

end Search

/-! ## A tag whose members come and go -/

/-- A desktop on which a tag has been given members and `spare` references
beside theirs, and effects have been queued. -/
def staffed
    (desktop : Desktop) (ref : TagRef) (old : Occupant)
    (spare : Nat) (members : List ClientId) (effects : List Effect) :
    Desktop :=
  (desktop.settle ref
    { old with
      tag := { old.tag with clients := members }
      refs := spare + members.length }).announce effects

section Staffed

variable {desktop : Desktop} {ref : TagRef} {old : Occupant} {spare : Nat}

theorem occupant?_staffed
    (live : desktop.tags.occupant? ref = some old) (kept : 0 < spare)
    (members : List ClientId) (effects : List Effect) :
    (desktop.staffed ref old spare members effects).tags.occupant? ref =
      some { old with
        tag := { old.tag with clients := members }
        refs := spare + members.length } := by
  apply occupant?_settle_self live
  simp only
  omega

theorem settle_staffed
    (kept : 0 < spare) (members : List ClientId) (effects : List Effect)
    (new : Occupant) :
    (desktop.staffed ref old spare members effects).settle ref new =
      (desktop.settle ref new).announce effects := by
  rw [staffed, settle_announce, settle_settle]
  simp only
  omega

theorem untagClient_staffed
    (live : desktop.tags.occupant? ref = some old) (kept : 0 < spare)
    {client : ClientId} {entry : Client}
    (managed : desktop.clients.get? client = some entry)
    {members : List ClientId} (member : client ∈ members)
    (effects : List Effect) :
    untagClient client ref (desktop.staffed ref old spare members effects) =
      ⟨.ok (),
        desktop.staffed ref old spare (members.erase client)
          (effects ++ Effect.untagBlock ref client entry.screen),
        []⟩ := by
  have nonempty := List.length_pos_of_mem member
  have shorter := List.length_erase_of_mem member
  have count :
      spare + members.length - 1 = spare + (members.erase client).length := by
    omega
  rw [untagClient_of_member (by exact managed)
    (occupant?_staffed live kept members effects)
    (by simp only; omega) (by exact member)]
  simp only [Occupant.without, Tag.remove, count]
  rw [parting_of_pos ref (by simp only; omega), settle_staffed kept,
    announce_announce, staffed]

theorem tagClient_staffed_of_notMem
    (live : desktop.tags.occupant? ref = some old) (kept : 0 < spare)
    {client : ClientId} {entry : Client}
    (managed : desktop.clients.get? client = some entry)
    {members : List ClientId} (new : client ∉ members)
    (effects : List Effect) :
    tagClient ref client (desktop.staffed ref old spare members effects) =
      ⟨.ok (),
        desktop.staffed ref old spare (members ++ [client])
          (effects ++ Effect.tagBlock ref client entry.screen),
        []⟩ := by
  have count :
      spare + members.length + 1 = spare + (members ++ [client]).length := by
    rw [List.length_append, List.length_singleton]
    omega
  rw [tagClient_of_new (by exact managed)
    (occupant?_staffed live kept members effects) (by exact new)]
  rw [settle_staffed kept, announce_announce]
  simp only [staffed, Tag.add, count]

theorem tagClient_staffed_of_mem
    (live : desktop.tags.occupant? ref = some old) (kept : 0 < spare)
    {client : ClientId} {entry : Client}
    (managed : desktop.clients.get? client = some entry)
    {members : List ClientId} (member : client ∈ members)
    (effects : List Effect) :
    tagClient ref client (desktop.staffed ref old spare members effects) =
      ⟨.ok (), desktop.staffed ref old spare members effects,
        [.alreadyTagged client ref]⟩ :=
  tagClient_of_member (by exact managed)
    (occupant?_staffed live kept members effects)
    (by simp only; omega) (by exact member)

/-! ## The two passes -/

/-- The first pass drops the members that are not requested. -/
theorem forAll_keepRequested
    (live : desktop.tags.occupant? ref = some old) (kept : 0 < spare)
    {requested : List ClientId}
    (managed : ∀ client ∈ requested, desktop.clients.contains client = true)
    (pending : List ClientId)
    (pendingManaged :
      ∀ client ∈ pending, desktop.clients.contains client = true)
    (passed : List ClientId) (nodup : (passed ++ pending).Nodup)
    (effects : List Effect) :
    forAll (keepRequested ref requested) pending
        (desktop.staffed ref old spare (passed ++ pending) effects) =
      ⟨.ok (),
        desktop.staffed ref old spare (passed ++ retained pending requested)
          (effects ++
            untagBlocks desktop.clients ref (dismissed pending requested)),
        []⟩ := by
  induction pending generalizing passed effects with
  | nil =>
      simp [forAll, retained, dismissed, untagBlocks]
  | cons client rest inductionHypothesis =>
      have restManaged :
          ∀ other ∈ rest, desktop.clients.contains other = true := by
        intro other inRest
        exact pendingManaged other (List.mem_cons_of_mem client inRest)
      have searched :
          (desktop.staffed ref old spare (passed ++ client :: rest)
            effects).isRequested client requested =
              .ok (requested.contains client) :=
        isRequested_of_managed client (by exact managed)
      by_cases asked : client ∈ requested
      · have stays :
            keepRequested ref requested client
                (desktop.staffed ref old spare (passed ++ client :: rest)
                  effects) =
              ⟨.ok (),
                desktop.staffed ref old spare (passed ++ client :: rest)
                  effects, []⟩ := by
          rw [keepRequested, ask_bind_of_ok searched]
          simp [asked]
        have moved : passed ++ client :: rest = (passed ++ [client]) ++ rest := by
          simp
        rw [forAll, bind_of_quiet stays, moved,
          inductionHypothesis restManaged _ (moved ▸ nodup)]
        simp [retained, dismissed, asked]
      · obtain ⟨entry, found⟩ :=
          (ClientTable.contains_iff desktop.clients client).1
            (pendingManaged client (by simp))
        have absent : client ∉ passed := by
          intro member
          have apart := (List.nodup_append.1 nodup).2.2
          exact apart client member client (by simp) rfl
        have erased :
            (passed ++ client :: rest).erase client = passed ++ rest := by
          rw [List.erase_append_right _ absent, List.erase_cons_head]
        have leaves :
            keepRequested ref requested client
                (desktop.staffed ref old spare (passed ++ client :: rest)
                  effects) =
              ⟨.ok (),
                desktop.staffed ref old spare (passed ++ rest)
                  (effects ++ Effect.untagBlock ref client entry.screen),
                []⟩ := by
          rw [keepRequested, ask_bind_of_ok searched, ← erased]
          simp only [List.contains_iff_mem, asked, if_false]
          exact untagClient_staffed live kept found (by simp) effects
        have shorter : (passed ++ rest).Nodup := erased ▸ nodup.erase client
        rw [forAll, bind_of_quiet leaves,
          inductionHypothesis restManaged passed shorter]
        simp [retained, dismissed, asked, untagBlocks_cons found]

/-- The second pass adds the requested clients that are no members. -/
theorem forAll_tagClient
    (live : desktop.tags.occupant? ref = some old) (kept : 0 < spare)
    (requested : List ClientId)
    (managed : ∀ client ∈ requested, desktop.clients.contains client = true)
    (members : List ClientId) (effects : List Effect) :
    ∃ log, Quiet log ∧
      forAll (tagClient ref) requested
          (desktop.staffed ref old spare members effects) =
        ⟨.ok (),
          desktop.staffed ref old spare
            (members ++ newcomers members requested)
            (effects ++
              tagBlocks desktop.clients ref (newcomers members requested)),
          log⟩ := by
  induction requested generalizing members effects with
  | nil =>
      refine ⟨[], quiet_nil, ?_⟩
      simp [forAll, newcomers, tagBlocks]
  | cons client rest inductionHypothesis =>
      have restManaged :
          ∀ other ∈ rest, desktop.clients.contains other = true := by
        intro other inRest
        exact managed other (List.mem_cons_of_mem client inRest)
      obtain ⟨entry, found⟩ :=
        (ClientTable.contains_iff desktop.clients client).1
          (managed client (by simp))
      by_cases member : client ∈ members
      · obtain ⟨log, quiet, done⟩ :=
          inductionHypothesis restManaged members effects
        refine ⟨.alreadyTagged client ref :: log, quiet.cons rfl, ?_⟩
        rw [forAll, bind_of_ok
          (tagClient_staffed_of_mem live kept found member effects),
          done, newcomers_cons_of_mem member]
        rfl
      · obtain ⟨log, quiet, done⟩ :=
          inductionHypothesis restManaged (members ++ [client])
            (effects ++ Effect.tagBlock ref client entry.screen)
        refine ⟨log, quiet, ?_⟩
        rw [forAll, bind_of_quiet
          (tagClient_staffed_of_notMem live kept found member effects),
          done, newcomers_cons_of_notMem member, tagBlocks_cons found]
        simp

/-- The second pass stops at the first client that is not managed. -/
theorem forAll_tagClient_of_stranger
    (live : desktop.tags.occupant? ref = some old) (kept : 0 < spare)
    {front : List ClientId} {stranger : ClientId} (rest : List ClientId)
    (managed : ∀ client ∈ front, desktop.clients.contains client = true)
    (unmanaged : desktop.clients.contains stranger = false)
    (members : List ClientId) (effects : List Effect) :
    ∃ log, Quiet log ∧
      forAll (tagClient ref) (front ++ stranger :: rest)
          (desktop.staffed ref old spare members effects) =
        ⟨.error (.unknownClient stranger),
          desktop.staffed ref old spare
            (members ++ newcomers members front)
            (effects ++
              tagBlocks desktop.clients ref (newcomers members front)),
          log⟩ := by
  obtain ⟨log, quiet, done⟩ :=
    forAll_tagClient live kept front managed members effects
  have unknown :=
    (ClientTable.contains_eq_false_iff desktop.clients stranger).1 unmanaged
  refine ⟨log, quiet, ?_⟩
  rw [forAll_append, bind_of_ok done, forAll,
    bind_of_error (tagClient_of_stranger (by exact unknown) ref),
    List.append_nil]

end Staffed

/-! ## Setting all members at once -/

section Outcome

variable {desktop : Desktop} {ref : TagRef} {old : Occupant}

theorem clientsOf_of_live (live : desktop.tags.occupant? ref = some old) :
    desktop.clientsOf ref = .ok old.tag.clients := by
  simp [clientsOf, tag_of_live live, Except.map]

theorem setClients_of_gone
    (gone : desktop.tags.occupant? ref = none) (requested : List ClientId) :
    setClients ref requested desktop =
      ⟨.error (.unknownTag ref), desktop, []⟩ := by
  rw [setClients, bind_of_error (acquire_of_gone gone)]

/-- The reference taken first is the spare one that keeps the tag alive. -/
theorem acquire_staffed
    (live : desktop.tags.occupant? ref = some old)
    (crowd : old.tag.clients.length ≤ old.refs) :
    acquire ref desktop =
      ⟨.ok (),
        desktop.staffed ref old (old.refs - old.tag.clients.length + 1)
          old.tag.clients [],
        []⟩ := by
  have count :
      old.refs + 1 =
        old.refs - old.tag.clients.length + 1 + old.tag.clients.length := by
    omega
  rw [acquire_of_live live, staffed, announce_nil, count]

/-- Giving the spare reference back ends the call. -/
theorem releaseReference_staffed
    (live : desktop.tags.occupant? ref = some old) (spare : Nat)
    (members : List ClientId) (effects : List Effect) :
    releaseReference ref
        (desktop.staffed ref old (spare + 1) members effects) =
      ⟨.ok (),
        desktop.staffed ref old spare members effects,
        parting ref
          { old with
            tag := { old.tag with clients := members }
            refs := spare + members.length }⟩ := by
  have count : spare + 1 + members.length - 1 = spare + members.length := by
    omega
  rw [releaseReference_of_live
    (occupant?_staffed live (by omega) members effects)
    (by simp only; omega), settle_staffed (by omega)]
  simp only [count, staffed]

/-- The call as a whole, from what happens while the spare reference is held. -/
theorem setClients_of_reconcile
    (live : desktop.tags.occupant? ref = some old)
    (crowd : old.tag.clients.length ≤ old.refs)
    {requested members : List ClientId} {effects : List Effect}
    {answer : Except Fault (List ClientId)} {log : List LogEvent}
    (inner :
      reconcile ref requested
          (desktop.staffed ref old
            (old.refs - old.tag.clients.length + 1) old.tag.clients []) =
        ⟨answer,
          desktop.staffed ref old
            (old.refs - old.tag.clients.length + 1) members effects,
          log⟩) :
    setClients ref requested desktop =
      ⟨answer,
        desktop.staffed ref old (old.refs - old.tag.clients.length)
          members effects,
        log ++ parting ref
          { old with
            tag := { old.tag with clients := members }
            refs := old.refs - old.tag.clients.length + members.length }⟩ := by
  rw [setClients, bind_of_quiet (acquire_staffed live crowd),
    bind_of_ok (attempt_apply _ _), inner,
    bind_of_ok (releaseReference_staffed live _ _ _)]
  simp only [ask, List.append_nil]

/-- A request of managed clients is carried out as a whole. -/
theorem setClients_of_managed
    (live : desktop.tags.occupant? ref = some old)
    (crowd : old.tag.clients.length ≤ old.refs)
    (nodup : old.tag.clients.Nodup)
    (membersManaged :
      ∀ client ∈ old.tag.clients, desktop.clients.contains client = true)
    {requested : List ClientId}
    (managed : ∀ client ∈ requested, desktop.clients.contains client = true) :
    ∃ log, Quiet log ∧
      setClients ref requested desktop =
        ⟨.ok (reconciled old.tag.clients requested),
          desktop.staffed ref old (old.refs - old.tag.clients.length)
            (reconciled old.tag.clients requested)
            (untagBlocks desktop.clients ref
                (dismissed old.tag.clients requested) ++
              tagBlocks desktop.clients ref
                (newcomers old.tag.clients requested)),
          log ++ parting ref
            { old with
              tag :=
                { old.tag with
                  clients := reconciled old.tag.clients requested }
              refs :=
                old.refs - old.tag.clients.length +
                  (reconciled old.tag.clients requested).length }⟩ := by
  have kept : 0 < old.refs - old.tag.clients.length + 1 := by omega
  have listed := clientsOf_of_live
    (occupant?_staffed live kept old.tag.clients [])
  have dropped := forAll_keepRequested live kept managed
    old.tag.clients membersManaged [] nodup []
  simp only [List.nil_append] at dropped
  obtain ⟨log, quiet, added⟩ := forAll_tagClient live kept requested managed
    (retained old.tag.clients requested)
    (untagBlocks desktop.clients ref (dismissed old.tag.clients requested))
  rw [newcomers_retained] at added
  have settled := clientsOf_of_live
    (occupant?_staffed live kept (reconciled old.tag.clients requested)
      (untagBlocks desktop.clients ref (dismissed old.tag.clients requested) ++
        tagBlocks desktop.clients ref
          (newcomers old.tag.clients requested)))
  refine ⟨log ++ [.reconciled ref requested.length],
    quiet.append (quiet_nil.cons rfl), setClients_of_reconcile live crowd ?_⟩
  rw [reconcile, ask_bind_of_ok listed]
  simp only
  rw [bind_of_quiet dropped, bind_of_ok added, bind_of_ok (report_apply _ _)]
  simp only [ask, reconciled] at settled ⊢
  rw [settled, List.append_nil]

/-! ## Requests with a client that is not managed -/

/-- Before such a client is reached no member is dropped. If the client comes
before some member, the first pass ends there. -/
theorem forAll_keepRequested_of_stranger
    (desktop : Desktop) (ref : TagRef)
    {front : List ClientId} {stranger : ClientId} (rest : List ClientId)
    (managed : ∀ client ∈ front, desktop.clients.contains client = true)
    (unmanaged : desktop.clients.contains stranger = false)
    (pending : List ClientId) :
    forAll (keepRequested ref (front ++ stranger :: rest)) pending desktop =
      if ∀ member ∈ pending, member ∈ front then
        ⟨.ok (), desktop, []⟩
      else
        ⟨.error (.unknownClient stranger), desktop, []⟩ := by
  induction pending with
  | nil =>
      simp [forAll]
  | cons member pending inductionHypothesis =>
      have searched := isRequested_of_stranger member rest managed unmanaged
      by_cases asked : member ∈ front
      · have stays :
            keepRequested ref (front ++ stranger :: rest) member desktop =
              ⟨.ok (), desktop, []⟩ := by
          rw [if_pos asked] at searched
          rw [keepRequested, ask_bind_of_ok searched]
          rfl
        rw [forAll, bind_of_quiet stays, inductionHypothesis]
        simp only [List.forall_mem_cons, asked, true_and]
      · have refused :
            keepRequested ref (front ++ stranger :: rest) member desktop =
              ⟨.error (.unknownClient stranger), desktop, []⟩ := by
          rw [if_neg asked] at searched
          rw [keepRequested, ask_bind_of_error searched]
        rw [forAll, bind_of_error refused, if_neg]
        intro all
        exact asked (all member (by simp))

/-- If some member is not requested before the client that is not managed, the
call changes nothing. -/
theorem setClients_of_early_stranger
    (live : desktop.tags.occupant? ref = some old)
    (referred : 0 < old.refs)
    (crowd : old.tag.clients.length ≤ old.refs)
    {front : List ClientId} {stranger : ClientId} (rest : List ClientId)
    (managed : ∀ client ∈ front, desktop.clients.contains client = true)
    (unmanaged : desktop.clients.contains stranger = false)
    (early : ¬ ∀ member ∈ old.tag.clients, member ∈ front) :
    setClients ref (front ++ stranger :: rest) desktop =
      ⟨.error (.unknownClient stranger), desktop, []⟩ := by
  have kept : 0 < old.refs - old.tag.clients.length + 1 := by omega
  have listed := clientsOf_of_live
    (occupant?_staffed live kept old.tag.clients [])
  have stopped := forAll_keepRequested_of_stranger
    (desktop.staffed ref old
      (old.refs - old.tag.clients.length + 1) old.tag.clients [])
    ref rest managed unmanaged old.tag.clients
  rw [if_neg early] at stopped
  have count :
      old.refs - old.tag.clients.length + old.tag.clients.length =
        old.refs := by
    omega
  have inner :
      reconcile ref (front ++ stranger :: rest)
          (desktop.staffed ref old
            (old.refs - old.tag.clients.length + 1) old.tag.clients []) =
        ⟨.error (.unknownClient stranger),
          desktop.staffed ref old
            (old.refs - old.tag.clients.length + 1) old.tag.clients [],
          []⟩ := by
    rw [reconcile, ask_bind_of_ok listed]
    simp only
    rw [bind_of_error stopped]
  rw [setClients_of_reconcile live crowd inner, staffed, announce_nil, count,
    settle_self live referred, parting_of_pos ref (by exact referred),
    List.nil_append]

/-- If every member is requested before the client that is not managed, the call
tags what comes before that client. -/
theorem setClients_of_late_stranger
    (live : desktop.tags.occupant? ref = some old)
    (referred : 0 < old.refs)
    (crowd : old.tag.clients.length ≤ old.refs)
    {front : List ClientId} {stranger : ClientId} (rest : List ClientId)
    (managed : ∀ client ∈ front, desktop.clients.contains client = true)
    (unmanaged : desktop.clients.contains stranger = false)
    (late : ∀ member ∈ old.tag.clients, member ∈ front) :
    ∃ log, Quiet log ∧
      setClients ref (front ++ stranger :: rest) desktop =
        ⟨.error (.unknownClient stranger),
          desktop.staffed ref old (old.refs - old.tag.clients.length)
            (old.tag.clients ++ newcomers old.tag.clients front)
            (tagBlocks desktop.clients ref
              (newcomers old.tag.clients front)),
          log⟩ := by
  have kept : 0 < old.refs - old.tag.clients.length + 1 := by omega
  have listed := clientsOf_of_live
    (occupant?_staffed live kept old.tag.clients [])
  have passed := forAll_keepRequested_of_stranger
    (desktop.staffed ref old
      (old.refs - old.tag.clients.length + 1) old.tag.clients [])
    ref rest managed unmanaged old.tag.clients
  rw [if_pos late] at passed
  obtain ⟨log, quiet, stopped⟩ := forAll_tagClient_of_stranger live kept rest
    managed unmanaged old.tag.clients []
  have inner :
      reconcile ref (front ++ stranger :: rest)
          (desktop.staffed ref old
            (old.refs - old.tag.clients.length + 1) old.tag.clients []) =
        ⟨.error (.unknownClient stranger),
          desktop.staffed ref old (old.refs - old.tag.clients.length + 1)
            (old.tag.clients ++ newcomers old.tag.clients front)
            (tagBlocks desktop.clients ref
              (newcomers old.tag.clients front)),
          log⟩ := by
    rw [reconcile, ask_bind_of_ok listed]
    simp only
    rw [bind_of_quiet passed, bind_of_error stopped]
    rfl
  have remaining :
      0 < old.refs - old.tag.clients.length +
        (old.tag.clients ++ newcomers old.tag.clients front).length := by
    rw [List.length_append]
    omega
  refine ⟨log, quiet, ?_⟩
  rw [setClients_of_reconcile live crowd inner,
    parting_of_pos ref (by exact remaining), List.append_nil]

end Outcome

end DesktopTags.Desktop
