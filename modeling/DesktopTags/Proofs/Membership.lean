import DesktopTags.Desktop.Membership
import DesktopTags.Proofs.Operation

namespace DesktopTags

/-! ## The client table -/

namespace ClientTable

variable {table : ClientTable} {client : ClientId} {entry : Client}

theorem screenOf_of_managed (managed : table.get? client = some entry) :
    table.screenOf client = .ok entry.screen := by
  simp [screenOf, managed]

theorem screenOf_of_stranger (stranger : table.get? client = none) :
    table.screenOf client = .error (.unknownClient client) := by
  simp [screenOf, stranger]

theorem contains_iff (table : ClientTable) (client : ClientId) :
    table.contains client = true ↔ ∃ entry, table.get? client = some entry := by
  simp [contains, Option.isSome_iff_exists]

theorem contains_eq_false_iff (table : ClientTable) (client : ClientId) :
    table.contains client = false ↔ table.get? client = none := by
  simp [contains]

end ClientTable

theorem Tag.hasClient_iff (tag : Tag) (client : ClientId) :
    tag.hasClient client = true ↔ client ∈ tag.clients := by
  simp [Tag.hasClient]

theorem Tag.hasClient_eq_false_iff (tag : Tag) (client : ClientId) :
    tag.hasClient client = false ↔ client ∉ tag.clients := by
  rw [← Tag.hasClient_iff, Bool.not_eq_true]

/-- What is left of an occupant when a member leaves its tag. -/
def Occupant.without (client : ClientId) (old : Occupant) : Occupant :=
  { old with tag := old.tag.remove client, refs := old.refs - 1 }

namespace Desktop

open Operation

variable {desktop : Desktop} {ref : TagRef} {old : Occupant}
  {client : ClientId} {entry : Client}

/-! ## A new edge -/

theorem tagClient_of_stranger
    (stranger : desktop.clients.get? client = none) (ref : TagRef) :
    tagClient ref client desktop =
      ⟨.error (.unknownClient client), desktop, []⟩ := by
  rw [tagClient,
    ask_bind_of_error (ClientTable.screenOf_of_stranger stranger)]

theorem tagClient_of_gone
    (managed : desktop.clients.get? client = some entry)
    (gone : desktop.tags.occupant? ref = none) :
    tagClient ref client desktop = ⟨.error (.unknownTag ref), desktop, []⟩ := by
  rw [tagClient, ask_bind_of_ok (ClientTable.screenOf_of_managed managed),
    bind_of_error (acquire_of_gone gone)]

theorem tagClient_of_new
    (managed : desktop.clients.get? client = some entry)
    (live : desktop.tags.occupant? ref = some old)
    (new : client ∉ old.tag.clients) :
    tagClient ref client desktop =
      ⟨.ok (),
        (desktop.settle ref
          { old with
            tag := old.tag.add client
            refs := old.refs + 1 }).announce
          (Effect.tagBlock ref client entry.screen),
        []⟩ := by
  have acquired := occupant?_settle_self live
    { old with refs := old.refs + 1 } (by simp)
  have edited := editTag_of_live acquired (by simp)
    (fun tag => tag.add client)
  rw [settle_settle _ _ (by simp)] at edited
  have absent := (Tag.hasClient_eq_false_iff old.tag client).2 new
  rw [tagClient, ask_bind_of_ok (ClientTable.screenOf_of_managed managed),
    bind_of_quiet (acquire_of_live live), ask_bind_of_ok (tag_of_live acquired)]
  simp only [absent, Bool.false_eq_true, if_false]
  rw [bind_of_quiet edited, enqueue_apply]

theorem tagClient_of_member
    (managed : desktop.clients.get? client = some entry)
    (live : desktop.tags.occupant? ref = some old) (referred : 0 < old.refs)
    (member : client ∈ old.tag.clients) :
    tagClient ref client desktop =
      ⟨.ok (), desktop, [.alreadyTagged client ref]⟩ := by
  have acquired := occupant?_settle_self live
    { old with refs := old.refs + 1 } (by simp)
  have released := releaseReference_of_live acquired (by simp)
  rw [settle_settle _ _ (by simp)] at released
  simp only [Nat.add_sub_cancel] at released
  rw [settle_self live referred, parting_of_pos ref (by exact referred)]
    at released
  have present := (Tag.hasClient_iff old.tag client).2 member
  rw [tagClient, ask_bind_of_ok (ClientTable.screenOf_of_managed managed),
    bind_of_quiet (acquire_of_live live), ask_bind_of_ok (tag_of_live acquired)]
  simp only [present, if_true]
  rw [bind_of_ok (report_apply _ _), released]
  rfl

/-! ## The end of an edge -/

theorem untagClient_of_stranger
    (stranger : desktop.clients.get? client = none) (ref : TagRef) :
    untagClient client ref desktop =
      ⟨.error (.unknownClient client), desktop, []⟩ := by
  rw [untagClient,
    ask_bind_of_error (ClientTable.screenOf_of_stranger stranger)]

theorem untagClient_of_gone
    (managed : desktop.clients.get? client = some entry)
    (gone : desktop.tags.occupant? ref = none) :
    untagClient client ref desktop =
      ⟨.error (.unknownTag ref), desktop, []⟩ := by
  rw [untagClient, ask_bind_of_ok (ClientTable.screenOf_of_managed managed),
    ask_bind_of_error (tag_of_gone gone)]

theorem untagClient_of_outsider
    (managed : desktop.clients.get? client = some entry)
    (live : desktop.tags.occupant? ref = some old)
    (outsider : client ∉ old.tag.clients) :
    untagClient client ref desktop = ⟨.ok (), desktop, []⟩ := by
  have absent := (Tag.hasClient_eq_false_iff old.tag client).2 outsider
  rw [untagClient, ask_bind_of_ok (ClientTable.screenOf_of_managed managed),
    ask_bind_of_ok (tag_of_live live)]
  simp [absent]

theorem untagClient_of_member
    (managed : desktop.clients.get? client = some entry)
    (live : desktop.tags.occupant? ref = some old) (referred : 0 < old.refs)
    (member : client ∈ old.tag.clients) :
    untagClient client ref desktop =
      ⟨.ok (),
        (desktop.settle ref (old.without client)).announce
          (Effect.untagBlock ref client entry.screen),
        parting ref (old.without client)⟩ := by
  have edited := editTag_of_live live referred
    (fun tag => tag.remove client)
  have removed :
      ((desktop.settle ref
        { old with tag := old.tag.remove client }).announce
          (Effect.untagBlock ref client entry.screen)).tags.occupant? ref =
        some { old with tag := old.tag.remove client } :=
    occupant?_settle_self live _ (by exact referred)
  have released := releaseReference_of_live removed (by exact referred)
  rw [settle_announce, settle_settle _ _ (by exact referred)] at released
  have present := (Tag.hasClient_iff old.tag client).2 member
  rw [untagClient, ask_bind_of_ok (ClientTable.screenOf_of_managed managed),
    ask_bind_of_ok (tag_of_live live)]
  simp only [present, if_true]
  rw [bind_of_quiet edited, enqueue_bind, released]
  rfl

end Desktop

end DesktopTags
