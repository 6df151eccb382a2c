import DesktopTags.Proofs.Arena
import DesktopTags.Proofs.Membership

namespace DesktopTags

/-! ## What holds of every desktop that calls build -/

/-- A tag whose references are its handles, its place in the registry and its
members, each once. -/
def Occupant.counted (tag : Tag) (handles : Nat) : Occupant where
  tag
  refs := handles + tag.activated.toNat + tag.clients.length
  handles

theorem Occupant.eq_counted
    {old : Occupant}
    (count :
      old.refs =
        old.handles + old.tag.activated.toNat + old.tag.clients.length) :
    old = .counted old.tag old.handles := by
  cases old
  simp only at count
  rw [count]
  rfl

/-- A tag that is shown only while it is activated, and lists managed clients,
each once. -/
structure Tag.Fit (table : ClientTable) (tag : Tag) : Prop where
  active_of_selected : tag.selected = true → tag.activated = true
  clients_nodup : tag.clients.Nodup
  clients_managed :
    ∀ client ∈ tag.clients, table.contains client = true

/-- The invariant of a desktop. Its parts agree with each other: the counts of a
tag with what refers to it, the registry with the activated tags, and every
client that is mentioned with the client table. -/
structure Desktop.Sound (desktop : Desktop) : Prop where
  tidy : desktop.tags.Tidy
  counted :
    ∀ {ref : TagRef} {old : Occupant},
      desktop.tags.occupant? ref = some old →
        old = Occupant.counted old.tag old.handles
  referred :
    ∀ {ref : TagRef} {old : Occupant},
      desktop.tags.occupant? ref = some old → 0 < old.refs
  fit :
    ∀ {ref : TagRef} {old : Occupant},
      desktop.tags.occupant? ref = some old → old.tag.Fit desktop.clients
  mem_registry_iff :
    ∀ ref, ref ∈ desktop.registry.tags ↔
      ∃ old, desktop.tags.occupant? ref = some old ∧
        old.tag.activated = true
  registry_nodup : desktop.registry.tags.Nodup
  table_nodup : (desktop.clients.clients.map Client.id).Nodup
  screens_numbered :
    ∀ (index : Nat) (screen : Screen),
      desktop.screens[index]? = some screen → screen.id = ⟨index⟩
  screens_known :
    ∀ entry ∈ desktop.clients.clients,
      desktop.hasScreen entry.screen = true
  focus_managed :
    ∀ client, some client ∈ desktop.focus.entries →
      desktop.clients.contains client = true

theorem Desktop.sound_empty : Desktop.Sound {} where
  tidy := Arena.tidy_empty
  counted := by simp [Arena.occupant?]
  referred := by simp [Arena.occupant?]
  fit := by simp [Arena.occupant?]
  mem_registry_iff := by simp [Arena.occupant?]
  registry_nodup := List.nodup_nil
  table_nodup := List.nodup_nil
  screens_numbered := by simp
  screens_known := by simp
  focus_managed := by simp

namespace Desktop.Sound

variable {desktop : Desktop} {ref : TagRef} {old : Occupant}

theorem refs_eq
    (sound : desktop.Sound) (live : desktop.tags.occupant? ref = some old) :
    old.refs =
      old.handles + old.tag.activated.toNat + old.tag.clients.length := by
  have counted := congrArg Occupant.refs (sound.counted live)
  exact counted

/-- The members of a tag are a part of its references. -/
theorem crowd
    (sound : desktop.Sound) (live : desktop.tags.occupant? ref = some old) :
    old.tag.clients.length ≤ old.refs := by
  have count := sound.refs_eq live
  omega

/-- A live tag is in the registry exactly if it is activated. -/
theorem registered_iff
    (sound : desktop.Sound) (live : desktop.tags.occupant? ref = some old) :
    ref ∈ desktop.registry.tags ↔ old.tag.activated = true := by
  rw [sound.mem_registry_iff, live]
  simp

theorem notMem_registry_of_gone
    (sound : desktop.Sound) (gone : desktop.tags.occupant? ref = none) :
    ref ∉ desktop.registry.tags := by
  rw [sound.mem_registry_iff, gone]
  simp

theorem managed_of_member
    (sound : desktop.Sound) (live : desktop.tags.occupant? ref = some old)
    {client : ClientId} (member : client ∈ old.tag.clients) :
    ∃ entry, desktop.clients.get? client = some entry :=
  (ClientTable.contains_iff desktop.clients client).1
    ((sound.fit live).clients_managed client member)

end Desktop.Sound

/-! ## A tag that nothing refers to -/

theorem Occupant.counted_refs_eq_zero_iff (tag : Tag) (handles : Nat) :
    (Occupant.counted tag handles).refs = 0 ↔
      handles = 0 ∧ tag.activated = false ∧ tag.clients = [] := by
  cases active : tag.activated with
  | true =>
      simp [Occupant.counted, active]
  | false =>
      simp [Occupant.counted, active, List.length_eq_zero_iff]

/-- It has no members and is neither activated nor shown. -/
theorem Tag.Fit.bare
    {table : ClientTable} {tag : Tag} {handles : Nat}
    (fit : tag.Fit table)
    (spent : (Occupant.counted tag handles).refs = 0) :
    tag.clients = [] ∧ tag.activated = false ∧ tag.selected = false := by
  obtain ⟨_, inactive, empty⟩ :=
    (Occupant.counted_refs_eq_zero_iff tag handles).1 spent
  have active := fit.active_of_selected
  rw [inactive] at active
  exact ⟨empty, inactive, by simpa using active⟩

end DesktopTags
