import CharacterSheet.ItemId

/-!
# Exclusion sets

While the level of a skill is computed from that of another skill, the skills under way
are excluded from being asked again. An `ExclusionSet` holds their ids, each once.
-/

namespace CharacterSheet

/-- A finite set of item ids. -/
structure ExclusionSet where
  ids : List ItemId := []
  distinct : ids.Nodup := by exact List.nodup_nil
deriving Repr

namespace ExclusionSet

/-- The set without ids. -/
def empty : ExclusionSet := {}

instance : Inhabited ExclusionSet := ⟨empty⟩

def contains (e : ExclusionSet) (id : ItemId) : Bool := e.ids.contains id

/-- Adds an id. -/
def insert (e : ExclusionSet) (id : ItemId) : ExclusionSet :=
  if h : id ∈ e.ids then e else ⟨id :: e.ids, List.nodup_cons.2 ⟨h, e.distinct⟩⟩

/-- Takes an id away. -/
def remove (e : ExclusionSet) (id : ItemId) : ExclusionSet :=
  ⟨e.ids.erase id, e.distinct.erase id⟩

/-- The set of the ids in a list. -/
def ofList (ids : List ItemId) : ExclusionSet := ids.foldl insert empty

def size (e : ExclusionSet) : Nat := e.ids.length

def isEmpty (e : ExclusionSet) : Bool := e.ids.isEmpty

@[simp] theorem contains_eq_true {e : ExclusionSet} {id : ItemId} :
    e.contains id = true ↔ id ∈ e.ids := by
  simp [contains]

@[simp] theorem contains_eq_false {e : ExclusionSet} {id : ItemId} :
    e.contains id = false ↔ id ∉ e.ids := by
  simp [contains]

/-- The ids of a set after one was added. -/
theorem mem_insert {e : ExclusionSet} {id x : ItemId} :
    x ∈ (e.insert id).ids ↔ x = id ∨ x ∈ e.ids := by
  unfold insert
  split
  · next h => exact ⟨.inr, fun hx => hx.elim (· ▸ h) (·)⟩
  · simp

/-- The ids of a set after one was taken away. -/
theorem mem_remove {e : ExclusionSet} {id x : ItemId} :
    x ∈ (e.remove id).ids ↔ x ≠ id ∧ x ∈ e.ids :=
  e.distinct.mem_erase_iff

/-- Adding an id that is in the set changes nothing. -/
theorem insert_of_mem {e : ExclusionSet} {id : ItemId} (h : id ∈ e.ids) : e.insert id = e :=
  dif_pos h

/-- Taking away an id that was just added gives back the set. -/
theorem remove_insert {e : ExclusionSet} {id : ItemId} (h : e.contains id = false) :
    (e.insert id).remove id = e := by
  have h' : id ∉ e.ids := fun hm => by simp [contains_eq_true.2 hm] at h
  cases e
  simp_all [insert, remove]

end ExclusionSet

end CharacterSheet
