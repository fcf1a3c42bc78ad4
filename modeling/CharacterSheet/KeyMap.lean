/-!
# Maps from texts

`KeyMap α` is a finite map with texts as keys. Its entries are kept in ascending
order of their keys, which is the order in which keys are listed and replacements
are carried out; two maps with the same entries are equal.
-/

namespace CharacterSheet

/-- A finite map from texts, its entries in ascending order of their keys. -/
structure KeyMap (α : Type) where
  entries : List (String × α) := []
  ascending : entries.Pairwise (fun a b => a.1 < b.1) := by exact .nil
deriving Repr

namespace KeyMap

variable {α β : Type}

/-- Two maps are equal when their entries are. -/
theorem ext_entries {m n : KeyMap α} (h : m.entries = n.entries) : m = n := by
  cases m; cases n; cases h; rfl

instance [DecidableEq α] : DecidableEq (KeyMap α) := fun m n =>
  if h : m.entries = n.entries then isTrue (ext_entries h)
  else isFalse fun e => h (congrArg entries e)

/-- The map without entries. -/
def empty : KeyMap α := {}

instance : Inhabited (KeyMap α) := ⟨empty⟩

/-- The value stored under a key. -/
def get? (m : KeyMap α) (key : String) : Option α :=
  m.entries.findSome? fun e => if e.1 = key then some e.2 else none

def contains (m : KeyMap α) (key : String) : Bool :=
  (m.get? key).isSome

/-- The keys in ascending order. -/
def keys (m : KeyMap α) : List String :=
  m.entries.map (·.1)

def size (m : KeyMap α) : Nat :=
  m.entries.length

def isEmpty (m : KeyMap α) : Bool :=
  m.entries.isEmpty

/-! ### Insertion -/

/-- Puts an entry at its place in an ascending list, in place of an entry with the
same key. -/
def insertEntry (key : String) (value : α) : List (String × α) → List (String × α)
  | [] => [(key, value)]
  | e :: rest =>
    if key < e.1 then (key, value) :: e :: rest
    else if key = e.1 then (key, value) :: rest
    else e :: insertEntry key value rest

theorem mem_insertEntry {key : String} {value : α} {es : List (String × α)} {x : String × α}
    (h : x ∈ insertEntry key value es) : x = (key, value) ∨ x ∈ es := by
  induction es with
  | nil => simpa [insertEntry] using h
  | cons e rest ih =>
    simp only [insertEntry] at h
    split at h
    · simpa using h
    · split at h
      · rcases List.mem_cons.1 h with h | h
        · exact .inl h
        · exact .inr (List.mem_cons_of_mem _ h)
      · rcases List.mem_cons.1 h with h | h
        · exact .inr (h ▸ List.mem_cons_self)
        · exact (ih h).imp id (List.mem_cons_of_mem _)

theorem lt_of_not_lt_of_ne {a b : String} (h : ¬ a < b) (hne : a ≠ b) : b < a := by
  by_cases hba : b < a
  · exact hba
  · exact absurd (String.le_antisymm (String.not_lt.1 hba) (String.not_lt.1 h)) hne

theorem ascending_insertEntry {key : String} {value : α} {es : List (String × α)}
    (h : es.Pairwise (fun a b => a.1 < b.1)) :
    (insertEntry key value es).Pairwise (fun a b => a.1 < b.1) := by
  induction es with
  | nil => simp [insertEntry]
  | cons e rest ih =>
    rw [List.pairwise_cons] at h
    simp only [insertEntry]
    split
    · rename_i hlt
      refine List.pairwise_cons.2 ⟨fun x hx => ?_, List.pairwise_cons.2 h⟩
      rcases List.mem_cons.1 hx with hx | hx
      · exact hx ▸ hlt
      · exact String.lt_trans hlt (h.1 x hx)
    · split
      · rename_i heq
        exact List.pairwise_cons.2 ⟨fun x hx => heq ▸ h.1 x hx, h.2⟩
      · rename_i hlt hne
        refine List.pairwise_cons.2 ⟨fun x hx => ?_, ih h.2⟩
        rcases mem_insertEntry hx with hx | hx
        · exact hx ▸ lt_of_not_lt_of_ne hlt hne
        · exact h.1 x hx

/-- Stores a value under a key, in place of what was stored there. -/
def insert (m : KeyMap α) (key : String) (value : α) : KeyMap α :=
  ⟨insertEntry key value m.entries, ascending_insertEntry m.ascending⟩

/-- The map with the given entries; of several with one key the last counts. -/
def ofList (entries : List (String × α)) : KeyMap α :=
  entries.foldl (fun m e => m.insert e.1 e.2) empty

/-- Stores `f` of what is stored under a key. -/
def alter (m : KeyMap α) (key : String) (f : Option α → α) : KeyMap α :=
  m.insert key (f (m.get? key))

/-- The entries whose keys satisfy a test. -/
def filterKeys (m : KeyMap α) (p : String → Bool) : KeyMap α :=
  ⟨m.entries.filter (fun e => p e.1), m.ascending.filter _⟩

/-! ### Lookup after insertion -/

@[simp] theorem get?_empty (key : String) : (empty : KeyMap α).get? key = none := rfl

private theorem findSome?_insertEntry_self (key : String) (value : α)
    (es : List (String × α)) :
    (insertEntry key value es).findSome? (fun e => if e.1 = key then some e.2 else none) =
      some value := by
  induction es with
  | nil => simp [insertEntry]
  | cons e rest ih =>
    simp only [insertEntry]
    split
    · simp
    · split
      · simp
      · rename_i hne
        simp [Ne.symm hne, ih]

private theorem findSome?_insertEntry_of_ne {key other : String} (value : α)
    (es : List (String × α)) (h : other ≠ key) :
    (insertEntry key value es).findSome? (fun e => if e.1 = other then some e.2 else none) =
      es.findSome? (fun e => if e.1 = other then some e.2 else none) := by
  induction es with
  | nil => simp [insertEntry, Ne.symm h]
  | cons e rest ih =>
    simp only [insertEntry]
    split
    · simp [Ne.symm h]
    · split
      · rename_i heq
        subst heq
        simp [Ne.symm h]
      · simp only [List.findSome?_cons, ih]

@[simp] theorem get?_insert_self (m : KeyMap α) (key : String) (value : α) :
    (m.insert key value).get? key = some value :=
  findSome?_insertEntry_self key value m.entries

theorem get?_insert_of_ne (m : KeyMap α) {key other : String} (value : α) (h : other ≠ key) :
    (m.insert key value).get? other = m.get? other :=
  findSome?_insertEntry_of_ne value m.entries h

/-- What a map holds after an insertion. -/
theorem get?_insert (m : KeyMap α) (key other : String) (value : α) :
    (m.insert key value).get? other = if other = key then some value else m.get? other := by
  split
  · next h => subst h; simp
  · next h => exact m.get?_insert_of_ne value h

/-- What a map holds after a change under one key. -/
theorem get?_alter (m : KeyMap α) (key other : String) (f : Option α → α) :
    (m.alter key f).get? other =
      if other = key then some (f (m.get? key)) else m.get? other :=
  m.get?_insert key other _

/-- What a map holds after a restriction of its keys. -/
theorem get?_filterKeys (m : KeyMap α) (p : String → Bool) (key : String) :
    (m.filterKeys p).get? key = if p key then m.get? key else none := by
  have h (es : List (String × α)) :
      (es.filter fun e => p e.1).findSome? (fun e => if e.1 = key then some e.2 else none) =
        if p key then es.findSome? (fun e => if e.1 = key then some e.2 else none) else none := by
    induction es with
    | nil => simp
    | cons e rest ih =>
      by_cases he : e.1 = key
      · subst he
        by_cases hp : p e.1 <;> simp [hp, ih]
      · by_cases hp : p e.1 <;> simp [hp, he, ih]
  exact h m.entries

/-- A key has a value exactly when it is listed. -/
theorem mem_keys {m : KeyMap α} {key : String} : key ∈ m.keys ↔ m.contains key = true := by
  rw [contains, get?, List.findSome?_isSome_iff]
  simp [keys]

/-- An entry says what stands under its key. -/
theorem get?_of_mem {m : KeyMap α} {e : String × α} (h : e ∈ m.entries) :
    m.get? e.1 = some e.2 := by
  obtain ⟨before, behind, heq⟩ := List.append_of_mem h
  have hascending := m.ascending
  rw [heq, List.pairwise_append] at hascending
  refine List.findSome?_eq_some_iff.2 ⟨before, e, behind, heq, if_pos rfl, fun x hx => ?_⟩
  have hlt : x.1 < e.1 := hascending.2.2 x hx e List.mem_cons_self
  have hne : x.1 ≠ e.1 := fun hkey => String.lt_irrefl e.1 (hkey ▸ hlt)
  exact if_neg hne

/-- No key is listed twice. -/
theorem nodup_keys (m : KeyMap α) : m.keys.Nodup := by
  refine List.pairwise_map.2 (m.ascending.imp fun {a b} hlt heq => ?_)
  exact String.lt_irrefl a.1 (heq ▸ hlt)

/-- The keys of a map that is made of entries are those of the entries. -/
theorem mem_keys_ofList {es : List (String × α)} {key : String} :
    key ∈ (ofList es).keys ↔ key ∈ es.map (·.1) := by
  have hfold (m : KeyMap α) :
      (es.foldl (fun m e => m.insert e.1 e.2) m).contains key = true ↔
        m.contains key = true ∨ key ∈ es.map (·.1) := by
    induction es generalizing m with
    | nil => simp
    | cons e rest ih =>
      rw [List.foldl_cons, ih, contains, get?_insert]
      by_cases hkey : key = e.1
      · simp [hkey]
      · simp [hkey, contains]
  rw [mem_keys, ofList, hfold]
  simp [contains]

end KeyMap

end CharacterSheet
