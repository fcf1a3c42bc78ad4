import CharacterSheet.Document.Basic
import CharacterSheet.Proofs.JsonText

/-!
# Laws of documents

What was read from a document is read back from the document that is written of it. The numbers
in it are an exception: they are doubles on the way, so a value keeps this law if its numbers and
weights do (`Kept`).

A document is written with no more arrays and objects inside one another than there were in the
document that it was read from: a value that was read with some room fits in that room again
(`Stable`). So the law is one on readers and writers, `Rewrites`, and each way to make readers
from readers keeps it: lists, maps, optional values, and records field by field (`Rereads`).
-/

namespace CharacterSheet.Document

variable {α β ε : Type}

/-! ### Results -/

@[simp] theorem bind_eq_ok {x : Except ε α} {f : α → Except ε β} {b : β} :
    (x >>= f) = .ok b ↔ ∃ a, x = .ok a ∧ f a = .ok b := by
  cases x with
  | error e => simp [bind, Except.bind]
  | ok a => simp [bind, Except.bind]

@[simp] theorem pure_eq_ok {a b : α} : (pure a : Except ε α) = .ok b ↔ a = b := by
  simp [pure, Except.pure]

@[simp] theorem map_eq_ok {x : Except ε α} {f : α → β} {b : β} :
    x.map f = .ok b ↔ ∃ a, x = .ok a ∧ f a = b := by
  cases x with
  | error e => simp [Except.map]
  | ok a => simp [Except.map]

@[simp] theorem mapError_eq_ok {ε' : Type} {x : Except ε α} {f : ε → ε'} {a : α} :
    x.mapError f = .ok a ↔ x = .ok a := by
  cases x with
  | error e =>
    refine ⟨fun h => ?_, fun h => ?_⟩
    all_goals cases h
  | ok b =>
    show Except.ok b = Except.ok a ↔ _
    simp

/-- What is put together from results comes from one of them. -/
theorem exists_of_mapM_eq_ok {f : α → Except ε β} {as : List α} {bs : List β}
    (h : as.mapM f = .ok bs) : ∀ b ∈ bs, ∃ a ∈ as, f a = .ok b := by
  induction as generalizing bs with
  | nil =>
    cases h
    exact fun _ hb => nomatch hb
  | cons a rest ih =>
    rw [List.mapM_cons] at h
    simp only [bind_eq_ok] at h
    obtain ⟨b, hb, bs', hbs', heq⟩ := h
    cases heq
    intro c hc
    rcases List.mem_cons.1 hc with rfl | hc
    · exact ⟨a, List.mem_cons_self, hb⟩
    · obtain ⟨a', ha', hc⟩ := ih hbs' c hc
      exact ⟨a', List.mem_cons_of_mem _ ha', hc⟩

theorem mapM_map_eq_ok {f : β → Except ε α} {g : α → β} {as : List α}
    (h : ∀ a ∈ as, f (g a) = .ok a) : (as.map g).mapM f = .ok as := by
  induction as with
  | nil => rfl
  | cons a rest ih =>
    rw [List.forall_mem_cons] at h
    rw [List.map_cons, List.mapM_cons, h.1, ih h.2]
    rfl

/-! ### Numbers and weights -/

/-- A value is read back from the text of its document. -/
def ReadsBack [Document α] (a : α) : Prop := ofText (write a).text = .ok a

/-- A number or a weight. -/
inductive Measure where
  | number (a : Fixed)
  | weight (w : Weight)

/-- The measure is read back from its text. -/
def Measure.ReadsBack : Measure → Prop
  | number a => Document.ReadsBack a
  | weight w => Document.ReadsBack w

/-- Values with the numbers and weights that stand in their documents. -/
class Measured (α : Type) where
  measures : α → List Measure

open Measured (measures)

/-- Every number and every weight in a value is read back from its text. -/
def Kept [Measured α] (a : α) : Prop := ∀ m ∈ measures a, m.ReadsBack

/-- Values in which there are no numbers and weights. -/
class Unmeasured (α : Type) [Measured α] : Prop where
  measures_eq : ∀ a : α, measures a = []

theorem kept [Measured α] [Unmeasured α] (a : α) : Kept a := by
  intro m hm
  rw [Unmeasured.measures_eq] at hm
  exact nomatch hm

/-! ### Readers and writers -/

/-- The document `j` is read as `a` wherever there is room for some arrays and objects, and can be
printed. -/
structure Stable (read : Reader α) (j : Json) (room : Nat) (a : α) : Prop where
  read : ∀ scope : Scope, scope.room = room → read scope j = .ok a
  sound : j.isSound room = true
  printable : j.Printable

/-- What was read is read back from what is written of it. -/
def Rewrites [Measured α] (read : Reader α) (write : α → Json) : Prop :=
  ∀ scope j a, read scope j = .ok a → Kept a → Stable read (write a) scope.room a

/-- A reader may count the levels of what it reads by the room that there is. -/
theorem Rewrites.ofRoom [Measured α] {read : Nat → Reader α} {write : α → Json}
    (h : ∀ levels, Rewrites (read levels) write) :
    Rewrites (fun scope => read (scope.room + 1) scope) write := by
  intro scope j a ha hkept
  obtain ⟨hread, hsound, hprint⟩ := h (scope.room + 1) scope j a ha hkept
  refine ⟨fun scope' hscope => ?_, hsound, hprint⟩
  rw [hscope]
  exact hread scope' hscope

/-- Documents that are read back. -/
class LawfulDocument (α : Type) [Document α] [Measured α] : Prop where
  rewrites : Rewrites (read : Reader α) write

/-- Documents of values without parts, which are read back wherever they stand. -/
class LawfulValue (α : Type) [Document α] [Measured α] : Prop where
  stable : ∀ (room : Nat) (a : α), Kept a → Stable read (write a) room a

instance [Document α] [Measured α] [LawfulValue α] : LawfulDocument α :=
  ⟨fun scope _ a _ ha => LawfulValue.stable scope.room a ha⟩

/-! ### Room -/

theorem enter_eq_ok {scope inner : Scope} (h : scope.enter = .ok inner) :
    0 < scope.room ∧ inner.room = scope.room - 1 := by
  unfold Scope.enter at h
  split at h
  · cases h
  · next hroom =>
    cases h
    exact ⟨Nat.pos_of_ne_zero hroom, rfl⟩

theorem exists_enter (scope : Scope) (h : 0 < scope.room) :
    ∃ inner, scope.enter = .ok inner ∧ inner.room = scope.room - 1 :=
  ⟨_, if_neg (Nat.ne_of_gt h), rfl⟩

/-- An array fits in some room if there is room for one more and its elements fit in the rest. -/
theorem isSound_array {room : Nat} {js : List Json} (hroom : 0 < room)
    (h : ∀ j ∈ js, j.isSound (room - 1) = true) : (Json.array js).isSound room = true := by
  have hall : Json.areSound (room - 1) js = true := by
    induction js with
    | nil => rfl
    | cons j rest ih =>
      rw [List.forall_mem_cons] at h
      simp [Json.areSound, h.1, ih h.2]
  simp [Json.isSound, hroom, hall]

theorem isSound_object {room : Nat} {ms : List (String × Json)} (hroom : 0 < room)
    (h : ∀ m ∈ ms, m.2.isSound (room - 1) = true) : (Json.object ms).isSound room = true := by
  have hall : Json.membersSound (room - 1) ms = true := by
    induction ms with
    | nil => rfl
    | cons m rest ih =>
      rw [List.forall_mem_cons] at h
      simp [Json.membersSound, h.1, ih h.2]
  simp [Json.isSound, hroom, hall]

/-! ### Values -/

instance : Measured String := ⟨fun _ => []⟩
instance : Unmeasured String := ⟨fun _ => rfl⟩
instance : LawfulValue String := ⟨fun _ _ _ => ⟨fun _ _ => rfl, rfl, trivial⟩⟩

instance : Measured Bool := ⟨fun _ => []⟩
instance : Unmeasured Bool := ⟨fun _ => rfl⟩
instance : LawfulValue Bool := ⟨fun _ _ _ => ⟨fun _ _ => rfl, rfl, trivial⟩⟩

theorem plain_numeral (a : Fixed) : (numeral a).Plain := by
  unfold numeral
  split
  · exact Decimal.Numeral.plain_ofInt _
  · exact Decimal.Numeral.plain_ofFloat _

/-- What is read back from the text of its document is read back from its document. -/
theorem ReadsBack.ofJson [Document α] {a : α} (h : ReadsBack a) (hprint : (write a).Printable) :
    ofJson (write a) = .ok a := by
  rw [ReadsBack, ofText, Json.parse?_text hprint] at h
  exact h

instance : Measured Fixed := ⟨fun a => [.number a]⟩

instance : LawfulValue Fixed where
  stable room a ha := by
    have hread : ReadsBack a := ha _ (List.mem_singleton_self _)
    have hprint : (write a).Printable := plain_numeral a
    have hread := hread.ofJson hprint
    simp only [ofJson, mapError_eq_ok] at hread
    refine ⟨fun _ _ => hread, ?_, hprint⟩
    -- A numeral without a value would not have been read.
    show (numeral a).toFloat?.isSome = true
    simp only [read, write, Reader.fixed] at hread
    split at hread
    · next h => rw [h]; rfl
    · cases hread

instance : Measured Weight := ⟨fun w => [.weight w]⟩

instance : LawfulValue Weight where
  stable room w hw := by
    have hread : ReadsBack w := hw _ (List.mem_singleton_self _)
    have hread := hread.ofJson trivial
    simp only [ofJson, mapError_eq_ok, read, write, Reader.parsed, Reader.string, bind_eq_ok,
      Except.ok.injEq, exists_eq_left'] at hread
    refine ⟨fun _ _ => ?_, rfl, trivial⟩
    simpa [read, write, Reader.parsed, Reader.string] using hread

/-- A text that says what was parsed from it. -/
theorem Stable.parsed {parse : String → Except UnknownWord α} {text : String} {a : α}
    (h : parse text = .ok a) (room : Nat) : Stable (Reader.parsed parse) (.string text) room a :=
  ⟨fun _ _ => by simp [Reader.parsed, Reader.string, h], rfl, trivial⟩

theorem exists_of_parsed_eq_ok {parse : String → Except UnknownWord α} {scope : Scope} {j : Json}
    {a : α} (h : Reader.parsed parse scope j = .ok a) : ∃ text, parse text = .ok a := by
  simp only [Reader.parsed, bind_eq_ok, mapError_eq_ok] at h
  obtain ⟨text, -, hparse⟩ := h
  exact ⟨text, hparse⟩

/-- Enumerations whose key words are read. -/
class ReadKeyword (κ : Type) [Keyword κ] : Prop where
  parse_key : ∀ a : κ, Keyword.parse (Keyword.key a) = .ok a

instance : ReadKeyword StringCompare := ⟨by rintro ⟨⟩ <;> rfl⟩
instance : ReadKeyword NumericCompare := ⟨by rintro ⟨⟩ <;> rfl⟩

section Keyword

variable [Keyword α]

instance measuredKeyword : Measured α := ⟨fun _ => []⟩
instance : Unmeasured α := ⟨fun _ => rfl⟩

instance [ReadKeyword α] : LawfulValue α :=
  ⟨fun room a _ => .parsed (ReadKeyword.parse_key a) room⟩

end Keyword

/-! ### Collections -/

instance [Measured α] : Measured (List α) := ⟨fun as => as.flatMap measures⟩

instance [Measured α] [Unmeasured α] : Unmeasured (List α) :=
  ⟨fun _ => List.flatMap_eq_nil_iff.2 fun a _ => Unmeasured.measures_eq a⟩

theorem Kept.of_mem [Measured α] {as : List α} (h : Kept as) {a : α} (ha : a ∈ as) : Kept a :=
  fun m hm => h m (List.mem_flatMap.2 ⟨a, ha, hm⟩)

/-- Lists are read back if their elements are. -/
theorem Rewrites.list [Measured α] {read : Reader α} {write : α → Json}
    (h : Rewrites read write) :
    Rewrites (Reader.list read) fun as => .array (as.map write) := by
  intro scope j as has hkept
  cases j with
  | array js =>
    simp only [Reader.list, bind_eq_ok] at has
    obtain ⟨inner, hinner, has⟩ := has
    obtain ⟨hroom, hinner⟩ := enter_eq_ok hinner
    have hstable : ∀ a ∈ as, Stable read (write a) (scope.room - 1) a := by
      intro a ha
      obtain ⟨j, -, hj⟩ := exists_of_mapM_eq_ok has a ha
      exact hinner ▸ h inner j a hj (hkept.of_mem ha)
    refine ⟨?_, isSound_array hroom ?_, Json.elementsPrintable_iff.2 ?_⟩
    · intro scope' hscope
      obtain ⟨inner', henter, hinner'⟩ := exists_enter scope' (by omega)
      simp only [Reader.list, bind_eq_ok]
      exact ⟨inner', henter,
        mapM_map_eq_ok fun a ha => (hstable a ha).read inner' (by omega)⟩
    · simpa using fun a ha => (hstable a ha).sound
    · simpa using fun a ha => (hstable a ha).printable
  | _ => cases has

instance [Document α] [Measured α] [LawfulDocument α] : LawfulDocument (List α) :=
  ⟨LawfulDocument.rewrites.list⟩

instance [Measured α] : Measured (Option α) := ⟨fun a => a.toList.flatMap measures⟩

instance [Measured α] [Unmeasured α] : Unmeasured (Option α) :=
  ⟨fun _ => List.flatMap_eq_nil_iff.2 fun a _ => Unmeasured.measures_eq a⟩

/-- Documents that are told apart from an absent value. -/
class NeverNull (α : Type) [Document α] : Prop where
  not_null : ∀ (scope : Scope) (a : α), read scope .null ≠ .ok a

instance : NeverNull String := ⟨fun _ _ h => nomatch h⟩
instance : NeverNull Fixed := ⟨fun _ _ h => nomatch h⟩

instance [Document α] [Measured α] [LawfulDocument α] [NeverNull α] :
    LawfulDocument (Option α) where
  rewrites scope j a ha hkept := by
    cases a with
    | none => exact ⟨fun _ _ => rfl, rfl, trivial⟩
    | some a =>
      have hread : ∃ j, read scope j = .ok a := by
        cases j <;> simp [read, Reader.optional] at ha
        all_goals exact ⟨_, ha⟩
      obtain ⟨j, hj⟩ := hread
      have hkept : Kept a := fun m hm => hkept m (by simpa [measures] using hm)
      obtain ⟨hread, hsound, hprint⟩ := LawfulDocument.rewrites scope j a hj hkept
      refine ⟨fun scope' hscope => ?_, hsound, hprint⟩
      have hwrite : write a ≠ .null := fun hnull =>
        NeverNull.not_null scope' a (hnull ▸ hread scope' hscope)
      show Reader.optional read scope' (write a) = _
      rw [Reader.optional, hread scope' hscope]
      · rfl
      · exact hwrite

instance [Measured α] : Measured (KeyMap α) := ⟨fun m => m.entries.flatMap fun e => measures e.2⟩

instance [Measured α] [Unmeasured α] : Unmeasured (KeyMap α) :=
  ⟨fun _ => List.flatMap_eq_nil_iff.2 fun e _ => Unmeasured.measures_eq e.2⟩

theorem mem_of_mem_ofList {es : List (String × α)} {e : String × α}
    (h : e ∈ (KeyMap.ofList es).entries) : e ∈ es := by
  have hfold (es : List (String × α)) (m : KeyMap α)
      (h : e ∈ (es.foldl (fun m e => m.insert e.1 e.2) m).entries) : e ∈ m.entries ∨ e ∈ es := by
    induction es generalizing m with
    | nil => exact .inl h
    | cons e' rest ih =>
      rcases ih _ h with h | h
      · rcases KeyMap.mem_insertEntry h with rfl | h
        · exact .inr List.mem_cons_self
        · exact .inl h
      · exact .inr (List.mem_cons_of_mem _ h)
  rcases hfold es .empty h with h | h
  · exact nomatch h
  · exact h

/-- What stands behind all other keys is entered at the end. -/
theorem insertEntry_of_forall_lt {key : String} {value : α} {es : List (String × α)}
    (h : ∀ e ∈ es, e.1 < key) : KeyMap.insertEntry key value es = es ++ [(key, value)] := by
  induction es with
  | nil => rfl
  | cons e rest ih =>
    rw [List.forall_mem_cons] at h
    have hne : key ≠ e.1 := fun heq => String.lt_irrefl e.1 (by simpa [heq] using h.1)
    rw [KeyMap.insertEntry, if_neg (String.lt_asymm h.1), if_neg hne, ih h.2]
    rfl

/-- A map is made of its entries. -/
theorem ofList_entries (m : KeyMap α) : KeyMap.ofList m.entries = m := by
  have hfold (es : List (String × α)) (m : KeyMap α)
      (h : (m.entries ++ es).Pairwise fun a b => a.1 < b.1) :
      (es.foldl (fun m e => m.insert e.1 e.2) m).entries = m.entries ++ es := by
    induction es generalizing m with
    | nil => rw [List.append_nil]; rfl
    | cons e rest ih =>
      have hlast : (m.insert e.1 e.2).entries = m.entries ++ [e] := by
        rw [List.pairwise_append] at h
        exact insertEntry_of_forall_lt fun x hx => h.2.2 x hx e List.mem_cons_self
      rw [List.foldl_cons, ih _ (by rw [hlast]; simpa using h), hlast]
      simp
  exact KeyMap.ext_entries (hfold m.entries .empty m.ascending)

instance [Document α] [Measured α] [LawfulDocument α] : LawfulDocument (KeyMap α) where
  rewrites scope j m hm hkept := by
    cases j with
    | object ms =>
      simp only [read, Reader.keyMap, bind_eq_ok] at hm
      obtain ⟨inner, hinner, es, hes, hm⟩ := hm
      obtain rfl := Except.ok.inj hm
      obtain ⟨hroom, hinner⟩ := enter_eq_ok hinner
      have hstable : ∀ e ∈ (KeyMap.ofList es).entries,
          Stable read (write e.2) (scope.room - 1) e.2 := by
        intro e he
        obtain ⟨member, -, hread⟩ := exists_of_mapM_eq_ok hes e (mem_of_mem_ofList he)
        simp only [bind_eq_ok] at hread
        obtain ⟨a, ha, heq⟩ := hread
        obtain rfl := Except.ok.inj heq
        exact hinner ▸ LawfulDocument.rewrites inner member.2 a ha fun m hm =>
          hkept m (List.mem_flatMap.2 ⟨_, he, hm⟩)
      refine ⟨?_, isSound_object hroom ?_, Json.membersPrintable_iff.2 ?_⟩
      · intro scope' hscope
        obtain ⟨inner', henter, hinner'⟩ := exists_enter scope' (by omega)
        simp only [read, write, Reader.keyMap, bind_eq_ok]
        refine ⟨inner', henter, _, mapM_map_eq_ok fun e he => ?_, ?_⟩
        · simp only [bind_eq_ok]
          exact ⟨e.2, (hstable e he).read inner' (by omega), rfl⟩
        · exact congrArg Except.ok (ofList_entries _)
      · intro member hmember
        obtain ⟨e, he, rfl⟩ := List.mem_map.1 hmember
        exact (hstable e he).sound
      · intro member hmember
        obtain ⟨e, he, rfl⟩ := List.mem_map.1 hmember
        exact (hstable e he).printable
    | _ => cases hm

/-! ### Fields -/

/-- The fields with some names are written as `ms`, in their order and each as nothing or as one
member that fits in some room. From a record with these members they are read as `a`, if no two of
them have one name. -/
structure Rereads (room : Nat) (names : List String) (ms : List (String × Json))
    (read : Record → Except DocumentError α) (a : α) : Prop where
  names_sublist : (ms.map Prod.fst).Sublist names
  sound : ∀ m ∈ ms, m.2.isSound room = true
  printable : ∀ m ∈ ms, m.2.Printable
  read : names.Nodup → ∀ r : Record, r.scope.room = room →
    (∀ name ∈ names, r.given.lookup name = ms.lookup name) → read r = .ok a

/-- A field that is written as a member. -/
theorem Stable.rereads {read : Reader α} {j : Json} {room : Nat} {a : α}
    (h : Stable read j room a) {name : String} {get : Record → Except DocumentError α}
    (hget : ∀ r : Record, r.given.lookup name = some j → get r = read r.scope j) :
    Rereads room [name] [(name, j)] get a where
  names_sublist := .refl _
  sound := by simpa using h.sound
  printable := by simpa using h.printable
  read _ r hr hlookup := by
    rw [hget r (by simpa using hlookup), h.read r.scope hr]

/-- A field that must be given is written. -/
theorem rereads_required [Document α] [Measured α] [LawfulDocument α] {r : Record} {name : String}
    {a : α} (h : r.required name read = .ok a) (ha : Kept a) :
    Rereads r.scope.room [name] (member name a) (·.required name read) a := by
  unfold Record.required at h
  split at h
  · next j hj =>
    exact (LawfulDocument.rewrites r.scope j a h ha).rereads fun r hr => by
      rw [Record.required, hr]
  · cases h

/-- A field with a default is left out if it has its default. -/
theorem Rewrites.rereads_optional [Measured α] [DecidableEq α] {read : Reader α} {write : α → Json}
    (hrewrites : Rewrites read write) {r : Record} {name : String} {default a : α}
    (h : r.optional name default read = .ok a) (ha : Kept a) :
    Rereads r.scope.room [name] (if a = default then [] else [(name, write a)])
      (·.optional name default read) a := by
  split
  · next heq =>
    refine ⟨List.nil_sublist _, by simp, by simp, ?_⟩
    intro _ r' _ hlookup
    rw [Record.optional, hlookup name (List.mem_singleton_self name), heq]
    rfl
  · next hne =>
    unfold Record.optional at h
    split at h
    · next j hj =>
      exact (hrewrites r.scope j a h ha).rereads fun r hr => by rw [Record.optional, hr]
    · exact absurd (Except.ok.inj h).symm hne

theorem rereads_optional [Document α] [Measured α] [LawfulDocument α] [DecidableEq α] {r : Record}
    {name : String} {default a : α} (h : r.optional name default read = .ok a) (ha : Kept a) :
    Rereads r.scope.room [name] (memberUnless default name a) (·.optional name default read) a :=
  LawfulDocument.rewrites.rereads_optional h ha

/-- A field with a default may be written in any case. -/
theorem rereads_member [Document α] [Measured α] [LawfulValue α] {name : String} {default a : α}
    (room : Nat) (ha : Kept a) :
    Rereads room [name] (member name a) (·.optional name default read) a :=
  (LawfulValue.stable room a ha).rereads fun r hr => by rw [Record.optional, hr]

theorem Rereads.pure (room : Nat) (a : α) : Rereads room [] [] (fun _ => pure a) a where
  names_sublist := .slnil
  sound _ hm := nomatch hm
  printable _ hm := nomatch hm
  read _ _ _ _ := rfl

theorem Rereads.mem_names {room : Nat} {names : List String} {ms : List (String × Json)}
    {read : Record → Except DocumentError α} {a : α} (h : Rereads room names ms read a)
    {m : String × Json} (hm : m ∈ ms) : m.1 ∈ names :=
  h.names_sublist.subset (List.mem_map_of_mem hm)

theorem Rereads.lookup_eq_none {room : Nat} {names : List String} {ms : List (String × Json)}
    {read : Record → Except DocumentError α} {a : α} (h : Rereads room names ms read a)
    {name : String} (hname : name ∉ names) : ms.lookup name = none :=
  List.lookup_eq_none_iff.2 fun _ hm => bne_iff_ne.2 fun heq => hname (heq ▸ h.mem_names hm)

/-- Fields are read one after the other. -/
theorem Rereads.bind {room : Nat} {names names' : List String} {ms ms' : List (String × Json)}
    {read : Record → Except DocumentError α} {a : α} (h : Rereads room names ms read a)
    {next : Record → α → Except DocumentError β} {b : β}
    (h' : Rereads room names' ms' (next · a) b) :
    Rereads room (names ++ names') (ms ++ ms') (fun r => read r >>= next r) b where
  names_sublist := by
    rw [List.map_append]
    exact h.names_sublist.append h'.names_sublist
  sound := List.forall_mem_append.2 ⟨h.sound, h'.sound⟩
  printable := List.forall_mem_append.2 ⟨h.printable, h'.printable⟩
  read hnodup r hr hlookup := by
    obtain ⟨hnodup, hnodup', hne⟩ := List.nodup_append.1 hnodup
    have hfirst : read r = .ok a := h.read hnodup r hr fun name hname => by
      have hother : name ∉ names' := fun hname' => hne name hname name hname' rfl
      rw [hlookup name (List.mem_append_left _ hname), List.lookup_append,
        h'.lookup_eq_none hother, Option.or_none]
    have hrest : next r a = .ok b := h'.read hnodup' r hr fun name hname => by
      have hother : name ∉ names := fun hname' => hne name hname' name hname rfl
      rw [hlookup name (List.mem_append_right _ hname), List.lookup_append,
        h.lookup_eq_none hother, Option.none_or]
    exact bind_eq_ok.2 ⟨a, hfirst, hrest⟩

theorem Rereads.map {room : Nat} {names : List String} {ms : List (String × Json)}
    {read : Record → Except DocumentError α} {a : α} (h : Rereads room names ms read a)
    (f : α → β) : Rereads room names ms (fun r => do return f (← read r)) (f a) where
  names_sublist := h.names_sublist
  sound := h.sound
  printable := h.printable
  read hnodup r hr hlookup := bind_eq_ok.2 ⟨a, h.read hnodup r hr hlookup, rfl⟩

/-! ### Records -/

/-- No two fields have one name, and none was once called as another is called. -/
def WellNamed (fields : List Field) : Prop :=
  (fields.map Field.name).Nodup ∧ ∀ f ∈ fields, ∀ old ∈ f.formerly, old ∉ fields.map Field.name

instance (fields : List Field) : Decidable (WellNamed fields) :=
  inferInstanceAs (Decidable ((fields.map Field.name).Nodup ∧
    ∀ f ∈ fields, ∀ old ∈ f.formerly, old ∉ fields.map Field.name))

theorem ofShape_scope {fields : List Field} {scope : Scope} {shape : Shape} {r : Record}
    (h : Record.ofShape fields scope shape = .ok r) : r.scope = scope := by
  cases shape with
  | members ms =>
    simp only [Record.ofShape, bind_eq_ok] at h
    obtain ⟨given, -, h⟩ := h
    rw [← Except.ok.inj h]
  | elements js =>
    simp only [Record.ofShape] at h
    split at h
    · cases h
    · rw [← Except.ok.inj h]

/-- Of members with different names at most one gives a field. -/
theorem filter_isGivenBy {ms : List (String × Json)} (hnodup : (ms.map Prod.fst).Nodup)
    {f : Field} (hold : ∀ old ∈ f.formerly, ∀ m ∈ ms, m.1 ≠ old) :
    ms.filter (fun m => f.isGivenBy m.1) =
      ((ms.lookup f.name).map fun j => (f.name, j)).toList := by
  induction ms with
  | nil => rfl
  | cons m rest ih =>
    rw [List.map_cons, List.nodup_cons] at hnodup
    have ih := ih hnodup.2 fun old hf m hm => hold old hf m (List.mem_cons_of_mem _ hm)
    have hformerly : (some m.1 == f.formerly) = false := by
      rw [beq_eq_false_iff_ne]
      intro heq
      exact hold m.1 heq.symm m List.mem_cons_self rfl
    obtain ⟨name, j⟩ := m
    by_cases hname : name = f.name
    · subst hname
      have hother : rest.lookup f.name = none :=
        List.lookup_eq_none_iff.2 fun m hm => bne_iff_ne.2 fun heq =>
          hnodup.1 (List.mem_map.2 ⟨m, hm, heq.symm⟩)
      rw [List.filter_cons_of_pos (by simp [Field.isGivenBy]), ih, hother, List.lookup_cons_self]
      rfl
    · have hne : (f.name == name) = false := beq_eq_false_iff_ne.2 (Ne.symm hname)
      rw [List.filter_cons_of_neg (by simp [Field.isGivenBy, hname, hformerly]), ih,
        List.lookup_cons, hne]

theorem filterMapM_eq_ok {f : α → Except ε (Option β)} {g : α → Option β} {as : List α}
    (h : ∀ a ∈ as, f a = .ok (g a)) : as.filterMapM f = .ok (as.filterMap g) := by
  induction as with
  | nil => rfl
  | cons a rest ih =>
    rw [List.forall_mem_cons] at h
    have hbind (x : Option β) (k : Option β → Except ε (List β)) : (Except.ok x >>= k) = k x := rfl
    rw [List.filterMapM_cons, h.1, hbind, ih h.2, List.filterMap_cons]
    cases g a <;> rfl

/-- The members under the names of fields are given. -/
theorem lookup_filterMap (fields : List Field) (ms : List (String × Json)) {name : String}
    (h : name ∈ fields.map Field.name) :
    (fields.filterMap fun f => (ms.lookup f.name).map fun j => (f.name, j)).lookup name =
      ms.lookup name := by
  induction fields with
  | nil => exact nomatch h
  | cons f rest ih =>
    rw [List.filterMap_cons]
    by_cases hname : name = f.name
    · subst hname
      cases hlookup : ms.lookup f.name with
      | some j => simp
      | none =>
        -- A field may be listed twice; there is no member for it here or further on.
        refine List.lookup_eq_none_iff.2 fun m hm => bne_iff_ne.2 fun heq => ?_
        obtain ⟨f', -, hf'⟩ := List.mem_filterMap.1 hm
        obtain ⟨j, hj, rfl⟩ := Option.map_eq_some_iff.1 hf'
        have heq : f.name = f'.name := heq
        rw [← heq, hlookup] at hj
        cases hj
    · have hrest := ih ((List.mem_cons.1 h).resolve_left hname)
      cases ms.lookup f.name with
      | none => exact hrest
      | some j =>
        have hne : (name == f.name) = false := beq_eq_false_iff_ne.2 hname
        rw [Option.map_some, List.lookup_cons, hne]
        exact hrest

/-- The members that a record is written with are its fields. -/
theorem Rereads.ofShape {room : Nat} {fields : List Field} {ms : List (String × Json)}
    {read : Record → Except DocumentError α} {a : α}
    (h : Rereads room (fields.map Field.name) ms read a) (hfields : WellNamed fields)
    (scope : Scope) (hroom : scope.room = room) :
    ∃ r, Record.ofShape fields scope (.members ms) = .ok r ∧ read r = .ok a := by
  let given := fields.filterMap fun f => (ms.lookup f.name).map fun j => (f.name, j)
  refine ⟨{ scope, positional := false, given }, ?_, ?_⟩
  · simp only [Record.ofShape, bind_eq_ok]
    refine ⟨given, filterMapM_eq_ok fun f hf => ?_, rfl⟩
    rw [filter_isGivenBy (h.names_sublist.nodup hfields.1) fun old hold m hm heq =>
      hfields.2 f hf old hold (heq ▸ h.mem_names hm)]
    cases ms.lookup f.name <;> rfl
  · exact h.read hfields.1 _ hroom fun name hname => lookup_filterMap fields ms hname

theorem enterRecord_eq_ok {scope inner : Scope} {j : Json} {shape : Shape}
    (h : enterRecord scope j = .ok (inner, shape)) :
    0 < scope.room ∧ inner.room = scope.room - 1 := by
  cases j with
  | object ms | array js =>
    simp only [enterRecord, bind_eq_ok] at h
    obtain ⟨inner, hinner, h⟩ := h
    cases h
    exact enter_eq_ok hinner
  | _ => cases h

/-- The object of a record fits in some room if its members fit in the rest. -/
theorem Rereads.isSound {room : Nat} {names : List String} {ms : List (String × Json)}
    {read : Record → Except DocumentError α} {a : α}
    (h : Rereads (room - 1) names ms read a) (hroom : 0 < room) :
    (Json.object ms).isSound room = true :=
  isSound_object hroom h.sound

theorem Rereads.printable_object {room : Nat} {names : List String} {ms : List (String × Json)}
    {read : Record → Except DocumentError α} {a : α} (h : Rereads room names ms read a) :
    (Json.object ms).Printable :=
  Json.membersPrintable_iff.2 h.printable

/-- What is read by its fields is read back if its fields are. -/
theorem Rewrites.record [Measured α] {fields : List Field}
    {read : Record → Except DocumentError α} {members : α → List (String × Json)}
    (h : ∀ r a, read r = .ok a → Kept a →
      Rereads r.scope.room (fields.map Field.name) (members a) read a)
    (hfields : WellNamed fields := by decide) :
    Rewrites (Reader.record fields read) fun a => .object (members a) := by
  intro scope j a ha hkept
  simp only [Reader.record, bind_eq_ok] at ha
  obtain ⟨⟨inner, shape⟩, henter, r, hr, ha⟩ := ha
  obtain ⟨hroom, hinner⟩ := enterRecord_eq_ok henter
  have hreread := h r a ha hkept
  rw [ofShape_scope hr, hinner] at hreread
  refine ⟨fun scope' hscope => ?_, hreread.isSound hroom, hreread.printable_object⟩
  obtain ⟨inner', henter', hinner'⟩ := exists_enter scope' (by omega)
  obtain ⟨r', hr', hread⟩ := hreread.ofShape hfields inner' (by omega)
  simp only [Reader.record, bind_eq_ok]
  refine ⟨(inner', .members (members a)), ?_, r', hr', hread⟩
  simp only [enterRecord, bind_eq_ok]
  exact ⟨inner', henter', rfl⟩

/-! ### Tagged values -/

/-- The members `ms` that stand beside a tag are read as `a` wherever there is room for some arrays
and objects, and can be printed. -/
structure MembersStable (read : Scope → Shape → Except DocumentError α) (ms : List (String × Json))
    (room : Nat) (a : α) : Prop where
  untagged : ∀ m ∈ ms, m.1 ≠ "type"
  sound : ∀ m ∈ ms, m.2.isSound room = true
  printable : ∀ m ∈ ms, m.2.Printable
  read : ∀ scope : Scope, scope.room = room → read scope (.members ms) = .ok a

theorem Rereads.membersStable {room : Nat} {fields : List Field} {ms : List (String × Json)}
    {read : Record → Except DocumentError α} {a : α}
    (h : Rereads room (fields.map Field.name) ms read a)
    (hfields : WellNamed fields ∧ "type" ∉ fields.map Field.name := by decide) :
    MembersStable (fun scope shape => Record.ofShape fields scope shape >>= read) ms room a where
  untagged m hm heq := hfields.2 (heq ▸ h.mem_names hm)
  sound := h.sound
  printable := h.printable
  read scope hroom := by
    obtain ⟨r, hr, hread⟩ := h.ofShape hfields.1 scope hroom
    exact bind_eq_ok.2 ⟨r, hr, hread⟩

theorem MembersStable.map {read : Scope → Shape → Except DocumentError α}
    {ms : List (String × Json)} {room : Nat} {a : α} (h : MembersStable read ms room a)
    (f : α → β) :
    MembersStable (fun scope shape => (read scope shape).map f) ms room (f a) where
  untagged := h.untagged
  sound := h.sound
  printable := h.printable
  read scope hroom := map_eq_ok.2 ⟨a, h.read scope hroom, rfl⟩

theorem readTagged_eq_ok {variants : List String} {scope inner : Scope} {j : Json}
    {variant : String} {shape : Shape}
    (h : readTagged variants scope j = .ok (variant, inner, shape)) :
    0 < scope.room ∧ inner.room = scope.room - 1 := by
  simp only [readTagged] at h
  split at h
  · cases h
  · obtain ⟨⟨entered, _⟩, henter, h⟩ := bind_eq_ok.1 h
    have hinner : inner.room = entered.room := by
      split at h
      · split at h
        · cases h
        · obtain ⟨_, -, h⟩ := bind_eq_ok.1 h
          cases h
          rfl
        · cases h
      · cases h
      · obtain ⟨_, -, h⟩ := bind_eq_ok.1 h
        cases h
        rfl
    rw [hinner]
    exact enterRecord_eq_ok henter

/-- What a tag selects is read back if the members beside it are. -/
theorem MembersStable.tagged {readOf : String → Scope → Shape → Except DocumentError α}
    {kind : String} {ms : List (String × Json)} {room : Nat} {a : α}
    (h : MembersStable (readOf kind) ms (room - 1) a) (hroom : 0 < room) {variants : List String}
    (hkind : kind ∈ variants) :
    Stable
      (fun scope j => do
        let (kind, inner, shape) ← readTagged variants scope j
        readOf kind inner shape)
      (.object (("type", .string kind) :: ms)) room a := by
  have hsound : (Json.object (("type", .string kind) :: ms)).isSound room = true :=
    isSound_object hroom (List.forall_mem_cons.2 ⟨rfl, h.sound⟩)
  refine ⟨?_, hsound, ⟨trivial, Json.membersPrintable_iff.2 h.printable⟩⟩
  intro scope hscope
  obtain ⟨inner, henter, hinner⟩ := exists_enter scope (by omega)
  have hothers : ms.filter (·.1 == "type") = [] :=
    List.filter_eq_nil_iff.2 (by simpa using h.untagged)
  have hmembers : ms.filter (·.1 != "type") = ms :=
    List.filter_eq_self.2 fun m hm => bne_iff_ne.2 (h.untagged m hm)
  refine bind_eq_ok.2
    ⟨(kind, { inner with tagged := true, placed := scope.placed }, .members ms), ?_,
      h.read _ (by simpa [hscope] using hinner)⟩
  simp [readTagged, hscope, hsound, enterRecord, henter, hothers, hmembers, selectVariant, hkind,
    Functor.map, Except.map]

end CharacterSheet.Document
