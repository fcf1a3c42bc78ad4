import CharacterSheet.Library
import CharacterSheet.Proofs.ItemIds
import CharacterSheet.Proofs.SourceFields
import Mathlib.Data.List.Induction

/-!
# Comparing copies with their sources

Libraries are prepared one after the other, some of them under a name that was prepared before.
What an index then holds under a name is what the last library of that name holds, whatever was
entered before it and whatever was prepared under other names in between:
`SourceIndex.digest?_ofLibraries`.

So a copy of an item of that library stays matched as long as only its character works on it:
`SourceIndex.statusOf?_ofLibraries`.
-/

namespace CharacterSheet

open SourceContent (bytes digest)

/-! ### What a character changes -/

namespace Item

/-- The reference of an item to the library that it was copied from. -/
def source : Item → Option SourceRef
  | ofTrait t => t.source
  | ofSkill k => k.source
  | ofSpell p => p.source
  | ofEquipment e => e.source

/-- The item without what belongs to its character: its id, its points, which level it has,
whether it is in use, how many there are of it, what it contains, the values of its tokens, and
what is computed for it. -/
def authored : Item → Item
  | ofTrait t =>
    ofTrait
      { t with
        id := {}, levels := t.levels.map fun _ => 0, disabled := false
        features := t.features.map (Feature.atLevel 0)
        replacements := .empty, unsatisfiedReason := none }
  | ofSkill k =>
    ofSkill
      { k with
        id := {}, points := 0, defaults := k.defaults.map SkillDefault.bare
        features := k.features.map (Feature.atLevel 0)
        replacements := .empty, level := {}, unsatisfiedReason := none }
  | ofSpell p =>
    ofSpell
      { p with id := {}, points := 0, replacements := .empty, level := {}, unsatisfiedReason := none }
  | ofEquipment e =>
    ofEquipment
      { toGear :=
          { e.toGear with
            id := {}, quantity := 1, equipped := true
            features := e.features.map (Feature.atLevel 0)
            replacements := .empty, unsatisfiedReason := none }
        children := [] }

theorem kind_authored (x : Item) : x.authored.kind = x.kind := by cases x <;> rfl

theorem source_authored (x : Item) : x.authored.source = x.source := by cases x <;> rfl

/-- What belongs to the character is no source content. -/
theorem bytes_authored (x : Item) : bytes x.authored = bytes x := by
  have features (fs : List Feature) :
      (fs.map (Feature.atLevel 0)).map (Feature.atLevel 0) = fs.map (Feature.atLevel 0) := by
    rw [List.map_map]
    exact List.map_congr_left fun f _ => by cases f <;> rfl
  cases x with
  | ofTrait t => exact Trait.SameSource.bytes_eq ⟨rfl, rfl, rfl, by simp, features _, rfl⟩
  | ofSkill k =>
    have defaults : (k.defaults.map SkillDefault.bare).map SkillDefault.bare =
        k.defaults.map SkillDefault.bare := List.map_map
    exact Skill.SameSource.bytes_eq ⟨rfl, rfl, rfl, rfl, defaults, features _, rfl⟩
  | ofSpell p => exact Spell.SameSource.bytes_eq ⟨rfl, rfl, rfl, rfl, rfl, rfl⟩
  | ofEquipment e => exact Equipment.SameSource.bytes_eq ⟨rfl, rfl, rfl, features _, rfl⟩

/-- The item as it is copied from a place in a library. -/
def copied (source : SourceRef) (chosen : Replacements) : Item → Item
  | ofTrait t => ofTrait (LibraryItem.withChoices chosen (LibraryItem.withSource (some source) t))
  | ofSkill k => ofSkill (LibraryItem.withChoices chosen (LibraryItem.withSource (some source) k))
  | ofSpell p => ofSpell (LibraryItem.withChoices chosen (LibraryItem.withSource (some source) p))
  | ofEquipment e =>
    ofEquipment (LibraryItem.withChoices chosen (LibraryItem.withSource (some source) e))

theorem kind_copied (source : SourceRef) (chosen : Replacements) (x : Item) :
    (x.copied source chosen).kind = x.kind := by
  cases x <;> rfl

theorem source_copied (source : SourceRef) (chosen : Replacements) (x : Item) :
    (x.copied source chosen).source = some source := by
  rcases x with _ | _ | _ | ⟨gear, children⟩ <;> rfl

/-- The values chosen for tokens leave the author's text as it is. -/
theorem bytes_copied (source : SourceRef) (chosen : Replacements) (x : Item) :
    bytes (x.copied source chosen) = bytes x := by
  rcases x with _ | _ | _ | ⟨gear, children⟩ <;> rfl

end Item

/-! ### Items of libraries -/

namespace Library

/-- The item of a kind under an id. -/
def item? (l : Library) (kind : ItemKind) (id : String) : Option Item :=
  match kind with
  | .trait => (l.traits.get? id).map .ofTrait
  | .skill => (l.skills.get? id).map .ofSkill
  | .spell => (l.spells.get? id).map .ofSpell
  | .equipment => (l.equipment.get? id).map .ofEquipment

theorem kind_of_mem_item? {l : Library} {kind : ItemKind} {id : String} {x : Item}
    (h : x ∈ l.item? kind id) : x.kind = kind := by
  cases kind <;>
    · obtain ⟨_, -, rfl⟩ := Option.map_eq_some_iff.1 h
      rfl

/-- A copy is a copy of the item under the id. -/
theorem copyItem?_eq (l : Library) (kind : ItemKind) (id : String) (chosen : Replacements) :
    l.copyItem? kind id chosen = (l.item? kind id).map (Item.copied ⟨l.name, id⟩ chosen) := by
  cases kind <;>
    · simp only [copyItem?, copy?, item?, Option.map_map]
      rfl

/-- The last of the libraries with a name. -/
def lastNamed? (ls : List Library) (name : String) : Option Library :=
  ls.reverse.find? fun l => l.name = name

theorem lastNamed?_append_singleton (ls : List Library) (l : Library) (name : String) :
    lastNamed? (ls ++ [l]) name = if name = l.name then some l else lastNamed? ls name := by
  simp only [lastNamed?, List.reverse_append, List.reverse_singleton, List.singleton_append,
    List.find?_cons, eq_comm (a := name)]
  split <;> simp_all

end Library

/-! ### The index -/

namespace SourceIndex

/-- The index that libraries are prepared into, one after the other. -/
def ofLibraries (ls : List Library) : SourceIndex := ls.foldl prepare {}

/-- What is entered for the items of one kind is found under the name of their library. -/
theorem findSome?_digestsOf (α : Type) [LibraryItem α] (l : Library) (key : SourceKey) :
    ((digestsOf α l).findSome? fun e => if e.1 = key then some e.2 else none) =
      if key.library = l.name ∧ key.kind = LibraryItem.kind α then
        ((LibraryItem.items (α := α) l).get? key.id).map digest
      else none := by
  obtain ⟨library, kind, id⟩ := key
  simp only [digestsOf, List.findSome?_map, Function.comp_def, SourceKey.mk.injEq, KeyMap.get?,
    List.map_findSome?]
  split
  · next h => simp [h.1, h.2, apply_ite]
  · next h =>
    refine List.findSome?_eq_none_iff.2 fun e _ => if_neg fun heq => h ⟨heq.1.symm, heq.2.1.symm⟩

/-- What was entered for other libraries stays. -/
theorem findSome?_filter_library (digests : List (SourceKey × Digest)) (name : String)
    (key : SourceKey) :
    ((digests.filter fun e => e.1.library != name).findSome?
        fun e => if e.1 = key then some e.2 else none) =
      if key.library = name then none
      else digests.findSome? fun e => if e.1 = key then some e.2 else none := by
  induction digests with
  | nil => simp
  | cons e rest ih =>
    by_cases hkey : e.1 = key
    · subst hkey
      by_cases hname : e.1.library = name <;> simp [hname, ih]
    · by_cases hname : e.1.library = name <;> simp [hname, hkey, ih]

/-- A prepared library stands for itself, and leaves what is entered under other names. -/
theorem digest?_prepare (x : SourceIndex) (l : Library) (key : SourceKey) :
    (x.prepare l).digest? key =
      if key.library = l.name then (l.item? key.kind key.id).map digest else x.digest? key := by
  simp only [digest?, prepare, List.findSome?_append, findSome?_digestsOf,
    findSome?_filter_library]
  split
  · next h =>
    cases hkind : key.kind <;>
      simp [Library.item?, LibraryItem.kind, LibraryItem.items, h] <;> rfl
  · next h => simp [h]

/-- The last library of a name decides what is found under it. -/
theorem digest?_ofLibraries (ls : List Library) (key : SourceKey) :
    (ofLibraries ls).digest? key =
      ((Library.lastNamed? ls key.library).bind fun l => l.item? key.kind key.id).map digest := by
  induction ls using List.reverseRecOn with
  | nil => rfl
  | append_singleton ls l ih =>
    have hstep : ofLibraries (ls ++ [l]) = (ofLibraries ls).prepare l := by
      rw [ofLibraries, List.foldl_append]
      rfl
    rw [hstep, digest?_prepare, Library.lastNamed?_append_singleton, ih]
    split <;> rfl

/-! ### Status -/

/-- The item that an item was copied from, as it is in the last library of that name. -/
def original? (ls : List Library) (x : Item) : Option Item :=
  x.source.bind fun source =>
    (Library.lastNamed? ls source.library).bind fun l => l.item? x.kind source.id

theorem statusOf?_eq (x : SourceIndex) (item : Item) :
    x.statusOf? item = item.source.map fun source =>
      match x.digest? ⟨source.library, item.kind, source.id⟩ with
      | some expected => if expected = digest item then .matched else .mismatched
      | none => .missing := by
  cases item <;> rfl

theorem isSome_statusOf? (x : SourceIndex) (item : Item) :
    (x.statusOf? item).isSome = item.source.isSome := by
  rw [statusOf?_eq, Option.isSome_map]

/-- An item with a source is compared with the item in the last library of the name alone. -/
theorem statusOf?_ofLibraries (ls : List Library) {x : Item} (h : x.source.isSome) :
    (ofLibraries ls).statusOf? x = some
      (match original? ls x with
        | some original => if digest original = digest x then .matched else .mismatched
        | none => .missing) := by
  obtain ⟨source, hsource⟩ := Option.isSome_iff_exists.1 h
  simp only [statusOf?_eq, digest?_ofLibraries, original?, hsource, Option.map_some,
    Option.bind_some]
  cases (Library.lastNamed? ls source.library).bind fun l => l.item? x.kind source.id <;> rfl

/-- A copy from the last library of a name stays matched while its character works on it. -/
theorem matched_of_authored_eq {ls : List Library} {l : Library}
    (hlast : Library.lastNamed? ls l.name = some l) {kind : ItemKind} {id : String}
    {chosen : Replacements} {c x : Item} (hc : c ∈ l.copyItem? kind id chosen)
    (hx : x.authored = c.authored) : (ofLibraries ls).statusOf? x = some .matched := by
  rw [Library.copyItem?_eq] at hc
  obtain ⟨original, horiginal, rfl⟩ := Option.map_eq_some_iff.1 hc
  have hsource : x.source = some ⟨l.name, id⟩ := by
    rw [← Item.source_authored, hx, Item.source_authored, Item.source_copied]
  have hkind : x.kind = kind := by
    rw [← Item.kind_authored, hx, Item.kind_authored, Item.kind_copied,
      Library.kind_of_mem_item? horiginal]
  have hbytes : bytes x = bytes original := by
    rw [← Item.bytes_authored, hx, Item.bytes_authored, Item.bytes_copied]
  have hfound : original? ls x = some original := by
    simp only [original?, hsource, hkind, hlast, horiginal, Option.bind_some]
  rw [statusOf?_ofLibraries ls (by rw [hsource]; rfl), hfound]
  exact congrArg some (if_pos (by rw [digest, digest, hbytes]))

end SourceIndex

/-! ### Reports -/

namespace Equipment

/-- A piece is a container or stands in it, at any depth. -/
inductive Within : Equipment → Equipment → Prop where
  | self (e : Equipment) : Within e e
  | inside {p child e : Equipment} : child ∈ e.children → Within p child → Within p e

theorem pieces_eq (e : Equipment) : pieces e = e :: e.children.flatMap pieces := by
  obtain ⟨gear, children⟩ := e
  rw [pieces, piecesAll_eq_flatMap]

mutual

theorem within_of_mem_pieces {p : Equipment} : ∀ e : Equipment, p ∈ pieces e → p.Within e
  | ⟨gear, children⟩, h => by
      rcases List.mem_cons.1 h with rfl | h
      · exact .self _
      · obtain ⟨child, hmem, hchild⟩ := within_of_mem_piecesAll children h
        exact .inside hmem hchild

theorem within_of_mem_piecesAll {p : Equipment} :
    ∀ es : List Equipment, p ∈ piecesAll es → ∃ e ∈ es, p.Within e
  | [], h => nomatch h
  | e :: rest, h => by
      rcases List.mem_append.1 h with h | h
      · exact ⟨e, List.mem_cons_self, within_of_mem_pieces e h⟩
      · obtain ⟨root, hmem, hroot⟩ := within_of_mem_piecesAll rest h
        exact ⟨root, List.mem_cons_of_mem _ hmem, hroot⟩

end

theorem Within.mem_pieces {p e : Equipment} (h : p.Within e) : p ∈ pieces e := by
  induction h with
  | self =>
    rw [pieces_eq]
    exact List.mem_cons_self
  | inside hmem _ ih =>
    rw [pieces_eq]
    exact List.mem_cons_of_mem _ (List.mem_flatMap.2 ⟨_, hmem, ih⟩)

end Equipment

/-- The items of a sheet include the equipment at every depth. -/
theorem Sheet.ofEquipment_mem_items {s : Sheet} {p : Equipment} :
    .ofEquipment p ∈ s.items ↔ ∃ e ∈ s.equipment, p.Within e := by
  refine mem_items.trans ⟨fun h => Equipment.within_of_mem_piecesAll _ h, fun ⟨e, he, hp⟩ => ?_⟩
  rw [pieces, Equipment.piecesAll_eq_flatMap]
  exact List.mem_flatMap.2 ⟨e, he, hp.mem_pieces⟩

namespace SourceIndex

/-- A report goes through the items of a sheet. -/
theorem report_eq (x : SourceIndex) (s : Sheet) :
    x.report s = s.items.filterMap fun item => (x.statusOf? item).map (item.id, ·) := by
  simp only [Sheet.items, List.filterMap_append, List.filterMap_map]
  rfl

/-- The items with a source are reported, each once. -/
theorem ids_report (x : SourceIndex) (s : Sheet) :
    (x.report s).map Prod.fst = (s.items.filter (·.source.isSome)).map Item.id := by
  rw [report_eq]
  induction s.items with
  | nil => rfl
  | cons item rest ih =>
    have hsome := x.isSome_statusOf? item
    cases hstatus : x.statusOf? item <;> rw [hstatus] at hsome <;>
      simp [hstatus, ← hsome, ih]

theorem nodup_ids_report (x : SourceIndex) {s : Sheet} (h : s.ids.Nodup) :
    ((x.report s).map Prod.fst).Nodup := by
  rw [ids_report]
  exact h.sublist (List.filter_sublist.map _)

/-- **A comparison is with the last library of the name.** Whatever libraries were prepared, in
whatever order, an item with a source is missing exactly if the last library of that name has no
item of that kind under that id, and otherwise is matched or not by comparison with that item
alone. So a copy from the last library of a name is matched, whatever values were chosen for its
tokens, and stays so while nothing but what belongs to its character is changed in it. A report
has the status of each item of a sheet with a source, equipment at every depth included. -/
theorem compares_with_last (ls : List Library) :
    (∀ x : Item, ((ofLibraries ls).statusOf? x).isSome = x.source.isSome) ∧
    (∀ x : Item, x.source.isSome →
      ((ofLibraries ls).statusOf? x = some .missing ↔ original? ls x = none) ∧
        ∀ original ∈ original? ls x,
          (ofLibraries ls).statusOf? x =
            some (if digest original = digest x then .matched else .mismatched)) ∧
    (∀ l : Library, Library.lastNamed? ls l.name = some l →
      ∀ (kind : ItemKind) (id : String) (chosen : Replacements),
        (l.copyItem? kind id chosen).isSome = (l.item? kind id).isSome ∧
          ∀ c ∈ l.copyItem? kind id chosen, ∀ x : Item, x.authored = c.authored →
            (ofLibraries ls).statusOf? x = some .matched) ∧
    ∀ s : Sheet,
      ((ofLibraries ls).report s =
        s.items.filterMap fun x => ((ofLibraries ls).statusOf? x).map (x.id, ·)) ∧
      (∀ p : Equipment, .ofEquipment p ∈ s.items ↔ ∃ e ∈ s.equipment, p.Within e) ∧
      (s.ids.Nodup → (((ofLibraries ls).report s).map Prod.fst).Nodup) := by
  refine ⟨isSome_statusOf? _, ?status, ?copies, ?report⟩
  case status =>
    intro x hx
    rw [statusOf?_ofLibraries ls hx]
    cases original? ls x with
    | none => exact ⟨⟨fun _ => rfl, fun _ => rfl⟩, fun _ h => nomatch h⟩
    | some original =>
      refine ⟨⟨fun h => ?_, fun h => nomatch h⟩, fun _ h => by cases h; rfl⟩
      dsimp only at h
      split at h <;> cases h
  case copies =>
    intro l hlast kind id chosen
    refine ⟨?_, fun c hc x hx => matched_of_authored_eq hlast hc hx⟩
    rw [Library.copyItem?_eq, Option.isSome_map]
  case report =>
    exact fun s => ⟨report_eq _ s, fun p => Sheet.ofEquipment_mem_items, nodup_ids_report _⟩

/-- A library with a chest of a weight, in which there are other pieces. -/
def withChest (name : String) (weight : Weight) (children : List Equipment) : Library :=
  { name, equipment := ⟨[("chest", { name := "Chest of @Owner@", weight, children })], by simp⟩ }

/-- A library with a trait, and libraries with a chest. The last two come in place of libraries
with the same names. -/
def editions : List Library :=
  [{ name := "Basic", traits := ⟨[("luck", { name := "Luck" })], by simp⟩ },
    withChest "Other" .zero [], withChest "Basic" .zero [{ name := "Rope" }],
    withChest "Other" ⟨1⟩ []]

/-- Three chests of Ann's with nothing in them are matched, and the trait is missing since its
library was prepared again. -/
theorem editions_compared :
    (ofLibraries editions).statusOf?
        (.ofEquipment
          { name := "Chest of @Owner@", quantity := 3, source := some ⟨"Basic", "chest"⟩
            replacements := .ofList [("Owner", "Ann")] }) = some .matched ∧
      (ofLibraries editions).statusOf?
        (.ofTrait { name := "Luck", source := some ⟨"Basic", "luck"⟩ }) = some .missing := by
  obtain ⟨-, status, copies, -⟩ := compares_with_last editions
  obtain ⟨-, matched⟩ :=
    copies (withChest "Basic" .zero [{ name := "Rope" }]) rfl .equipment "chest" .empty
  exact ⟨matched _ rfl _ rfl, (status _ rfl).1.mpr rfl⟩

end SourceIndex

end CharacterSheet
