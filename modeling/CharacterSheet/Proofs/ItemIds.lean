import CharacterSheet.Library
import CharacterSheet.Proofs.Recalculation
import Mathlib.Data.List.Induction
import Mathlib.Data.List.Nodup

/-!
# Ids of items

A sheet numbers its items in the order in which they are added, a container before what it
contains. So the ids on a sheet that was built by adding items are 1, 2, … up to the last id that
was given, each the id of one item: `Sheet.Numbered`. An id that was returned for an item names it,
among the items of its kind and of no other, whatever is added, set or recalculated afterwards:
`Sheet.ids_run`.

Each operation adds items behind those that are there, or changes items without giving them other
ids; what holds of a whole run follows by induction. Ids are counted without a bound, so this is
about runs that give fewer than `2 ^ 32` of them.
-/

namespace CharacterSheet

/-! ### Ids in order -/

/-- The ids that are given after `last`, a number of them. -/
def ItemId.following (last count : Nat) : List ItemId :=
  (List.range' (last + 1) count).map ItemId.mk

namespace ItemId

theorem following_append (last m n : Nat) :
    following last m ++ following (last + m) n = following last (m + n) := by
  rw [following, following, following, ← List.map_append, Nat.add_right_comm,
    List.range'_append_1]

theorem following_succ (last count : Nat) :
    following last (count + 1) = ⟨last + 1⟩ :: following (last + 1) count := rfl

theorem mem_following {last count : Nat} {id : ItemId} :
    id ∈ following last count ↔ last < id.number ∧ id.number ≤ last + count := by
  obtain ⟨number⟩ := id
  simp only [following, List.mem_map, ItemId.mk.injEq, exists_eq_right, List.mem_range'_1]
  omega

theorem nodup_following (last count : Nat) : (following last count).Nodup :=
  List.Nodup.map (fun _ _ h => ItemId.mk.inj h) List.nodup_range'

/-- If the ids in a list are different, each element is found by its id. -/
theorem find?_of_mem {α : Type} {idOf : α → ItemId} {l : List α} (h : (l.map idOf).Nodup) {x : α}
    (hx : x ∈ l) : (l.find? fun y => idOf y == idOf x) = some x := by
  cases hfind : l.find? fun y => idOf y == idOf x with
  | none => exact absurd (beq_self_eq_true (idOf x)) (List.find?_eq_none.1 hfind x hx)
  | some y =>
      have hid := List.find?_some hfind
      rw [beq_iff_eq] at hid
      rw [List.inj_on_of_nodup_map h (List.mem_of_find?_eq_some hfind) hx hid]

end ItemId

open ItemId (following)

/-! ### Items with their contents -/

/-- Forgets what items get on a sheet: ids, and what recalculation writes. -/
def ItemMap.forgetGiven : ItemMap where
  trait t := { t with id := {}, unsatisfiedReason := none }
  skill k := { k with id := {}, level := {}, unsatisfiedReason := none }
  spell p := { p with id := {}, level := {}, unsatisfiedReason := none }
  gear g := { g with id := {}, unsatisfiedReason := none }

namespace Item

/-- The item without what it got on a sheet. -/
def plain (x : Item) : Item := ItemMap.forgetGiven.item x

theorem kind_plain (x : Item) : x.plain.kind = x.kind := by cases x <;> rfl

theorem kind_eq_of_plain_eq {x y : Item} (h : x.plain = y.plain) : x.kind = y.kind := by
  rw [← kind_plain, h, kind_plain]

/-- What recalculation writes to an item is forgotten with the rest. -/
theorem plain_eq_of_forgetDerived_eq {x y : Item}
    (h : ItemMap.forgetDerived.item x = ItemMap.forgetDerived.item y) : x.plain = y.plain := by
  have hplain (x : Item) : (ItemMap.forgetDerived.item x).plain = x.plain := by
    cases x with
    | ofTrait | ofSkill | ofSpell => rfl
    | ofEquipment e => exact congrArg ofEquipment (Equipment.mapGear_mapGear _ _ e)
  rw [← hplain, h, hplain]

/-- An item and what it contains. -/
def parts : Item → List Item
  | ofEquipment e => e.pieces.map ofEquipment
  | x => [x]

theorem self_mem_parts (x : Item) : x ∈ x.parts := by
  rcases x with _ | _ | _ | ⟨gear, children⟩ <;> exact List.mem_cons_self

/-- The item as it is added after the id `last`: with ids of its own for it and its contents. -/
def numbered (last : Nat) : Item → Item
  | ofTrait t => ofTrait { t with id := ⟨last + 1⟩ }
  | ofSkill k => ofSkill { k with id := ⟨last + 1⟩ }
  | ofSpell p => ofSpell { p with id := ⟨last + 1⟩ }
  | ofEquipment e => ofEquipment (e.assignIds last).1

end Item

namespace Equipment

theorem piecesAll_eq_flatMap (es : List Equipment) : piecesAll es = es.flatMap pieces := by
  induction es with
  | nil => rfl
  | cons e rest ih => rw [piecesAll, ih, List.flatMap_cons]

mutual

/-- A piece and what it contains get the ids that follow, containers first. -/
theorem ids_assignIds :
    ∀ (e : Equipment) (last : Nat),
      ids (pieces (assignIds last e).1) = following last (pieces e).length ∧
        (assignIds last e).2 = last + (pieces e).length
  | ⟨gear, children⟩, last => by
      obtain ⟨hids, hlast⟩ := ids_assignIdsAll children (last + 1)
      simp only [assignIds, pieces, ids, List.map_cons, List.length_cons] at hids ⊢
      rw [hids, hlast, ItemId.following_succ]
      exact ⟨rfl, by omega⟩

theorem ids_assignIdsAll :
    ∀ (es : List Equipment) (last : Nat),
      ids (piecesAll (assignIdsAll last es).1) = following last (piecesAll es).length ∧
        (assignIdsAll last es).2 = last + (piecesAll es).length
  | [], _ => ⟨rfl, rfl⟩
  | e :: rest, last => by
      obtain ⟨hids, hlast⟩ := ids_assignIds e last
      obtain ⟨hrest, hend⟩ := ids_assignIdsAll rest (assignIds last e).2
      simp only [assignIdsAll, piecesAll, ids, List.map_append, List.length_append] at hids hrest ⊢
      rw [hids, hrest, hend, hlast, ItemId.following_append]
      exact ⟨rfl, by omega⟩

end

mutual

/-- To give ids changes nothing but ids. -/
theorem mapGear_assignIds {f : Gear → Gear} (h : ∀ g id, f { g with id } = f g) :
    ∀ (e : Equipment) (last : Nat), mapGear f (assignIds last e).1 = mapGear f e
  | ⟨gear, children⟩, last => by
      simp only [assignIds, mapGear, h, mapGearAll_assignIdsAll h children]

theorem mapGearAll_assignIdsAll {f : Gear → Gear} (h : ∀ g id, f { g with id } = f g) :
    ∀ (es : List Equipment) (last : Nat),
      mapGearAll f (assignIdsAll last es).1 = mapGearAll f es
  | [], _ => rfl
  | e :: rest, last => by
      simp only [assignIdsAll, mapGearAll, mapGear_assignIds h e, mapGearAll_assignIdsAll h rest]

end

/-- A piece gets the first id. -/
theorem id_assignIds (e : Equipment) (last : Nat) : (assignIds last e).1.id = ⟨last + 1⟩ := by
  obtain ⟨gear, children⟩ := e
  rfl

end Equipment

namespace Item

@[simp] theorem id_numbered (last : Nat) (x : Item) : (x.numbered last).id = ⟨last + 1⟩ := by
  cases x with
  | ofTrait | ofSkill | ofSpell => rfl
  | ofEquipment e => exact e.id_assignIds last

@[simp] theorem plain_numbered (last : Nat) (x : Item) : (x.numbered last).plain = x.plain := by
  cases x with
  | ofTrait | ofSkill | ofSpell => rfl
  | ofEquipment e => exact congrArg ofEquipment (Equipment.mapGear_assignIds (fun _ _ => rfl) e last)

/-- An item and its contents get the ids that follow. -/
theorem ids_parts_numbered (last : Nat) (x : Item) :
    (x.numbered last).parts.map Item.id = following last x.parts.length := by
  cases x with
  | ofTrait | ofSkill | ofSpell => rfl
  | ofEquipment e =>
    simp only [numbered, parts, List.map_map, List.length_map]
    exact (Equipment.ids_assignIds e last).1

end Item

namespace Sheet

/-! ### The items of a sheet -/

/-- All items of a sheet, pieces of equipment at every depth included: traits, skills, spells and
equipment. -/
def items (s : Sheet) : List Item :=
  s.traits.map .ofTrait ++ s.skills.map .ofSkill ++ s.spells.map .ofSpell ++
    s.pieces.map .ofEquipment

@[simp] theorem mem_items {s : Sheet} {x : Item} :
    x ∈ s.items ↔
      match x with
      | .ofTrait t => t ∈ s.traits
      | .ofSkill k => k ∈ s.skills
      | .ofSpell p => p ∈ s.spells
      | .ofEquipment e => e ∈ s.pieces := by
  cases x <;> simp [items]

/-- The ids of all items. -/
def ids (s : Sheet) : List ItemId := s.items.map Item.id

theorem items_mapItems (f : ItemMap) (s : Sheet) : (s.mapItems f).items = s.items.map f.item := by
  simp only [items, pieces_mapItems, List.map_append, List.map_map]
  simp only [mapItems, List.map_map]
  rfl

/-- The items after recalculation are those before it, up to what it writes. -/
theorem forgetDerived_items_recalculate (s : Sheet) :
    s.recalculate.items.map ItemMap.forgetDerived.item =
      s.items.map ItemMap.forgetDerived.item := by
  rw [← items_mapItems, recalculate_forgetDerived, items_mapItems]
  rfl

/-- Every id up to the last one is the id of one item, and there are no others. -/
def Numbered (s : Sheet) : Prop := s.ids.Perm (following 0 s.lastId)

namespace Numbered

variable {s : Sheet} (h : s.Numbered)
include h

theorem nodup_ids : s.ids.Nodup := h.nodup_iff.2 (ItemId.nodup_following 0 s.lastId)

theorem mem_ids {id : ItemId} : id ∈ s.ids ↔ 0 < id.number ∧ id.number ≤ s.lastId := by
  rw [h.mem_iff, ItemId.mem_following, Nat.zero_add]

/-- Two items do not share an id. -/
theorem eq_of_id_eq {x y : Item} (hx : x ∈ s.items) (hy : y ∈ s.items) (hid : x.id = y.id) :
    x = y :=
  List.inj_on_of_nodup_map h.nodup_ids hx hy hid

end Numbered

/-! ### Looking up -/

/-- The item of a kind with an id. -/
def lookup? (s : Sheet) (kind : ItemKind) (id : ItemId) : Option Item :=
  match kind with
  | .trait => (s.trait? id).map .ofTrait
  | .skill => (s.skill? id).map .ofSkill
  | .spell => (s.spell? id).map .ofSpell
  | .equipment => (s.equipment? id).map .ofEquipment

theorem lookup?_eq_find? (s : Sheet) (kind : ItemKind) (id : ItemId) :
    s.lookup? kind id = s.items.find? fun x => x.kind = kind && x.id == id := by
  have hnone {α : Type} (l : List α) : l.find? (fun _ => false) = none := by simp
  cases kind <;>
    simp only [lookup?, trait?, skill?, spell?, equipment?, items, Item.kind, Item.id,
      List.append_assoc, List.find?_append, List.find?_map, Function.comp_def, reduceCtorEq,
      decide_true, decide_false, Bool.true_and, Bool.false_and, hnone, Option.map_none,
      Option.or_none, Option.none_or]

theorem item?_eq_find? (s : Sheet) (id : ItemId) :
    s.item? id = s.items.find? fun x => x.id == id := by
  simp only [item?, trait?, skill?, spell?, equipment?, items, Option.orElse_eq_orElse,
    Option.orElse_eq_or, List.append_assoc, List.find?_append, List.find?_map, Function.comp_def,
    Item.id]

/-- An item that is there is found by its kind and id, and by no other kind. -/
theorem Numbered.lookup?_of_mem {s : Sheet} (h : s.Numbered) {x : Item} (hx : x ∈ s.items)
    (kind : ItemKind) : s.lookup? kind x.id = if kind = x.kind then some x else none := by
  rw [lookup?_eq_find?]
  split
  case isTrue hkind =>
    cases hfind : s.items.find? fun y => y.kind = kind && y.id == x.id with
    | none => simpa [hkind] using List.find?_eq_none.1 hfind x hx
    | some y =>
      have hy := List.find?_some hfind
      simp only [Bool.and_eq_true, decide_eq_true_eq, beq_iff_eq] at hy
      rw [h.eq_of_id_eq (List.mem_of_find?_eq_some hfind) hx hy.2]
  case isFalse hkind =>
    refine List.find?_eq_none.2 fun y hy hyx => hkind ?_
    simp only [Bool.and_eq_true, decide_eq_true_eq, beq_iff_eq] at hyx
    rw [← hyx.1, h.eq_of_id_eq hy hx hyx.2]

/-- The names of the items are those that can be asked for. -/
theorem isSome_itemName? {s : Sheet} {id : ItemId} : (s.itemName? id).isSome ↔ id ∈ s.ids := by
  simp [itemName?, item?_eq_find?, ids]

/-! ### Adding items -/

private theorem append_middle_perm {α : Type} (as xs bs : List α) :
    (as ++ xs ++ bs).Perm (as ++ bs ++ xs) := by
  rw [List.append_assoc, List.append_assoc]
  exact List.perm_append_comm.append_left as

/-- What adding an item does: the item and what it contains come to the items, with the ids that
follow. -/
theorem addItem_spec (s : Sheet) (x : Item) :
    (s.addItem x).1.items.Perm (s.items ++ (x.numbered s.lastId).parts) ∧
      (s.addItem x).1.lastId = s.lastId + x.parts.length ∧
      (s.addItem x).2 = ⟨s.lastId + 1⟩ := by
  cases x with
  | ofTrait t =>
    refine ⟨?_, rfl, rfl⟩
    have hperm := append_middle_perm (s.traits.map .ofTrait) [(Item.ofTrait t).numbered s.lastId]
      (s.skills.map .ofSkill ++ (s.spells.map .ofSpell ++ s.pieces.map .ofEquipment))
    simpa [items, addItem, addTrait, nextId, Item.numbered, Item.parts, pieces] using hperm
  | ofSkill k =>
    refine ⟨?_, rfl, rfl⟩
    have hperm := append_middle_perm (s.traits.map .ofTrait ++ s.skills.map .ofSkill)
      [(Item.ofSkill k).numbered s.lastId] (s.spells.map .ofSpell ++ s.pieces.map .ofEquipment)
    simpa [items, addItem, addSkill, nextId, Item.numbered, Item.parts, pieces] using hperm
  | ofSpell p =>
    refine ⟨?_, rfl, rfl⟩
    have hperm := append_middle_perm
      (s.traits.map .ofTrait ++ s.skills.map .ofSkill ++ s.spells.map .ofSpell)
      [(Item.ofSpell p).numbered s.lastId] (s.pieces.map .ofEquipment)
    simpa [items, addItem, addSpell, nextId, Item.numbered, Item.parts, pieces] using hperm
  | ofEquipment e =>
    refine ⟨?_, ?_, e.id_assignIds s.lastId⟩
    · simp only [items, addItem, addEquipment, Item.numbered, Item.parts, pieces,
        Equipment.piecesAll_eq_flatMap, List.flatMap_append, List.flatMap_singleton,
        List.map_append, List.append_assoc]
      exact List.Perm.refl _
    · have hlast := (Equipment.ids_assignIds e s.lastId).2
      simpa [addItem, addEquipment, Item.parts] using hlast

/-- Every item of the first sheet stands on the second one too, under its id, and apart from what
items get on a sheet it is the same. -/
def Keeps (s t : Sheet) : Prop :=
  ∀ y ∈ s.items, ∃ z ∈ t.items, z.id = y.id ∧ z.plain = y.plain

theorem Keeps.exists_item {s t : Sheet} (h : s.Keeps t) {id : ItemId} {x : Item}
    (hx : ∃ y ∈ s.items, y.id = id ∧ y.plain = x.plain) :
    ∃ z ∈ t.items, z.id = id ∧ z.plain = x.plain := by
  obtain ⟨y, hy, rfl, hplain⟩ := hx
  obtain ⟨z, hz, hid, hplain'⟩ := h y hy
  exact ⟨z, hz, hid, hplain'.trans hplain⟩

theorem keeps_addItem (s : Sheet) (x : Item) : s.Keeps (s.addItem x).1 := by
  intro y hy
  refine ⟨y, ?_, rfl, rfl⟩
  rw [(s.addItem_spec x).1.mem_iff]
  exact List.mem_append_left _ hy

theorem keeps_recalculate (s : Sheet) : s.Keeps s.recalculate := by
  intro y hy
  have hmem : ItemMap.forgetDerived.item y ∈ s.recalculate.items.map ItemMap.forgetDerived.item := by
    rw [forgetDerived_items_recalculate]
    exact List.mem_map_of_mem hy
  obtain ⟨z, hz, hforget⟩ := List.mem_map.1 hmem
  have hid := congrArg Item.id hforget
  rw [ItemMap.keepsInputs_forgetDerived.id_item, ItemMap.keepsInputs_forgetDerived.id_item] at hid
  exact ⟨z, hz, hid, Item.plain_eq_of_forgetDerived_eq hforget⟩

/-- An item that was added stands on the sheet, with its id. -/
theorem exists_added (s : Sheet) (x : Item) :
    ∃ y ∈ (s.addItem x).1.items, y.id = (s.addItem x).2 ∧ y.plain = x.plain := by
  obtain ⟨hitems, -, hid⟩ := s.addItem_spec x
  refine ⟨x.numbered s.lastId, ?_, ?_, x.plain_numbered s.lastId⟩
  · rw [hitems.mem_iff]
    exact List.mem_append_right _ (x.numbered s.lastId).self_mem_parts
  · rw [hid, x.id_numbered]

/-- The ids of an item that is added follow the last one given. -/
theorem ids_addItem (s : Sheet) (x : Item) :
    (s.addItem x).1.ids.Perm (s.ids ++ following s.lastId x.parts.length) := by
  rw [← x.ids_parts_numbered]
  simpa only [ids, List.map_append] using (s.addItem_spec x).1.map Item.id

theorem Numbered.addItem {s : Sheet} (h : s.Numbered) (x : Item) : (s.addItem x).1.Numbered := by
  have hall : following 0 s.lastId ++ following s.lastId x.parts.length =
      following 0 (s.lastId + x.parts.length) := by
    simpa only [Nat.zero_add] using ItemId.following_append 0 s.lastId x.parts.length
  rw [Numbered, (s.addItem_spec x).2.1, ← hall]
  exact (s.ids_addItem x).trans (h.append_right _)

theorem ids_recalculate (s : Sheet) : s.recalculate.ids = s.ids := by
  have hids (t : Sheet) : t.ids = (t.items.map ItemMap.forgetDerived.item).map Item.id := by
    rw [ids, List.map_map]
    exact List.map_congr_left fun x _ => (ItemMap.keepsInputs_forgetDerived.id_item x).symm
  rw [hids, forgetDerived_items_recalculate, ← hids]

theorem lastId_recalculate (s : Sheet) : s.recalculate.lastId = s.lastId := by
  simp only [recalculate, updateReasons, updateSpells, updateSkills, gatherBonuses]

/-! ### Runs -/

/-- What is done to a sheet that changes its items or attributes. -/
inductive Operation where
  | add (x : Item)
  | applyTemplate (t : Template) (chosen : Replacements)
  | setAttribute (id name : String) (base : Fixed)
  | recalculate

end Sheet

/-- The items of a template with the values chosen for their tokens. -/
def Template.prepared (t : Template) (chosen : Replacements) : List Item :=
  t.traits.map (fun x => .ofTrait (LibraryItem.withChoices chosen x)) ++
    t.skills.map (fun x => .ofSkill (LibraryItem.withChoices chosen x)) ++
    t.spells.map (fun x => .ofSpell (LibraryItem.withChoices chosen x)) ++
    t.equipment.map (fun x => .ofEquipment (LibraryItem.withChoices chosen x))

namespace Sheet

namespace Operation

/-- Does an operation; also gives the ids of the items that it adds. -/
def perform (s : Sheet) : Operation → Sheet × List ItemId
  | add x => ((s.addItem x).1, [(s.addItem x).2])
  | applyTemplate t chosen => t.applyTo s chosen
  | setAttribute id name base => (s.setAttribute id name base, [])
  | recalculate => (s.recalculate, [])

/-- The items that an operation is to add. -/
def given : Operation → List Item
  | add x => [x]
  | applyTemplate t chosen => t.prepared chosen
  | setAttribute .. | recalculate => []

end Operation

/-- Does operations one after the other. Also gives the items that were to be added, each with the
id that was returned for it. -/
def run (s : Sheet) (ops : List Operation) : Sheet × List (ItemId × Item) :=
  ops.foldl
    (fun (s, log) op => ((op.perform s).1, log ++ (op.perform s).2.zip op.given))
    (s, [])

theorem run_append_singleton (s : Sheet) (ops : List Operation) (op : Operation) :
    s.run (ops ++ [op]) =
      ((op.perform (s.run ops).1).1,
        (s.run ops).2 ++ (op.perform (s.run ops).1).2.zip op.given) := by
  rw [run, List.foldl_append]
  rfl

/-- Adds an item to a sheet, and its id to those that were returned. -/
def addNext (state : Sheet × List ItemId) (x : Item) : Sheet × List ItemId :=
  ((state.1.addItem x).1, state.2 ++ [(state.1.addItem x).2])

end Sheet

/-- A template is applied by adding its items one after the other. -/
theorem Template.applyTo_eq_foldl (t : Template) (s : Sheet) (chosen : Replacements) :
    t.applyTo s chosen = (t.prepared chosen).foldl Sheet.addNext (s, []) := by
  rw [prepared, List.foldl_append, List.foldl_append, List.foldl_append, List.foldl_map,
    List.foldl_map, List.foldl_map, List.foldl_map]
  rfl

namespace Sheet

/-- On a sheet that holds what was added so far, items are numbered, as many as there were with
their contents, and each that was added stands under the id that was returned for it. -/
structure Holds (s : Sheet) (log : List (ItemId × Item)) : Prop where
  numbered : s.Numbered
  lastId_eq : s.lastId = (log.flatMap fun entry => entry.2.parts).length
  exists_item : ∀ entry ∈ log, ∃ y ∈ s.items, y.id = entry.1 ∧ y.plain = entry.2.plain

namespace Holds

variable {s t : Sheet} {log : List (ItemId × Item)}

theorem new (settings : SheetSettings) : ({ settings } : Sheet).Holds [] where
  numbered := .refl _
  lastId_eq := rfl
  exists_item _ h := absurd h List.not_mem_nil

/-- What gives no ids and keeps the items keeps what was added. -/
theorem of_keeps (h : s.Holds log) (hids : t.ids = s.ids) (hlast : t.lastId = s.lastId)
    (hkeeps : s.Keeps t) : t.Holds log where
  numbered := by
    rw [Numbered, hids, hlast]
    exact h.numbered
  lastId_eq := hlast.trans h.lastId_eq
  exists_item entry hentry := hkeeps.exists_item (h.exists_item entry hentry)

theorem addItem (h : s.Holds log) (x : Item) :
    (s.addItem x).1.Holds (log ++ [((s.addItem x).2, x)]) where
  numbered := h.numbered.addItem x
  lastId_eq := by
    rw [(s.addItem_spec x).2.1, h.lastId_eq]
    simp
  exists_item := by
    intro entry hentry
    rcases List.mem_append.1 hentry with hentry | hentry
    · exact (s.keeps_addItem x).exists_item (h.exists_item entry hentry)
    · rw [List.mem_singleton.1 hentry]
      exact s.exists_added x

/-- After several items the sheet holds all of them, with the ids in their order. -/
theorem foldl_addNext {done : List Item} {returned : List ItemId}
    (h : s.Holds (log ++ returned.zip done)) (hlength : returned.length = done.length)
    (xs : List Item) :
    (xs.foldl addNext (s, returned)).1.Holds
        (log ++ (xs.foldl addNext (s, returned)).2.zip (done ++ xs)) ∧
      (xs.foldl addNext (s, returned)).2.length = (done ++ xs).length := by
  induction xs generalizing s returned done with
  | nil => simpa using ⟨h, hlength⟩
  | cons x rest ih =>
    have hzip : (returned ++ [(s.addItem x).2]).zip (done ++ [x]) =
        returned.zip done ++ [((s.addItem x).2, x)] := List.zip_append hlength
    have hnext := h.addItem x
    rw [List.append_assoc, ← hzip] at hnext
    have hrest := ih hnext (by simp [hlength])
    rwa [List.append_assoc] at hrest

/-- One operation: the sheet then holds what it added as well, and an id was returned for each. -/
theorem perform (h : s.Holds log) (op : Operation) :
    (op.perform s).1.Holds (log ++ (op.perform s).2.zip op.given) ∧
      (op.perform s).2.length = op.given.length := by
  cases op with
  | add x => exact ⟨h.addItem x, rfl⟩
  | applyTemplate t chosen =>
    have hnone : s.Holds (log ++ ([] : List ItemId).zip []) := by simpa using h
    rw [Operation.perform, t.applyTo_eq_foldl]
    exact hnone.foldl_addNext rfl (t.prepared chosen)
  | setAttribute id name base =>
    refine ⟨?_, rfl⟩
    rw [Operation.given, List.zip_nil_right, List.append_nil]
    exact h.of_keeps rfl rfl fun y hy => ⟨y, hy, rfl, rfl⟩
  | recalculate =>
    refine ⟨?_, rfl⟩
    rw [Operation.given, List.zip_nil_right, List.append_nil]
    exact h.of_keeps s.ids_recalculate s.lastId_recalculate s.keeps_recalculate

/-- A whole run, by induction on its operations. -/
theorem run (settings : SheetSettings) (ops : List Operation) :
    (Sheet.run { settings } ops).1.Holds (Sheet.run { settings } ops).2 ∧
      (Sheet.run { settings } ops).2.map Prod.snd = ops.flatMap Operation.given := by
  induction ops using List.reverseRecOn with
  | nil => exact ⟨.new settings, rfl⟩
  | append_singleton ops op ih =>
    obtain ⟨hholds, hgiven⟩ := ih
    obtain ⟨hnext, hlength⟩ := hholds.perform op
    rw [run_append_singleton, List.flatMap_append, List.flatMap_singleton, ← hgiven]
    refine ⟨hnext, ?_⟩
    rw [List.map_append, List.map_snd_zip (Nat.le_of_eq hlength.symm)]

end Holds

/-- **Ids are unique and name their items.** After any run of operations on a new sheet the ids of
all items, contents of containers included, are 1, 2, … up to the number of items that were added
with their contents, each the id of one item. An id that was returned for an item finds, among the
items of its kind and at any later time, that item with no changes but ids and what recalculation
writes, and finds nothing among other kinds. A name is found exactly for the ids that were given. -/
theorem ids_run (settings : SheetSettings) (ops : List Operation) :
    let s := (run { settings } ops).1
    let log := (run { settings } ops).2
    s.ids.Nodup ∧ (∀ id ∈ s.ids, id.number ≠ 0) ∧
      s.ids.Perm (following 0 ((ops.flatMap Operation.given).flatMap Item.parts).length) ∧
      log.map Prod.snd = ops.flatMap Operation.given ∧
      (∀ entry ∈ log, ∀ kind, (s.lookup? kind entry.1).map Item.plain =
        if kind = entry.2.kind then some entry.2.plain else none) ∧
      ∀ id, (s.itemName? id).isSome ↔ id ∈ s.ids := by
  intro s log
  obtain ⟨hholds, hgiven⟩ := Holds.run settings ops
  have hnumbered := hholds.numbered
  refine ⟨hnumbered.nodup_ids, fun id hid => Nat.ne_of_gt (hnumbered.mem_ids.1 hid).1, ?_, hgiven, ?_,
    fun id => isSome_itemName?⟩
  · rw [← hgiven, List.flatMap_map, ← hholds.lastId_eq]
    exact hnumbered
  · intro entry hentry kind
    obtain ⟨y, hy, hid, hplain⟩ := hholds.exists_item entry hentry
    rw [← hid, hnumbered.lookup?_of_mem hy kind, Item.kind_eq_of_plain_eq hplain, ← hplain]
    split <;> rfl

/-- A skill, which a template adds. -/
def stealth : Skill := { name := "Stealth", difficulty := ⟨"dx", .average⟩, points := 2 }

/-- A chest with a rope in it is added and a template applied, then all is recalculated. -/
def chestRun : List Operation :=
  [.add (.ofEquipment { name := "Chest", children := [{ name := "Rope" }] }),
    .applyTemplate { name := "Scout", skills := [stealth] } .empty, .recalculate]

/-- The rope has the second id, so the skill has the third. -/
theorem ids_chestRun :
    (run {} chestRun).2.map Prod.fst = [⟨1⟩, ⟨3⟩] ∧ (run {} chestRun).1.ids.Nodup ∧
      ((run {} chestRun).1.lookup? .skill ⟨3⟩).map Item.plain = some (Item.ofSkill stealth) ∧
      (run {} chestRun).1.lookup? .equipment ⟨3⟩ = none := by
  obtain ⟨hnodup, -, -, -, hlookup, -⟩ := ids_run {} chestRun
  have hmem : (⟨3⟩, .ofSkill stealth) ∈ (run {} chestRun).2 :=
    List.mem_cons_of_mem _ List.mem_cons_self
  refine ⟨rfl, hnodup, ?_, ?_⟩
  · exact hlookup _ hmem .skill
  · exact Option.map_eq_none_iff.1 (hlookup _ hmem .equipment)

end Sheet

end CharacterSheet
