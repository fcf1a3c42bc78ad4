import CharacterSheet.Proofs.ChosenValues
import CharacterSheet.Proofs.CollectedValues
import CharacterSheet.Proofs.ItemIds

/-!
# Items of templates

A template is applied by adding its items one after the other. Each step puts one item behind those
of its kind, and what all steps together have put there is again a template: the items of the first
one, with ids and with the values chosen for their tokens. Nothing else on the sheet changes:
`Template.applyTo_adds`.

The tokens of the template are looked for in all of its texts at once, and those of an item in its
own texts, for each piece of equipment again in those of its contents. Both find the same tokens.
-/

namespace CharacterSheet

open HasPlaceholders (texts mapTexts collect rapier)

/-! ### Items of any kind -/

instance : HasPlaceholders Item where
  texts
    | .ofTrait t => texts t
    | .ofSkill k => texts k
    | .ofSpell p => texts p
    | .ofEquipment e => texts e
  mapTexts f
    | .ofTrait t => .ofTrait (mapTexts f t)
    | .ofSkill k => .ofSkill (mapTexts f k)
    | .ofSpell p => .ofSpell (mapTexts f p)
    | .ofEquipment e => .ofEquipment (mapTexts f e)

namespace Item

def trait? : Item → Option Trait
  | ofTrait t => some t
  | _ => none

def skill? : Item → Option Skill
  | ofSkill k => some k
  | _ => none

def spell? : Item → Option Spell
  | ofSpell p => some p
  | _ => none

def equipment? : Item → Option Equipment
  | ofEquipment e => some e
  | _ => none

/-- Records the values chosen for the tokens of an item. -/
def withChoices (chosen : Replacements) : Item → Item
  | ofTrait t => ofTrait (LibraryItem.withChoices chosen t)
  | ofSkill k => ofSkill (LibraryItem.withChoices chosen k)
  | ofSpell p => ofSpell (LibraryItem.withChoices chosen p)
  | ofEquipment e => ofEquipment (LibraryItem.withChoices chosen e)

/-- Items as they are added one after the other, after the id `last`. -/
def numberedAll (last : Nat) : List Item → List Item
  | [] => []
  | x :: rest => x.numbered last :: numberedAll (last + x.parts.length) rest

/-- An item has the texts of its parts. -/
theorem texts_subset {p x : Item} (h : p ∈ x.parts) : texts p ⊆ texts x := by
  cases x with
  | ofTrait | ofSkill | ofSpell =>
    rw [List.mem_singleton.1 h]
    exact List.Subset.refl _
  | ofEquipment e =>
    obtain ⟨piece, hpiece, rfl⟩ := List.mem_map.1 h
    exact Equipment.texts_subset hpiece

@[simp] theorem length_parts_numbered (last : Nat) (x : Item) :
    (x.numbered last).parts.length = x.parts.length := by
  have hids := congrArg List.length (x.ids_parts_numbered last)
  simpa [ItemId.following] using hids

theorem mem_numberedAll {last : Nat} {xs : List Item} {y : Item} (h : y ∈ numberedAll last xs) :
    ∃ x ∈ xs, ∃ next, y = x.numbered next := by
  induction xs generalizing last with
  | nil => exact absurd h List.not_mem_nil
  | cons x rest ih =>
      rcases List.mem_cons.1 h with rfl | h
      · exact ⟨x, List.mem_cons_self, last, rfl⟩
      · obtain ⟨z, hz, hnext⟩ := ih h
        exact ⟨z, List.mem_cons_of_mem _ hz, hnext⟩

end Item

namespace Equipment

mutual

/-- A change that ignores what is rebuilt comes to the same with and without it. -/
theorem mapGear_rebuild {f : Gear → Gear} {g : Equipment → Gear}
    (h : ∀ e : Equipment, f (g e) = f e.toGear) :
    ∀ e : Equipment, mapGear f (rebuild g e) = mapGear f e
  | ⟨gear, children⟩ => by
      simp only [rebuild, mapGear, h, mapGearAll_rebuildAll h children]

theorem mapGearAll_rebuildAll {f : Gear → Gear} {g : Equipment → Gear}
    (h : ∀ e : Equipment, f (g e) = f e.toGear) :
    ∀ es : List Equipment, mapGearAll f (rebuildAll g es) = mapGearAll f es
  | [] => rfl
  | e :: rest => by
      simp only [rebuildAll, mapGearAll, mapGear_rebuild h e, mapGearAll_rebuildAll h rest]

end

end Equipment

/-! ### What items are given -/

namespace ItemMap

/-- Forgets ids. -/
def forgetIds : ItemMap where
  trait t := { t with id := {} }
  skill k := { k with id := {} }
  spell p := { p with id := {} }
  gear g := { g with id := {} }

/-- Forgets what items of a template are given when it is applied: ids, and values for their
tokens. -/
def forgetAssigned : ItemMap where
  trait t := { t with id := {}, replacements := .empty }
  skill k := { k with id := {}, replacements := .empty }
  spell p := { p with id := {}, replacements := .empty }
  gear g := { g with id := {}, replacements := .empty }

/-- The texts that may hold placeholders stay as they are. -/
structure KeepsTexts (f : ItemMap) : Prop where
  texts_trait : ∀ t, texts (f.trait t) = texts t := by intro t; rfl
  texts_skill : ∀ k, texts (f.skill k) = texts k := by intro k; rfl
  texts_spell : ∀ p, texts (f.spell p) = texts p := by intro p; rfl
  texts_gear : ∀ g, texts (f.gear g) = texts g := by intro g; rfl

theorem keepsTexts_forgetIds : forgetIds.KeepsTexts := {}

theorem keepsTexts_forgetAssigned : forgetAssigned.KeepsTexts := {}

theorem KeepsTexts.texts_item {f : ItemMap} (h : f.KeepsTexts) (x : Item) :
    texts (f.item x) = texts x := by
  cases x with
  | ofTrait t => exact h.texts_trait t
  | ofSkill k => exact h.texts_skill k
  | ofSpell p => exact h.texts_spell p
  | ofEquipment e =>
    show (e.mapGear f.gear).texts = e.texts
    rw [Equipment.texts_eq_flatMap, Equipment.texts_eq_flatMap, Equipment.pieces_mapGear,
      List.flatMap_map]
    simp only [Equipment.mapGear_toGear, h.texts_gear]

theorem parts_item (f : ItemMap) (x : Item) : (f.item x).parts = x.parts.map f.item := by
  cases x with
  | ofTrait | ofSkill | ofSpell => rfl
  | ofEquipment e =>
    show (e.mapGear f.gear).pieces.map Item.ofEquipment =
      (e.pieces.map Item.ofEquipment).map f.item
    rw [Equipment.pieces_mapGear, List.map_map, List.map_map]
    rfl

/-- Ids make no difference to what becomes of an item. -/
structure IgnoresIds (f : ItemMap) : Prop where
  trait_withId : ∀ t id, f.trait { t with id } = f.trait t := by intro t id; rfl
  skill_withId : ∀ k id, f.skill { k with id } = f.skill k := by intro k id; rfl
  spell_withId : ∀ p id, f.spell { p with id } = f.spell p := by intro p id; rfl
  gear_withId : ∀ g id, f.gear { g with id } = f.gear g := by intro g id; rfl

theorem ignoresIds_forgetIds : forgetIds.IgnoresIds := {}

theorem ignoresIds_forgetAssigned : forgetAssigned.IgnoresIds := {}

theorem IgnoresIds.item_numbered {f : ItemMap} (h : f.IgnoresIds) (last : Nat) (x : Item) :
    f.item (x.numbered last) = f.item x := by
  cases x with
  | ofTrait t => exact congrArg Item.ofTrait (h.trait_withId t _)
  | ofSkill k => exact congrArg Item.ofSkill (h.skill_withId k _)
  | ofSpell p => exact congrArg Item.ofSpell (h.spell_withId p _)
  | ofEquipment e =>
    exact congrArg Item.ofEquipment (Equipment.mapGear_assignIds h.gear_withId e last)

theorem IgnoresIds.map_numberedAll {f : ItemMap} (h : f.IgnoresIds) (last : Nat) (xs : List Item) :
    (Item.numberedAll last xs).map f.item = xs.map f.item := by
  induction xs generalizing last with
  | nil => rfl
  | cons x rest ih =>
      rw [Item.numberedAll, List.map_cons, List.map_cons, h.item_numbered, ih]

theorem replacements_forgetIds (x : Item) : (forgetIds.item x).replacements = x.replacements := by
  rcases x with _ | _ | _ | ⟨gear, children⟩ <;> rfl

/-- Choices are among what is forgotten. -/
theorem forgetAssigned_withChoices (chosen : Replacements) (x : Item) :
    forgetAssigned.item (x.withChoices chosen) = forgetAssigned.item x := by
  cases x with
  | ofTrait | ofSkill | ofSpell => rfl
  | ofEquipment e =>
    have hgear (y : Equipment) :
        forgetAssigned.gear { y.toGear with replacements := collect y chosen } =
          forgetAssigned.gear y.toGear := rfl
    exact congrArg Item.ofEquipment (Equipment.mapGear_rebuild hgear e)

/-- Items that become items of one kind are of that kind themselves. -/
theorem exists_map_eq {α : Type} {f : ItemMap} {c : α → Item} {g : α → α}
    (hc : ∀ x a, f.item x = c a → ∃ b, x = c b ∧ g b = a) {xs : List Item} {as : List α}
    (h : xs.map f.item = as.map c) : ∃ bs : List α, xs = bs.map c ∧ bs.map g = as := by
  induction as generalizing xs with
  | nil => exact ⟨[], List.map_eq_nil_iff.1 h, rfl⟩
  | cons a rest ih =>
      obtain ⟨x, ys, rfl, hx, hys⟩ := List.map_eq_cons_iff.1 h
      obtain ⟨b, rfl, rfl⟩ := hc x a hx
      obtain ⟨bs, rfl, rfl⟩ := ih hys
      exact ⟨b :: bs, rfl, rfl⟩

end ItemMap

/-! ### Values of parts -/

namespace Item

/-- An item and what it contains have the values chosen for their tokens. -/
def HasChoices (chosen : Replacements) (x : Item) : Prop :=
  ∀ p ∈ x.parts, p.replacements = collect p chosen

theorem hasChoices_withChoices (chosen : Replacements) (x : Item) :
    (x.withChoices chosen).HasChoices chosen := by
  intro p hp
  cases x with
  | ofTrait | ofSkill | ofSpell =>
    rw [List.mem_singleton.1 hp]
    rfl
  | ofEquipment e =>
    obtain ⟨piece, hpiece, rfl⟩ := List.mem_map.1 hp
    exact Equipment.replacements_withChoices hpiece

/-- Items that differ in ids only have the same values. -/
theorem HasChoices.of_forgetIds_eq {chosen : Replacements} {x y : Item} (h : x.HasChoices chosen)
    (heq : ItemMap.forgetIds.item y = ItemMap.forgetIds.item x) : y.HasChoices chosen := by
  intro p hp
  have hmem : ItemMap.forgetIds.item p ∈ x.parts.map ItemMap.forgetIds.item := by
    rw [← ItemMap.parts_item, ← heq, ItemMap.parts_item]
    exact List.mem_map_of_mem hp
  obtain ⟨q, hq, hforget⟩ := List.mem_map.1 hmem
  have htexts : texts p = texts q := by
    rw [← ItemMap.keepsTexts_forgetIds.texts_item p, ← hforget,
      ItemMap.keepsTexts_forgetIds.texts_item]
  rw [← ItemMap.replacements_forgetIds p, ← hforget, ItemMap.replacements_forgetIds, h q hq]
  exact HasPlaceholders.collect_congr htexts.symm chosen

end Item

/-! ### Templates as lists of items -/

namespace Template

/-- The items in the order in which they are added, those in containers apart. -/
def items (t : Template) : List Item :=
  t.traits.map .ofTrait ++ t.skills.map .ofSkill ++ t.spells.map .ofSpell ++
    t.equipment.map .ofEquipment

/-- Changes the items, each by the change for its kind. -/
def mapItems (f : ItemMap) (t : Template) : Template :=
  { t with
    traits := t.traits.map f.trait
    skills := t.skills.map f.skill
    spells := t.spells.map f.spell
    equipment := t.equipment.map (Equipment.mapGear f.gear) }

theorem items_mapItems (f : ItemMap) (t : Template) : (t.mapItems f).items = t.items.map f.item := by
  simp only [items, mapItems, List.map_append, List.map_map]
  rfl

theorem prepared_eq (t : Template) (chosen : Replacements) :
    t.prepared chosen = t.items.map (Item.withChoices chosen) := by
  simp only [prepared, items, List.map_append, List.map_map]
  rfl

theorem texts_eq_flatMap (t : Template) : texts t = t.items.flatMap texts := by
  simp only [items, List.flatMap_append, List.flatMap_map]
  rfl

theorem texts_mapItems {f : ItemMap} (h : f.KeepsTexts) (t : Template) :
    texts (t.mapItems f) = texts t := by
  rw [texts_eq_flatMap, texts_eq_flatMap, items_mapItems, List.flatMap_map]
  simp only [h.texts_item]

/-- The tokens of a template are those of its items and of the pieces in them. -/
theorem mem_keys_collect_iff {t : Template} {chosen chosen' : Replacements} {key : String} :
    key ∈ (collect t chosen).keys ↔
      ∃ x ∈ t.items.flatMap Item.parts, key ∈ (collect x chosen').keys := by
  simp only [Placeholder.mem_keys_collect, texts_eq_flatMap]
  constructor
  · rintro ⟨text, htext, htoken⟩
    obtain ⟨x, hx, hmem⟩ := List.mem_flatMap.1 htext
    exact ⟨x, List.mem_flatMap.2 ⟨x, hx, x.self_mem_parts⟩, text, hmem, htoken⟩
  · rintro ⟨p, hp, text, htext, htoken⟩
    obtain ⟨x, hx, hpart⟩ := List.mem_flatMap.1 hp
    exact ⟨text, List.mem_flatMap.2 ⟨x, hx, Item.texts_subset hpart htext⟩, htoken⟩

/-- Items that become those of a template are those of a template themselves. -/
theorem exists_items_eq {f : ItemMap} {t : Template} {xs : List Item}
    (h : xs.map f.item = t.items.map f.item) :
    ∃ u : Template, u.items = xs ∧ u.mapItems f = t.mapItems f := by
  rw [← items_mapItems, items] at h
  -- A change keeps the kind of an item, so the list splits where that of the template does.
  obtain ⟨first, equipment, rfl, h, hequipment⟩ := List.map_eq_append_iff.1 h
  obtain ⟨first, spells, rfl, h, hspells⟩ := List.map_eq_append_iff.1 h
  obtain ⟨traits, skills, rfl, htraits, hskills⟩ := List.map_eq_append_iff.1 h
  obtain ⟨ts, rfl, hts⟩ := ItemMap.exists_map_eq (g := f.trait)
    (fun x a hx => by cases x <;> cases hx; exact ⟨_, rfl, rfl⟩) htraits
  obtain ⟨ks, rfl, hks⟩ := ItemMap.exists_map_eq (g := f.skill)
    (fun x a hx => by cases x <;> cases hx; exact ⟨_, rfl, rfl⟩) hskills
  obtain ⟨ps, rfl, hps⟩ := ItemMap.exists_map_eq (g := f.spell)
    (fun x a hx => by cases x <;> cases hx; exact ⟨_, rfl, rfl⟩) hspells
  obtain ⟨es, rfl, hes⟩ := ItemMap.exists_map_eq (g := Equipment.mapGear f.gear)
    (fun x a hx => by cases x <;> cases hx; exact ⟨_, rfl, rfl⟩) hequipment
  refine ⟨{ t with traits := ts, skills := ks, spells := ps, equipment := es }, rfl, ?_⟩
  rw [mapItems, hts, hks, hps, hes]
  rfl

end Template

/-! ### Applying a template -/

namespace Sheet

/-- The sheet with items behind those that it has, for which ids were given. -/
def append (s : Sheet) (xs : List Item) : Sheet :=
  { s with
    traits := s.traits ++ xs.filterMap Item.trait?
    skills := s.skills ++ xs.filterMap Item.skill?
    spells := s.spells ++ xs.filterMap Item.spell?
    equipment := s.equipment ++ xs.filterMap Item.equipment?
    lastId := s.lastId + (xs.flatMap Item.parts).length }

/-- The sheet with the items of a template behind those that it has, for which ids were given. -/
def extended (s : Sheet) (added : Template) : Sheet :=
  { s with
    traits := s.traits ++ added.traits
    skills := s.skills ++ added.skills
    spells := s.spells ++ added.spells
    equipment := s.equipment ++ added.equipment
    lastId := s.lastId + (added.items.flatMap Item.parts).length }

theorem append_items (s : Sheet) (t : Template) : s.append t.items = s.extended t := by
  simp [append, extended, Template.items, List.filterMap_map, Function.comp_def, Item.trait?,
    Item.skill?, Item.spell?, Item.equipment?]

theorem append_append (s : Sheet) (xs ys : List Item) :
    (s.append xs).append ys = s.append (xs ++ ys) := by
  simp only [append, List.filterMap_append, List.flatMap_append, List.length_append,
    List.append_assoc, Nat.add_assoc]

/-- Adding an item: it gets ids and comes behind the others. -/
theorem addItem_eq (s : Sheet) (x : Item) :
    s.addItem x = (s.append [x.numbered s.lastId], (x.numbered s.lastId).id) := by
  cases x with
  | ofTrait | ofSkill | ofSpell =>
    simp [addItem, addTrait, addSkill, addSpell, append, Item.numbered, Item.parts, Item.id,
      Item.trait?, Item.skill?, Item.spell?, Item.equipment?, nextId]
  | ofEquipment e =>
    obtain ⟨hids, hlast⟩ := Equipment.ids_assignIds e s.lastId
    have hlength : (e.assignIds s.lastId).1.pieces.length = e.pieces.length := by
      simpa [ItemId.following, Equipment.ids] using congrArg List.length hids
    simp [addItem, addEquipment, append, Item.numbered, Item.parts, Item.id, Item.trait?,
      Item.skill?, Item.spell?, Item.equipment?, hlast, hlength]

/-- Adding items: they get ids in their order and come behind the others. -/
theorem foldl_addNext_eq (xs : List Item) (s : Sheet) (returned : List ItemId) :
    xs.foldl addNext (s, returned) =
      (s.append (Item.numberedAll s.lastId xs),
        returned ++ (Item.numberedAll s.lastId xs).map Item.id) := by
  induction xs generalizing s returned with
  | nil => simp [Item.numberedAll, append]
  | cons x rest ih =>
      have hlast : (s.append [x.numbered s.lastId]).lastId = s.lastId + x.parts.length := by
        simp [append]
      rw [List.foldl_cons, addNext, addItem_eq, ih, append_append, hlast, Item.numberedAll,
        List.map_cons, List.append_assoc]
      rfl

end Sheet

namespace Template

/-- **A template adds its items.** Applied to a sheet with any choices, it puts its traits, skills,
spells and equipment behind those that are there, each in order, and returns the ids of the items
in that order. They are the items of the template but for ids and the values for their tokens, and
nothing else changes on the sheet. Each item, and each piece in a container, has the values chosen
for its own tokens, and all of them together have values for the tokens of the template and no
others. -/
theorem applyTo_adds (t : Template) (s : Sheet) (chosen : Replacements) :
    ∃ added : Template,
      t.applyTo s chosen = (s.extended added, added.items.map Item.id) ∧
      added.mapItems .forgetAssigned = t.mapItems .forgetAssigned ∧
      (∀ x ∈ added.items.flatMap Item.parts, x.replacements = collect x chosen) ∧
      ∀ key, key ∈ t.tokens.keys ↔
        ∃ x ∈ added.items.flatMap Item.parts, key ∈ x.replacements.keys := by
  have hforget : (Item.numberedAll s.lastId (t.prepared chosen)).map ItemMap.forgetAssigned.item =
      t.items.map ItemMap.forgetAssigned.item := by
    rw [ItemMap.ignoresIds_forgetAssigned.map_numberedAll, prepared_eq, List.map_map]
    exact List.map_congr_left fun x _ => ItemMap.forgetAssigned_withChoices chosen x
  obtain ⟨added, hitems, hadded⟩ := exists_items_eq hforget
  have hvalues : ∀ x ∈ added.items.flatMap Item.parts, x.replacements = collect x chosen := by
    intro p hp
    obtain ⟨y, hy, hpart⟩ := List.mem_flatMap.1 hp
    rw [hitems, prepared_eq] at hy
    obtain ⟨x, hx, last, rfl⟩ := Item.mem_numberedAll hy
    obtain ⟨original, -, rfl⟩ := List.mem_map.1 hx
    exact (Item.hasChoices_withChoices chosen original).of_forgetIds_eq
      (ItemMap.ignoresIds_forgetIds.item_numbered last _) p hpart
  refine ⟨added, ?_, hadded, hvalues, fun key => ?_⟩
  · rw [applyTo_eq_foldl, Sheet.foldl_addNext_eq, ← hitems, Sheet.append_items, List.nil_append]
  · have htexts : texts t = texts added := by
      rw [← texts_mapItems ItemMap.keepsTexts_forgetAssigned t, ← hadded,
        texts_mapItems ItemMap.keepsTexts_forgetAssigned]
    rw [tokens, HasPlaceholders.collect_congr htexts, mem_keys_collect_iff]
    exact exists_congr fun x => and_congr_right fun hx => by rw [hvalues x hx]

/-- A template with a case, in which there is a weapon. -/
def duelist : Template where
  name := "Duelist"
  traits := [{ name := "Code of Honor (@Code@)" }]
  skills := [{ name := "@Weapon@ Art", difficulty := ⟨"dx", .average⟩ }]
  equipment := [{ name := "Case", children := [{ name := "@Weapon@" }] }]

/-- The weapon has the fourth id, which is not returned, and nothing is chosen for the code. -/
example :
    (duelist.applyTo {} rapier).2 = [⟨1⟩, ⟨2⟩, ⟨3⟩] ∧ (duelist.applyTo {} rapier).1.lastId = 4 ∧
      duelist.tokens.keys = ["Code", "Weapon"] := by
  decide

end Template

end CharacterSheet
