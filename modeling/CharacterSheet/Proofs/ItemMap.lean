import CharacterSheet.Sheet.Recalculate

/-!
# Changes to items that do not show

An `ItemMap` says what becomes of the items of each kind. Names, attributes and dodge stay
as they are under changes that keep the names of items. Levels stay as they are under
changes that keep the inputs of bonuses and levels, `skillLevel_mapItems`: it makes no
difference whether tokens or the values in their place stand in an item, and prerequisites,
recorded reasons and the levels that were computed before are no input.
-/

namespace CharacterSheet

/-- What becomes of the items of each kind; of a piece of equipment, apart from its
contents. -/
structure ItemMap where
  trait : Trait → Trait := id
  skill : Skill → Skill := id
  spell : Spell → Spell := id
  gear : Gear → Gear := id

namespace Equipment

mutual

/-- The pieces of a changed piece are the changed pieces. -/
theorem pieces_mapGear (f : Gear → Gear) :
    ∀ e : Equipment, pieces (mapGear f e) = (pieces e).map (mapGear f)
  | ⟨gear, children⟩ => by
      simp only [mapGear, pieces, List.map_cons, piecesAll_mapGearAll f children]

theorem piecesAll_mapGearAll (f : Gear → Gear) :
    ∀ es : List Equipment, piecesAll (mapGearAll f es) = (piecesAll es).map (mapGear f)
  | [] => rfl
  | e :: rest => by
      simp only [mapGearAll, piecesAll, List.map_append, pieces_mapGear f e,
        piecesAll_mapGearAll f rest]

end

mutual

/-- Two changes one after the other are a change. -/
theorem mapGear_mapGear (f g : Gear → Gear) :
    ∀ e : Equipment, mapGear f (mapGear g e) = mapGear (f ∘ g) e
  | ⟨gear, children⟩ => by
      simp only [mapGear, mapGearAll_mapGearAll f g children, Function.comp]

theorem mapGearAll_mapGearAll (f g : Gear → Gear) :
    ∀ es : List Equipment, mapGearAll f (mapGearAll g es) = mapGearAll (f ∘ g) es
  | [] => rfl
  | e :: rest => by
      simp only [mapGearAll, mapGear_mapGear f g e, mapGearAll_mapGearAll f g rest]

end

mutual

theorem mapGear_congr {f g : Gear → Gear} :
    ∀ e : Equipment, (∀ x ∈ pieces e, f x.toGear = g x.toGear) → mapGear f e = mapGear g e
  | ⟨gear, children⟩, h => by
      simp only [pieces, List.forall_mem_cons] at h
      simp only [mapGear, h.1, mapGearAll_congr children h.2]

/-- Only what becomes of the pieces that are there matters. -/
theorem mapGearAll_congr {f g : Gear → Gear} :
    ∀ es : List Equipment, (∀ x ∈ piecesAll es, f x.toGear = g x.toGear) →
      mapGearAll f es = mapGearAll g es
  | [], _ => rfl
  | e :: rest, h => by
      simp only [piecesAll, List.forall_mem_append] at h
      simp only [mapGearAll, mapGear_congr e h.1, mapGearAll_congr rest h.2]

end

mutual

theorem mapGear_id : ∀ e : Equipment, mapGear id e = e
  | ⟨gear, children⟩ => by simp only [mapGear, mapGearAll_id children, id]

theorem mapGearAll_id : ∀ es : List Equipment, mapGearAll id es = es
  | [] => rfl
  | e :: rest => by simp only [mapGearAll, mapGear_id e, mapGearAll_id rest]

end

theorem mapGearAll_eq_map (f : Gear → Gear) (es : List Equipment) :
    mapGearAll f es = es.map (mapGear f) := by
  induction es with
  | nil => rfl
  | cons e rest ih => rw [mapGearAll, ih, List.map_cons]

@[simp] theorem mapGear_children (f : Gear → Gear) (e : Equipment) :
    (mapGear f e).children = e.children.map (mapGear f) := by
  obtain ⟨gear, children⟩ := e
  exact mapGearAll_eq_map f children

@[simp] theorem mapGear_toGear (f : Gear → Gear) (e : Equipment) :
    (mapGear f e).toGear = f e.toGear := by
  cases e
  rfl

end Equipment

/-! ### What is read of items -/

/-- Without values a text stays as it is. -/
@[simp] theorem Placeholder.substitute_empty (text : String) :
    Placeholder.substitute .empty text = text := by
  have hentries : (KeyMap.empty : Replacements).entries = [] := rfl
  rw [Placeholder.substitute, hentries, List.foldl_nil, String.ofList_toList, ite_self]

open HasPlaceholders (substitute)

/-- The defaults with values for their tokens. -/
def Skill.displayDefaults (k : Skill) : List SkillDefault := substitute k.replacements k.defaults

/-- The bonuses that a trait grants. -/
def Trait.bonuses (t : Trait) : List Bonus :=
  Sheet.bonusesOf t.id t.features t.currentLevel t.replacements

/-- The bonuses that a skill grants. -/
def Skill.bonuses (k : Skill) : List Bonus := Sheet.bonusesOf k.id k.features 0 k.replacements

/-- The bonuses that a piece of equipment grants. -/
def Gear.bonuses (g : Gear) : List Bonus := Sheet.bonusesOf g.id g.features 0 g.replacements

namespace ItemMap

def item (f : ItemMap) : Item → Item
  | .ofTrait t => .ofTrait (f.trait t)
  | .ofSkill k => .ofSkill (f.skill k)
  | .ofSpell p => .ofSpell (f.spell p)
  | .ofEquipment e => .ofEquipment (e.mapGear f.gear)

/-- One change after another. -/
def comp (f g : ItemMap) : ItemMap where
  trait := f.trait ∘ g.trait
  skill := f.skill ∘ g.skill
  spell := f.spell ∘ g.spell
  gear := f.gear ∘ g.gear

/-- Items keep their ids and the names that are shown. -/
structure KeepsNames (f : ItemMap) : Prop where
  id_item : ∀ x, (f.item x).id = x.id := by
    rintro (_ | _ | _ | ⟨gear, children⟩) <;> rfl
  displayName_item : ∀ x, (f.item x).displayName = x.displayName := by
    rintro (_ | _ | _ | ⟨gear, children⟩) <;> rfl

/-- Items keep, besides their names, what bonuses and levels are computed from. Tokens may be
written out: texts are compared with the values in them. -/
structure KeepsInputs (f : ItemMap) : Prop extends KeepsNames f where
  disabled_trait : ∀ t, (f.trait t).disabled = t.disabled := by intro t; rfl
  bonuses_trait : ∀ t, (f.trait t).bonuses = t.bonuses := by intro t; rfl
  bonuses_skill : ∀ k, (f.skill k).bonuses = k.bonuses := by intro k; rfl
  equipped_gear : ∀ g, (f.gear g).equipped = g.equipped := by intro g; rfl
  bonuses_gear : ∀ g, (f.gear g).bonuses = g.bonuses := by intro g; rfl
  difficulty_skill : ∀ k, (f.skill k).difficulty = k.difficulty := by intro k; rfl
  points_skill : ∀ k, (f.skill k).points = k.points := by intro k; rfl
  tags_skill : ∀ k, (f.skill k).tags = k.tags := by intro k; rfl
  displayName_skill : ∀ k, (f.skill k).displayName = k.displayName := by intro k; rfl
  displaySpecialization_skill :
    ∀ k, (f.skill k).displaySpecialization = k.displaySpecialization := by intro k; rfl
  displayDefaults_skill : ∀ k, (f.skill k).displayDefaults = k.displayDefaults := by intro k; rfl
  difficulty_spell : ∀ p, (f.spell p).difficulty = p.difficulty := by intro p; rfl
  points_spell : ∀ p, (f.spell p).points = p.points := by intro p; rfl
  tags_spell : ∀ p, (f.spell p).tags = p.tags := by intro p; rfl
  displayCollege_spell : ∀ p, (f.spell p).displayCollege = p.displayCollege := by intro p; rfl
  displayPowerSource_spell :
    ∀ p, (f.spell p).displayPowerSource = p.displayPowerSource := by intro p; rfl

/-- Forgets the reasons why prerequisites are not met. -/
def forgetReasons : ItemMap where
  trait t := { t with unsatisfiedReason := none }
  skill k := { k with unsatisfiedReason := none }
  spell p := { p with unsatisfiedReason := none }
  gear g := { g with unsatisfiedReason := none }

/-- Forgets what recalculation writes to items. -/
def forgetDerived : ItemMap :=
  { forgetReasons with
    skill := fun k => { forgetReasons.skill k with level := {} }
    spell := fun p => { forgetReasons.spell p with level := {} } }

/-- Forgets prerequisites, and the reasons why they are not met. -/
def forgetPrereqs : ItemMap where
  trait t := { t with prereqs := none, unsatisfiedReason := none }
  skill k := { k with prereqs := none, unsatisfiedReason := none }
  spell p := { p with prereqs := none, unsatisfiedReason := none }
  gear g := { g with prereqs := none, unsatisfiedReason := none }

theorem keepsInputs_forgetDerived : forgetDerived.KeepsInputs := {}

theorem keepsInputs_forgetPrereqs : forgetPrereqs.KeepsInputs := {}

theorem keepsNames_forgetPrereqs : forgetPrereqs.KeepsNames :=
  keepsInputs_forgetPrereqs.toKeepsNames

end ItemMap

namespace Sheet

/-- The sheet with its items changed. -/
def mapItems (f : ItemMap) (s : Sheet) : Sheet :=
  { s with
    traits := s.traits.map f.trait
    skills := s.skills.map f.skill
    spells := s.spells.map f.spell
    equipment := Equipment.mapGearAll f.gear s.equipment }

theorem mapItems_mapItems (f g : ItemMap) (s : Sheet) :
    (s.mapItems g).mapItems f = s.mapItems (f.comp g) := by
  simp only [mapItems, ItemMap.comp, List.map_map, Equipment.mapGearAll_mapGearAll]

@[simp] theorem pieces_mapItems (f : ItemMap) (s : Sheet) :
    (s.mapItems f).pieces = s.pieces.map (Equipment.mapGear f.gear) :=
  Equipment.piecesAll_mapGearAll f.gear s.equipment

/-! ### Names and attributes -/

section Names

variable {f : ItemMap} (h : f.KeepsNames) (s : Sheet)
include h

theorem equipment?_mapItems (id : ItemId) :
    (s.mapItems f).equipment? id = (s.equipment? id).map (Equipment.mapGear f.gear) := by
  have he (e : Equipment) : (e.mapGear f.gear).id = e.id := h.id_item (.ofEquipment e)
  simp only [equipment?, pieces_mapItems, List.find?_map, Function.comp_def, he]

/-- An id names the changed item. -/
theorem item?_mapItems (id : ItemId) : (s.mapItems f).item? id = (s.item? id).map f.item := by
  have ht (t : Trait) : (f.trait t).id = t.id := h.id_item (.ofTrait t)
  have hk (k : Skill) : (f.skill k).id = k.id := h.id_item (.ofSkill k)
  have hp (p : Spell) : (f.spell p).id = p.id := h.id_item (.ofSpell p)
  have hmap {α β : Type} (x y : Option α) (g : α → β) :
      (x <|> y).map g = (x.map g <|> y.map g) := by
    cases x <;> rfl
  simp only [item?, trait?, skill?, spell?, equipment?_mapItems h, hmap, Option.map_map]
  simp only [mapItems, List.find?_map, Function.comp_def, ht, hk, hp, Option.map_map]
  rfl

theorem ownerName_mapItems (id : ItemId) : (s.mapItems f).ownerName id = s.ownerName id := by
  rw [ownerName, ownerName, itemName?, itemName?, item?_mapItems h, Option.map_map]
  simp only [Function.comp_def, h.displayName_item]

theorem bonusTotal_mapItems : (s.mapItems f).bonusTotal = s.bonusTotal := by
  unfold bonusTotal
  rw [funext (ownerName_mapItems h s)]

theorem attributeCurrent_mapItems (id : String) :
    (s.mapItems f).attributeCurrent id = s.attributeCurrent id := by
  unfold attributeCurrent
  rw [bonusTotal_mapItems h]
  rfl

theorem dodge_mapItems (encumbrance : Encumbrance) :
    (s.mapItems f).dodge encumbrance = s.dodge encumbrance := by
  unfold dodge
  rw [attributeCurrent_mapItems h]
  rfl

end Names

end Sheet

/-! ### Levels -/

namespace SkillDefault

open HasPlaceholders (substitute)

/-- The skills that a default names are the changed skills. -/
theorem candidates_mapItems {f : ItemMap} (h : f.KeepsInputs) (d : SkillDefault) (s : Sheet)
    (m : Replacements) (requirePoints : Bool) (e : ExclusionSet) :
    d.candidates (s.mapItems f) m requirePoints e =
      (d.candidates s m requirePoints e).map f.skill := by
  have hid (k : Skill) : (f.skill k).id = k.id := h.id_item (.ofSkill k)
  refine (List.filter_map).trans (congrArg (List.map f.skill) (List.filter_congr fun k _ => ?_))
  simp only [Function.comp, hid, h.displayName_skill, h.displaySpecialization_skill,
    h.points_skill]

theorem attributeLevel_mapItems {f : ItemMap} (h : f.KeepsNames) (d : SkillDefault)
    (s : Sheet) (id : String) (ruleOf20 : Bool) :
    d.attributeLevel (s.mapItems f) id ruleOf20 = d.attributeLevel s id ruleOf20 := by
  unfold attributeLevel
  rw [Sheet.attributeCurrent_mapItems h]
  rfl

theorem dodgeLevel_mapItems {f : ItemMap} (h : f.KeepsNames) (d : SkillDefault)
    (s : Sheet) (ruleOf20 : Bool) :
    d.dodgeLevel (s.mapItems f) ruleOf20 = d.dodgeLevel s ruleOf20 := by
  unfold dodgeLevel
  rw [Sheet.dodge_mapItems h]
  rfl

/-- Resolving a default goes the same way if it does so for the skills that it names. -/
theorem resolveWith_mapItems {f : ItemMap} (h : f.KeepsInputs) {g g' : Skill → Resolution Fixed}
    (hg : ∀ k, g (f.skill k) = g' k) (d : SkillDefault) (s : Sheet) (m : Replacements)
    (requirePoints ruleOf20 : Bool) :
    d.resolveWith g (s.mapItems f) m requirePoints ruleOf20 =
      d.resolveWith g' s m requirePoints ruleOf20 := by
  unfold resolveWith
  refine bind_congr fun e => ?_
  cases hbase : d.base with
  | dodge => simp only [fastLevel, hbase, dodgeLevel_mapItems h.toKeepsNames]
  | ofAttribute id => simp only [fastLevel, hbase, attributeLevel_mapItems h.toKeepsNames]
  | skill | parry | block =>
      simp only [candidates_mapItems h, List.foldlM_map, hg]
      rfl

/-- A default with values in place of its tokens names the same skills. -/
theorem candidates_substitute (d : SkillDefault) (s : Sheet) (m : Replacements)
    (requirePoints : Bool) (e : ExclusionSet) :
    (substitute m d).candidates s .empty requirePoints e = d.candidates s m requirePoints e := by
  rw [candidates, nameWith, specializationWith, Placeholder.substitute_empty,
    Placeholder.substitute_empty]
  rfl

/-- Values can be written for the tokens of a default before it is resolved. -/
theorem resolveWith_substitute (g : Skill → Resolution Fixed) (d : SkillDefault) (s : Sheet)
    (m : Replacements) (requirePoints ruleOf20 : Bool) :
    (substitute m d).resolveWith g s .empty requirePoints ruleOf20 =
      d.resolveWith g s m requirePoints ruleOf20 := by
  have hbase : (substitute m d).base = d.base := rfl
  unfold resolveWith
  refine bind_congr fun e => ?_
  cases h : d.base with
  | dodge | ofAttribute id =>
      simp only [fastLevel, hbase, h]
      rfl
  | skill | parry | block =>
      simp only [candidates_substitute, hbase, h]
      rfl

end SkillDefault

namespace Sheet

/-- What a call does with the defaults of a skill depends on the defaults with values in them. -/
theorem foldlM_displayDefaults (s : Sheet) (g : Skill → Resolution Fixed) (k : Skill)
    (ruleOf20 : Bool) (start : Fixed) :
    (k.displayDefaults.foldlM
        (fun level d => do
          let candidate ← d.resolveWith g s .empty true ruleOf20
          pure (if level < candidate then candidate else level))
        start : Resolution Fixed) =
      k.defaults.foldlM
        (fun level d => do
          let candidate ← d.resolveWith g s k.replacements true ruleOf20
          pure (if level < candidate then candidate else level))
        start := by
  refine (List.foldlM_map).trans ?_
  simp only [← SkillDefault.resolveWith_substitute g _ s k.replacements]
  rfl

section Inputs

variable {f : ItemMap} (h : f.KeepsInputs)
include h

theorem bonusesToSkill_mapItems (s : Sheet) (k : Skill) :
    (s.mapItems f).bonusesToSkill (f.skill k) = s.bonusesToSkill k := by
  rw [bonusesToSkill, h.displayName_skill, h.displaySpecialization_skill, h.tags_skill]
  rfl

theorem withBonuses_mapItems (s : Sheet) : (s.mapItems f).withBonuses = s.withBonuses := by
  unfold withBonuses
  rw [bonusTotal_mapItems h.toKeepsNames]

/-- A search for a level goes the same way. -/
theorem resolve_mapItems (s : Sheet) (depth : Nat) (k : Skill) :
    (s.mapItems f).resolve depth (f.skill k) = s.resolve depth k := by
  induction depth generalizing k with
  | zero => rfl
  | succ depth ih =>
      have hid : (f.skill k).id = k.id := h.id_item (.ofSkill k)
      -- Only the nested calls differ, and they are for changed skills as well.
      have hdefault (d : SkillDefault) :
          d.resolveWith
              (fun other => return (← (s.mapItems f).resolve depth other).level)
              (s.mapItems f) .empty true (s.mapItems f).settings.ruleOf20 =
            d.resolveWith (fun other => return (← s.resolve depth other).level) s
              .empty true s.settings.ruleOf20 :=
        d.resolveWith_mapItems h (fun other => by rw [ih]) s _ _ _
      rw [resolve, resolve]
      simp only [← foldlM_displayDefaults, hdefault, h.displayDefaults_skill, hid,
        h.difficulty_skill, h.points_skill, attributeCurrent_mapItems h.toKeepsNames,
        bonusesToSkill_mapItems h, withBonuses_mapItems h]

/-- The level of a skill depends on what levels are computed from only. -/
theorem skillLevel_mapItems (s : Sheet) (k : Skill) (e : ExclusionSet) :
    (s.mapItems f).skillLevel (f.skill k) e = s.skillLevel k e := by
  have hbound : (s.mapItems f).depthBound = s.depthBound :=
    congrArg (· + 1) (List.length_map _)
  rw [skillLevel, skillLevel, hbound, resolve_mapItems h]

theorem spellLevel_mapItems (s : Sheet) (p : Spell) :
    (s.mapItems f).spellLevel (f.spell p) = s.spellLevel p := by
  have hname : (f.spell p).displayName = p.displayName := h.displayName_item (.ofSpell p)
  rw [spellLevel, h.difficulty_spell, h.points_spell, withBonuses_mapItems h,
    attributeCurrent_mapItems h.toKeepsNames, bonusesToSpell, hname, h.displayCollege_spell,
    h.displayPowerSource_spell, h.tags_spell]
  rfl

end Inputs

end Sheet

end CharacterSheet
