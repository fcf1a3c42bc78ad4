import CharacterSheet.Library
import CharacterSheet.Proofs.ItemMap
import CharacterSheet.Proofs.Substitution

/-!
# Texts that may hold placeholders

Each kind of rule object lists the texts that may hold placeholders, and says how these texts are
changed. The two go through the fields of an object independently, and this module shows that they
go through the same ones: changing the texts changes exactly those that are listed, in place, and
leaves an object as it is if it leaves them (`LawfulTexts`).

So an object that substitution changes has a token that is asked for, and substitution changes
nothing but texts: `HasPlaceholders.substitute_changes_asked_texts`. What is kept is the outline of
the object. It is the object with the texts in question left out and everything else in it, at
every depth: the number of the members of lists, kinds, comparisons, selections, flags and numbers,
and the texts that hold no placeholders.
-/

namespace CharacterSheet

/-- Rule objects that have an outline: the object with the texts left out that may hold
placeholders. -/
class HasOutline (α : Type) where
  outline : α → α

open HasPlaceholders (texts mapTexts collect substitute)
open HasOutline (outline)

/-- The texts that are listed of an object are those that are changed in it. -/
class LawfulTexts (α : Type) [HasPlaceholders α] [HasOutline α] : Prop where
  texts_mapTexts : ∀ (f : String → String) (a : α), texts (mapTexts f a) = (texts a).map f
  outline_mapTexts : ∀ (f : String → String) (a : α), outline (mapTexts f a) = outline a
  mapTexts_eq_self : ∀ {f : String → String} {a : α}, (∀ text ∈ texts a, f text = text) →
    mapTexts f a = a

export LawfulTexts (texts_mapTexts outline_mapTexts mapTexts_eq_self)

attribute [simp] texts_mapTexts outline_mapTexts

/-! ### Lists, options and criteria -/

section Members

variable {α : Type} [HasPlaceholders α] [HasOutline α] [LawfulTexts α]

instance : HasOutline (List α) where
  outline as := as.map outline

instance : LawfulTexts (List α) where
  texts_mapTexts := by
    intro f as
    show (as.map (mapTexts f)).flatMap texts = (as.flatMap texts).map f
    simp only [List.flatMap_map, List.map_flatMap, texts_mapTexts]
  outline_mapTexts := by
    intro f as
    show (as.map (mapTexts f)).map outline = as.map outline
    simp only [List.map_map, Function.comp_def, outline_mapTexts]
  mapTexts_eq_self := by
    intro f as h
    show as.map (mapTexts f) = as
    refine (List.map_congr_left fun a ha => ?_).trans (List.map_id as)
    exact mapTexts_eq_self fun text htext => h text (List.mem_flatMap.2 ⟨a, ha, htext⟩)

instance : HasOutline (Option α) where
  outline a := a.map outline

instance : LawfulTexts (Option α) where
  texts_mapTexts := by
    intro f a
    cases a with
    | none => rfl
    | some a => exact texts_mapTexts f a
  outline_mapTexts := by
    intro f a
    cases a with
    | none => rfl
    | some a => exact congrArg some (outline_mapTexts f a)
  mapTexts_eq_self := by
    intro f a h
    cases a with
    | none => rfl
    | some a => exact congrArg some (mapTexts_eq_self h)

end Members

instance : HasOutline StringCriteria where
  outline c := { c with qualifier := "" }

@[simp] theorem StringCriteria.qualifier_mapTexts (f : String → String) (c : StringCriteria) :
    (mapTexts f c).qualifier = f c.qualifier := rfl

theorem StringCriteria.mapTexts_eq_self {f : String → String} {c : StringCriteria}
    (h : f c.qualifier = c.qualifier) : mapTexts f c = c := by
  show { c with qualifier := f c.qualifier } = c
  rw [h]

instance : LawfulTexts StringCriteria where
  texts_mapTexts _ _ := rfl
  outline_mapTexts _ _ := rfl
  mapTexts_eq_self h := StringCriteria.mapTexts_eq_self (h _ (List.mem_singleton_self _))

/-! ### Skill defaults -/

instance : HasOutline SkillDefault where
  outline d := { d with name := "", specialization := "" }

instance : LawfulTexts SkillDefault where
  texts_mapTexts _ _ := rfl
  outline_mapTexts _ _ := rfl
  mapTexts_eq_self := by
    intro f d h
    have hname : f d.name = d.name := h _ List.mem_cons_self
    have hspecialization : f d.specialization = d.specialization :=
      h _ (List.mem_cons_of_mem _ List.mem_cons_self)
    show { d with name := f d.name, specialization := f d.specialization } = d
    rw [hname, hspecialization]

/-! ### Features -/

/-- A bonus for the weapon that grants it keeps its name and tags, which it compares with
nothing. -/
def SkillBonus.outline (b : SkillBonus) : SkillBonus :=
  { b with
    name := if b.selection = .thisWeapon then b.name else HasOutline.outline b.name
    specialization := HasOutline.outline b.specialization
    tags := if b.selection = .thisWeapon then b.tags else HasOutline.outline b.tags }

/-- A bonus for the weapon that grants it keeps its name and tags, which it compares with
nothing. -/
def WeaponBonus.outline (b : WeaponBonus) : WeaponBonus :=
  { b with
    name := if b.selection = .thisWeapon then b.name else HasOutline.outline b.name
    specialization := HasOutline.outline b.specialization
    tags := if b.selection = .thisWeapon then b.tags else HasOutline.outline b.tags }

namespace Feature

instance : HasOutline Feature where
  outline
    | attributeBonus b => attributeBonus b
    | skillBonus b => skillBonus b.outline
    | spellBonus b => spellBonus { b with name := outline b.name, tags := outline b.tags }
    | weaponBonus b => weaponBonus b.outline
    | weaponDrDivisorBonus b => weaponDrDivisorBonus b.outline
    | drBonus b => drBonus b
    | reactionBonus b => reactionBonus { b with situation := "" }

theorem outline_mapSkillTexts (f : String → String) (b : SkillBonus) :
    (mapSkillTexts f b).outline = b.outline := by
  by_cases h : b.selection = .thisWeapon <;> simp [mapSkillTexts, SkillBonus.outline, h]

theorem outline_mapWeaponTexts (f : String → String) (b : WeaponBonus) :
    (mapWeaponTexts f b).outline = b.outline := by
  by_cases h : b.selection = .thisWeapon <;> simp [mapWeaponTexts, WeaponBonus.outline, h]

theorem mapSkillTexts_eq_self {f : String → String} {b : SkillBonus}
    (h : ∀ text ∈ (skillBonus b).texts, f text = text) : mapSkillTexts f b = b := by
  obtain ⟨hspecialization, hrest⟩ := List.forall_mem_cons.1 h
  rw [mapSkillTexts, StringCriteria.mapTexts_eq_self hspecialization]
  split
  · rfl
  · next hselection =>
    rw [if_neg hselection] at hrest
    rw [StringCriteria.mapTexts_eq_self (hrest b.name.qualifier (by simp)),
      StringCriteria.mapTexts_eq_self (hrest b.tags.qualifier (by simp))]

theorem mapWeaponTexts_eq_self {f : String → String} {b : WeaponBonus}
    (h : ∀ text ∈ (weaponBonus b).texts, f text = text) : mapWeaponTexts f b = b := by
  obtain ⟨hspecialization, hrest⟩ := List.forall_mem_cons.1 h
  rw [mapWeaponTexts, StringCriteria.mapTexts_eq_self hspecialization]
  split
  · rfl
  · next hselection =>
    rw [if_neg hselection] at hrest
    rw [StringCriteria.mapTexts_eq_self (hrest b.name.qualifier (by simp)),
      StringCriteria.mapTexts_eq_self (hrest b.tags.qualifier (by simp))]

instance : LawfulTexts Feature where
  texts_mapTexts := by
    intro f b
    show (b.mapTexts f).texts = b.texts.map f
    cases b with
    | skillBonus b =>
      by_cases h : b.selection = .thisWeapon <;>
        simp [Feature.mapTexts, Feature.texts, mapSkillTexts, h]
    | weaponBonus b | weaponDrDivisorBonus b =>
      by_cases h : b.selection = .thisWeapon <;>
        simp [Feature.mapTexts, Feature.texts, mapWeaponTexts, h]
    | attributeBonus | spellBonus | drBonus | reactionBonus => rfl
  outline_mapTexts := by
    intro f b
    cases b with
    | skillBonus b => exact congrArg skillBonus (outline_mapSkillTexts f b)
    | weaponBonus b => exact congrArg weaponBonus (outline_mapWeaponTexts f b)
    | weaponDrDivisorBonus b => exact congrArg weaponDrDivisorBonus (outline_mapWeaponTexts f b)
    | attributeBonus | spellBonus | drBonus | reactionBonus => rfl
  mapTexts_eq_self := by
    intro f b h
    cases b with
    | skillBonus b => exact congrArg skillBonus (mapSkillTexts_eq_self h)
    | weaponBonus b => exact congrArg weaponBonus (mapWeaponTexts_eq_self h)
    | weaponDrDivisorBonus b => exact congrArg weaponDrDivisorBonus (mapWeaponTexts_eq_self h)
    | spellBonus b =>
      have hname : f b.name.qualifier = b.name.qualifier := h _ List.mem_cons_self
      have htags : f b.tags.qualifier = b.tags.qualifier :=
        h _ (List.mem_cons_of_mem _ List.mem_cons_self)
      show (spellBonus b).mapTexts f = spellBonus b
      rw [Feature.mapTexts, StringCriteria.mapTexts_eq_self hname,
        StringCriteria.mapTexts_eq_self htags]
    | reactionBonus b =>
      have hsituation : f b.situation = b.situation := h _ List.mem_cons_self
      show reactionBonus { b with situation := f b.situation } = reactionBonus b
      rw [hsituation]
    | attributeBonus | drBonus => rfl

end Feature

/-! ### Prerequisites -/

namespace Requirement

instance : HasOutline Requirement where
  outline
    | ofTrait r => ofTrait { r with name := outline r.name, notes := outline r.notes }
    | ofAttribute r => ofAttribute r
    | ofQuantity r => ofQuantity r
    | ofWeight r => ofWeight r
    | ofSkill r =>
      ofSkill { r with name := outline r.name, specialization := outline r.specialization }
    | ofSpell r => ofSpell { r with qualifier := outline r.qualifier }
    | ofEquipped r => ofEquipped { r with name := outline r.name, tags := outline r.tags }

instance : LawfulTexts Requirement where
  texts_mapTexts := by
    intro f r
    cases r <;> rfl
  outline_mapTexts := by
    intro f r
    cases r <;> rfl
  mapTexts_eq_self := by
    intro f r h
    have hcriteria (c : StringCriteria) (hc : c.qualifier ∈ r.texts) :
        HasPlaceholders.mapTexts f c = c := StringCriteria.mapTexts_eq_self (h c.qualifier hc)
    show r.mapTexts f = r
    cases r with
    | ofTrait r =>
      rw [Requirement.mapTexts, hcriteria r.name (by simp [Requirement.texts]),
        hcriteria r.notes (by simp [Requirement.texts])]
    | ofSkill r =>
      rw [Requirement.mapTexts, hcriteria r.name (by simp [Requirement.texts]),
        hcriteria r.specialization (by simp [Requirement.texts])]
    | ofSpell r =>
      rw [Requirement.mapTexts, hcriteria r.qualifier (by simp [Requirement.texts])]
    | ofEquipped r =>
      rw [Requirement.mapTexts, hcriteria r.name (by simp [Requirement.texts]),
        hcriteria r.tags (by simp [Requirement.texts])]
    | ofAttribute | ofQuantity | ofWeight => rfl

end Requirement

namespace Prereq

mutual

/-- The outline of a tree has the outlines of its leaves. -/
def outline : Prereq → Prereq
  | leaf r => leaf (HasOutline.outline r)
  | list all whenTl members => list all whenTl (outlineMembers members)
termination_by structural p => p

def outlineMembers : List Prereq → List Prereq
  | [] => []
  | p :: rest => outline p :: outlineMembers rest
termination_by structural ps => ps

end

instance : HasOutline Prereq where
  outline := outline

variable {f : String → String}

mutual

theorem texts_mapTexts : ∀ p : Prereq, texts (mapTexts f p) = (texts p).map f
  | leaf r => LawfulTexts.texts_mapTexts f r
  | list _ _ members => memberTexts_mapMemberTexts members

theorem memberTexts_mapMemberTexts :
    ∀ ps : List Prereq, memberTexts (mapMemberTexts f ps) = (memberTexts ps).map f
  | [] => rfl
  | p :: rest => by
      simp only [mapMemberTexts, memberTexts, List.map_append, texts_mapTexts p,
        memberTexts_mapMemberTexts rest]

end

mutual

theorem outline_mapTexts : ∀ p : Prereq, outline (mapTexts f p) = outline p
  | leaf r => congrArg leaf (LawfulTexts.outline_mapTexts f r)
  | list all whenTl members => congrArg (list all whenTl) (outlineMembers_mapMemberTexts members)

theorem outlineMembers_mapMemberTexts :
    ∀ ps : List Prereq, outlineMembers (mapMemberTexts f ps) = outlineMembers ps
  | [] => rfl
  | p :: rest => by
      simp only [mapMemberTexts, outlineMembers, outline_mapTexts p,
        outlineMembers_mapMemberTexts rest]

end

mutual

theorem mapTexts_eq_self :
    ∀ p : Prereq, (∀ text ∈ texts p, f text = text) → mapTexts f p = p
  | leaf _, h => congrArg leaf (LawfulTexts.mapTexts_eq_self h)
  | list all whenTl members, h => congrArg (list all whenTl) (mapMemberTexts_eq_self members h)

theorem mapMemberTexts_eq_self :
    ∀ ps : List Prereq, (∀ text ∈ memberTexts ps, f text = text) → mapMemberTexts f ps = ps
  | [], _ => rfl
  | p :: rest, h => by
      obtain ⟨hp, hrest⟩ := List.forall_mem_append.1 h
      rw [mapMemberTexts, mapTexts_eq_self p hp, mapMemberTexts_eq_self rest hrest]

end

instance : LawfulTexts Prereq where
  texts_mapTexts _ := texts_mapTexts
  outline_mapTexts _ := outline_mapTexts
  mapTexts_eq_self := mapTexts_eq_self _

end Prereq

instance : HasOutline PrereqList where
  outline l := { l with members := outline l.members }

instance : LawfulTexts PrereqList where
  texts_mapTexts f l := texts_mapTexts f l.members
  outline_mapTexts := by
    intro f l
    show { l with members := outline (mapTexts f l.members) } = outline l
    rw [outline_mapTexts]
    rfl
  mapTexts_eq_self := by
    intro f l h
    have hmembers : mapTexts f l.members = l.members := mapTexts_eq_self h
    show { l with members := mapTexts f l.members } = l
    rw [hmembers]

/-! ### Traits, skills and spells -/

instance : HasOutline Trait where
  outline t :=
    { t with
      name := ""
      notes := ""
      features := outline t.features
      prereqs := outline t.prereqs }

instance : LawfulTexts Trait where
  texts_mapTexts := by
    intro f t
    show f t.name :: f t.notes :: texts (mapTexts f t.features) ++ texts (mapTexts f t.prereqs) =
      (t.name :: t.notes :: texts t.features ++ texts t.prereqs).map f
    simp only [texts_mapTexts, List.map_append, List.map_cons]
  outline_mapTexts := by
    intro f t
    show { t with
      name := "", notes := "", features := outline (mapTexts f t.features)
      prereqs := outline (mapTexts f t.prereqs) } = outline t
    simp only [outline_mapTexts]
    rfl
  mapTexts_eq_self := by
    intro f t h
    change ∀ text ∈ t.name :: t.notes :: texts t.features ++ texts t.prereqs, f text = text at h
    simp only [List.forall_mem_append, List.forall_mem_cons] at h
    obtain ⟨⟨hname, hnotes, hfeatures⟩, hprereqs⟩ := h
    show { t with
      name := f t.name, notes := f t.notes, features := mapTexts f t.features
      prereqs := mapTexts f t.prereqs } = t
    rw [hname, hnotes, mapTexts_eq_self hfeatures, mapTexts_eq_self hprereqs]

instance : HasOutline Skill where
  outline k :=
    { k with
      name := ""
      specialization := ""
      defaults := outline k.defaults
      features := outline k.features
      prereqs := outline k.prereqs }

instance : LawfulTexts Skill where
  texts_mapTexts := by
    intro f k
    show f k.name :: f k.specialization :: texts (mapTexts f k.defaults) ++
        texts (mapTexts f k.features) ++ texts (mapTexts f k.prereqs) =
      (k.name :: k.specialization :: texts k.defaults ++ texts k.features ++ texts k.prereqs).map f
    simp only [texts_mapTexts, List.map_append, List.map_cons]
  outline_mapTexts := by
    intro f k
    show { k with
      name := "", specialization := "", defaults := outline (mapTexts f k.defaults)
      features := outline (mapTexts f k.features)
      prereqs := outline (mapTexts f k.prereqs) } = outline k
    simp only [outline_mapTexts]
    rfl
  mapTexts_eq_self := by
    intro f k h
    change ∀ text ∈ k.name :: k.specialization :: texts k.defaults ++ texts k.features ++
      texts k.prereqs, f text = text at h
    simp only [List.forall_mem_append, List.forall_mem_cons] at h
    obtain ⟨⟨⟨hname, hspecialization, hdefaults⟩, hfeatures⟩, hprereqs⟩ := h
    show { k with
      name := f k.name, specialization := f k.specialization, defaults := mapTexts f k.defaults
      features := mapTexts f k.features, prereqs := mapTexts f k.prereqs } = k
    rw [hname, hspecialization, mapTexts_eq_self hdefaults, mapTexts_eq_self hfeatures,
      mapTexts_eq_self hprereqs]

/-- A spell keeps the number of its colleges. -/
instance : HasOutline Spell where
  outline p :=
    { p with
      name := ""
      college := p.college.map fun _ => ""
      powerSource := ""
      prereqs := outline p.prereqs }

instance : LawfulTexts Spell where
  texts_mapTexts := by
    intro f p
    show f p.name :: p.college.map f ++ f p.powerSource :: texts (mapTexts f p.prereqs) =
      (p.name :: p.college ++ p.powerSource :: texts p.prereqs).map f
    simp only [texts_mapTexts, List.map_append, List.map_cons]
  outline_mapTexts := by
    intro f p
    show { p with
      name := "", college := (p.college.map f).map fun _ => "", powerSource := ""
      prereqs := outline (mapTexts f p.prereqs) } = outline p
    simp only [outline_mapTexts, List.map_map]
    rfl
  mapTexts_eq_self := by
    intro f p h
    change ∀ text ∈ p.name :: p.college ++ p.powerSource :: texts p.prereqs, f text = text at h
    simp only [List.forall_mem_append, List.forall_mem_cons] at h
    obtain ⟨⟨hname, hcollege⟩, hpowerSource, hprereqs⟩ := h
    show { p with
      name := f p.name, college := p.college.map f, powerSource := f p.powerSource
      prereqs := mapTexts f p.prereqs } = p
    rw [hname, hpowerSource, mapTexts_eq_self hprereqs,
      (List.map_congr_left hcollege).trans (List.map_id' p.college)]

/-! ### Equipment -/

/-- A piece of equipment apart from its contents. -/
instance : HasPlaceholders Gear where
  texts g := g.name :: texts g.features ++ texts g.prereqs
  mapTexts := Equipment.mapGearTexts

instance : HasOutline Gear where
  outline g := { g with name := "", features := outline g.features, prereqs := outline g.prereqs }

instance : LawfulTexts Gear where
  texts_mapTexts := by
    intro f g
    show f g.name :: texts (mapTexts f g.features) ++ texts (mapTexts f g.prereqs) =
      (g.name :: texts g.features ++ texts g.prereqs).map f
    simp only [texts_mapTexts, List.map_append, List.map_cons]
  outline_mapTexts := by
    intro f g
    show { g with
      name := "", features := outline (mapTexts f g.features)
      prereqs := outline (mapTexts f g.prereqs) } = outline g
    simp only [outline_mapTexts]
    rfl
  mapTexts_eq_self := by
    intro f g h
    change ∀ text ∈ g.name :: texts g.features ++ texts g.prereqs, f text = text at h
    simp only [List.forall_mem_append, List.forall_mem_cons] at h
    obtain ⟨⟨hname, hfeatures⟩, hprereqs⟩ := h
    show { g with
      name := f g.name, features := mapTexts f g.features, prereqs := mapTexts f g.prereqs } = g
    rw [hname, mapTexts_eq_self hfeatures, mapTexts_eq_self hprereqs]

instance : HasOutline Equipment where
  outline := Equipment.mapGear outline

namespace Equipment

mutual

/-- The texts of a piece with its contents are those of the pieces, one after the other. -/
theorem texts_eq_flatMap :
    ∀ e : Equipment, e.texts = e.pieces.flatMap (HasPlaceholders.texts ·.toGear)
  | ⟨gear, children⟩ => by
      rw [texts, textsAll_eq_flatMap children, pieces, List.flatMap_cons]
      rfl

theorem textsAll_eq_flatMap :
    ∀ es : List Equipment, textsAll es = (piecesAll es).flatMap (HasPlaceholders.texts ·.toGear)
  | [] => rfl
  | e :: rest => by
      rw [textsAll, texts_eq_flatMap e, textsAll_eq_flatMap rest, piecesAll, List.flatMap_append]

end

instance : LawfulTexts Equipment where
  texts_mapTexts := by
    intro f e
    show (mapGear (mapTexts f) e).texts = e.texts.map f
    rw [texts_eq_flatMap, texts_eq_flatMap, pieces_mapGear, List.flatMap_map, List.map_flatMap]
    simp only [mapGear_toGear, texts_mapTexts]
  outline_mapTexts := by
    intro f e
    have hgear : outline ∘ mapTexts f = (outline : Gear → Gear) := funext (outline_mapTexts f)
    show mapGear outline (mapGear (mapTexts f) e) = mapGear outline e
    rw [mapGear_mapGear, hgear]
  mapTexts_eq_self := by
    intro f e h
    have hpieces (x : Equipment) (hx : x ∈ e.pieces) : mapTexts f x.toGear = x.toGear := by
      refine mapTexts_eq_self fun text htext => h text ?_
      show text ∈ e.texts
      rw [texts_eq_flatMap]
      exact List.mem_flatMap.2 ⟨x, hx, htext⟩
    exact (mapGear_congr e hpieces).trans (mapGear_id e)

end Equipment

/-! ### Tokens of an object -/

namespace Placeholder

/-- What is stored under a key once the tokens of several texts are entered. -/
theorem get?_extractAll (ts : List String) (found chosen : Replacements) (key : String) :
    (extractAll ts found chosen).get? key =
      if ∃ text ∈ ts, key ∈ tokens text then some (valueIn chosen key) else found.get? key := by
  induction ts generalizing found with
  | nil => simp [extractAll]
  | cons text ts ih =>
      rw [extractAll, List.foldl_cons, ← extractAll, ih, get?_extract]
      by_cases hts : ∃ t ∈ ts, key ∈ tokens t
      · simp [hts]
      · simp [hts]

theorem get?_collect {α : Type} [HasPlaceholders α] (a : α) (chosen : Replacements)
    (key : String) :
    (collect a chosen).get? key =
      if ∃ text ∈ texts a, key ∈ tokens text then some (valueIn chosen key) else none :=
  get?_extractAll (texts a) .empty chosen key

/-- The keys that are collected are the tokens of the texts. -/
theorem mem_keys_collect {α : Type} [HasPlaceholders α] {a : α} {chosen : Replacements}
    {key : String} : key ∈ (collect a chosen).keys ↔ ∃ text ∈ texts a, key ∈ tokens text := by
  rw [KeyMap.mem_keys, KeyMap.contains, get?_collect]
  split <;> simp_all

/-- A text that substitution changes has a token. -/
theorem exists_token_of_substitute_ne {m : Replacements} {text : String}
    (h : substitute m text ≠ text) : ∃ token, token ∈ tokens text := by
  have hcount : 2 ≤ text.toList.count marker := by
    by_contra hfew
    exact h (if_pos (Nat.lt_of_not_le hfew))
  have hlength := length_pieces text.toList
  -- Two markers make three pieces at least, and the second of them is a token.
  match hpieces : pieces text.toList with
  | [] | [_] | [_, _] =>
    simp only [hpieces, List.length_cons, List.length_nil] at hlength
    omega
  | p :: q :: r :: rest =>
    refine ⟨String.ofList q, List.mem_map_of_mem ?_⟩
    rw [hpieces]
    exact List.mem_cons_self

end Placeholder

/-! ### What substitution changes -/

namespace HasPlaceholders

section Kind

variable {α : Type} [HasPlaceholders α] [HasOutline α] [LawfulTexts α]

/-- An object that substitution changes has a text that substitution changes. -/
theorem exists_text_of_substitute_ne {m : Replacements} {a : α} (h : substitute m a ≠ a) :
    ∃ text ∈ texts a, Placeholder.substitute m text ≠ text := by
  by_contra hfixed
  push Not at hfixed
  exact h (mapTexts_eq_self hfixed)

/-- Values are written to the texts of an object that are looked through for tokens, each in its
place, and to nothing else. So an object that they change has a token that is asked for. -/
def ChangesAskedTexts (α : Type) [HasPlaceholders α] [HasOutline α] : Prop :=
  ∀ (m chosen : Replacements) (a : α),
    (substitute m a ≠ a → ∃ key, key ∈ (collect a chosen).keys) ∧
      outline (substitute m a) = outline a ∧
      texts (substitute m a) = (texts a).map (Placeholder.substitute m)

theorem changesAskedTexts_of_lawful : ChangesAskedTexts α := by
  intro m chosen a
  refine ⟨fun h => ?_, outline_mapTexts _ a, texts_mapTexts _ a⟩
  obtain ⟨text, htext, hne⟩ := exists_text_of_substitute_ne h
  obtain ⟨token, htoken⟩ := Placeholder.exists_token_of_substitute_ne hne
  exact ⟨token, Placeholder.mem_keys_collect.2 ⟨text, htext, htoken⟩⟩

end Kind

/-- **Whatever can be substituted is asked for.** An object of any kind that is changed by values
for its tokens has a token that is asked for, and nothing is changed but the texts in which tokens
are looked for: the outline is kept, at every depth. -/
theorem substitute_changes_asked_texts :
    ChangesAskedTexts Trait ∧ ChangesAskedTexts Skill ∧ ChangesAskedTexts Spell ∧
      ChangesAskedTexts Equipment ∧ ChangesAskedTexts Feature ∧ ChangesAskedTexts Prereq ∧
      ChangesAskedTexts PrereqList ∧ ChangesAskedTexts SkillDefault := by
  refine ⟨?_, ?_, ?_, ?_, ?_, ?_, ?_, ?_⟩
  all_goals exact changesAskedTexts_of_lawful

/-- A tree with the token of a weapon in a list in a list. -/
def artTree : Prereq :=
  .list true .any
    [.leaf (.ofTrait { has := false, name := .is "Clumsy" }),
      .list false { compare := .atLeast, qualifier := 3 }
        [.leaf (.ofSkill { name := .is "@Weapon@ Art", level := { compare := .atLeast } })]]

/-- Values for a weapon. -/
def rapier : Replacements := KeyMap.empty.insert "Weapon" "Rapier"

theorem artTree_changes_asked_texts :
    substitute rapier artTree ≠ artTree ∧ (∃ key, key ∈ (collect artTree .empty).keys) ∧
      outline (substitute rapier artTree) = outline artTree ∧
      texts (substitute rapier artTree) = ["Clumsy", "", "Rapier Art", ""] := by
  have hne : substitute rapier artTree ≠ artTree := by decide
  obtain ⟨-, -, -, -, -, htree, -⟩ := substitute_changes_asked_texts
  obtain ⟨hasked, houtline, htexts⟩ := htree rapier .empty artTree
  exact ⟨hne, hasked hne, houtline, htexts.trans (by decide)⟩

end HasPlaceholders

end CharacterSheet
