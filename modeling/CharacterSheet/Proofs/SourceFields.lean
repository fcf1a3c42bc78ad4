import CharacterSheet.Item
import CharacterSheet.Proofs.SourcePrereqs

/-!
# What the source content determines

The bytes that are written of an item are the same for two items exactly when the items
agree on the fields that their author controls (`SourceContent.bytes_eq_iff_sameSource`). What a
character changes is left out: ids, points and levels, replacements, what was copied
from where, and the contents of a container.

Prerequisites stand last in every item. So an item without prerequisites is not mistaken
for one that has some, and nothing stands behind a requirement that could be taken for
the rest of a criterion.
-/

namespace CharacterSheet

open SourceContent

/-! ### Left out of the content -/

namespace SourceContent

/-- What changes no element's content changes no content of a list. -/
theorem bytes_map {α : Type} [SourceContent α] {f : α → α} (h : ∀ a, bytes (f a) = bytes a)
    (as : List α) : bytes (as.map f) = bytes as := by
  simp only [bytes, List.length_map, List.flatMap_map]
  exact congrArg (littleEndian 4 as.length ++ List.flatMap · as) (funext h)

theorem bytes_eq_of_map_eq {α : Type} [SourceContent α] {f : α → α}
    (h : ∀ a, bytes (f a) = bytes a) {as bs : List α} (heq : as.map f = bs.map f) :
    bytes as = bytes bs := by
  rw [← bytes_map h as, heq, bytes_map h bs]

end SourceContent

/-! ### Traits -/

namespace Trait

/-- The texts and lists that the author of a trait controls fit. -/
structure Fits (t : Trait) : Prop where
  name : TextFits t.name
  notes : TextFits t.notes
  tags : ListFits TextFits t.tags
  features : ListFits Feature.Fits t.features
  prereqs : ∀ l ∈ t.prereqs, l.Fits

/-- Two traits agree on the fields that their author controls: whether they have levels,
but not which, and their features apart from the levels of the amounts. -/
structure SameSource (t u : Trait) : Prop where
  name : t.name = u.name
  notes : t.notes = u.notes
  tags : t.tags = u.tags
  levels : t.levels.isSome = u.levels.isSome
  features : t.features.map (Feature.atLevel 0) = u.features.map (Feature.atLevel 0)
  prereqs : t.prereqs = u.prereqs

theorem bytes_eq (t : Trait) :
    bytes t = bytes t.name ++ (bytes t.notes ++ (bytes t.tags ++ (bytes t.levels.isSome ++
      (bytes t.features ++ bytes t.prereqs)))) := by
  simp only [← List.append_assoc]
  rfl

theorem sameSource_of_bytes_eq {t u : Trait} (ht : t.Fits) (hu : u.Fits)
    (h : bytes t = bytes u) : t.SameSource u := by
  rw [bytes_eq, bytes_eq] at h
  obtain ⟨hname, h⟩ := delimits_text ht.name hu.name h
  obtain ⟨hnotes, h⟩ := delimits_text ht.notes hu.notes h
  obtain ⟨htags, h⟩ := delimits_texts ht.tags hu.tags h
  obtain ⟨hlevels, h⟩ := delimits_bool trivial trivial h
  obtain ⟨hfeatures, h⟩ := Feature.delimits_feature.list ht.features hu.features h
  exact ⟨hname, hnotes, htags, hlevels, hfeatures,
    PrereqList.option_eq_of_bytes_eq ht.prereqs hu.prereqs h⟩

theorem SameSource.bytes_eq {t u : Trait} (h : t.SameSource u) : bytes t = bytes u := by
  have features : bytes t.features = bytes u.features :=
    bytes_eq_of_map_eq (Feature.bytes_atLevel · 0) h.features
  rw [Trait.bytes_eq, Trait.bytes_eq, h.name, h.notes, h.tags, h.levels, features, h.prereqs]

end Trait

/-! ### Skills -/

namespace Skill

/-- The texts and lists that the author of a skill controls fit, and the bases of its
defaults were read from texts. -/
structure Fits (k : Skill) : Prop where
  name : TextFits k.name
  specialization : TextFits k.specialization
  tags : ListFits TextFits k.tags
  attributeId : TextFits k.difficulty.attributeId
  defaults : ListFits SkillDefault.Fits k.defaults
  features : ListFits Feature.Fits k.features
  prereqs : ∀ l ∈ k.prereqs, l.Fits

/-- Two skills agree on the fields that their author controls: the defaults apart from the
record of what was once computed, and the features apart from the levels of the amounts. -/
structure SameSource (k m : Skill) : Prop where
  name : k.name = m.name
  specialization : k.specialization = m.specialization
  tags : k.tags = m.tags
  difficulty : k.difficulty = m.difficulty
  defaults : k.defaults.map SkillDefault.bare = m.defaults.map SkillDefault.bare
  features : k.features.map (Feature.atLevel 0) = m.features.map (Feature.atLevel 0)
  prereqs : k.prereqs = m.prereqs

theorem bytes_eq (k : Skill) :
    bytes k = bytes k.name ++ (bytes k.specialization ++ (bytes k.tags ++
      (bytes k.difficulty.attributeId ++ (bytes k.difficulty.level.key ++
        (bytes k.defaults ++ (bytes k.features ++ bytes k.prereqs)))))) := by
  simp only [← List.append_assoc]
  rfl

theorem sameSource_of_bytes_eq {k m : Skill} (hk : k.Fits) (hm : m.Fits)
    (h : bytes k = bytes m) : k.SameSource m := by
  rw [bytes_eq, bytes_eq] at h
  obtain ⟨hname, h⟩ := delimits_text hk.name hm.name h
  obtain ⟨hspecialization, h⟩ := delimits_text hk.specialization hm.specialization h
  obtain ⟨htags, h⟩ := delimits_texts hk.tags hm.tags h
  obtain ⟨hattribute, h⟩ := delimits_text hk.attributeId hm.attributeId h
  obtain ⟨hlevel, h⟩ := Keyword.bytes_key_append_inj (κ := DifficultyLevel) h
  obtain ⟨hdefaults, h⟩ := SkillDefault.delimits_skillDefault.list hk.defaults hm.defaults h
  obtain ⟨hfeatures, h⟩ := Feature.delimits_feature.list hk.features hm.features h
  exact ⟨hname, hspecialization, htags, congrArg₂ Difficulty.mk hattribute hlevel, hdefaults,
    hfeatures, PrereqList.option_eq_of_bytes_eq hk.prereqs hm.prereqs h⟩

theorem SameSource.bytes_eq {k m : Skill} (h : k.SameSource m) : bytes k = bytes m := by
  have defaults : bytes k.defaults = bytes m.defaults :=
    bytes_eq_of_map_eq SkillDefault.bytes_bare h.defaults
  have features : bytes k.features = bytes m.features :=
    bytes_eq_of_map_eq (Feature.bytes_atLevel · 0) h.features
  rw [Skill.bytes_eq, Skill.bytes_eq, h.name, h.specialization, h.tags, h.difficulty, defaults,
    features, h.prereqs]

end Skill

/-! ### Spells -/

namespace Spell

/-- The texts and lists that the author of a spell controls fit. -/
structure Fits (p : Spell) : Prop where
  name : TextFits p.name
  college : ListFits TextFits p.college
  powerSource : TextFits p.powerSource
  tags : ListFits TextFits p.tags
  attributeId : TextFits p.difficulty.attributeId
  prereqs : ∀ l ∈ p.prereqs, l.Fits

/-- Two spells agree on the fields that their author controls. -/
structure SameSource (p q : Spell) : Prop where
  name : p.name = q.name
  college : p.college = q.college
  powerSource : p.powerSource = q.powerSource
  tags : p.tags = q.tags
  difficulty : p.difficulty = q.difficulty
  prereqs : p.prereqs = q.prereqs

theorem bytes_eq (p : Spell) :
    bytes p = bytes p.name ++ (bytes p.college ++ (bytes p.powerSource ++ (bytes p.tags ++
      (bytes p.difficulty.attributeId ++ (bytes p.difficulty.level.key ++
        bytes p.prereqs))))) := by
  simp only [← List.append_assoc]
  rfl

theorem sameSource_of_bytes_eq {p q : Spell} (hp : p.Fits) (hq : q.Fits)
    (h : bytes p = bytes q) : p.SameSource q := by
  rw [bytes_eq, bytes_eq] at h
  obtain ⟨hname, h⟩ := delimits_text hp.name hq.name h
  obtain ⟨hcollege, h⟩ := delimits_texts hp.college hq.college h
  obtain ⟨hpower, h⟩ := delimits_text hp.powerSource hq.powerSource h
  obtain ⟨htags, h⟩ := delimits_texts hp.tags hq.tags h
  obtain ⟨hattribute, h⟩ := delimits_text hp.attributeId hq.attributeId h
  obtain ⟨hlevel, h⟩ := Keyword.bytes_key_append_inj (κ := DifficultyLevel) h
  exact ⟨hname, hcollege, hpower, htags, congrArg₂ Difficulty.mk hattribute hlevel,
    PrereqList.option_eq_of_bytes_eq hp.prereqs hq.prereqs h⟩

theorem SameSource.bytes_eq {p q : Spell} (h : p.SameSource q) : bytes p = bytes q := by
  rw [Spell.bytes_eq, Spell.bytes_eq, h.name, h.college, h.powerSource, h.tags, h.difficulty,
    h.prereqs]

end Spell

/-! ### Equipment -/

namespace Equipment

/-- The texts and lists that the author of a piece of equipment controls fit. -/
structure Fits (e : Equipment) : Prop where
  name : TextFits e.name
  tags : ListFits TextFits e.tags
  features : ListFits Feature.Fits e.features
  prereqs : ∀ l ∈ e.prereqs, l.Fits

/-- Two pieces agree on the fields that their author controls: the features apart from the
levels of the amounts, and nothing of what is in them. -/
structure SameSource (e f : Equipment) : Prop where
  name : e.name = f.name
  tags : e.tags = f.tags
  weight : e.weight = f.weight
  features : e.features.map (Feature.atLevel 0) = f.features.map (Feature.atLevel 0)
  prereqs : e.prereqs = f.prereqs

theorem bytes_eq (e : Equipment) :
    bytes e = bytes e.name ++ (bytes e.tags ++ (bytes e.weight ++ (bytes e.features ++
      bytes e.prereqs))) := by
  simp only [← List.append_assoc]
  rfl

theorem sameSource_of_bytes_eq {e f : Equipment} (he : e.Fits) (hf : f.Fits)
    (h : bytes e = bytes f) : e.SameSource f := by
  rw [bytes_eq, bytes_eq] at h
  obtain ⟨hname, h⟩ := delimits_text he.name hf.name h
  obtain ⟨htags, h⟩ := delimits_texts he.tags hf.tags h
  obtain ⟨hweight, h⟩ := delimits_weight trivial trivial h
  obtain ⟨hfeatures, h⟩ := Feature.delimits_feature.list he.features hf.features h
  exact ⟨hname, htags, hweight, hfeatures,
    PrereqList.option_eq_of_bytes_eq he.prereqs hf.prereqs h⟩

theorem SameSource.bytes_eq {e f : Equipment} (h : e.SameSource f) : bytes e = bytes f := by
  have features : bytes e.features = bytes f.features :=
    bytes_eq_of_map_eq (Feature.bytes_atLevel · 0) h.features
  rw [Equipment.bytes_eq, Equipment.bytes_eq, h.name, h.tags, h.weight, features, h.prereqs]

end Equipment

/-! ### All kinds -/

namespace SourceContent

/-- Two values of one kind whose texts and lists fit have the same source content exactly
when they agree on what their author controls. -/
theorem bytes_eq_iff_sameSource :
    (∀ t u : Trait, t.Fits → u.Fits → (bytes t = bytes u ↔ t.SameSource u)) ∧
    (∀ k m : Skill, k.Fits → m.Fits → (bytes k = bytes m ↔ k.SameSource m)) ∧
    (∀ p q : Spell, p.Fits → q.Fits → (bytes p = bytes q ↔ p.SameSource q)) ∧
    (∀ e f : Equipment, e.Fits → f.Fits → (bytes e = bytes f ↔ e.SameSource f)) ∧
    (∀ f g : Feature, f.Fits → g.Fits → (bytes f = bytes g ↔ f.atLevel 0 = g.atLevel 0)) ∧
    (∀ l m : PrereqList, l.Fits → m.Fits → (bytes l = bytes m ↔ l = m)) ∧
    (∀ d e : SkillDefault, d.Fits → e.Fits → (bytes d = bytes e ↔ d.bare = e.bare)) := by
  refine ⟨?trait, ?skill, ?spell, ?equipment, ?feature, ?prereqs, ?default⟩
  case trait => exact fun t u ht hu => ⟨Trait.sameSource_of_bytes_eq ht hu, (·.bytes_eq)⟩
  case skill => exact fun k m hk hm => ⟨Skill.sameSource_of_bytes_eq hk hm, (·.bytes_eq)⟩
  case spell => exact fun p q hp hq => ⟨Spell.sameSource_of_bytes_eq hp hq, (·.bytes_eq)⟩
  case equipment =>
    exact fun e f he hf => ⟨Equipment.sameSource_of_bytes_eq he hf, (·.bytes_eq)⟩
  case feature =>
    intro f g hf hg
    refine ⟨Feature.delimits_feature.eq_of_bytes_eq hf hg, fun h => ?_⟩
    rw [← f.bytes_atLevel 0, h, g.bytes_atLevel 0]
  case prereqs => exact fun l m hl hm => ⟨PrereqList.eq_of_bytes_eq hl hm, congrArg bytes⟩
  case default =>
    intro d e hd he
    refine ⟨SkillDefault.delimits_skillDefault.eq_of_bytes_eq hd he, fun h => ?_⟩
    rw [← d.bytes_bare, h, e.bytes_bare]

/-- A trait that adds to strength with every level, with a prerequisite. -/
def strongAt (level : Fixed) (requirement : AttributeRequirement) : Trait :=
  { name := "Strong", levels := some level
    features := [.attributeBonus { attributeId := "st", amount := { level, perLevel := true } }]
    prereqs := some { members := [.leaf (.ofAttribute requirement)] } }

theorem fits_strongAt (level : Fixed) {requirement : AttributeRequirement}
    (h : (Requirement.ofAttribute requirement).Fits) : (strongAt level requirement).Fits where
  name := (by decide : TextFits "Strong")
  notes := (by decide : TextFits "")
  tags := ⟨Nat.two_pow_pos 32, fun _ hmem => nomatch hmem⟩
  features := ⟨Nat.one_lt_two_pow (by decide), fun f hmem => by
    obtain rfl := List.mem_singleton.mp hmem
    exact (by decide : TextFits "st")⟩
  prereqs l hl := by
    obtain rfl := Option.some.inj hl
    exact ⟨Nat.one_lt_two_pow (by decide), h, trivial⟩

/-- Strength is three ten-thousandths. -/
def tinyStrength : AttributeRequirement :=
  { which := "st", qualifier := { compare := .equals, qualifier := { raw := 3 } } }

/-- The sum of strength and an attribute whose id is the key word of a comparison is
anything. -/
def strengthAndIs : AttributeRequirement := { which := "st", combinedWith := some "is" }

/-- The level of a trait is left out, and requirements are told apart although the content of
one is the beginning of the content of the other. -/
theorem bytes_strongAt :
    bytes (strongAt 1 tinyStrength) = bytes (strongAt 2 tinyStrength) ∧
      bytes (strongAt 1 tinyStrength) <+: bytes (strongAt 1 strengthAndIs) ∧
      bytes (strongAt 1 tinyStrength) ≠ bytes (strongAt 1 strengthAndIs) := by
  obtain ⟨traits, -⟩ := bytes_eq_iff_sameSource
  have hone : (strongAt 1 tinyStrength).Fits :=
    fits_strongAt 1 ⟨by decide, fun _ h => nomatch h⟩
  have htwo : (strongAt 2 tinyStrength).Fits :=
    fits_strongAt 2 ⟨by decide, fun _ h => nomatch h⟩
  have hother : (strongAt 1 strengthAndIs).Fits :=
    fits_strongAt 1 ⟨by decide, fun t h => by obtain rfl := Option.some.inj h; decide⟩
  refine ⟨(traits _ _ hone htwo).mpr ⟨rfl, rfl, rfl, rfl, rfl, rfl⟩, by decide, fun h => ?_⟩
  exact absurd ((traits _ _ hone hother).mp h).prereqs (by decide)

end SourceContent

end CharacterSheet
