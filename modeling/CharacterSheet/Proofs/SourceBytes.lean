import CharacterSheet.Difficulty
import CharacterSheet.Feature
import CharacterSheet.Prereq
import CharacterSheet.SkillDefault
import Mathlib.Algebra.Group.Nat.Defs
import Mathlib.Data.List.Nodup

/-!
# Reading source content

The source content of a value can be read from the front of a stream: what the bytes
say about the value, and where its bytes end, does not depend on what stands behind
it. `Delimits` states this for values whose texts and lists are short enough for the
widths that their lengths are written in. Numbers have fixed widths, a text and a list
say how long they are, and no two key words of an enumeration are the same, so a
record is read field by field.

An absent value writes nothing and cannot be read in this way; where one may stand is
the subject of `Proofs.SourcePrereqs`.
-/

namespace CharacterSheet

namespace SourceContent

/-! ### Numbers -/

@[simp] theorem length_littleEndian (width n : Nat) : (littleEndian width n).length = width := by
  induction width generalizing n with
  | zero => rfl
  | succ width ih => simp [littleEndian, ih]

/-- A number that fits in the width is determined by its bytes. -/
theorem littleEndian_inj {width m n : Nat} (hm : m < 256 ^ width) (hn : n < 256 ^ width)
    (h : littleEndian width m = littleEndian width n) : m = n := by
  induction width generalizing m n with
  | zero => simp only [Nat.pow_zero, Nat.lt_one_iff] at hm hn; rw [hm, hn]
  | succ width ih =>
    obtain ⟨hlow, hhigh⟩ := List.cons.inj h
    have low : m % 256 = n % 256 := by simpa using congrArg UInt8.toNat hlow
    have high : m / 256 = n / 256 :=
      ih (Nat.div_lt_of_lt_mul (by rwa [Nat.pow_succ'] at hm))
        (Nat.div_lt_of_lt_mul (by rwa [Nat.pow_succ'] at hn)) hhigh
    omega

theorem littleEndian_append_inj {width m n : Nat} {r s : List UInt8} (hm : m < 256 ^ width)
    (hn : n < 256 ^ width) (h : littleEndian width m ++ r = littleEndian width n ++ s) :
    m = n ∧ r = s := by
  obtain ⟨hbytes, hrest⟩ := List.append_inj h (by simp)
  exact ⟨littleEndian_inj hm hn hbytes, hrest⟩

/-! ### What can be read -/

variable {α β : Type} [SourceContent α]

/-- The source content of values that fit says what `view` shows of them and where it
ends, whatever stands behind it. -/
def Delimits (fits : α → Prop) (view : α → β) : Prop :=
  ∀ ⦃a b : α⦄, fits a → fits b → ∀ ⦃r s : List UInt8⦄, bytes a ++ r = bytes b ++ s →
    view a = view b ∧ r = s

/-- Values that stand alone are told apart by their bytes. -/
theorem Delimits.eq_of_bytes_eq {fits : α → Prop} {view : α → β} (read : Delimits fits view)
    {a b : α} (ha : fits a) (hb : fits b) (h : bytes a = bytes b) : view a = view b :=
  (read ha hb (congrArg (· ++ []) h)).1

/-- The number of bytes of a text fits in the eight bytes that it is written in. -/
def TextFits (s : String) : Prop := s.utf8ByteSize < 2 ^ 64

instance : DecidablePred TextFits := fun s => inferInstanceAs (Decidable (s.utf8ByteSize < 2 ^ 64))

theorem delimits_text : Delimits TextFits (id : String → String) := by
  intro s t hs ht r r' h
  have size : ∀ u : String, (utf8 u).length = u.utf8ByteSize := fun u => rfl
  simp only [bytes, List.append_assoc] at h
  obtain ⟨hsize, h⟩ := littleEndian_append_inj (by rw [size]; exact hs) (by rw [size]; exact ht) h
  obtain ⟨htext, hrest⟩ := List.append_inj h hsize
  exact ⟨String.toByteArray_inj.mp (ByteArray.ext (Array.toList_inj.mp htext)), hrest⟩

theorem delimits_bool : Delimits (fun _ => True) (id : Bool → Bool) := by
  intro a b _ _ r s h
  obtain ⟨hbyte, hrest⟩ := List.cons.inj h
  refine ⟨?_, hrest⟩
  cases a <;> cases b <;> first | rfl | exact absurd hbyte (by decide)

theorem delimits_fixed : Delimits (fun _ => True) (id : Fixed → Fixed) := by
  intro a b _ _ r s h
  have := a.lower
  have := a.upper
  have := b.lower
  have := b.upper
  obtain ⟨hraw, hrest⟩ := littleEndian_append_inj (by omega) (by omega) h
  have raw : a.raw = b.raw := by omega
  exact ⟨Fixed.ext raw, hrest⟩

theorem delimits_weight : Delimits (fun _ => True) (id : Weight → Weight) := by
  intro a b ha hb r s h
  obtain ⟨hpounds, hrest⟩ := delimits_fixed ha hb h
  exact ⟨congrArg Weight.mk hpounds, hrest⟩

/-- The length of a list fits in the four bytes that it is written in, and its elements
fit. -/
def ListFits (fits : α → Prop) (as : List α) : Prop := as.length < 2 ^ 32 ∧ ∀ a ∈ as, fits a

/-- Elements that can be read one by one can be read one after another, when it is
known how many there are. -/
theorem Delimits.flatMap_append_inj {fits : α → Prop} {view : α → β} (read : Delimits fits view)
    {as bs : List α} (ha : ∀ a ∈ as, fits a) (hb : ∀ b ∈ bs, fits b)
    (hlen : as.length = bs.length) {r s : List UInt8}
    (h : as.flatMap bytes ++ r = bs.flatMap bytes ++ s) : as.map view = bs.map view ∧ r = s := by
  induction as generalizing bs with
  | nil =>
    obtain rfl := List.length_eq_zero_iff.mp hlen.symm
    exact ⟨rfl, h⟩
  | cons a as ih =>
    obtain ⟨b, bs, rfl⟩ := List.exists_cons_of_length_eq_add_one hlen.symm
    simp only [List.flatMap_cons, List.append_assoc] at h
    obtain ⟨hhead, h⟩ := read (ha a List.mem_cons_self) (hb b List.mem_cons_self) h
    obtain ⟨htail, hrest⟩ :=
      ih (fun x hx => ha x (List.mem_cons_of_mem _ hx))
        (fun x hx => hb x (List.mem_cons_of_mem _ hx)) (Nat.succ.inj hlen) h
    exact ⟨by rw [List.map_cons, List.map_cons, hhead, htail], hrest⟩

theorem Delimits.list {fits : α → Prop} {view : α → β} (read : Delimits fits view) :
    Delimits (ListFits fits) (List.map view) := by
  intro as bs ha hb r s h
  simp only [bytes, List.append_assoc] at h
  obtain ⟨hlen, h⟩ := littleEndian_append_inj ha.1 hb.1 h
  exact read.flatMap_append_inj ha.2 hb.2 hlen h

theorem delimits_texts : Delimits (ListFits TextFits) (id : List String → List String) := by
  intro as bs ha hb r s h
  simpa using delimits_text.list ha hb h

end SourceContent

open SourceContent

/-! ### Key words -/

/-- Every value of an enumeration is listed, and no two have the same key word. -/
class LawfulKeyword (κ : Type) [Keyword κ] : Prop where
  mem_all : ∀ a : κ, a ∈ Keyword.all
  nodup_keys : ((Keyword.all : List κ).map Keyword.key).Nodup
  fits_keys : ∀ a ∈ (Keyword.all : List κ), TextFits (Keyword.key a)

instance : LawfulKeyword StringCompare := ⟨by rintro ⟨⟩ <;> decide, by decide, by decide⟩
instance : LawfulKeyword NumericCompare := ⟨by rintro ⟨⟩ <;> decide, by decide, by decide⟩
instance : LawfulKeyword WeaponSelection := ⟨by rintro ⟨⟩ <;> decide, by decide, by decide⟩
instance : LawfulKeyword SkillSelection := ⟨by rintro ⟨⟩ <;> decide, by decide, by decide⟩
instance : LawfulKeyword SpellMatch := ⟨by rintro ⟨⟩ <;> decide, by decide, by decide⟩
instance : LawfulKeyword AttributeLimitation := ⟨by rintro ⟨⟩ <;> decide, by decide, by decide⟩
instance : LawfulKeyword SpellComparison := ⟨by rintro ⟨⟩ <;> decide, by decide, by decide⟩
instance : LawfulKeyword DifficultyLevel := ⟨by rintro ⟨⟩ <;> decide, by decide, by decide⟩

section Keyword

variable {κ : Type} [Keyword κ] [LawfulKeyword κ]

theorem Keyword.key_injective : Function.Injective (Keyword.key : κ → String) := fun a b h =>
  List.inj_on_of_nodup_map LawfulKeyword.nodup_keys (LawfulKeyword.mem_all a)
    (LawfulKeyword.mem_all b) h

/-- A value that is written by its key word can be read. -/
theorem Keyword.bytes_key_append_inj {a b : κ} {r s : List UInt8}
    (h : bytes (Keyword.key a) ++ r = bytes (Keyword.key b) ++ s) : a = b ∧ r = s := by
  have fits (c : κ) : TextFits (Keyword.key c) :=
    LawfulKeyword.fits_keys c (LawfulKeyword.mem_all c)
  obtain ⟨hkey, hrest⟩ := delimits_text (fits a) (fits b) h
  exact ⟨Keyword.key_injective hkey, hrest⟩

end Keyword

/-! ### Criteria and amounts -/

theorem StringCriteria.bytes_append (c : StringCriteria) (r : List UInt8) :
    bytes c ++ r = bytes c.compare.key ++ (bytes c.qualifier ++ r) := List.append_assoc ..

theorem NumericCriteria.bytes_append (c : NumericCriteria) (r : List UInt8) :
    bytes c ++ r = bytes c.compare.key ++ (bytes c.qualifier ++ r) := List.append_assoc ..

theorem WeightCriteria.bytes_append (c : WeightCriteria) (r : List UInt8) :
    bytes c ++ r = bytes c.compare.key ++ (bytes c.qualifier ++ r) := List.append_assoc ..

theorem Amount.bytes_append (a : Amount) (r : List UInt8) :
    bytes a ++ r = bytes a.amount ++ (bytes a.perLevel ++ r) := List.append_assoc ..

/-- The qualifier of a text criterion fits. -/
def StringCriteria.Fits (c : StringCriteria) : Prop := TextFits c.qualifier

theorem delimits_stringCriteria :
    Delimits StringCriteria.Fits (id : StringCriteria → StringCriteria) := by
  rintro ⟨compare, qualifier⟩ ⟨compare', qualifier'⟩ hc hd r s h
  rw [StringCriteria.bytes_append, StringCriteria.bytes_append] at h
  obtain ⟨rfl, h⟩ := Keyword.bytes_key_append_inj (κ := StringCompare) h
  obtain ⟨rfl, hrest⟩ := delimits_text hc hd h
  exact ⟨rfl, hrest⟩

theorem delimits_numericCriteria :
    Delimits (fun _ => True) (id : NumericCriteria → NumericCriteria) := by
  rintro ⟨compare, qualifier⟩ ⟨compare', qualifier'⟩ hc hd r s h
  rw [NumericCriteria.bytes_append, NumericCriteria.bytes_append] at h
  obtain ⟨rfl, h⟩ := Keyword.bytes_key_append_inj (κ := NumericCompare) h
  obtain ⟨rfl, hrest⟩ := delimits_fixed hc hd h
  exact ⟨rfl, hrest⟩

theorem delimits_weightCriteria :
    Delimits (fun _ => True) (id : WeightCriteria → WeightCriteria) := by
  rintro ⟨compare, qualifier⟩ ⟨compare', qualifier'⟩ hc hd r s h
  rw [WeightCriteria.bytes_append, WeightCriteria.bytes_append] at h
  obtain ⟨rfl, h⟩ := Keyword.bytes_key_append_inj (κ := NumericCompare) h
  obtain ⟨rfl, hrest⟩ := delimits_weight hc hd h
  exact ⟨rfl, hrest⟩

/-- All of an amount but its level can be read. -/
theorem delimits_amount : Delimits (fun _ => True) fun a : Amount => { a with level := 0 } := by
  rintro ⟨level, amount, perLevel⟩ ⟨level', amount', perLevel'⟩ ha hb r s h
  rw [Amount.bytes_append, Amount.bytes_append] at h
  obtain ⟨rfl, h⟩ := delimits_fixed ha hb h
  obtain ⟨rfl, hrest⟩ := delimits_bool ha hb h
  exact ⟨rfl, hrest⟩

/-! ### Features -/

namespace Feature

theorem bytes_append (f : Feature) (r : List UInt8) :
    bytes f ++ r = bytes f.kind ++ (f.targetBytes ++ (bytes f.amount ++ r)) := by
  simp only [← List.append_assoc]
  rfl

/-- The texts of a feature fit. -/
def Fits : Feature → Prop
  | attributeBonus b => TextFits b.attributeId
  | skillBonus b => b.name.Fits ∧ b.specialization.Fits ∧ b.tags.Fits
  | spellBonus b => b.name.Fits ∧ b.tags.Fits
  | weaponBonus b | weaponDrDivisorBonus b => b.name.Fits ∧ b.specialization.Fits ∧ b.tags.Fits
  | drBonus b => TextFits b.location ∧ TextFits b.specialization
  | reactionBonus b => TextFits b.situation

/-- The feature with a standard amount. -/
def target : Feature → Feature := mapAmount fun _ => {}

theorem atLevel_eq_mapAmount_target (f : Feature) (level : Fixed) :
    f.atLevel level = f.target.mapAmount fun _ => { f.amount with level } := by
  cases f <;> rfl

theorem weaponBytes_append_inj {b c : WeaponBonus}
    (hb : b.name.Fits ∧ b.specialization.Fits ∧ b.tags.Fits)
    (hc : c.name.Fits ∧ c.specialization.Fits ∧ c.tags.Fits) {r s : List UInt8}
    (h : weaponBytes b ++ r = weaponBytes c ++ s) :
    ({ b with amount := {} } : WeaponBonus) = { c with amount := {} } ∧ r = s := by
  simp only [weaponBytes, List.append_assoc] at h
  obtain ⟨hpercent, h⟩ := delimits_bool trivial trivial h
  obtain ⟨hselection, h⟩ := Keyword.bytes_key_append_inj (κ := WeaponSelection) h
  obtain ⟨hname, h⟩ := delimits_stringCriteria hb.1 hc.1 h
  obtain ⟨hspecialization, h⟩ := delimits_stringCriteria hb.2.1 hc.2.1 h
  obtain ⟨hlevel, h⟩ := delimits_numericCriteria trivial trivial h
  obtain ⟨htags, hrest⟩ := delimits_stringCriteria hb.2.2 hc.2.2 h
  cases b; cases c
  cases hpercent; cases hselection; cases hname; cases hspecialization; cases hlevel; cases htags
  exact ⟨rfl, hrest⟩

theorem fits_kind (f : Feature) : TextFits f.kind := by
  cases f <;> simp only [kind] <;> decide

/-- Of two features of one kind the bytes after the kind tell what they reach. -/
theorem targetBytes_append_inj {f g : Feature} (hkind : f.kind = g.kind) (hf : f.Fits)
    (hg : g.Fits) {r s : List UInt8} (h : f.targetBytes ++ r = g.targetBytes ++ s) :
    f.target = g.target ∧ r = s := by
  cases f <;> cases g <;> simp [kind] at hkind <;>
    simp only [targetBytes, List.append_assoc] at h
  case attributeBonus.attributeBonus b c =>
    obtain ⟨hid, h⟩ := delimits_text hf hg h
    obtain ⟨hlimitation, hrest⟩ := Keyword.bytes_key_append_inj (κ := AttributeLimitation) h
    cases b; cases c; cases hid; cases hlimitation
    exact ⟨rfl, hrest⟩
  case skillBonus.skillBonus b c =>
    obtain ⟨hselection, h⟩ := Keyword.bytes_key_append_inj (κ := SkillSelection) h
    obtain ⟨hname, h⟩ := delimits_stringCriteria hf.1 hg.1 h
    obtain ⟨hspecialization, h⟩ := delimits_stringCriteria hf.2.1 hg.2.1 h
    obtain ⟨htags, hrest⟩ := delimits_stringCriteria hf.2.2 hg.2.2 h
    cases b; cases c; cases hselection; cases hname; cases hspecialization; cases htags
    exact ⟨rfl, hrest⟩
  case spellBonus.spellBonus b c =>
    obtain ⟨hselect, h⟩ := Keyword.bytes_key_append_inj (κ := SpellMatch) h
    obtain ⟨hname, h⟩ := delimits_stringCriteria hf.1 hg.1 h
    obtain ⟨htags, hrest⟩ := delimits_stringCriteria hf.2 hg.2 h
    cases b; cases c; cases hselect; cases hname; cases htags
    exact ⟨rfl, hrest⟩
  case weaponBonus.weaponBonus b c =>
    obtain ⟨hweapon, hrest⟩ := weaponBytes_append_inj hf hg h
    exact ⟨congrArg weaponBonus hweapon, hrest⟩
  case weaponDrDivisorBonus.weaponDrDivisorBonus b c =>
    obtain ⟨hweapon, hrest⟩ := weaponBytes_append_inj hf hg h
    exact ⟨congrArg weaponDrDivisorBonus hweapon, hrest⟩
  case drBonus.drBonus b c =>
    obtain ⟨hlocation, h⟩ := delimits_text hf.1 hg.1 h
    obtain ⟨hspecialization, hrest⟩ := delimits_text hf.2 hg.2 h
    cases b; cases c; cases hlocation; cases hspecialization
    exact ⟨rfl, hrest⟩
  case reactionBonus.reactionBonus b c =>
    obtain ⟨hsituation, hrest⟩ := delimits_text hf hg h
    cases b; cases c; cases hsituation
    exact ⟨rfl, hrest⟩

/-- All of a feature but its level can be read. -/
theorem delimits_feature : Delimits Fits (atLevel 0) := by
  intro f g hf hg r s h
  rw [bytes_append, bytes_append] at h
  obtain ⟨hkind, h⟩ := delimits_text f.fits_kind g.fits_kind h
  obtain ⟨htarget, h⟩ := targetBytes_append_inj hkind hf hg h
  obtain ⟨hamount, hrest⟩ := delimits_amount trivial trivial h
  refine ⟨?_, hrest⟩
  rw [atLevel_eq_mapAmount_target, atLevel_eq_mapAmount_target, htarget]
  exact congrArg (fun a => g.target.mapAmount fun _ => a) hamount

/-- The level of a feature writes nothing. -/
theorem bytes_atLevel (f : Feature) (level : Fixed) : bytes (f.atLevel level) = bytes f := by
  cases f <;> rfl

end Feature

/-! ### Skill defaults -/

namespace DefaultBase

/-- The base that an id in normal form names. -/
def ofNormalId : String → DefaultBase
  | "skill" => skill
  | "parry" => parry
  | "block" => block
  | "dodge" => dodge
  | id => ofAttribute id

theorem parse_eq_ofNormalId (text : String) :
    parse text = ofNormalId (BonusKey.normalize text) := by
  unfold parse
  generalize BonusKey.normalize text = normal
  rfl

theorem ofNormalId_id (text : String) : ofNormalId (ofNormalId text).id = ofNormalId text := by
  fun_cases ofNormalId text
  all_goals first | rfl | simp_all [id, ofNormalId]

/-- The base can be told from its id if it was read from a text. -/
theorem parse_inj_of_id_eq {s t : String} (h : (parse s).id = (parse t).id) :
    parse s = parse t := by
  rw [parse_eq_ofNormalId, parse_eq_ofNormalId] at h ⊢
  rw [← ofNormalId_id, h, ofNormalId_id]

end DefaultBase

namespace SkillDefault

theorem bytes_append (d : SkillDefault) (r : List UInt8) :
    bytes d ++ r =
      bytes d.base.id ++ (bytes d.name ++ (bytes d.specialization ++ (bytes d.modifier ++ r))) := by
  simp only [← List.append_assoc]
  rfl

/-- The base of a default was read from a text, and its texts fit. -/
structure Fits (d : SkillDefault) : Prop where
  base_read : ∃ text, d.base = .parse text
  base : TextFits d.base.id
  name : TextFits d.name
  specialization : TextFits d.specialization

/-- All of a default but the record of what was once computed can be read. -/
theorem delimits_skillDefault : Delimits Fits bare := by
  intro d e hd he r s h
  rw [bytes_append, bytes_append] at h
  obtain ⟨hid, h⟩ := delimits_text hd.base he.base h
  obtain ⟨hname, h⟩ := delimits_text hd.name he.name h
  obtain ⟨hspecialization, h⟩ := delimits_text hd.specialization he.specialization h
  obtain ⟨hmodifier, hrest⟩ := delimits_fixed trivial trivial h
  have hbase : d.base = e.base := by
    obtain ⟨text, hread⟩ := hd.base_read
    obtain ⟨text', hread'⟩ := he.base_read
    rw [hread, hread'] at hid ⊢
    exact DefaultBase.parse_inj_of_id_eq hid
  cases d; cases e; cases hbase; cases hname; cases hspecialization; cases hmodifier
  exact ⟨rfl, hrest⟩

/-- The record of what was once computed writes nothing. -/
theorem bytes_bare (d : SkillDefault) : bytes d.bare = bytes d := rfl

end SkillDefault

end CharacterSheet
