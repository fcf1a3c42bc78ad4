import CharacterSheet.Proofs.LetterCase
import CharacterSheet.Sheet.Prerequisites

/-!
# Letter case of colleges

A requirement on spells looks at their colleges through criteria, which do not tell letter case
apart, or counts the different colleges, which it does. `Sheet.recased_judged_alike` compares a sheet
with the sheets on which the colleges of its spells have other letter case: all verdicts but those on
the number of colleges stay the same, and these stay the same on all such sheets exactly if no
college with a letter is listed twice.
-/

namespace CharacterSheet

namespace Text

/-! ### Texts in different letter case -/

/-- A text without the letters `A` to `Z` of either case. -/
def Caseless (s : String) : Prop := ∀ c ∈ s.toList, ¬ c.isAlpha

instance : DecidablePred Caseless := fun s =>
  List.decidableBAll (fun c : Char => ¬ c.isAlpha) s.toList

/-- What is no letter differs from all other characters in more than letter case. -/
theorem eq_of_toLower_eq {c d : Char} (hd : ¬ d.isAlpha) (h : c.toLower = d.toLower) : c = d := by
  have hc : ¬ c.isAlpha := by
    rwa [← Char.isAlpha_toLower_eq_isAlpha, h, Char.isAlpha_toLower_eq_isAlpha]
  rwa [toLower_eq_self_of_not_isAlpha hc, toLower_eq_self_of_not_isAlpha hd] at h

theorem eq_of_map_toLower_eq {cs ds : List Char} (hds : ∀ d ∈ ds, ¬ d.isAlpha)
    (h : cs.map Char.toLower = ds.map Char.toLower) : cs = ds := by
  induction ds generalizing cs with
  | nil => exact List.map_eq_nil_iff.1 h
  | cons d rest ih =>
      obtain ⟨hd, hrest⟩ := List.forall_mem_cons.1 hds
      obtain ⟨c, cs, rfl, hc, hcs⟩ := List.map_eq_cons_iff.1 h
      rw [eq_of_toLower_eq hd hc, ih hrest hcs]

/-- A caseless text differs from all other texts in more than letter case. -/
theorem Caseless.eq_of_foldCase_eq {a b : String} (h : Caseless b) (hfold : foldCase a = foldCase b) :
    a = b :=
  String.toList_inj.1 (eq_of_map_toLower_eq h hfold)

theorem mem_of_foldCase_eq {a b : String} {c : Char} (hc : ¬ c.isAlpha)
    (hfold : foldCase a = foldCase b) (h : c ∈ a.toList) : c ∈ b.toList := by
  have hmem : c.toLower ∈ foldCase b := hfold ▸ List.mem_map_of_mem h
  obtain ⟨d, hd, hcd⟩ := List.mem_map.1 hmem
  exact eq_of_toLower_eq hc hcd ▸ hd

/-- The text with small letters for `A` to `Z`. -/
def small (s : String) : String := String.ofList (foldCase s)

/-- The text with capitals for `a` to `z`. -/
def capital (s : String) : String := String.ofList (s.toList.map Char.toUpper)

theorem foldCase_small (s : String) : foldCase (small s) = foldCase s := by
  simp [foldCase, small]

theorem foldCase_capital (s : String) : foldCase (capital s) = foldCase s := by
  simp [foldCase, capital]

theorem capital_ne_small {a : String} (h : ¬ Caseless a) (b : String) : capital a ≠ small b := by
  intro heq
  simp only [Caseless, not_forall, not_not] at h
  obtain ⟨c, hc, hletter⟩ := h
  have hmem : c.toUpper ∈ (small b).toList := by
    rw [← heq, capital, String.toList_ofList]
    exact List.mem_map_of_mem hc
  rw [small, String.toList_ofList] at hmem
  obtain ⟨d, -, hd⟩ := List.mem_map.1 hmem
  have hupper : c.toUpper.isUpper = true := (Char.isUpper_toUpper_eq_isAlpha c).trans hletter
  rw [← hd, Char.isUpper_toLower_eq_false] at hupper
  exact Bool.false_ne_true hupper

/-! ### Lists of texts in different letter case -/

/-- No two texts in the list are the same but for letter case, unless they are caseless. -/
def CaseApart (l : List String) : Prop := l.Pairwise fun a b => foldCase a = foldCase b → Caseless a

instance : DecidablePred CaseApart := fun l =>
  inferInstanceAs (Decidable (l.Pairwise fun a b => foldCase a = foldCase b → Caseless a))

/-- In other letter case there are as many different texts. -/
theorem CaseApart.card_toFinset_eq {l l' : List String} (h : CaseApart l)
    (hfold : l'.map foldCase = l.map foldCase) : l'.toFinset.card = l.toFinset.card := by
  induction l generalizing l' with
  | nil => rw [List.map_eq_nil_iff.1 hfold]
  | cons a rest ih =>
      obtain ⟨hhead, hrest⟩ := List.pairwise_cons.1 h
      obtain ⟨b, rest', rfl, hb, hfold'⟩ := List.map_eq_cons_iff.1 hfold
      have hcard := ih hrest hfold'
      rw [List.toFinset_cons, List.toFinset_cons]
      by_cases hmem : a ∈ rest
      · -- A text that stands twice is caseless.
        have hcaseless := hhead a hmem rfl
        obtain rfl := hcaseless.eq_of_foldCase_eq hb
        have hfolded : foldCase b ∈ rest'.map foldCase := hfold' ▸ List.mem_map_of_mem hmem
        obtain ⟨c, hc, hcb⟩ := List.mem_map.1 hfolded
        obtain rfl := hcaseless.eq_of_foldCase_eq hcb
        rw [Finset.insert_eq_of_mem (List.mem_toFinset.2 hmem),
          Finset.insert_eq_of_mem (List.mem_toFinset.2 hc), hcard]
      · have hmem' : b ∉ rest' := by
          intro hb'
          have hfolded : foldCase b ∈ rest.map foldCase := hfold' ▸ List.mem_map_of_mem hb'
          obtain ⟨c, hc, hcb⟩ := List.mem_map.1 hfolded
          have hac : foldCase a = foldCase c := hb.symm.trans hcb.symm
          exact hmem ((hhead c hc hac).eq_of_foldCase_eq hac.symm ▸ hc)
        rw [Finset.card_insert_of_notMem (mt List.mem_toFinset.1 hmem'),
          Finset.card_insert_of_notMem (mt List.mem_toFinset.1 hmem), hcard]

/-- If a text with letters stands twice but for letter case, the number of different texts can be
made one higher by letter case. -/
theorem exists_card_toFinset_eq_succ {l : List String} (h : ¬ CaseApart l) :
    ∃ l₁ l₂ : List String, l₁.map foldCase = l.map foldCase ∧ l₂.map foldCase = l.map foldCase ∧
      l₂.toFinset.card = l₁.toFinset.card + 1 := by
  simp only [CaseApart, List.pairwise_iff_forall_sublist, not_forall] at h
  obtain ⟨a, b, hsub, hab, hcase⟩ := h
  obtain ⟨before, behind, rfl, ha, hb⟩ := List.cons_sublist_iff.1 hsub
  rw [List.singleton_sublist] at hb
  obtain ⟨front, middle, rfl⟩ := List.mem_iff_append.1 ha
  have hsmall (l : List String) : (l.map small).map foldCase = l.map foldCase := by
    simp only [List.map_map, Function.comp_def, foldCase_small]
  -- All in small letters, and the first of the two in capitals.
  refine ⟨(front ++ a :: middle ++ behind).map small,
    front.map small ++ capital a :: (middle ++ behind).map small, hsmall _, ?_, ?_⟩
  · simp [hsmall, foldCase_capital]
  · have hnew : capital a ∉ ((front ++ a :: middle ++ behind).map small).toFinset := by
      rw [List.mem_toFinset]
      intro hmem
      obtain ⟨c, -, hc⟩ := List.mem_map.1 hmem
      exact capital_ne_small hcase c hc.symm
    -- The small form of the first is there as that of the second.
    have htwice : small a ∈ behind.map small := by
      rw [small, hab]
      exact List.mem_map_of_mem hb
    rw [← Finset.card_insert_of_notMem hnew]
    congr 1
    ext c
    simp only [Finset.mem_insert, List.mem_toFinset, List.map_append, List.map_cons,
      List.mem_append, List.mem_cons]
    by_cases hc : c = small a
    · subst hc
      simp [htwice]
    · simp only [hc, false_or, or_assoc, or_left_comm]

end Text

/-! ### Counting -/

section Counting

variable {α β : Type} {R : α → β → Prop}

theorem nodup_eraseDups [BEq α] [LawfulBEq α] : ∀ l : List α, l.eraseDups.Nodup
  | [] => by simp
  | a :: rest => by
      rw [List.eraseDups_cons, List.nodup_cons]
      exact ⟨by simp, nodup_eraseDups (rest.filter fun b => !b == a)⟩
termination_by l => l.length
decreasing_by simpa using Nat.lt_succ_of_le (List.length_filter_le _ rest)

theorem length_eraseDups [DecidableEq α] (l : List α) : l.eraseDups.length = l.toFinset.card := by
  rw [← List.toFinset_card_of_nodup (nodup_eraseDups l)]
  congr 1
  ext a
  simp

theorem countP_eq_of_forall₂ {l : List α} {l' : List β} (h : List.Forall₂ R l l') {p : α → Bool}
    {q : β → Bool} (hpq : ∀ a b, R a b → p a = q b) : l.countP p = l'.countP q := by
  induction h with
  | nil => rfl
  | cons hab _ ih => rw [List.countP_cons, List.countP_cons, ih, hpq _ _ hab]

theorem flatMap_eq_of_forall₂ {γ : Type} {l : List α} {l' : List β} (h : List.Forall₂ R l l')
    {f : α → List γ} {g : β → List γ} (hfg : ∀ a b, R a b → f a = g b) :
    l.flatMap f = l'.flatMap g := by
  induction h with
  | nil => rfl
  | cons hab _ ih => rw [List.flatMap_cons, List.flatMap_cons, ih, hfg _ _ hab]

/-- Counts in range are different numbers. -/
theorem Fixed.ofInt_succ_ne {n : Nat} (h : ((n + 1 : Nat) : Int) * scale ≤ highest.raw) :
    ofInt (n + 1 : Nat) ≠ ofInt n := by
  intro heq
  have hraw := congrArg raw heq
  rw [ofInt, ofInt, raw_clamp, raw_clamp] at hraw
  simp only [scale, highest] at h hraw
  omega

end Counting

/-! ### Spells -/

theorem Placeholder.substitute_of_notMem {m : Replacements} {text : String}
    (h : marker ∉ text.toList) : substitute m text = text := by
  rw [substitute, List.count_eq_zero.2 h, if_pos (by decide)]

namespace Spell

/-- The colleges of the spell have no placeholders. -/
def PlainColleges (p : Spell) : Prop := ∀ c ∈ p.college, Placeholder.marker ∉ c.toList

instance : DecidablePred PlainColleges := fun p =>
  inferInstanceAs (Decidable (∀ c ∈ p.college, Placeholder.marker ∉ c.toList))

theorem PlainColleges.displayCollege_eq {p : Spell} (h : p.PlainColleges) :
    p.displayCollege = p.college :=
  (List.map_congr_left fun c hc => Placeholder.substitute_of_notMem (h c hc)).trans
    (List.map_id' p.college)

/-- The spell with its colleges in other letter case. -/
structure Recased (p p' : Spell) : Prop where
  college : p'.college.map Text.foldCase = p.college.map Text.foldCase
  rest : p' = { p with college := p'.college }

namespace Recased

variable {p p' : Spell} (h : p.Recased p')
include h

theorem id_eq : p'.id = p.id := by rw [h.rest]

theorem displayName_eq : p'.displayName = p.displayName := by rw [h.rest]; rfl

theorem tags_eq : p'.tags = p.tags := by rw [h.rest]

theorem plainColleges (hplain : p.PlainColleges) : p'.PlainColleges := by
  intro c hc hmarker
  have hfolded : Text.foldCase c ∈ p.college.map Text.foldCase :=
    h.college ▸ List.mem_map_of_mem hc
  obtain ⟨d, hd, hdc⟩ := List.mem_map.1 hfolded
  exact hplain d hd (Text.mem_of_foldCase_eq (by decide) hdc.symm hmarker)

theorem map_lowercase_displayCollege (hplain : p.PlainColleges) :
    p'.displayCollege.map Text.lowercase = p.displayCollege.map Text.lowercase := by
  rw [(h.plainColleges hplain).displayCollege_eq, hplain.displayCollege_eq]
  exact Text.map_lowercase_eq_of_map_foldCase_eq h.college

end Recased

end Spell

namespace Sheet

/-- The colleges of all spells. -/
def colleges (s : Sheet) : List String := s.spells.flatMap (·.college)

/-- The sheet with the colleges of its spells in other letter case. -/
structure Recased (s s' : Sheet) : Prop where
  spells : List.Forall₂ Spell.Recased s.spells s'.spells
  rest : s' = { s with spells := s'.spells }

namespace Recased

variable {s s' : Sheet} (h : s.Recased s') (hplain : ∀ p ∈ s.spells, p.PlainColleges)
include h hplain

theorem plainColleges : ∀ p ∈ s'.spells, p.PlainColleges := by
  have hspells : List.Forall₂ (fun p' p => p'.PlainColleges ∧ p.Recased p') s'.spells s.spells :=
    ((List.forall₂_and_left _ _).2 ⟨hplain, h.spells⟩).flip.imp fun _ _ hp =>
      ⟨hp.2.plainColleges hp.1, hp.2⟩
  exact ((List.forall₂_and_left _ _).1 hspells).1

/-- The same spells count on both sheets. -/
theorem others (excluded : Option ItemId) :
    List.Forall₂ (fun p p' => p.PlainColleges ∧ p.Recased p')
      (s.spells.filter fun p => some p.id != excluded)
      (s'.spells.filter fun p => some p.id != excluded) := by
  refine List.rel_filter (fun p p' hp => ?_) ((List.forall₂_and_left _ _).2 ⟨hplain, h.spells⟩)
  show (some p.id != excluded) = true ↔ (some p'.id != excluded) = true
  rw [hp.2.id_eq]

end Recased

theorem exists_recased_spells (ps : List Spell) {l : List String}
    (h : l.map Text.foldCase = (ps.flatMap (·.college)).map Text.foldCase) :
    ∃ ps', List.Forall₂ Spell.Recased ps ps' ∧ ps'.flatMap (·.college) = l := by
  induction ps generalizing l with
  | nil => exact ⟨[], .nil, (List.map_eq_nil_iff.1 h).symm⟩
  | cons p rest ih =>
      rw [List.flatMap_cons, List.map_append] at h
      obtain ⟨own, others, rfl, hown, hothers⟩ := List.map_eq_append_iff.1 h
      obtain ⟨rest', hrest, hcolleges⟩ := ih hothers
      exact ⟨{ p with college := own } :: rest', .cons ⟨hown, rfl⟩ hrest, by
        rw [List.flatMap_cons, hcolleges]⟩

/-- The colleges of a sheet can be given any letter case. -/
theorem exists_recased (s : Sheet) {l : List String}
    (h : l.map Text.foldCase = s.colleges.map Text.foldCase) :
    ∃ s', s.Recased s' ∧ s'.colleges = l := by
  obtain ⟨ps, hps, hcolleges⟩ := exists_recased_spells s.spells h
  exact ⟨{ s with spells := ps }, ⟨hps, rfl⟩, hcolleges⟩

end Sheet

namespace SpellRequirement

variable {s s' : Sheet} {r : SpellRequirement}

/-- Without placeholders the college count is that of the different texts. -/
theorem count_of_collegeCount (hr : r.comparison = .collegeCount)
    (hplain : ∀ p ∈ s.spells, p.PlainColleges) (excluded : Option ItemId) :
    r.count s excluded =
      ((s.spells.filter fun p => some p.id != excluded).flatMap (·.college)).toFinset.card := by
  simp only [count, hr]
  rw [length_eraseDups, List.flatMap_congr fun p hp =>
    (hplain p (List.mem_of_mem_filter hp)).displayCollege_eq]

/-- Criteria see no difference, nor does a count of all spells. -/
theorem count_eq_of_recased (hr : r.comparison ≠ .collegeCount)
    (hplain : ∀ p ∈ s.spells, p.PlainColleges) (h : s.Recased s') (excluded : Option ItemId) :
    r.count s' excluded = r.count s excluded := by
  have hothers := h.others hplain excluded
  cases hcomparison : r.comparison with
  | collegeCount => exact absurd hcomparison hr
  | any =>
      simp only [count, hcomparison]
      exact hothers.length_eq.symm
  | name =>
      simp only [count, hcomparison]
      refine (countP_eq_of_forall₂ hothers fun p p' hp => ?_).symm
      rw [hp.2.displayName_eq]
  | tag =>
      simp only [count, hcomparison]
      refine (countP_eq_of_forall₂ hothers fun p p' hp => ?_).symm
      rw [hp.2.tags_eq]
  | college =>
      simp only [count, hcomparison]
      refine (countP_eq_of_forall₂ hothers fun p p' hp => ?_).symm
      exact r.qualifier.acceptsList_congr (hp.2.map_lowercase_displayCollege hp.1).symm

/-- If no college with a letter is listed twice, the college count sees no difference either. -/
theorem count_eq_of_caseApart (hr : r.comparison = .collegeCount)
    (hplain : ∀ p ∈ s.spells, p.PlainColleges) (hcase : Text.CaseApart s.colleges)
    (h : s.Recased s') (excluded : Option ItemId) : r.count s' excluded = r.count s excluded := by
  rw [count_of_collegeCount hr hplain, count_of_collegeCount hr (h.plainColleges hplain)]
  refine Text.CaseApart.card_toFinset_eq (hcase.sublist (List.Sublist.flatMap List.filter_sublist _)) ?_
  rw [List.map_flatMap, List.map_flatMap]
  exact (flatMap_eq_of_forall₂ (h.others hplain excluded) fun p p' hp => hp.2.college.symm).symm

end SpellRequirement

namespace Sheet

open Text (CaseApart)

variable {s : Sheet}

/-- If all college counts agree in all letter cases, no college with a letter is listed twice. -/
theorem caseApart_of_judged_alike (hplain : ∀ p ∈ s.spells, p.PlainColleges)
    (hrange : s.colleges.length * Fixed.scale ≤ Fixed.highest.raw)
    (halike : ∀ s' (r : SpellRequirement) (excluded : Option ItemId), s.Recased s' →
      r.holds s' excluded = r.holds s excluded) : CaseApart s.colleges := by
  by_contra hcase
  obtain ⟨few, many, hfew, hmany, hcard⟩ := Text.exists_card_toFinset_eq_succ hcase
  obtain ⟨s₁, h₁, rfl⟩ := s.exists_recased hfew
  obtain ⟨s₂, h₂, rfl⟩ := s.exists_recased hmany
  -- A requirement for exactly the lower of the two counts.
  let r : SpellRequirement :=
    { comparison := .collegeCount,
      quantity := { compare := .equals, qualifier := .ofInt s₁.colleges.toFinset.card } }
  have hcount {t : Sheet} (h : s.Recased t) : r.count t none = t.colleges.toFinset.card := by
    have hall : (t.spells.filter fun p => some p.id != none) = t.spells :=
      List.filter_eq_self.2 fun _ _ => rfl
    rw [SpellRequirement.count_of_collegeCount (r := r) rfl (h.plainColleges hplain), hall, colleges]
  have hlength : s₁.colleges.toFinset.card + 1 ≤ s.colleges.length := by
    rw [← hcard]
    calc s₂.colleges.toFinset.card ≤ s₂.colleges.length := List.toFinset_card_le _
      _ = s.colleges.length := by simpa using congrArg List.length hmany
  have hholds : r.holds s₂ none = r.holds s₁ none :=
    (halike s₂ r none h₂).trans (halike s₁ r none h₁).symm
  rw [SpellRequirement.holds, SpellRequirement.holds, hcount h₁, hcount h₂, hcard] at hholds
  refine Fixed.ofInt_succ_ne (n := s₁.colleges.toFinset.card) ?_ ?_
  · refine le_trans (Int.mul_le_mul_of_nonneg_right ?_ (by decide)) hrange
    exact_mod_cast hlength
  · exact beq_iff_eq.1 (hholds.trans (beq_self_eq_true _))

/-- **Letter case of colleges.** Requirements on spells other than those on the number of colleges
judge alike in all letter cases of the colleges. Those on the number do so if no college with a
letter is listed twice, and, where the number is in range, only then. -/
theorem recased_judged_alike (hplain : ∀ p ∈ s.spells, p.PlainColleges) :
    (∀ s' (r : SpellRequirement) (excluded : Option ItemId), s.Recased s' →
      r.comparison ≠ .collegeCount → r.holds s' excluded = r.holds s excluded) ∧
    (CaseApart s.colleges → ∀ s' (r : SpellRequirement) (excluded : Option ItemId),
      s.Recased s' → r.holds s' excluded = r.holds s excluded) ∧
    (s.colleges.length * Fixed.scale ≤ Fixed.highest.raw →
      (∀ s' (r : SpellRequirement) (excluded : Option ItemId), s.Recased s' →
        r.holds s' excluded = r.holds s excluded) → CaseApart s.colleges) := by
  have hcriteria : ∀ s' (r : SpellRequirement) (excluded : Option ItemId), s.Recased s' →
      r.comparison ≠ .collegeCount → r.holds s' excluded = r.holds s excluded := by
    intro s' r excluded h hr
    rw [SpellRequirement.holds, SpellRequirement.holds,
      SpellRequirement.count_eq_of_recased hr hplain h]
  refine ⟨hcriteria, fun hcase s' r excluded h => ?_, caseApart_of_judged_alike hplain⟩
  by_cases hr : r.comparison = .collegeCount
  · rw [SpellRequirement.holds, SpellRequirement.holds,
      SpellRequirement.count_eq_of_caseApart hr hplain hcase h]
  · exact hcriteria s' r excluded h hr

/-- A sheet with three spells, of which two share a caseless college. -/
def elementSheet : Sheet where
  spells :=
    [{ id := ⟨1⟩, name := "Ignite Fire", college := ["Fire", "火"], difficulty := ⟨"iq", .hard⟩ },
      { id := ⟨2⟩, name := "Fireball", college := ["火"], difficulty := ⟨"iq", .hard⟩ },
      { id := ⟨3⟩, name := "Seek Water", college := ["Water"], difficulty := ⟨"iq", .hard⟩ }]

theorem elementSheet_judged_alike :
    (∀ p ∈ elementSheet.spells, p.PlainColleges) ∧ CaseApart elementSheet.colleges ∧
      ∀ s' (r : SpellRequirement) (excluded : Option ItemId), elementSheet.Recased s' →
        r.holds s' excluded = r.holds elementSheet excluded := by
  have hplain : ∀ p ∈ elementSheet.spells, p.PlainColleges := by decide
  have hcase : CaseApart elementSheet.colleges := by decide
  exact ⟨hplain, hcase, (recased_judged_alike hplain).2.1 hcase⟩

/-- A sheet with two spells, the second in a given college. -/
def fireSheet (college : String) : Sheet where
  spells :=
    [{ id := ⟨1⟩, name := "Ignite Fire", college := ["Fire"], difficulty := ⟨"iq", .hard⟩ },
      { id := ⟨2⟩, name := "Fireball", college := [college], difficulty := ⟨"iq", .hard⟩ }]

def needsTwoColleges : SpellRequirement :=
  { comparison := .collegeCount, quantity := { compare := .atLeast, qualifier := 2 } }

/-- A small letter in the college of the second spell makes it a college of its own. -/
theorem fireSheet_judged_otherwise :
    (∀ p ∈ (fireSheet "Fire").spells, p.PlainColleges) ∧
      (fireSheet "Fire").Recased (fireSheet "fire") ∧
      needsTwoColleges.holds (fireSheet "Fire") none = false ∧
      needsTwoColleges.holds (fireSheet "fire") none = true := by
  refine ⟨by decide, ⟨.cons ⟨rfl, rfl⟩ (.cons ⟨by decide, rfl⟩ .nil), rfl⟩, ?_, ?_⟩
  · decide +kernel
  · decide +kernel

end Sheet

end CharacterSheet
