import CharacterSheet.Criteria
import CharacterSheet.Proofs.NormalizedIds
import Mathlib

/-!
# Letter case

Names of skills are looked up apart from the case of the letters `A` to `Z`; criteria compare the
lowercase forms of texts, which also fold the capitals of other scripts. This module relates the
two. Texts that differ in the case of these letters only have the same lowercase form,
`lowercase_eq_of_foldCase_eq`, although the form of a sigma depends on what stands around it. The
converse holds for texts without other capitals, `foldCase_eq_iff_of_asciiCapitals`.
-/

namespace CharacterSheet

namespace Text

/-- The characters of a text with small letters in place of the capitals `A` to `Z`. -/
def foldCase (s : String) : List Char := s.toList.map Char.toLower

theorem equalsIgnoringCase_iff {a b : String} :
    equalsIgnoringCase a b = true ↔ foldCase a = foldCase b := beq_iff_eq

/-! ### Characters -/

theorem isAlpha_iff {c : Char} :
    c.isAlpha ↔ 65 ≤ c.toNat ∧ c.toNat ≤ 90 ∨ 97 ≤ c.toNat ∧ c.toNat ≤ 122 := by
  simp [Char.isAlpha, Char.isUpper, Char.isLower, UInt32.le_iff_toNat_le]

theorem lt_of_isAlpha {c : Char} (h : c.isAlpha) : c.toNat < 128 := by
  have := isAlpha_iff.1 h
  omega

theorem toLower_eq_self_of_not_isAlpha {c : Char} (h : ¬ c.isAlpha) : c.toLower = c :=
  Char.toLower_eq_of_not_isUpper fun hupper => h (by rw [Char.isAlpha, hupper, Bool.true_or])

theorem inRanges_iff {ranges : List (Nat × Nat)} {code : Nat} :
    inRanges ranges code = true ↔ ∃ r ∈ ranges, r.1 ≤ code ∧ code ≤ r.2 := by
  simp [inRanges]

/-- Whether a range of code points leaves out the letters `A` to `Z` of both cases. -/
def avoidsLetters (r : Nat × Nat) : Bool :=
  r.2.blt 65 || (Nat.blt 90 r.1 && r.2.blt 97) || Nat.blt 122 r.1

theorem all_avoidsLetters : caseIgnorableRanges.all avoidsLetters = true := by decide +kernel

theorem isCased_of_isAlpha {c : Char} (h : c.isAlpha) : isCased c = true := by
  refine inRanges_iff.2 ?_
  rcases isAlpha_iff.1 h with h | h
  · exact ⟨(0x41, 0x5a), by decide, h⟩
  · exact ⟨(0x61, 0x7a), by decide, h⟩

theorem isCaseIgnorable_of_isAlpha {c : Char} (h : c.isAlpha) : isCaseIgnorable c = false := by
  refine Bool.eq_false_iff.2 fun hignorable => ?_
  obtain ⟨r, hr, hfirst, hlast⟩ := inRanges_iff.1 hignorable
  have havoids := List.all_eq_true.1 all_avoidsLetters r hr
  simp only [avoidsLetters, Bool.or_eq_true, Bool.and_eq_true, Nat.blt_eq] at havoids
  rcases isAlpha_iff.1 h with h | h <;> omega

/-- Characters that stand for each other wherever a text is written in lowercase. -/
structure LowersAlike (c d : Char) : Prop where
  lower : lowerChar c = lowerChar d
  isSigma : c = 'Σ' ↔ d = 'Σ'
  isCased : isCased c = isCased d
  isCaseIgnorable : isCaseIgnorable c = isCaseIgnorable d

theorem lowersAlike_toLower (c : Char) : LowersAlike c.toLower c := by
  by_cases h : c.isAlpha
  · have hsmall : c.toLower.isAlpha := by rwa [Char.isAlpha_toLower_eq_isAlpha]
    have hsigma {d : Char} (hd : d.isAlpha) : d ≠ 'Σ' := by
      rintro rfl
      exact absurd hd (by decide)
    refine ⟨?_, iff_of_false (hsigma hsmall) (hsigma h), ?_, ?_⟩
    · rw [lowerChar, lowerChar, if_pos (lt_of_isAlpha hsmall), if_pos (lt_of_isAlpha h),
        Char.toLower_toLower_eq_toLower]
    · rw [isCased_of_isAlpha h, isCased_of_isAlpha hsmall]
    · rw [isCaseIgnorable_of_isAlpha h, isCaseIgnorable_of_isAlpha hsmall]
  · rw [toLower_eq_self_of_not_isAlpha h]
    exact ⟨rfl, Iff.rfl, rfl, rfl⟩

/-! ### Lowercase forms -/

theorem startsCased_map_toLower (cs : List Char) :
    startsCased (cs.map Char.toLower) = startsCased cs := by
  unfold startsCased
  induction cs with
  | nil => rfl
  | cons c rest ih =>
      have halike := lowersAlike_toLower c
      rw [List.map_cons, List.dropWhile_cons, List.dropWhile_cons, halike.isCaseIgnorable]
      cases isCaseIgnorable c with
      | true => exact ih
      | false => exact halike.isCased

/-- Small letters in place of `A` to `Z` make no difference to the lowercase form. -/
theorem lowerChars_map_toLower (cs : List Char) (inWord : Bool) :
    lowerChars inWord (cs.map Char.toLower) = lowerChars inWord cs := by
  induction cs generalizing inWord with
  | nil => rfl
  | cons c rest ih =>
      have halike := lowersAlike_toLower c
      simp only [List.map_cons, lowerChars, halike.isSigma, halike.lower, halike.isCased,
        halike.isCaseIgnorable, startsCased_map_toLower, ih]

theorem lowercase_eq_ofList_foldCase (s : String) :
    lowercase s = String.ofList (lowerChars false (foldCase s)) := by
  rw [lowercase, foldCase, lowerChars_map_toLower]

/-- Texts that differ in the case of the letters `A` to `Z` only have the same lowercase form. -/
theorem lowercase_eq_of_foldCase_eq {a b : String} (h : foldCase a = foldCase b) :
    lowercase a = lowercase b := by
  rw [lowercase_eq_ofList_foldCase, h, ← lowercase_eq_ofList_foldCase]

theorem map_lowercase_eq_of_map_foldCase_eq {as bs : List String}
    (h : as.map foldCase = bs.map foldCase) : as.map lowercase = bs.map lowercase := by
  have hlower (l : List String) :
      l.map lowercase = (l.map foldCase).map fun cs => String.ofList (lowerChars false cs) := by
    rw [List.map_map]
    exact List.map_congr_left fun s _ => lowercase_eq_ofList_foldCase s
  rw [hlower, hlower, h]

/-- Of the characters of a text only the letters `A` to `Z` have other lowercase forms. -/
def AsciiCapitals (s : String) : Prop := ∀ c ∈ s.toList, 128 ≤ c.toNat → IsLower c

theorem toList_lowercase_of_asciiCapitals {s : String} (h : AsciiCapitals s) :
    (lowercase s).toList = foldCase s := by
  have hlower : ∀ c ∈ foldCase s, IsLower c := by
    intro c hc
    obtain ⟨d, hd, rfl⟩ := List.mem_map.1 hc
    by_cases hlt : d.toNat < 128
    · have := (lowers_of_lt hlt).isLower
      rwa [Char.ofNat_toNat] at this
    · rw [toLower_eq_self_of_not_isAlpha (mt lt_of_isAlpha hlt)]
      exact h d hd (Nat.le_of_not_lt hlt)
  rw [lowercase_eq_ofList_foldCase, String.toList_ofList]
  exact lowerChars_eq_self hlower false

/-- Where `A` to `Z` are the only capitals, the two ways to compare texts agree. -/
theorem foldCase_eq_iff_of_asciiCapitals {a b : String} (ha : AsciiCapitals a)
    (hb : AsciiCapitals b) : foldCase a = foldCase b ↔ lowercase a = lowercase b := by
  rw [← toList_lowercase_of_asciiCapitals ha, ← toList_lowercase_of_asciiCapitals hb,
    String.toList_inj]

end Text

/-! ### Criteria -/

namespace StringCriteria

theorem accepts_is_iff {qualifier value : String} :
    (is qualifier).accepts value = true ↔ Text.lowercase value = Text.lowercase qualifier := by
  rw [← String.toList_inj]
  exact beq_iff_eq

/-- A condition on a list of texts sees their lowercase forms only. -/
theorem acceptsList_congr (c : StringCriteria) {as bs : List String}
    (h : as.map Text.lowercase = bs.map Text.lowercase) : c.acceptsList as = c.acceptsList bs := by
  let accepted (lower : String) : Bool :=
    c.compare.holds lower.toList (Text.lowercase c.qualifier).toList
  have hlist (l : List String) : c.acceptsList l =
      if (l.map Text.lowercase).isEmpty then c.accepts ""
      else if c.compare.isNegated then (l.map Text.lowercase).all accepted
      else (l.map Text.lowercase).any accepted := by
    rw [List.isEmpty_map, List.all_map, List.any_map]
    rfl
  rw [hlist, hlist, h]

end StringCriteria

end CharacterSheet
