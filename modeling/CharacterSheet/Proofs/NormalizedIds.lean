import CharacterSheet.Proofs.SourceBytes

/-!
# Normalized ids

Ids of attributes are read without blanks around them and in lowercase. To normalize such an id
again changes nothing, `BonusKey.normalize_normalize`: no lowercase form of a character has
another lowercase form or is a blank. So a difficulty and the base of a default are read back from
their texts as they were read.
-/

namespace CharacterSheet

namespace Text

/-! ### Lowercase forms -/

/-- Whether no lowercase form of a code point in `r` is a code point of `s`. -/
def CaseRange.isApart (r s : CaseRange) : Bool :=
  (r.image + (r.last - r.first)).blt s.first || s.last.blt r.image ||
    (s.stride.beq 2 && (r.stride.beq 2 || r.first.beq r.last) &&
      !(r.image % 2).beq (s.first % 2))

/-- No code point is a lowercase form and has one. -/
theorem all_isApart : (lowerRanges.all fun r => lowerRanges.all r.isApart) = true := by
  decide +kernel

/-- Code points that are no lowercase form in the tables: controls, punctuation with the slash,
blanks, the two capital letters that are not looked up there, and halves of surrogate pairs. -/
def unusedRanges : List (Nat × Nat) :=
  [(0, 0x60), (0x7b, 0xa0), (0x130, 0x130), (0x3a3, 0x3a3), (0x1680, 0x1680), (0x2000, 0x205f),
    (0x3000, 0x3000), (0xd800, 0xdfff)]

theorem all_unused :
    (lowerRanges.all fun r =>
      (r.image + (r.last - r.first)).blt 0x110000 &&
        unusedRanges.all fun u =>
          (r.image + (r.last - r.first)).blt u.1 || u.2.blt r.image) = true := by
  decide +kernel

/-- A character that is its own lowercase form, wherever it stands. -/
structure IsLower (c : Char) : Prop where
  lower : lowerChar c = [c]
  ne_sigma : c ≠ 'Σ'

/-- What becomes of a character in lowercase: characters that are their own lowercase forms, and
blanks or slashes only from blanks and slashes. -/
structure Lowers (c d : Char) : Prop where
  isLower : IsLower d
  isBlank : isBlank d = true → isBlank c = true
  slash : d = '/' → c = '/'

theorem IsLower.lowers {c d : Char} (h : IsLower d) (hblank : isBlank d = false)
    (hslash : d ≠ '/') : Lowers c d :=
  ⟨h, fun hd => absurd hd (by simp [hblank]), fun hd => absurd hd hslash⟩

/-- What a range says of a code point. -/
theorem CaseRange.lower?_eq_some {r : CaseRange} {code image : Nat}
    (h : r.lower? code = some image) :
    code ≤ r.last ∧ r.first ≤ code ∧ (code - r.first) % r.stride = 0 ∧
      image = r.image + (code - r.first) := by
  unfold lower? at h
  split at h
  · next hcode =>
    simp only [Bool.and_eq_true, decide_eq_true_eq, beq_iff_eq] at hcode
    exact ⟨hcode.1.2, hcode.1.1, hcode.2, (Option.some.inj h).symm⟩
  · exact absurd h.symm (Option.some_ne_none _)

theorem lower?_image {r s : CaseRange} (hr : r ∈ lowerRanges) (hs : s ∈ lowerRanges)
    {code image : Nat} (h : r.lower? code = some image) : s.lower? image = none := by
  have hapart := List.all_eq_true.1 (List.all_eq_true.1 all_isApart r hr) s hs
  simp only [CaseRange.isApart, Bool.or_eq_true, Bool.and_eq_true, Bool.not_eq_true',
    Nat.blt_eq, Nat.beq_eq] at hapart
  obtain ⟨hlast, hfirst, hstride, rfl⟩ := CaseRange.lower?_eq_some h
  refine Option.eq_none_iff_forall_ne_some.2 fun code' h' => ?_
  obtain ⟨hlast', hfirst', hstride', -⟩ := CaseRange.lower?_eq_some h'
  obtain (hbelow | habove) | ⟨⟨htwo, hr⟩, hparity⟩ := hapart
  · omega
  · omega
  · have hparity : r.image % 2 ≠ s.first % 2 := Nat.ne_of_beq_eq_false hparity
    rw [htwo] at hstride'
    rcases hr with hr | hr
    · rw [hr] at hstride
      omega
    · omega

/-- Where the lowercase forms of the tables lie. -/
theorem image_used {r : CaseRange} (hr : r ∈ lowerRanges) {code image : Nat}
    (h : r.lower? code = some image) :
    image < 0x110000 ∧ ∀ u ∈ unusedRanges, image < u.1 ∨ u.2 < image := by
  have hall := List.all_eq_true.1 all_unused r hr
  simp only [Bool.and_eq_true, Nat.blt_eq, List.all_eq_true, Bool.or_eq_true] at hall
  obtain ⟨hlast, hfirst, -, rfl⟩ := CaseRange.lower?_eq_some h
  refine ⟨by omega, fun u hu => ?_⟩
  have := hall.2 u hu
  omega

/-- The small letters are their own lowercase forms. -/
theorem toLower_of_small {n : Nat} (h : 0x60 < n) (h' : n < 0x7b) :
    (Char.ofNat n).toLower = Char.ofNat n := by
  have hall : ∀ n < 0x7b, 0x60 < n → (Char.ofNat n).toLower = Char.ofNat n := by decide
  exact hall n h' h

/-- A lowercase form that the tables give is its own lowercase form, and no blank or slash. -/
theorem isLower_image {r : CaseRange} (hr : r ∈ lowerRanges) {code image : Nat}
    (h : r.lower? code = some image) :
    IsLower (Char.ofNat image) ∧ isBlank (Char.ofNat image) = false ∧ Char.ofNat image ≠ '/' := by
  obtain ⟨hbound, hused⟩ := image_used hr h
  simp only [unusedRanges, List.forall_mem_cons] at hused
  have hcode : (Char.ofNat image).toNat = image := by
    have hvalid : image.isValidChar := by
      unfold Nat.isValidChar
      omega
    rw [Char.ofNat, dif_pos hvalid]
    rfl
  have hne (c : Char) (hc : image ≠ c.toNat) : Char.ofNat image ≠ c := fun heq => hc (heq ▸ hcode.symm)
  have hi : Char.ofNat image ≠ 'İ' := hne _ (by simp; omega)
  have hother : lowerRanges.findSome? (·.lower? image) = none :=
    List.findSome?_eq_none_iff.2 fun s hs => lower?_image hr hs h
  refine ⟨⟨?_, hne _ (by simp; omega)⟩, ?_, hne _ (by simp; omega)⟩
  · unfold lowerChar
    rw [hcode, if_neg hi, hother]
    split
    · rw [toLower_of_small (by omega) (by omega)]
    · rfl
  · simp only [isBlank, hcode]
    simp; omega

theorem lowers_of_lt {n : Nat} (h : n < 128) : Lowers (Char.ofNat n) (Char.ofNat n).toLower := by
  have hall : ∀ n < 128, lowerChar (Char.ofNat n).toLower = [(Char.ofNat n).toLower] ∧
      (Char.ofNat n).toLower ≠ 'Σ' ∧
      (isBlank (Char.ofNat n).toLower = true → isBlank (Char.ofNat n) = true) ∧
      ((Char.ofNat n).toLower = '/' → Char.ofNat n = '/') := by
    decide
  obtain ⟨hlower, hsigma, hblank, hslash⟩ := hall n h
  exact ⟨⟨hlower, hsigma⟩, hblank, hslash⟩

theorem lowers_of_mem_lowerChar {c d : Char} (hc : c ≠ 'Σ') (h : d ∈ lowerChar c) :
    Lowers c d := by
  unfold lowerChar at h
  split at h
  · next hlt =>
    obtain rfl := List.mem_singleton.1 h
    have := lowers_of_lt hlt
    rwa [Char.ofNat_toNat] at this
  · next hlt =>
    split at h
    · next hi =>
      simp only [List.mem_cons, List.not_mem_nil, or_false] at h
      rcases h with rfl | rfl
      all_goals exact IsLower.lowers ⟨by decide, by decide⟩ (by decide) (by decide)
    · next hi =>
      split at h
      · next code hcode =>
        obtain ⟨r, hr, hlower⟩ := List.exists_of_findSome?_eq_some hcode
        obtain ⟨hlower, hblank, hslash⟩ := isLower_image hr hlower
        obtain rfl := List.mem_singleton.1 h
        exact hlower.lowers hblank hslash
      · next hnone =>
        obtain rfl := List.mem_singleton.1 h
        refine ⟨⟨?_, hc⟩, id, id⟩
        rw [lowerChar, if_neg hlt, if_neg hi, hnone]

/-- In lowercase each character becomes one or more, whatever stands around it. -/
theorem lowerChars_cons (inWord : Bool) (c : Char) (rest : List Char) :
    ∃ ds inWord', lowerChars inWord (c :: rest) = ds ++ lowerChars inWord' rest ∧ ds ≠ [] ∧
      ∀ d ∈ ds, Lowers c d := by
  rw [lowerChars]
  refine ⟨_, _, rfl, ?_, ?_⟩
  · split
    · split <;> exact List.cons_ne_nil _ _
    · exact lowerChar_ne_nil c
  · intro d hd
    split at hd
    · next hc =>
      split at hd
      all_goals
        obtain rfl := List.mem_singleton.1 hd
        exact IsLower.lowers ⟨by decide, by decide⟩ (by decide) (by decide)
    · next hc => exact lowers_of_mem_lowerChar hc hd

theorem exists_lowers_of_mem_lowerChars {inWord : Bool} {cs : List Char} {d : Char}
    (h : d ∈ lowerChars inWord cs) : ∃ c ∈ cs, Lowers c d := by
  induction cs generalizing inWord with
  | nil => exact nomatch h
  | cons c rest ih =>
    obtain ⟨ds, inWord', heq, -, hds⟩ := lowerChars_cons inWord c rest
    rw [heq] at h
    rcases List.mem_append.1 h with h | h
    · exact ⟨c, List.mem_cons_self, hds d h⟩
    · obtain ⟨c', hmem, hc'⟩ := ih h
      exact ⟨c', List.mem_cons_of_mem _ hmem, hc'⟩

theorem lowerChars_eq_self {cs : List Char} (h : ∀ c ∈ cs, IsLower c) (inWord : Bool) :
    lowerChars inWord cs = cs := by
  induction cs generalizing inWord with
  | nil => rfl
  | cons c rest ih =>
    obtain ⟨hc, hrest⟩ := List.forall_mem_cons.1 h
    rw [lowerChars, if_neg hc.ne_sigma, hc.lower, ih hrest]
    rfl

/-- To write a text in lowercase again changes nothing. -/
theorem lowercase_lowercase (s : String) : lowercase (lowercase s) = lowercase s := by
  have hlower : ∀ c ∈ (lowercase s).toList, IsLower c := by
    intro c hc
    rw [lowercase, String.toList_ofList] at hc
    obtain ⟨_, -, h⟩ := exists_lowers_of_mem_lowerChars hc
    exact h.isLower
  rw [lowercase, lowerChars_eq_self hlower, String.ofList_toList]

/-! ### Trimmed texts -/

/-- No blank stands at either end. -/
structure Trimmed (cs : List Char) : Prop where
  head : ∀ c ∈ cs.head?, isBlank c = false
  last : ∀ c ∈ cs.getLast?, isBlank c = false

theorem dropWhile_eq_self {cs : List Char} (h : ∀ c ∈ cs.head?, isBlank c = false) :
    cs.dropWhile isBlank = cs := by
  cases cs with
  | nil => rfl
  | cons c rest => simp [h c rfl]

theorem Trimmed.trimChars_eq {cs : List Char} (h : Trimmed cs) : trimChars cs = cs := by
  rw [trimChars, dropEndWhile, dropWhile_eq_self h.head,
    dropWhile_eq_self (by rw [List.head?_reverse]; exact h.last), List.reverse_reverse]

/-- The ends of a text are trimmed. -/
theorem trimmed_trimChars (cs : List Char) : Trimmed (trimChars cs) := by
  have hdrop (cs : List Char) : ∀ c ∈ (cs.dropWhile isBlank).head?, isBlank c = false := by
    intro c hc
    have := List.head?_dropWhile_not isBlank cs
    rw [hc] at this
    simpa using this
  refine ⟨fun c hc => ?_, fun c hc => ?_⟩
  · -- What is left is the beginning of the text without the blanks in front.
    have hprefix : trimChars cs <+: cs.dropWhile isBlank := by
      rw [← List.reverse_suffix, trimChars, dropEndWhile, List.reverse_reverse]
      exact List.dropWhile_suffix _
    obtain ⟨rest, hrest⟩ := hprefix
    refine hdrop cs c ?_
    rw [← hrest, List.head?_append, hc]
    rfl
  · rw [trimChars, dropEndWhile, List.getLast?_reverse] at hc
    exact hdrop _ c hc

/-- In lowercase a text has no other blanks at its ends. -/
theorem Trimmed.lowerChars {cs : List Char} (h : Trimmed cs) (inWord : Bool) :
    Trimmed (lowerChars inWord cs) := by
  have hblank {c d : Char} (hc : isBlank c = false) (hd : Lowers c d) : isBlank d = false := by
    cases hb : isBlank d with
    | false => rfl
    | true => rw [← hc, hd.isBlank hb]
  refine ⟨fun d hd => ?_, ?_⟩
  · cases cs with
    | nil => exact nomatch hd
    | cons c rest =>
      obtain ⟨ds, inWord', heq, hne, hds⟩ := lowerChars_cons inWord c rest
      obtain ⟨d', ds', rfl⟩ := List.exists_cons_of_ne_nil hne
      rw [heq] at hd
      obtain rfl := Option.some.inj hd
      exact hblank (h.head c rfl) (hds _ List.mem_cons_self)
  · have hlast := h.last
    clear h
    induction cs generalizing inWord with
    | nil => exact fun _ hd => nomatch hd
    | cons c rest ih =>
      obtain ⟨ds, inWord', heq, hne, hds⟩ := lowerChars_cons inWord c rest
      intro d hd
      rw [heq] at hd
      cases rest with
      | nil =>
        rw [Text.lowerChars, List.append_nil] at hd
        exact hblank (hlast c rfl) (hds d (List.mem_of_getLast? hd))
      | cons c' rest' =>
        refine ih inWord' (by simpa using hlast) d ?_
        obtain ⟨ds', inWord'', heq', hne', -⟩ := lowerChars_cons inWord' c' rest'
        rw [List.getLast?_append, heq'] at hd
        rw [heq']
        cases hsome : (ds' ++ Text.lowerChars inWord'' rest').getLast? with
        | none => simp [hne'] at hsome
        | some d' =>
          rw [hsome] at hd
          exact hd

end Text

/-! ### Ids -/

namespace BonusKey

/-- A normalized id stays as it is. -/
theorem normalize_normalize (id : String) : normalize (normalize id) = normalize id := by
  have htrim : Text.trim (normalize id) = normalize id := by
    rw [Text.trim, normalize, Text.trim, Text.lowercase, String.toList_ofList, String.toList_ofList,
      ((Text.trimmed_trimChars _).lowerChars false).trimChars_eq]
  rw [normalize, htrim, normalize, Text.lowercase_lowercase]

theorem slash_not_mem_normalize {id : String} (h : '/' ∉ id.toList) :
    '/' ∉ (normalize id).toList := by
  intro hmem
  rw [normalize, Text.trim, Text.lowercase, String.toList_ofList, String.toList_ofList] at hmem
  obtain ⟨c, hc, hlowers⟩ := Text.exists_lowers_of_mem_lowerChars hmem
  rw [hlowers.slash rfl, Text.trimChars, Text.dropEndWhile, List.mem_reverse] at hc
  have hmem := (List.dropWhile_sublist _).subset hc
  rw [List.mem_reverse] at hmem
  exact h ((List.dropWhile_sublist _).subset hmem)

end BonusKey

namespace Difficulty

/-- The id of a difficulty that is read ends before the first slash. -/
theorem exists_ofId_of_parse {text : String} {d : Difficulty} (h : parse text = .ok d) :
    ∃ id level, '/' ∉ id.toList ∧ d = ofId id level := by
  simp only [parse] at h
  split at h
  · cases h
  · next level _ =>
    cases hlevel : (Keyword.parse (String.ofList level) : Except _ DifficultyLevel) with
    | error _ => rw [hlevel] at h; cases h
    | ok level =>
      rw [hlevel] at h
      refine ⟨_, level, ?_, (Except.ok.inj h).symm⟩
      rw [String.toList_ofList]
      exact fun hmem => by simpa using List.all_eq_true.1 List.all_takeWhile '/' hmem

theorem parse_text_ofId {id : String} (h : '/' ∉ id.toList) (level : DifficultyLevel) :
    parse (ofId id level).text = .ok (ofId id level) := by
  have hslash := BonusKey.slash_not_mem_normalize h
  have hne : ∀ c ∈ (BonusKey.normalize id).toList, (c != '/') = true := by
    intro c hc
    simpa using fun heq : c = '/' => hslash (heq ▸ hc)
  have hlevel : Keyword.parse level.key = .ok level := by cases level <;> rfl
  have htext : (ofId id level).text.toList =
      (BonusKey.normalize id).toList ++ '/' :: level.key.toList := by
    simp [Difficulty.text, ofId]
  simp only [parse, htext, List.dropWhile_append_of_pos hne, List.takeWhile_append_of_pos hne]
  simp [hlevel, Except.map, ofId, BonusKey.normalize_normalize]

/-- A difficulty is read back from its text. -/
theorem parse_text {text : String} {d : Difficulty} (h : parse text = .ok d) :
    parse d.text = .ok d := by
  obtain ⟨id, level, hslash, rfl⟩ := exists_ofId_of_parse h
  exact parse_text_ofId hslash level

end Difficulty

/-- The base of a default is read back from its id. -/
theorem DefaultBase.parse_id (text : String) : parse (parse text).id = parse text := by
  have hid (normal : String) : (ofNormalId normal).id = normal := by
    fun_cases ofNormalId normal <;> rfl
  rw [parse_eq_ofNormalId text, parse_eq_ofNormalId, hid, BonusKey.normalize_normalize]

end CharacterSheet
