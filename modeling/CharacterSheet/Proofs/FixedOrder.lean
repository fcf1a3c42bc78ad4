import Mathlib.Order.Bounds.Basic
import Mathlib.Order.MinMax
import CharacterSheet.Sheet.Levels

/-!
# The order of fixed-point numbers

Fixed-point numbers are ordered by their number of ten-thousandths; the undefined value
is the lowest of them. The operations that levels go through keep this order, also where
they end at a bound, and so the best of several levels can be looked for step by step:
`isGreatest_foldl_max` says what a loop that keeps the better of two values ends with.
-/

namespace CharacterSheet

namespace Fixed

instance : LinearOrder Fixed where
  le_refl a := Int.le_refl a.raw
  le_trans _ _ _ := Int.le_trans
  lt_iff_le_not_ge _ _ := Int.lt_iff_le_and_not_ge
  le_antisymm _ _ h h' := ext (Int.le_antisymm h h')
  le_total a b := Int.le_total a.raw b.raw
  toDecidableLE := inferInstance
  toDecidableEq := inferInstance
  toDecidableLT := inferInstance
  min_def _ _ := rfl
  max_def _ _ := rfl

/-- The undefined value is the lowest. -/
theorem undefined_le (a : Fixed) : undefined ≤ a := a.lower

@[simp] theorem isUndefined_iff {a : Fixed} : a.isUndefined = true ↔ a = undefined := by
  simp [isUndefined]

/-! ### Operations that keep the order -/

/-- Ending at a bound keeps the order. -/
theorem clamp_le_clamp {m n : Int} (h : m ≤ n) : clamp m ≤ clamp n := by
  rw [le_iff, raw_clamp, raw_clamp]
  omega

theorem add_le_add_right {a b : Fixed} (h : a ≤ b) (c : Fixed) : a + c ≤ b + c :=
  Fixed.add_le_add h (le_refl c)

/-- Quotients by a positive number keep the order. -/
theorem div_le_div {a b c : Fixed} (hc : 0 < c.raw) (h : a ≤ b) : a / c ≤ b / c := by
  rw [div_def, div_def, if_neg (Int.ne_of_gt hc), if_neg (Int.ne_of_gt hc)]
  have hmul : a.raw * scale ≤ b.raw * scale :=
    Int.mul_le_mul_of_nonneg_right h (by decide)
  exact clamp_le_clamp (Int.tdiv_le_tdiv hc hmul)

theorem trunc_le_trunc {a b : Fixed} (h : a ≤ b) : a.trunc ≤ b.trunc := by
  have hdiv : a.raw.tdiv scale ≤ b.raw.tdiv scale := Int.tdiv_le_tdiv (by decide) h
  exact clamp_le_clamp (Int.mul_le_mul_of_nonneg_right hdiv (by decide))

/-- What leaves the undefined value as it is and keeps the order elsewhere keeps the order
everywhere. -/
theorem ite_isUndefined_le {f g : Fixed → Fixed} (hfg : ∀ {a b}, a ≤ b → f a ≤ g b)
    {a b : Fixed} (h : a ≤ b) :
    (if a.isUndefined then a else f a) ≤ (if b.isUndefined then b else g b) := by
  by_cases ha : a = undefined
  · subst ha
    exact undefined_le _
  · have hb : b ≠ undefined := by
      rintro rfl
      exact ha (le_antisymm h (undefined_le a))
    rw [if_neg (mt isUndefined_iff.1 ha), if_neg (mt isUndefined_iff.1 hb)]
    exact hfg h

end Fixed

/-- The parry or block of a better level is no worse. -/
theorem derivedDefense_le_derivedDefense {a b : Fixed} (h : a ≤ b) (bonus : Fixed) :
    derivedDefense a bonus ≤ derivedDefense b bonus :=
  Fixed.ite_isUndefined_le
    (fun h => Fixed.add_le_add_right (Fixed.add_le_add_right
      (Fixed.trunc_le_trunc (Fixed.div_le_div (by decide) h)) _) bonus) h

namespace SkillDefault

theorem modified_le_modified (d : SkillDefault) {a b : Fixed} (h : a ≤ b) :
    d.modified a ≤ d.modified b :=
  Fixed.ite_isUndefined_le (fun h => Fixed.add_le_add_right h d.modifier) h

/-- A default gives no less on a better level. -/
theorem onSkill_le_onSkill (d : SkillDefault) (s : Sheet) {a b : Fixed} (h : a ≤ b) :
    d.onSkill s a ≤ d.onSkill s b := by
  apply modified_le_modified
  cases d.base with
  | parry => exact derivedDefense_le_derivedDefense h s.parryBonus
  | block => exact derivedDefense_le_derivedDefense h s.blockBonus
  | skill | dodge | ofAttribute => exact h

/-- A default gives nothing when no skill that it names has a level. -/
theorem onSkill_undefined (d : SkillDefault) (s : Sheet) : d.onSkill s .undefined = .undefined := by
  unfold onSkill
  cases d.base <;> rfl

end SkillDefault

/-! ### The best of several values -/

section Best

variable {α : Type} [LinearOrder α]

/-- Keeping the better of two values over a list gives the greatest of them all. -/
theorem isGreatest_foldl_max (a : α) (l : List α) :
    IsGreatest {v | v ∈ a :: l} (l.foldl max a) := by
  induction l generalizing a with
  | nil => simp [IsGreatest, upperBounds]
  | cons b rest ih =>
      -- The first step leaves the better of `a` and `b` to go on with.
      obtain ⟨hmem, hle⟩ := ih (max a b)
      constructor
      · rw [List.foldl_cons]
        rcases List.mem_cons.1 hmem with h | h
        · rw [h]
          rcases max_choice a b with hab | hab <;> simp [hab]
        · simp [h]
      · intro v hv
        have hmax : max a b ≤ (b :: rest).foldl max a := hle List.mem_cons_self
        rcases List.mem_cons.1 hv with rfl | hv
        · exact (le_max_left v b).trans hmax
        · rcases List.mem_cons.1 hv with rfl | hv
          · exact (le_max_right a v).trans hmax
          · exact hle (List.mem_cons_of_mem _ hv)

/-- A loop that replaces what it has by what is better keeps the greater of the two. -/
theorem ite_lt_eq_max (a b : α) : (if a < b then b else a) = max a b := by
  split
  · next h => exact (max_eq_right h.le).symm
  · next h => exact (max_eq_left (not_lt.1 h)).symm

/-- The best of a list of values is no better than that of a second list, if each of its values is
reached there. -/
theorem foldl_max_le_of_forall_exists {β γ : Type} {a a' : α} {f : β → α} {g : γ → α}
    {l : List β} {l' : List γ} (ha : a ≤ a') (h : ∀ x ∈ l, ∃ y ∈ l', f x ≤ g y) :
    (l.map f).foldl max a ≤ (l'.map g).foldl max a' := by
  have hgreatest := (isGreatest_foldl_max a' (l'.map g)).2
  rcases List.mem_cons.1 (isGreatest_foldl_max a (l.map f)).1 with hstart | hvalue
  · rw [hstart]
    exact ha.trans (hgreatest List.mem_cons_self)
  · obtain ⟨x, hx, hfx⟩ := List.mem_map.1 hvalue
    obtain ⟨y, hy, hle⟩ := h x hx
    rw [← hfx]
    exact hle.trans (hgreatest (List.mem_cons_of_mem _ (List.mem_map_of_mem hy)))

/-- The best of a list of values grows with the values. -/
theorem foldl_max_le_foldl_max {β : Type} {a a' : α} {f g : β → α} {l : List β} (ha : a ≤ a')
    (h : ∀ x ∈ l, f x ≤ g x) : (l.map f).foldl max a ≤ (l.map g).foldl max a' :=
  foldl_max_le_of_forall_exists ha fun x hx => ⟨x, hx, h x hx⟩

end Best

end CharacterSheet
