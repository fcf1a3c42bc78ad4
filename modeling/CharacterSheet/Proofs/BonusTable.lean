import Mathlib.Algebra.BigOperators.Group.List.Basic
import Mathlib.Algebra.Ring.Int.Defs
import Mathlib.Algebra.Ring.Nat
import CharacterSheet.Sheet

/-!
# What a bonus table holds, and what bonuses add up to

A table with given bonuses has in each bucket those with its key, in their order. So a
query that looks at several buckets sees what a scan of all bonuses sees, if its keys are
different and each bonus that it selects is filed under one of them:
`filter_bucketsOf_ofList`. Sums end at the bounds of fixed-point numbers; `raw_sum` says
that they are exact when the absolute values together stay below the bound.
-/

namespace CharacterSheet

/-! ### Scans in parts -/

/-- Two scans that select different elements together select what either does. -/
theorem filter_append_filter_perm {α : Type} {p q : α → Bool} {l : List α}
    (h : ∀ x ∈ l, p x = true → q x = false) :
    (l.filter p ++ l.filter q).Perm (l.filter fun x => p x || q x) := by
  induction l with
  | nil => exact .nil
  | cons x rest ih =>
      have hrest := ih fun y hy => h y (List.mem_cons_of_mem x hy)
      by_cases hp : p x = true
      · have hq : q x = false := h x List.mem_cons_self hp
        simpa [hp, hq] using hrest
      · by_cases hq : q x = true
        · simpa [hp, hq] using List.perm_middle.trans (hrest.cons x)
        · simpa [hp, hq] using hrest

/-- Scans of which no two select the same element together select what any of them does. -/
theorem flatMap_filter_perm {α κ : Type} {p : κ → α → Bool} {l : List α} {ks : List κ}
    (hks : ks.Nodup)
    (h : ∀ k ∈ ks, ∀ k' ∈ ks, ∀ x, p k x = true → p k' x = true → k = k') :
    (ks.flatMap fun k => l.filter (p k)).Perm (l.filter fun x => ks.any (p · x)) := by
  induction ks with
  | nil => simp
  | cons k rest ih =>
      obtain ⟨hk, hrest⟩ := List.nodup_cons.1 hks
      -- What the first scan selects no other does, since the keys are different.
      have htail := ih hrest fun a ha b hb =>
        h a (List.mem_cons_of_mem k ha) b (List.mem_cons_of_mem k hb)
      have hparts : (l.filter (p k) ++ l.filter fun x => rest.any (p · x)).Perm
          (l.filter fun x => p k x || rest.any (p · x)) := by
        refine filter_append_filter_perm fun x _ hx => List.any_eq_false.2 fun k' hk' hx' => ?_
        have heq := h k List.mem_cons_self k' (List.mem_cons_of_mem k hk') x hx hx'
        exact hk (heq ▸ hk')
      simpa only [List.flatMap_cons, List.any_cons] using (htail.append_left _).trans hparts

/-- Two scans select the same elements if and only if their tests agree on the list. -/
theorem filter_perm_filter_iff {α : Type} {p q : α → Bool} {l : List α} :
    (l.filter p).Perm (l.filter q) ↔ ∀ x ∈ l, p x = q x := by
  constructor
  · intro h x hx
    have hselected := h.mem_iff (a := x)
    rw [List.mem_filter, List.mem_filter, and_iff_right hx, and_iff_right hx] at hselected
    exact Bool.eq_iff_iff.2 hselected
  · intro h
    rw [List.filter_congr h]

namespace BonusTable

/-! ### Buckets -/

/-- A bucket holds the bonuses with its key. -/
theorem bucket_ofList (bs : List Bonus) (key : String) :
    (ofList bs).bucket key = bs.filter fun b => b.feature.key == key := by
  have hfold (t : BonusTable) :
      (bs.foldl insert t).bucket key =
        t.bucket key ++ bs.filter fun b => b.feature.key == key := by
    induction bs generalizing t with
    | nil => simp
    | cons b rest ih =>
        rw [List.foldl_cons, ih, bucket_insert, List.filter_cons]
        by_cases hb : key = b.feature.key
        · simp [hb]
        · simp [hb, Ne.symm hb]
  simpa [ofList] using hfold empty

/-- A query to one bucket selects what a scan selects, if its bonuses have the key. -/
theorem filter_bucket_ofList {bs : List Bonus} {key : String} {p : Bonus → Bool}
    (h : ∀ b, p b = true → b.feature.key = key) :
    ((ofList bs).bucket key).filter p = bs.filter p := by
  rw [bucket_ofList, List.filter_filter]
  refine List.filter_congr fun b _ => ?_
  by_cases hp : p b = true
  · simp [hp, h b hp]
  · simp [hp]

/-- Different buckets together hold the bonuses with one of their keys, each once. -/
theorem bucketsOf_ofList (bs : List Bonus) {keys : List String} (h : keys.Nodup) :
    ((ofList bs).bucketsOf keys).Perm
      (bs.filter fun b => keys.any fun key => b.feature.key == key) := by
  have hbuckets : (ofList bs).bucketsOf keys =
      keys.flatMap fun key => bs.filter fun b => b.feature.key == key := by
    simp only [bucketsOf, ← bucket_ofList]
  rw [hbuckets]
  refine flatMap_filter_perm h fun key _ key' _ b hb hb' => ?_
  exact (beq_iff_eq.1 hb).symm.trans (beq_iff_eq.1 hb')

/-- A query to different buckets selects what a scan selects, if the keys of its bonuses are
among them. -/
theorem filter_bucketsOf_ofList {bs : List Bonus} {keys : List String} {p : Bonus → Bool}
    (hkeys : keys.Nodup) (h : ∀ b, p b = true → b.feature.key ∈ keys) :
    (((ofList bs).bucketsOf keys).filter p).Perm (bs.filter p) := by
  have hscan : (bs.filter fun b => keys.any fun key => b.feature.key == key).filter p =
      bs.filter p := by
    rw [List.filter_filter]
    refine List.filter_congr fun b _ => ?_
    by_cases hp : p b = true
    · simpa [hp] using h b hp
    · simp [hp]
  exact hscan ▸ (bucketsOf_ofList bs hkeys).filter p

/-! ### Keys of targets -/

/-- The bucket of a target is no wildcard bucket. -/
theorem nodup_targetKeys (family target : String) : (targetKeys family target).Nodup := by
  have hne : BonusKey.exact family target ≠ BonusKey.wildcard family := by
    intro h
    have hlist := congrArg String.toList h
    simp [BonusKey.exact, BonusKey.wildcard, String.toList_append, List.append_assoc] at hlist
  simp [targetKeys, hne]

/-- A criterion that accepts a target is filed where queries for the target look. -/
theorem ofCriteria_mem_targetKeys {name : StringCriteria} {target : String}
    (h : name.accepts target = true) (family : String) (specialization tags : StringCriteria) :
    BonusKey.ofCriteria family name specialization tags ∈ targetKeys family target := by
  unfold BonusKey.ofCriteria targetKeys
  split
  · next his =>
    have hcompare : name.compare = .is := by
      simp only [Bool.and_eq_true, beq_iff_eq] at his
      exact his.1.1
    have hlower : Text.lowercase target = Text.lowercase name.qualifier := by
      simp only [StringCriteria.accepts, hcompare, StringCompare.holds, beq_iff_eq] at h
      exact String.toList_inj.1 h
    rw [BonusKey.exact, BonusKey.exact, hlower]
    exact List.mem_cons_self
  · exact List.mem_cons_of_mem _ List.mem_cons_self

end BonusTable

/-! ### Sums -/

namespace Fixed

/-- A sum is exact when the absolute values together are in range. -/
theorem raw_sum {values : List Fixed}
    (h : (values.map fun a => a.raw.natAbs).sum ≤ highest.raw.natAbs) :
    (sum values).raw = (values.map raw).sum := by
  have hfold (values : List Fixed) (acc : Fixed)
      (h : acc.raw.natAbs + (values.map fun a => a.raw.natAbs).sum ≤ 9223372036854775807) :
      (values.foldl (· + ·) acc).raw = acc.raw + (values.map raw).sum := by
    induction values generalizing acc with
    | nil => simp
    | cons a rest ih =>
        simp only [List.map_cons, List.sum_cons] at h ⊢
        have hadd : (acc + a).raw = acc.raw + a.raw := by
          rw [raw_add]
          omega
        rw [List.foldl_cons, ih (acc + a) (by omega), hadd]
        omega
  have hstart : (0 : Fixed).raw.natAbs + (values.map fun a => a.raw.natAbs).sum ≤
      9223372036854775807 := (Nat.zero_add _).symm ▸ h
  rw [sum, hfold values 0 hstart]
  exact Int.zero_add _

end Fixed

namespace Bonus

/-- The sum of the absolute amounts of bonuses, in ten-thousandths. -/
def magnitude (bs : List Bonus) : Nat := (bs.map fun b => b.amount.raw.natAbs).sum

/-- The sum of the amounts of bonuses, in ten-thousandths and without bounds. -/
def exactSum (bs : List Bonus) : Int := (bs.map fun b => b.amount.raw).sum

/-- What a tooltip says about a bonus: its amount, for each die or for each level, and what the
amount is added to where the target of the bonus does not tell. -/
def wording (b : Bonus) : String :=
  match b.feature with
  | .weaponBonus w => w.amount.format w.percent "die" ++ " to damage"
  | .weaponDrDivisorBonus w => w.amount.format w.percent "level" ++ " to DR divisor"
  | f => f.amount.format false "level"

/-- Bonuses add up to their exact sum when their absolute amounts are in range. -/
theorem raw_sum_amount {bs : List Bonus} (h : magnitude bs ≤ Fixed.highest.raw.natAbs) :
    (Fixed.sum (bs.map amount)).raw = exactSum bs := by
  have hmap : (bs.map amount).map (fun a => a.raw.natAbs) =
      bs.map fun b => b.amount.raw.natAbs := List.map_map
  have hsum : (Fixed.sum (bs.map amount)).raw = ((bs.map amount).map Fixed.raw).sum :=
    Fixed.raw_sum (hmap ▸ h)
  rw [hsum, List.map_map]
  rfl

/-- The order of bonuses does not matter to their sums. -/
theorem magnitude_perm {bs bs' : List Bonus} (h : bs.Perm bs') : magnitude bs = magnitude bs' :=
  (h.map _).sum_eq

theorem exactSum_perm {bs bs' : List Bonus} (h : bs.Perm bs') : exactSum bs = exactSum bs' :=
  (h.map _).sum_eq

theorem addToTooltip_eq (nameOf : ItemId → String) (b : Bonus) (tooltip : String) :
    b.addToTooltip nameOf tooltip =
      tooltip ++ ("\n" ++ nameOf b.owner ++ " [" ++ b.wording ++ "]") := by
  unfold addToTooltip wording
  cases b.feature <;> rfl

/-- A total is the sum of the amounts, and a tooltip gets a line for each bonus in the order of the
sum: the name of the owner, and in brackets what the bonus is. -/
theorem total_eq (nameOf : ItemId → String) (bs : List Bonus) (tooltip : Option String) :
    total nameOf bs tooltip =
      (Fixed.sum (bs.map amount),
        tooltip.map (· ++ String.join
          (bs.map fun b => "\n" ++ nameOf b.owner ++ " [" ++ b.wording ++ "]"))) := by
  refine Prod.ext (total_fst nameOf bs tooltip) ?_
  have hfold (sum : Fixed × Option String) :
      (bs.foldl (fun sum b => (sum.1 + b.amount, sum.2.map (b.addToTooltip nameOf))) sum).2 =
        sum.2.map (· ++ String.join
          (bs.map fun b => "\n" ++ nameOf b.owner ++ " [" ++ b.wording ++ "]")) := by
    induction bs generalizing sum with
    | nil => simp
    | cons b rest ih =>
        rw [List.foldl_cons, ih, Option.map_map, List.map_cons, String.join_cons]
        refine congrArg (Option.map · sum.2) (funext fun tooltip => ?_)
        rw [Function.comp_apply, addToTooltip_eq, String.append_assoc]
  exact hfold (0, tooltip)

end Bonus

end CharacterSheet
