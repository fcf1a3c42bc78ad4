import CharacterSheet.Proofs.SourceBytes

/-!
# Reading the source content of prerequisites

A requirement on an attribute may name a second attribute. If it does not, nothing
stands in that place, and the criterion that comes next could be taken for a text: its
comparison for the second attribute and its qualifier for the length of the key word of
a comparison. The stream would then have to go on with the letters of that key word.

But behind a requirement there is nothing or another prerequisite, and this begins with
the length of the name of its kind, a number that comes before all letters. So
prerequisites can be read where no letter follows (`Prereq.contentBytes_append_inj`).
-/

namespace CharacterSheet

open SourceContent

/-! ### What follows a prerequisite -/

/-- The bytes are none or do not begin with a small letter. -/
def NoLetterFirst (rest : List UInt8) : Prop := ∀ b ∈ rest.head?, b < 97

theorem noLetterFirst_nil : NoLetterFirst [] := fun _ h => nomatch h

/-- The length of a short text stands first when the text is written. -/
theorem noLetterFirst_bytes_text {s : String} (h : s.utf8ByteSize < 97) (rest : List UInt8) :
    NoLetterFirst (bytes s ++ rest) := by
  intro b hb
  obtain rfl : s.utf8ByteSize.toUInt8 = b := Option.some.inj hb
  rw [UInt8.lt_iff_toNat_lt]
  simpa using Nat.lt_of_le_of_lt (Nat.mod_le _ _) h

/-- The key word of a comparison begins with a letter. -/
theorem NumericCompare.not_noLetterFirst_key (c : NumericCompare) (rest : List UInt8) :
    ¬ NoLetterFirst (utf8 c.key ++ rest) := by
  have letter : ∃ b tail, utf8 c.key = b :: tail ∧ ¬ b < 97 := by
    cases c <;> exact ⟨_, _, rfl, by decide⟩
  obtain ⟨b, tail, hkey, hb⟩ := letter
  rw [hkey]
  exact fun h => hb (h b rfl)

namespace Requirement

/-! ### The second attribute -/

/-- A criterion is not read as a text with a criterion behind it, if no letter follows. -/
theorem bytes_criteria_append_ne {q q' : NumericCriteria} {t : String} (ht : TextFits t)
    {r s : List UInt8} (hr : NoLetterFirst r) : bytes q ++ r ≠ bytes t ++ (bytes q' ++ s) := by
  intro h
  rw [NumericCriteria.bytes_append, NumericCriteria.bytes_append] at h
  have hkey : TextFits q.compare.key :=
    LawfulKeyword.fits_keys q.compare (LawfulKeyword.mem_all q.compare)
  obtain ⟨-, h⟩ := delimits_text hkey ht h
  -- The qualifier and the length of the other key word take eight bytes each.
  have split : bytes q'.compare.key ++ (bytes q'.qualifier ++ s) =
      littleEndian 8 (utf8 q'.compare.key).length ++
        (utf8 q'.compare.key ++ (bytes q'.qualifier ++ s)) := List.append_assoc ..
  rw [split] at h
  have width : (bytes q.qualifier).length = 8 := length_littleEndian ..
  obtain ⟨-, rfl⟩ := List.append_inj h (by rw [width, length_littleEndian])
  exact q'.compare.not_noLetterFirst_key _ hr

theorem combinedWith_append_inj {o o' : Option String} {q q' : NumericCriteria}
    (ho : ∀ t ∈ o, TextFits t) (ho' : ∀ t ∈ o', TextFits t) {r s : List UInt8}
    (hr : NoLetterFirst r) (hs : NoLetterFirst s)
    (h : bytes o ++ (bytes q ++ r) = bytes o' ++ (bytes q' ++ s)) :
    o = o' ∧ q = q' ∧ r = s := by
  cases o with
  | none =>
    cases o' with
    | none =>
      obtain ⟨hq, hrest⟩ := delimits_numericCriteria trivial trivial h
      exact ⟨rfl, hq, hrest⟩
    | some t => exact absurd h (bytes_criteria_append_ne (ho' t rfl) hr)
  | some t =>
    cases o' with
    | none => exact absurd h.symm (bytes_criteria_append_ne (ho t rfl) hs)
    | some t' =>
      obtain ⟨ht, h⟩ := delimits_text (ho t rfl) (ho' t' rfl) h
      obtain ⟨hq, hrest⟩ := delimits_numericCriteria trivial trivial h
      exact ⟨congrArg some ht, hq, hrest⟩

/-! ### Requirements -/

/-- The texts of a requirement fit. -/
def Fits : Requirement → Prop
  | ofTrait r => r.name.Fits ∧ r.notes.Fits
  | ofAttribute r => TextFits r.which ∧ ∀ t ∈ r.combinedWith, TextFits t
  | ofQuantity _ => True
  | ofWeight _ => True
  | ofSkill r => r.name.Fits ∧ r.specialization.Fits
  | ofSpell r => r.qualifier.Fits
  | ofEquipped r => r.name.Fits ∧ r.tags.Fits

theorem size_kind_lt (p : Requirement) : p.kind.utf8ByteSize < 97 := by
  cases p <;> simp only [kind] <;> decide

theorem kind_ne_list (p : Requirement) : p.kind ≠ "prereq_list" := by
  cases p <;> simp [kind]

theorem bytes_append (p : Requirement) (r : List UInt8) :
    bytes p ++ r = bytes p.kind ++ (bytes p.has ++ (p.conditionBytes ++ r)) := by
  simp only [← List.append_assoc]
  rfl

/-- Of two requirements of one kind the bytes after the kind tell the condition. -/
theorem conditionBytes_append_inj {p q : Requirement} (hkind : p.kind = q.kind)
    (hhas : p.has = q.has) (hp : p.Fits) (hq : q.Fits) {r s : List UInt8}
    (hr : NoLetterFirst r) (hs : NoLetterFirst s)
    (h : p.conditionBytes ++ r = q.conditionBytes ++ s) : p = q ∧ r = s := by
  cases p <;> cases q <;> simp [kind] at hkind <;>
    simp only [conditionBytes, List.append_assoc] at h
  case ofTrait.ofTrait p q =>
    obtain ⟨hname, h⟩ := delimits_stringCriteria hp.1 hq.1 h
    obtain ⟨hlevel, h⟩ := delimits_numericCriteria trivial trivial h
    obtain ⟨hnotes, hrest⟩ := delimits_stringCriteria hp.2 hq.2 h
    cases p; cases q; cases hhas; cases hname; cases hlevel; cases hnotes
    exact ⟨rfl, hrest⟩
  case ofAttribute.ofAttribute p q =>
    obtain ⟨hwhich, h⟩ := delimits_text hp.1 hq.1 h
    obtain ⟨hcombined, hqualifier, hrest⟩ := combinedWith_append_inj hp.2 hq.2 hr hs h
    cases p; cases q; cases hhas; cases hwhich; cases hcombined; cases hqualifier
    exact ⟨rfl, hrest⟩
  case ofQuantity.ofQuantity p q =>
    obtain ⟨hqualifier, hrest⟩ := delimits_numericCriteria trivial trivial h
    cases p; cases q; cases hhas; cases hqualifier
    exact ⟨rfl, hrest⟩
  case ofWeight.ofWeight p q =>
    obtain ⟨hqualifier, hrest⟩ := delimits_weightCriteria trivial trivial h
    cases p; cases q; cases hhas; cases hqualifier
    exact ⟨rfl, hrest⟩
  case ofSkill.ofSkill p q =>
    obtain ⟨hname, h⟩ := delimits_stringCriteria hp.1 hq.1 h
    obtain ⟨hlevel, h⟩ := delimits_numericCriteria trivial trivial h
    obtain ⟨hspecialization, hrest⟩ := delimits_stringCriteria hp.2 hq.2 h
    cases p; cases q; cases hhas; cases hname; cases hlevel; cases hspecialization
    exact ⟨rfl, hrest⟩
  case ofSpell.ofSpell p q =>
    obtain ⟨hcomparison, h⟩ := Keyword.bytes_key_append_inj (κ := SpellComparison) h
    obtain ⟨hqualifier, h⟩ := delimits_stringCriteria hp hq h
    obtain ⟨hquantity, hrest⟩ := delimits_numericCriteria trivial trivial h
    cases p; cases q; cases hhas; cases hcomparison; cases hqualifier; cases hquantity
    exact ⟨rfl, hrest⟩
  case ofEquipped.ofEquipped p q =>
    obtain ⟨hname, h⟩ := delimits_stringCriteria hp.1 hq.1 h
    obtain ⟨htags, hrest⟩ := delimits_stringCriteria hp.2 hq.2 h
    cases p; cases q; cases hname; cases htags
    exact ⟨rfl, hrest⟩

end Requirement

/-! ### Trees -/

namespace Prereq

mutual

/-- The texts and lists of a tree fit. -/
def Fits : Prereq → Prop
  | leaf r => r.Fits
  | list _ _ members => members.length < 2 ^ 32 ∧ MembersFit members
termination_by structural p => p

def MembersFit : List Prereq → Prop
  | [] => True
  | p :: rest => Fits p ∧ MembersFit rest
termination_by structural ps => ps

end

theorem size_kind_lt (p : Prereq) : p.kind.utf8ByteSize < 97 := by
  cases p with
  | leaf r => exact r.size_kind_lt
  | list all whenTl members => simp only [kind]; decide

theorem fits_kind (p : Prereq) : TextFits p.kind := Nat.lt_trans p.size_kind_lt (by decide)

/-- The content of a tree behind the name of its kind. -/
def bodyBytes : Prereq → List UInt8
  | leaf r => bytes r.has ++ r.conditionBytes
  | list all whenTl members =>
    bytes all ++ (bytes whenTl ++ (littleEndian 4 members.length ++ memberBytes members))

theorem contentBytes_append (p : Prereq) (r : List UInt8) :
    contentBytes p ++ r = bytes p.kind ++ (p.bodyBytes ++ r) := by
  cases p with
  | leaf p => simp only [contentBytes, kind, bodyBytes, p.bytes_append, List.append_assoc]
  | list all whenTl members => simp only [contentBytes, kind, bodyBytes, List.append_assoc]

theorem noLetterFirst_contentBytes (p : Prereq) (rest : List UInt8) :
    NoLetterFirst (contentBytes p ++ rest) := by
  rw [contentBytes_append]
  exact noLetterFirst_bytes_text p.size_kind_lt _

theorem noLetterFirst_memberBytes (ps : List Prereq) {rest : List UInt8}
    (h : NoLetterFirst rest) : NoLetterFirst (memberBytes ps ++ rest) := by
  cases ps with
  | nil => exact h
  | cons p ps =>
    rw [memberBytes, List.append_assoc]
    exact p.noLetterFirst_contentBytes _

mutual

/-- A tree can be read where no letter follows. -/
theorem contentBytes_append_inj : (p q : Prereq) → p.Fits → q.Fits → {r s : List UInt8} →
    NoLetterFirst r → NoLetterFirst s → contentBytes p ++ r = contentBytes q ++ s →
    p = q ∧ r = s
  | leaf p, q, hp, hq, r, s, hr, hs, h => by
    rw [contentBytes_append, contentBytes_append] at h
    obtain ⟨hkind, h⟩ := delimits_text (fits_kind _) (fits_kind _) h
    cases q with
    | leaf q =>
      simp only [bodyBytes, List.append_assoc] at h
      obtain ⟨hhas, h⟩ := delimits_bool trivial trivial h
      obtain ⟨hleaf, hrest⟩ := Requirement.conditionBytes_append_inj hkind hhas hp hq hr hs h
      exact ⟨congrArg leaf hleaf, hrest⟩
    | list all whenTl members => exact absurd hkind p.kind_ne_list
  | list all whenTl ps, q, hp, hq, r, s, hr, hs, h => by
    rw [contentBytes_append, contentBytes_append] at h
    obtain ⟨hkind, h⟩ := delimits_text (fits_kind _) (fits_kind _) h
    cases q with
    | leaf q => exact absurd hkind.symm q.kind_ne_list
    | list all' whenTl' qs =>
      simp only [bodyBytes, List.append_assoc] at h
      obtain ⟨hall, h⟩ := delimits_bool trivial trivial h
      obtain ⟨hwhen, h⟩ := delimits_numericCriteria trivial trivial h
      obtain ⟨hlen, h⟩ := littleEndian_append_inj hp.1 hq.1 h
      obtain ⟨hmembers, hrest⟩ := memberBytes_append_inj ps qs hlen hp.2 hq.2 hr hs h
      cases hall; cases hwhen; cases hmembers
      exact ⟨rfl, hrest⟩

theorem memberBytes_append_inj : (ps qs : List Prereq) → ps.length = qs.length →
    MembersFit ps → MembersFit qs → {r s : List UInt8} → NoLetterFirst r → NoLetterFirst s →
    memberBytes ps ++ r = memberBytes qs ++ s → ps = qs ∧ r = s
  | [], [], _, _, _, _, _, _, _, h => ⟨rfl, h⟩
  | p :: ps, q :: qs, hlen, hp, hq, r, s, hr, hs, h => by
    simp only [memberBytes, List.append_assoc] at h
    obtain ⟨hhead, h⟩ :=
      contentBytes_append_inj p q hp.1 hq.1 (noLetterFirst_memberBytes ps hr)
        (noLetterFirst_memberBytes qs hs) h
    obtain ⟨htail, hrest⟩ :=
      memberBytes_append_inj ps qs (Nat.succ.inj hlen) hp.2 hq.2 hr hs h
    exact ⟨by rw [hhead, htail], hrest⟩

end

end Prereq

/-! ### Lists of prerequisites -/

namespace PrereqList

/-- The texts and lists in a list of prerequisites fit. -/
def Fits (l : PrereqList) : Prop := l.toPrereq.Fits

theorem eq_of_bytes_eq {l m : PrereqList} (hl : l.Fits) (hm : m.Fits) (h : bytes l = bytes m) :
    l = m := by
  obtain ⟨htree, -⟩ := Prereq.contentBytes_append_inj l.toPrereq m.toPrereq hl hm
    noLetterFirst_nil noLetterFirst_nil (congrArg (· ++ []) h)
  cases l; cases m; cases htree
  rfl

/-- At the end of a stream it is seen whether there are prerequisites at all. -/
theorem option_eq_of_bytes_eq {o o' : Option PrereqList} (ho : ∀ l ∈ o, l.Fits)
    (ho' : ∀ l ∈ o', l.Fits) (h : bytes o = bytes o') : o = o' := by
  have nonempty (l : PrereqList) : bytes l ≠ [] := List.cons_ne_nil _ _
  cases o with
  | none =>
    cases o' with
    | none => rfl
    | some m => exact absurd h.symm (nonempty m)
  | some l =>
    cases o' with
    | none => exact absurd h (nonempty l)
    | some m => exact congrArg some (eq_of_bytes_eq (ho l rfl) (ho' m rfl) h)

end PrereqList

end CharacterSheet
