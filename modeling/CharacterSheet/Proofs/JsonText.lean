import CharacterSheet.Json.Parser
import CharacterSheet.Json.Printer

/-!
# Reading back JSON texts

The text that is printed for a document is read as that document, `Json.parse?_text`. A document
can be printed if its strings have values and its numerals are written as documents write them:
with a sign, digits without superfluous zeros, and digits after a point.

The text of a value says itself where it ends, if a comma, a closing bracket or brace or nothing
stands behind it: a numeral ends before what is no digit, a string at its closing quote. Quotes and
backslashes within a string are escaped.
-/

namespace CharacterSheet

namespace Decimal

/-! ### Digits -/

theorem isDigit_eq (c : Char) : isDigit c = c.isDigit := rfl

theorem isDigit_digits (n : Nat) : ∀ c ∈ digits n, isDigit c = true := fun _ hc =>
  Nat.isDigit_of_mem_toDigits (by decide) (by decide) hc

/-- A number above zero has no zeros in front. -/
theorem exists_digits_eq {n : Nat} (h : 0 < n) : ∃ d ds, digits n = d :: ds ∧ d ≠ '0' := by
  induction n using Nat.strongRecOn with
  | _ n ih =>
    unfold digits at ih ⊢
    rw [Nat.toDigits_eq_if (by decide)]
    split
    · exact ⟨_, [], rfl, fun heq => by rw [Nat.digitChar_eq_zero] at heq; omega⟩
    · obtain ⟨d, ds, heq, hne⟩ := ih (n / 10) (by omega) (by omega)
      exact ⟨d, ds ++ [(n % 10).digitChar], by rw [heq]; rfl, hne⟩

theorem isDigit_lastDigits (width n : Nat) : ∀ c ∈ lastDigits width n, isDigit c = true := by
  induction width generalizing n with
  | zero => exact fun _ hc => nomatch hc
  | succ width ih =>
    intro c hc
    rcases List.mem_append.1 hc with hc | hc
    · exact ih _ c hc
    · obtain rfl := List.mem_singleton.1 hc
      rw [isDigit_eq, Nat.isDigit_digitChar, decide_eq_true (Nat.mod_lt n (by decide))]

/-- Digits end before what is no digit. -/
theorem splitDigits_append {ds rest : List Char} (hds : ∀ c ∈ ds, isDigit c = true)
    (hrest : ∀ c ∈ rest.head?, isDigit c = false) : splitDigits (ds ++ rest) = (ds, rest) := by
  have hstop : rest.takeWhile isDigit = [] ∧ rest.dropWhile isDigit = rest := by
    cases rest with
    | nil => exact ⟨rfl, rfl⟩
    | cons c rest => simp [hrest c rfl]
  rw [splitDigits, List.takeWhile_append_of_pos hds, List.dropWhile_append_of_pos hds, hstop.1,
    hstop.2, List.append_nil]

/-! ### Numerals -/

/-- A numeral as documents write it: without an exponent and superfluous zeros. -/
structure Numeral.Plain (n : Numeral) : Prop where
  isDigit_whole : ∀ c ∈ n.whole, isDigit c = true
  whole : n.whole = ['0'] ∨ ∃ d ds, n.whole = d :: ds ∧ d ≠ '0'
  isDigit_fraction : ∀ c ∈ n.fraction, isDigit c = true
  exponent : n.exponent = none

namespace Numeral

theorem plain_of_digits (negative : Bool) (n : Nat) {fraction : List Char}
    (h : ∀ c ∈ fraction, isDigit c = true) :
    Plain { negative, whole := digits n, fraction } where
  isDigit_whole := isDigit_digits n
  whole := by
    rcases Nat.eq_zero_or_pos n with rfl | hn
    · exact .inl rfl
    · exact .inr (exists_digits_eq hn)
  isDigit_fraction := h
  exponent := rfl

theorem plain_ofInt (n : Int) : (ofInt n).Plain :=
  plain_of_digits _ _ fun _ hc => nomatch hc

theorem plain_positional (negative : Bool) (d : Scientific) : (positional negative d).Plain := by
  unfold positional
  split
  · refine plain_of_digits _ _ fun c hc => ?_
    obtain rfl := List.mem_singleton.1 hc
    rfl
  · exact plain_of_digits _ _ (isDigit_lastDigits _ _)

theorem plain_ofFloat (f : Float) : (ofFloat f).Plain := by
  unfold ofFloat
  split
  · exact plain_positional _ _
  · split <;> exact plain_positional _ _

end Numeral

end Decimal

namespace Json

open Decimal (Numeral isDigit splitDigits splitDigits_append)

/-- What may stand behind a value. -/
def Ends (rest : List Char) : Prop := ∀ c ∈ rest.head?, c = ',' ∨ c = ']' ∨ c = '\x7d'

theorem Ends.isDigit_head {rest : List Char} (h : Ends rest) :
    ∀ c ∈ rest.head?, isDigit c = false := by
  intro c hc
  rcases h c hc with rfl | rfl | rfl <;> rfl

theorem readFraction?_append {ds rest : List Char} (hds : ∀ c ∈ ds, isDigit c = true)
    (hrest : Ends rest) :
    readFraction? ((if ds.isEmpty then [] else '.' :: ds) ++ rest) = some (ds, rest) := by
  cases ds with
  | nil =>
    cases rest with
    | nil => rfl
    | cons c rest => rcases hrest c rfl with rfl | rfl | rfl <;> rfl
  | cons d ds =>
    have hsplit := splitDigits_append hds hrest.isDigit_head
    simp only [List.isEmpty_cons, Bool.false_eq_true, if_false, List.cons_append] at hsplit ⊢
    simp [readFraction?, hsplit]

theorem readExponent?_of_ends {rest : List Char} (h : Ends rest) :
    readExponent? rest = some (none, rest) := by
  cases rest with
  | nil => rfl
  | cons c rest => rcases h c rfl with rfl | rfl | rfl <;> rfl

/-- A numeral is read back from its text. -/
theorem readNumber?_chars {n : Numeral} (hn : n.Plain) {rest : List Char} (hrest : Ends rest) :
    readNumber? (n.chars ++ rest) = some (n, rest) := by
  obtain ⟨negative, whole, fraction, exponent⟩ := n
  obtain ⟨hdigits, hwhole, hfraction, hexponent⟩ := hn
  dsimp only at hdigits hwhole hfraction hexponent
  subst hexponent
  have hbehind := readFraction?_append hfraction hrest
  have hpoint : ∀ c ∈ ((if fraction.isEmpty then [] else '.' :: fraction) ++ rest).head?,
      isDigit c = false := by
    cases fraction with
    | nil => exact hrest.isDigit_head
    | cons d ds => rintro c ⟨⟩; rfl
  have hchars : (Numeral.mk negative whole fraction none).chars ++ rest =
      (if negative then ['-'] else []) ++
        (whole ++ ((if fraction.isEmpty then [] else '.' :: fraction) ++ rest)) := by
    simp [Decimal.Numeral.chars]
  rw [hchars]
  generalize (if fraction.isEmpty then [] else '.' :: fraction) ++ rest = behind at hbehind hpoint ⊢
  have hsplit := splitDigits_append hdigits hpoint
  rcases hwhole with rfl | ⟨d, ds, rfl, hd⟩
  · cases negative <;> simp [readNumber?, hbehind, readExponent?_of_ends hrest]
  · have hminus : d ≠ '-' := by
      rintro rfl
      exact absurd (hdigits '-' List.mem_cons_self) (by decide)
    rw [List.cons_append] at hsplit
    cases negative <;>
      simp [readNumber?, hsplit, hbehind, readExponent?_of_ends hrest, hd, hminus]

/-! ### Strings -/

/-- The four digits of a code unit that stands for a control character are read back. -/
theorem codeUnit?_hexDigits {n : Nat} (hn : n < 0x20) {a b c d : Char}
    (h : hexDigits n = [a, b, c, d]) : codeUnit? a b c d = some n := by
  simp only [hexDigits, List.map_cons, List.map_nil, List.cons.injEq] at h
  obtain ⟨rfl, rfl, rfl, rfl, -⟩ := h
  revert n
  decide

/-- A code unit is read on its own if it is no half of a surrogate pair, as long as another one
behind it can be read. -/
theorem readString_unit {a b c d : Char} {u : Nat} (hunit : codeUnit? a b c d = some u)
    (hu : u < 0x20) (read : List Char) {rest : List Char}
    (hrest : ∀ e f g h tail, rest = '\\' :: 'u' :: e :: f :: g :: h :: tail →
      (codeUnit? e f g h).isSome) :
    readString (some read) ('\\' :: 'u' :: a :: b :: c :: d :: rest) =
      readString (some (Char.ofNat u :: read)) rest := by
  have hchar : unitChar? u = some (Char.ofNat u) := if_neg (by simp; omega)
  rw [readString.eq_def (some read)]
  split
  case h_1 heq | h_2 heq => cases heq
  case h_3 a b c d e f g h tail heq =>
    cases heq
    obtain ⟨low, hlow⟩ := Option.isSome_iff_exists.1 (hrest e f g h tail rfl)
    have hpair : pairChar? u low = none := if_neg (by simp; omega)
    simp [hunit, hlow, hpair, hchar]
  case h_4 heq =>
    cases heq
    simp [hunit, hchar]
  case h_5 hshort heq =>
    cases heq
    exact (hshort a b c d rest rfl rfl).elim
  case h_6 hshort heq =>
    cases heq
    exact (hshort 'u' _ rfl rfl).elim

/-- What stands behind a character of a string that is printed. -/
def EscapedBehind (rest : List Char) : Prop :=
  ∀ e f g h tail, rest = '\\' :: 'u' :: e :: f :: g :: h :: tail → (codeUnit? e f g h).isSome

/-- A character is written by a letter behind a backslash, by its code unit, or as itself. -/
theorem escape_cases (c : Char) :
    (∃ letter, escape c = ['\\', letter] ∧ escaped? letter = some c ∧ letter ≠ 'u') ∨
      (c.toNat < 0x20 ∧ escape c = '\\' :: 'u' :: hexDigits c.toNat) ∨
      (escape c = [c] ∧ c ≠ '"' ∧ c ≠ '\\' ∧ ¬ c.toNat < 0x20) := by
  unfold escape
  split
  case h_8 hquote hbackslash _ _ _ _ _ =>
    split
    · next hcontrol => exact .inr (.inl ⟨hcontrol, rfl⟩)
    · next hcontrol => exact .inr (.inr ⟨rfl, hquote, hbackslash, hcontrol⟩)
  all_goals exact .inl ⟨_, rfl, rfl, by decide⟩

/-- A letter behind a backslash stands for a character. -/
theorem readString_letter {letter c : Char} (hletter : escaped? letter = some c)
    (hu : letter ≠ 'u') (read rest : List Char) :
    readString (some read) ('\\' :: letter :: rest) = readString (some (c :: read)) rest := by
  rw [readString.eq_def (some read)]
  split
  case h_5 heq =>
    cases heq
    simp [hletter]
  case h_6 hshort heq =>
    cases heq
    exact (hshort letter rest rfl rfl).elim
  all_goals next heq => cases heq; try exact absurd rfl hu

/-- A character that needs no backslash stands for itself. -/
theorem readString_self {c : Char} (hquote : c ≠ '"') (hbackslash : c ≠ '\\')
    (hcontrol : ¬ c.toNat < 0x20) (read rest : List Char) :
    readString (some read) (c :: rest) = readString (some (c :: read)) rest := by
  rw [readString.eq_def (some read)]
  split
  case h_6 heq =>
    cases heq
    simp [hcontrol]
  all_goals next heq => cases heq; try contradiction

theorem readString_escape (c : Char) {read rest : List Char} (hrest : EscapedBehind rest) :
    readString (some read) (escape c ++ rest) = readString (some (c :: read)) rest := by
  obtain ⟨letter, heq, hletter, hu⟩ | ⟨hcontrol, heq⟩ | ⟨heq, hquote, hbackslash, hcontrol⟩ :=
    escape_cases c
  · rw [heq]
    exact readString_letter hletter hu read rest
  · have hunit := readString_unit (codeUnit?_hexDigits hcontrol rfl) hcontrol read hrest
    rw [Char.ofNat_toNat] at hunit
    rw [heq]
    exact hunit
  · rw [heq]
    exact readString_self hquote hbackslash hcontrol read rest

theorem escapedBehind_append (cs rest : List Char) :
    EscapedBehind (cs.flatMap escape ++ '"' :: rest) := by
  intro e f g h tail htail
  cases cs with
  | nil => cases htail
  | cons c cs =>
    rw [List.flatMap_cons, List.append_assoc] at htail
    obtain ⟨letter, heq, -, hu⟩ | ⟨hcontrol, heq⟩ | ⟨heq, -, hbackslash, -⟩ := escape_cases c
    · rw [heq] at htail
      exact absurd (List.cons.inj (List.cons.inj htail).2).1 hu
    · have hunit := codeUnit?_hexDigits hcontrol rfl
      rw [heq] at htail
      cases htail
      rw [hunit]
      rfl
    · rw [heq] at htail
      exact absurd (List.cons.inj htail).1 hbackslash

/-- A string is read back from its text. -/
theorem readString_flatMap (cs read rest : List Char) :
    readString (some read) (cs.flatMap escape ++ '"' :: rest) =
      some (some (String.ofList (read.reverse ++ cs)), rest) := by
  induction cs generalizing read with
  | nil => simp [readString]
  | cons c cs ih =>
    rw [List.flatMap_cons, List.append_assoc, readString_escape c (escapedBehind_append cs rest),
      ih]
    simp

/-! ### Documents -/

mutual

/-- Whether a document can be printed: its strings have values, and its numerals are plain. -/
def Printable : Json → Prop
  | .number n => n.Plain
  | .unpaired => False
  | .array elements => ElementsPrintable elements
  | .object members => MembersPrintable members
  | _ => True
termination_by structural j => j

def ElementsPrintable : List Json → Prop
  | [] => True
  | j :: rest => Printable j ∧ ElementsPrintable rest
termination_by structural js => js

def MembersPrintable : List (String × Json) → Prop
  | [] => True
  | (_, j) :: rest => Printable j ∧ MembersPrintable rest
termination_by structural ms => ms

end

theorem elementsPrintable_iff {js : List Json} :
    ElementsPrintable js ↔ ∀ j ∈ js, j.Printable := by
  induction js with
  | nil => simp [ElementsPrintable]
  | cons j rest ih => simp [ElementsPrintable, ih]

theorem membersPrintable_iff {ms : List (String × Json)} :
    MembersPrintable ms ↔ ∀ m ∈ ms, m.2.Printable := by
  induction ms with
  | nil => simp [MembersPrintable]
  | cons m rest ih => simp [MembersPrintable, ih]

/-- The characters that values begin with. -/
def starts : List Char := '\x7b' :: '[' :: '"' :: 'n' :: 't' :: 'f' :: '-' :: "0123456789".toList

theorem mem_starts_of_isDigit {c : Char} (h : isDigit c = true) : c ∈ starts := by
  have hall : ∀ n < 0x3a, 0x2f < n → Char.ofNat n ∈ starts := by decide
  have hrange : 48 ≤ c.toNat ∧ c.toNat ≤ 57 := by
    simpa [isDigit, Char.le_def, UInt32.le_iff_toNat_le] using h
  have := hall c.toNat (by omega) (by omega)
  rwa [Char.ofNat_toNat] at this

theorem exists_chars_eq {n : Numeral} (hn : n.Plain) :
    ∃ c cs, n.chars = c :: cs ∧ (c = '-' ∨ isDigit c = true) := by
  obtain ⟨d, ds, hwhole⟩ : ∃ d ds, n.whole = d :: ds := by
    rcases hn.whole with h | ⟨d, ds, h, -⟩ <;> exact ⟨_, _, h⟩
  have hdigit : isDigit d = true := hn.isDigit_whole d (by rw [hwhole]; exact List.mem_cons_self)
  unfold Decimal.Numeral.chars
  cases n.negative with
  | true => exact ⟨_, _, rfl, .inl rfl⟩
  | false => exact ⟨d, _, by rw [hwhole]; rfl, .inr hdigit⟩

theorem exists_print_eq {j : Json} (hj : j.Printable) :
    ∃ c cs, j.print = c :: cs ∧ c ∈ starts := by
  cases j with
  | null => exact ⟨_, _, rfl, by decide⟩
  | bool b => cases b <;> exact ⟨_, _, rfl, by decide⟩
  | number n =>
    obtain ⟨c, cs, heq, hc⟩ := exists_chars_eq hj
    refine ⟨c, cs, heq, ?_⟩
    rcases hc with rfl | hc
    · decide
    · exact mem_starts_of_isDigit hc
  | string s => exact ⟨_, _, rfl, by decide⟩
  | unpaired => exact hj.elim
  | array elements => exact ⟨_, _, rfl, by decide⟩
  | object members => exact ⟨_, _, rfl, by decide⟩

/-- No blank is skipped in front of a value. -/
theorem skipSpace_of_mem_starts {c : Char} (h : c ∈ starts) (cs : List Char) :
    skipSpace (c :: cs) = c :: cs := by
  have hspace : (starts.all fun c => !isSpace c) = true := by decide
  have hc := List.all_eq_true.1 hspace c h
  simp only [Bool.not_eq_true'] at hc
  simp [skipSpace, hc]

/-- What begins like a numeral is read as one. -/
theorem readValue?_number {c : Char} (hc : c = '-' ∨ isDigit c = true) (cs : List Char)
    (steps : Nat) :
    readValue? (steps + 1) (c :: cs) =
      (readNumber? (c :: cs)).map fun r => (.number r.1, r.2) := by
  have hstart : c ∈ starts := by
    rcases hc with rfl | hc
    · decide
    · exact mem_starts_of_isDigit hc
  rw [readValue?, skipSpace_of_mem_starts hstart]
  split
  case h_7 => rfl
  all_goals next heq => cases heq; exact absurd hc (by decide)

theorem ofMembers_named (ms : List (String × Json)) :
    ofMembers (ms.map fun m => (some m.1, m.2)) = .object ms := by
  have hnamed : (ms.map fun m => (some m.1, m.2)).mapM
      (fun m : Option String × Json => m.1.map fun name => (name, m.2)) = some ms := by
    induction ms with
    | nil => rfl
    | cons m rest ih => simp [ih]
  rw [ofMembers, hnamed]

theorem ends_nil : Ends [] := fun _ hc => nomatch hc

theorem ends_cons {c : Char} (h : c = ',' ∨ c = ']' ∨ c = '\x7d') (rest : List Char) :
    Ends (c :: rest) := by
  rintro _ ⟨⟩
  exact h

mutual

/-- A value is read back from its text, in fewer steps than it has characters. -/
theorem readValue?_print :
    ∀ (j : Json) (steps : Nat) (rest : List Char), j.Printable → Ends rest →
      (print j).length < steps → readValue? steps (print j ++ rest) = some (j, rest)
  | j, 0, _, _, _, hsteps => absurd hsteps (Nat.not_lt_zero _)
  | .null, steps + 1, rest, _, _, _ => by
      simp [print, readValue?, skipSpace, isSpace, readWord?]
  | .bool true, steps + 1, rest, _, _, _ => by
      simp [print, readValue?, skipSpace, isSpace, readWord?]
  | .bool false, steps + 1, rest, _, _, _ => by
      simp [print, readValue?, skipSpace, isSpace, readWord?]
  | .number n, steps + 1, rest, hn, hrest, _ => by
      obtain ⟨c, cs, heq, hc⟩ := exists_chars_eq hn
      have hread := readNumber?_chars hn hrest
      simp only [print, heq, List.cons_append] at hread ⊢
      rw [readValue?_number hc, hread]
      rfl
  | .string s, steps + 1, rest, _, _, _ => by
      simp [print, quote, readValue?, skipSpace, isSpace, readString_flatMap]
  | .unpaired, _, _, hj, _, _ => hj.elim
  | .array [], steps + 1, rest, _, _, _ => by
      simp [print, printElements, readValue?, skipSpace, isSpace]
  | .array (j :: js), steps + 1, rest, hjs, _, hsteps => by
      have hread := readElements?_print (j :: js) steps rest hjs (List.cons_ne_nil _ _)
        (by simp only [print, List.length_cons, List.length_append] at hsteps ⊢; omega)
      obtain ⟨c, cs, heq, hc⟩ := exists_print_eq hjs.1
      have hclose : c ≠ ']' := by
        rintro rfl
        exact absurd hc (by decide)
      obtain ⟨cs', hbegin⟩ : ∃ cs', printElements (j :: js) ++ ']' :: rest = c :: cs' :=
        ⟨_, by rw [printElements, heq]; rfl⟩
      have hopen (cs : List Char) : skipSpace ('[' :: cs) = '[' :: cs := rfl
      simp only [print, List.cons_append, List.append_assoc, List.nil_append, readValue?, hopen]
      rw [hbegin] at hread ⊢
      simp [skipSpace_of_mem_starts hc, hclose, hread]
  | .object [], steps + 1, rest, _, _, _ => by
      simp [print, printMembers, readValue?, skipSpace, isSpace]
  | .object (m :: ms), steps + 1, rest, hms, _, hsteps => by
      have hread := readMembers?_print (m :: ms) steps rest hms (List.cons_ne_nil _ _)
        (by simp only [print, List.length_cons, List.length_append] at hsteps ⊢; omega)
      obtain ⟨cs, hbegin⟩ : ∃ cs, printMembers (m :: ms) ++ '\x7d' :: rest = '"' :: cs :=
        ⟨_, rfl⟩
      have hopen (cs : List Char) : skipSpace ('\x7b' :: cs) = '\x7b' :: cs := rfl
      have hquote : skipSpace ('"' :: cs) = '"' :: cs := rfl
      simp only [print, List.cons_append, List.append_assoc, List.nil_append, readValue?, hopen]
      rw [hbegin] at hread ⊢
      rw [hquote]
      show (readMembers? steps ('"' :: cs)).map (fun r => (ofMembers r.1, r.2)) = _
      rw [hread, Option.map_some, ofMembers_named]

theorem readElements?_print :
    ∀ (js : List Json) (steps : Nat) (rest : List Char), ElementsPrintable js → js ≠ [] →
      (printElements js).length + 1 < steps →
        readElements? steps (printElements js ++ ']' :: rest) = some (js, rest)
  | _, 0, _, _, _, hsteps => absurd hsteps (Nat.not_lt_zero _)
  | [], _, _, _, hne, _ => absurd rfl hne
  | [j], steps + 1, rest, hjs, _, hsteps => by
      have hread := readValue?_print j steps (']' :: rest) hjs.1
        (ends_cons (.inr (.inl rfl)) _) (by simp [printElements] at hsteps; omega)
      simp [printElements, readElements?, hread, skipSpace, isSpace]
  | j :: k :: js, steps + 1, rest, hjs, _, hsteps => by
      simp only [printElements, List.length_append] at hsteps
      have hread := readValue?_print j steps (',' :: (printElements (k :: js) ++ ']' :: rest)) hjs.1
        (ends_cons (.inl rfl) _) (by simp at hsteps; omega)
      have hmore := readElements?_print (k :: js) steps rest hjs.2 (List.cons_ne_nil _ _)
        (by simp [printElements] at hsteps ⊢; omega)
      rw [printElements]
      simp [readElements?, hread, hmore, skipSpace, isSpace]

theorem readMembers?_print :
    ∀ (ms : List (String × Json)) (steps : Nat) (rest : List Char), MembersPrintable ms →
      ms ≠ [] → (printMembers ms).length + 1 < steps →
        readMembers? steps (printMembers ms ++ '\x7d' :: rest) =
          some (ms.map fun m => (some m.1, m.2), rest)
  | _, 0, _, _, _, hsteps => absurd hsteps (Nat.not_lt_zero _)
  | [], _, _, _, hne, _ => absurd rfl hne
  | [(name, j)], steps + 1, rest, hms, _, hsteps => by
      have hread := readValue?_print j steps ('\x7d' :: rest) hms.1
        (ends_cons (.inr (.inr rfl)) _) (by simp [printMembers] at hsteps; omega)
      simp [printMembers, quote, readMembers?, readString_flatMap, hread, skipSpace, isSpace]
  | (name, j) :: m :: ms, steps + 1, rest, hms, _, hsteps => by
      simp only [printMembers, List.length_append] at hsteps
      have hread := readValue?_print j steps (',' :: (printMembers (m :: ms) ++ '\x7d' :: rest))
        hms.1 (ends_cons (.inl rfl) _) (by simp at hsteps; omega)
      have hmore := readMembers?_print (m :: ms) steps rest hms.2 (List.cons_ne_nil _ _)
        (by simp [printMembers] at hsteps ⊢; omega)
      rw [printMembers]
      simp [quote, readMembers?, readString_flatMap, hread, hmore, skipSpace, isSpace]

end

/-- A document is read back from its text. -/
theorem parse?_text {j : Json} (hj : j.Printable) : parse? j.text = some j := by
  have hread := readValue?_print j (j.print.length + 1) [] hj ends_nil (Nat.lt_succ_self _)
  rw [List.append_nil] at hread
  rw [parse?, text, String.toList_ofList, hread]
  rfl

end Json

end CharacterSheet
