import CharacterSheet.Json

/-!
# Reading JSON texts

`parse?` reads a whole text as one document, with blanks allowed around every token.
Each step of the reader takes at least one character, so the length of the text bounds
the number of steps.
-/

namespace CharacterSheet.Json

open Decimal (splitDigits value)

/-- The blanks between tokens. -/
def isSpace (c : Char) : Bool := c == ' ' || c == '\t' || c == '\n' || c == '\r'

def skipSpace (cs : List Char) : List Char := cs.dropWhile isSpace

/-! ### Strings -/

/-- The value of a hexadecimal digit. -/
def hexValue? (c : Char) : Option Nat :=
  if '0' ≤ c && c ≤ '9' then some (c.toNat - '0'.toNat)
  else if 'a' ≤ c && c ≤ 'f' then some (c.toNat - 'a'.toNat + 10)
  else if 'A' ≤ c && c ≤ 'F' then some (c.toNat - 'A'.toNat + 10)
  else none

/-- The code unit with the given four hexadecimal digits. -/
def codeUnit? (a b c d : Char) : Option Nat := do
  some (4096 * (← hexValue? a) + 256 * (← hexValue? b) + 16 * (← hexValue? c) + (← hexValue? d))

/-- The character with a code unit, unless it is half of a surrogate pair. -/
def unitChar? (u : Nat) : Option Char :=
  if 0xd800 ≤ u && u ≤ 0xdfff then none else some (Char.ofNat u)

/-- The character of a surrogate pair. -/
def pairChar? (high low : Nat) : Option Char :=
  if 0xd800 ≤ high && high ≤ 0xdbff && 0xdc00 ≤ low && low ≤ 0xdfff then
    some (Char.ofNat (0x10000 + (high - 0xd800) * 0x400 + (low - 0xdc00)))
  else none

/-- The character that a single letter after a backslash stands for. -/
def escaped? (c : Char) : Option Char :=
  match c with
  | '"' => some '"'
  | '\\' => some '\\'
  | '/' => some '/'
  | 'b' => some '\x08'
  | 'f' => some '\x0c'
  | 'n' => some '\n'
  | 'r' => some '\r'
  | 't' => some '\t'
  | _ => none

/-- Reads the characters of a string up to its closing quote, with those read so far in
`read`, the last one first. The string is `none` once half of a surrogate pair stood
alone. -/
def readString (read : Option (List Char)) : List Char → Option (Option String × List Char)
  | [] => none
  | '"' :: rest => some (read.map fun cs => String.ofList cs.reverse, rest)
  | '\\' :: 'u' :: a :: b :: c :: d :: '\\' :: 'u' :: e :: f :: g :: h :: rest =>
    match codeUnit? a b c d, codeUnit? e f g h with
    | some high, some low =>
      match pairChar? high low with
      | some ch => readString (read.map (ch :: ·)) rest
      | none =>
        readString ((unitChar? high).bind fun ch => read.map (ch :: ·))
          ('\\' :: 'u' :: e :: f :: g :: h :: rest)
    | _, _ => none
  | '\\' :: 'u' :: a :: b :: c :: d :: rest =>
    match codeUnit? a b c d with
    | some u => readString ((unitChar? u).bind fun ch => read.map (ch :: ·)) rest
    | none => none
  | '\\' :: c :: rest =>
    match escaped? c with
    | some ch => readString (read.map (ch :: ·)) rest
    | none => none
  | c :: rest => if c.toNat < 0x20 then none else readString (read.map (c :: ·)) rest

/-! ### Numbers -/

/-- Reads the digits after a point, at least one, if there is a point. -/
def readFraction? (cs : List Char) : Option (List Char × List Char) :=
  match cs with
  | '.' :: rest =>
    let (ds, rest) := splitDigits rest
    if ds.isEmpty then none else some (ds, rest)
  | _ => some ([], cs)

/-- Reads an exponent, if there is one. -/
def readExponent? (cs : List Char) : Option (Option Int × List Char) :=
  match cs with
  | c :: rest =>
    if c == 'e' || c == 'E' then
      let (negative, rest) := Decimal.splitSign rest
      let (ds, rest) := splitDigits rest
      if ds.isEmpty then none
      else some (some (if negative then -(value ds : Int) else value ds), rest)
    else some (none, cs)
  | [] => some (none, cs)

/-- Reads a number. A zero stands alone before the point. -/
def readNumber? (cs : List Char) : Option (Decimal.Numeral × List Char) := do
  let (negative, cs) :=
    match cs with
    | '-' :: rest => (true, rest)
    | _ => (false, cs)
  let (whole, cs) ←
    match cs with
    | '0' :: rest => some (['0'], rest)
    | _ =>
      let (ds, rest) := splitDigits cs
      if ds.isEmpty then none else some (ds, rest)
  let (fraction, cs) ← readFraction? cs
  let (exponent, cs) ← readExponent? cs
  some ({ negative, whole, fraction, exponent }, cs)

/-! ### Documents -/

/-- Reads a word if it stands at the start of a text. -/
def readWord? (word : String) (j : Json) (cs : List Char) : Option (Json × List Char) :=
  let chars := word.toList
  if chars.isPrefixOf cs then some (j, cs.drop chars.length) else none

/-- The object with the given members, a name being `none` when it has no value. -/
def ofMembers (members : List (Option String × Json)) : Json :=
  match members.mapM fun m => m.1.map fun name => (name, m.2) with
  | some named => .object named
  | none => .unpaired

mutual

/-- Reads a document at the start of a text, in at most `steps` nested steps. -/
def readValue? : (steps : Nat) → List Char → Option (Json × List Char)
  | 0, _ => none
  | steps + 1, cs =>
    match skipSpace cs with
    | '\x7b' :: rest =>
      match skipSpace rest with
      | '\x7d' :: rest => some (.object [], rest)
      | rest => (readMembers? steps rest).map fun r => (ofMembers r.1, r.2)
    | '[' :: rest =>
      match skipSpace rest with
      | ']' :: rest => some (.array [], rest)
      | rest => (readElements? steps rest).map fun r => (.array r.1, r.2)
    | '"' :: rest =>
      (readString (some []) rest).map fun r =>
        ((r.1.map Json.string).getD .unpaired, r.2)
    | 'n' :: rest => readWord? "null" .null ('n' :: rest)
    | 't' :: rest => readWord? "true" (.bool true) ('t' :: rest)
    | 'f' :: rest => readWord? "false" (.bool false) ('f' :: rest)
    | cs => (readNumber? cs).map fun r => (.number r.1, r.2)

/-- Reads the elements of an array, up to its closing bracket. -/
def readElements? : (steps : Nat) → List Char → Option (List Json × List Char)
  | 0, _ => none
  | steps + 1, cs => do
    let (j, rest) ← readValue? steps cs
    match skipSpace rest with
    | ',' :: rest =>
      let (js, rest) ← readElements? steps rest
      some (j :: js, rest)
    | ']' :: rest => some ([j], rest)
    | _ => none

/-- Reads the members of an object, up to its closing brace. -/
def readMembers? : (steps : Nat) → List Char →
    Option (List (Option String × Json) × List Char)
  | 0, _ => none
  | steps + 1, cs =>
    match skipSpace cs with
    | '"' :: rest => do
      let (name, rest) ← readString (some []) rest
      match skipSpace rest with
      | ':' :: rest =>
        let (j, rest) ← readValue? steps rest
        match skipSpace rest with
        | ',' :: rest =>
          let (ms, rest) ← readMembers? steps rest
          some ((name, j) :: ms, rest)
        | '\x7d' :: rest => some ([(name, j)], rest)
        | _ => none
      | _ => none
    | _ => none

end

/-- The document that a text holds. -/
def parse? (text : String) : Option Json := do
  let cs := text.toList
  let (j, rest) ← readValue? (cs.length + 1) cs
  if (skipSpace rest).isEmpty then some j else none

end CharacterSheet.Json
