import CharacterSheet.Json

/-!
# Writing JSON texts

The text of a document, without blanks. Characters other than quotes, backslashes and
control characters are written as themselves.
-/

namespace CharacterSheet

namespace Decimal.Numeral

/-- The text of a numeral. -/
def chars (n : Numeral) : List Char :=
  (if n.negative then ['-'] else []) ++ n.whole ++
    (if n.fraction.isEmpty then [] else '.' :: n.fraction) ++
    (match n.exponent with
    | none => []
    | some e => 'e' :: (if e < 0 then ['-'] else []) ++ digits e.natAbs)

end Decimal.Numeral

namespace Json

/-- The four hexadecimal digits of a code unit. -/
def hexDigits (n : Nat) : List Char :=
  [n / 4096 % 16, n / 256 % 16, n / 16 % 16, n % 16].map Nat.digitChar

/-- A character inside a string. -/
def escape (c : Char) : List Char :=
  match c with
  | '"' => ['\\', '"']
  | '\\' => ['\\', '\\']
  | '\x08' => ['\\', 'b']
  | '\x0c' => ['\\', 'f']
  | '\n' => ['\\', 'n']
  | '\r' => ['\\', 'r']
  | '\t' => ['\\', 't']
  | c => if c.toNat < 0x20 then '\\' :: 'u' :: hexDigits c.toNat else [c]

/-- A string with its quotes. -/
def quote (s : String) : List Char :=
  '"' :: s.toList.flatMap escape ++ ['"']

mutual

/-- The text of a document. -/
def print : Json → List Char
  | .null => "null".toList
  | .bool true => "true".toList
  | .bool false => "false".toList
  | .number n => n.chars
  | .string s => quote s
  | .unpaired => ['"', '"']
  | .array elements => '[' :: printElements elements ++ [']']
  | .object members => '\x7b' :: printMembers members ++ ['\x7d']
termination_by structural j => j

def printElements : List Json → List Char
  | [] => []
  | j :: rest => print j ++ (if rest.isEmpty then [] else [',']) ++ printElements rest
termination_by structural js => js

def printMembers : List (String × Json) → List Char
  | [] => []
  | (name, j) :: rest =>
    quote name ++ ':' :: print j ++ (if rest.isEmpty then [] else [',']) ++ printMembers rest
termination_by structural ms => ms

end

/-- The text of a document. -/
def text (j : Json) : String := String.ofList j.print

end Json

end CharacterSheet
