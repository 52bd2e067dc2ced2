import JsonValidation.Unicode.Property

/-!
# Escaped text

Text between double quotes in which everything that does not show is written by its code: the unusual
blanks, what has no form of its own, what is not assigned, and what only extends the character before.
-/

namespace JsonValidation.Text

/-- Whether a character shows as itself. -/
def isPrintable (c : Char) : Bool :=
  match Unicode.Category.ofChar c with
  | .control | .format | .surrogate | .privateUse | .unassigned => false
  | .lineSeparator | .paragraphSeparator => false
  | .spaceSeparator => c == ' '
  | _ => true

/-- The digits of a number in lower-case hexadecimal. -/
def hexText (n : Nat) : List Char := Nat.toDigits 16 n

/-- One character between the quotes. -/
def escapeChar (c : Char) : List Char :=
  match c with
  | '\x00' => ['\\', '0']
  | '\t' => ['\\', 't']
  | '\r' => ['\\', 'r']
  | '\n' => ['\\', 'n']
  | '\\' => ['\\', '\\']
  | '"' => ['\\', '"']
  | c =>
    if isPrintable c && !Unicode.Binary.graphemeExtend.contains c.toNat then [c]
    else ['\\', 'u', '\x7b'] ++ hexText c.toNat ++ ['\x7d']

/-- A text between quotes with what does not show written by its code. -/
def escaped (s : String) : String := String.ofList ('"' :: s.toList.flatMap escapeChar ++ ['"'])

end JsonValidation.Text
