import JsonValidation.Value.Basic

/-!
# Reading JSON text

A number without a fraction and without an exponent is an integer if 64 bits can hold it. Every other
number is the nearest binary64 number, and one that is too large for that is refused. A name that
occurs twice in an object keeps its last value.

* `Value.read?`: the value of a whole text, or nothing if the text is malformed.
-/

namespace JsonValidation.Value

/-! ## Numbers -/

/-- The number that a run of decimal digits writes. -/
def ofDigits (digits : List Char) : Nat :=
  digits.foldl (fun n c => 10 * n + (c.toNat - '0'.toNat)) 0

/-- The parts of a written number. -/
structure NumberText where
  negative : Bool
  whole : List Char
  fraction : Option (List Char)
  exponent : Option (Bool × List Char)

/-- Splits off a run of digits. -/
def spanDigits (cs : List Char) : List Char × List Char :=
  (cs.takeWhile Char.isDigit, cs.dropWhile Char.isDigit)

/-- Reads the parts of a number. -/
def readNumberText (cs : List Char) : Option (NumberText × List Char) := do
  let (negative, cs) := match cs with
    | '-' :: rest => (true, rest)
    | _ => (false, cs)
  let (whole, cs) := spanDigits cs
  if whole.isEmpty || (whole.length > 1 && whole.head? == some '0') then failure
  let (fraction, cs) ← match cs with
    | '.' :: rest =>
      let (digits, rest) := spanDigits rest
      if digits.isEmpty then failure else some (some digits, rest)
    | _ => some (none, cs)
  let (exponent, cs) ← match cs with
    | mark :: rest =>
      if mark == 'e' || mark == 'E' then
        let (negative, rest) := match rest with
          | '-' :: rest => (true, rest)
          | '+' :: rest => (false, rest)
          | _ => (false, rest)
        let (digits, rest) := spanDigits rest
        if digits.isEmpty then failure else some (some (negative, digits), rest)
      else some (none, cs)
    | [] => some (none, cs)
  return (⟨negative, whole, fraction, exponent⟩, cs)

/-- The integer that a number text writes, if 64 bits can hold it. A negative zero is no integer. -/
def NumberText.toInteger? (t : NumberText) : Option Integer :=
  let magnitude := ofDigits t.whole
  let n : Int := if t.negative then -magnitude else magnitude
  if h : -9223372036854775808 ≤ n ∧ n < 18446744073709551616 then
    if t.negative && magnitude == 0 then none else some ⟨n, by omega, by omega⟩
  else none

/-- Decimal exponents beyond this are refused. -/
def exponentLimit : Nat := 100000

/-- The binary64 number nearest to what a number text writes. -/
def NumberText.toFinite? (t : NumberText) : Option Binary64.Finite :=
  let fraction := t.fraction.getD []
  let exponent : Int := match t.exponent with
    | some (true, digits) => -(ofDigits digits : Int)
    | some (false, digits) => ofDigits digits
    | none => 0
  let exponent := exponent - (fraction.length : Int)
  if exponent.natAbs > exponentLimit then none
  else match Binary64.ofDecimal t.negative (ofDigits (t.whole ++ fraction)) exponent with
    | .finite x => some x
    | _ => none

/-- The number that a number text writes. -/
def NumberText.toNumber? (t : NumberText) : Option Number :=
  match t.fraction, t.exponent, t.toInteger? with
  | none, none, some n => some (.int n)
  | _, _, _ => t.toFinite?.map .float

/-! ## Strings -/

/-- The value of a hexadecimal digit. -/
def hexValue? (c : Char) : Option Nat :=
  if c.isDigit then some (c.toNat - '0'.toNat)
  else if 'a' ≤ c ∧ c ≤ 'f' then some (c.toNat - 'a'.toNat + 10)
  else if 'A' ≤ c ∧ c ≤ 'F' then some (c.toNat - 'A'.toNat + 10)
  else none

/-- The code unit that four hexadecimal digits write. -/
def codeUnit? (a b c d : Char) : Option Nat := do
  return ((← hexValue? a) * 16 + (← hexValue? b)) * 256 + (← hexValue? c) * 16 + (← hexValue? d)

/-- The character that a short escape stands for. -/
def shortEscape? : Char → Option Char
  | '"' => some '"'
  | '\\' => some '\\'
  | '/' => some '/'
  | 'b' => some '\x08'
  | 'f' => some '\x0c'
  | 'n' => some '\n'
  | 'r' => some '\r'
  | 't' => some '\t'
  | _ => none

/-- The character that two surrogate code units stand for. -/
def ofSurrogates? (high low : Nat) : Option Char :=
  if 0xD800 ≤ high ∧ high < 0xDC00 ∧ 0xDC00 ≤ low ∧ low < 0xE000 then
    some (Char.ofNat (0x10000 + (high - 0xD800) * 0x400 + (low - 0xDC00)))
  else none

/-- Reads a string up to its closing quote, after the opening one; the characters read so far come
    last first. -/
def readStringFrom (done : List Char) : List Char → Option (String × List Char)
  | [] => none
  | '"' :: rest => some (String.ofList done.reverse, rest)
  | '\\' :: 'u' :: a :: b :: c :: d :: rest =>
    match codeUnit? a b c d with
    | none => none
    | some unit =>
      if unit < 0xD800 ∨ 0xE000 ≤ unit then readStringFrom (Char.ofNat unit :: done) rest
      else match rest with
        | '\\' :: 'u' :: e :: f :: g :: h :: rest =>
          match (codeUnit? e f g h).bind (ofSurrogates? unit) with
          | some paired => readStringFrom (paired :: done) rest
          | none => none
        | _ => none
  | '\\' :: c :: rest =>
    match shortEscape? c with
    | some c => readStringFrom (c :: done) rest
    | none => none
  | c :: rest => if c.toNat < 0x20 then none else readStringFrom (c :: done) rest

/-! ## Values -/

/-- Drops leading blanks. -/
def skipBlanks (cs : List Char) : List Char :=
  cs.dropWhile fun c => c == ' ' || c == '\n' || c == '\r' || c == '\t'

mutual

/-- Reads a value and returns what follows it. Every call but the first is preceded by a character,
    so that `fuel` above the length of the text is enough. -/
def readValue (fuel : Nat) (cs : List Char) : Option (Value × List Char) :=
  match fuel with
  | 0 => none
  | fuel + 1 =>
    match skipBlanks cs with
    | 'n' :: 'u' :: 'l' :: 'l' :: rest => some (null, rest)
    | 't' :: 'r' :: 'u' :: 'e' :: rest => some (bool true, rest)
    | 'f' :: 'a' :: 'l' :: 's' :: 'e' :: rest => some (bool false, rest)
    | '"' :: rest => (readStringFrom [] rest).map fun (s, rest) => (string s, rest)
    | '[' :: rest =>
      match skipBlanks rest with
      | ']' :: rest => some (array [], rest)
      | rest => readItems fuel [] rest
    | '\x7b' :: rest =>
      match skipBlanks rest with
      | '\x7d' :: rest => some (object [], rest)
      | rest => readMembers fuel [] rest
    | cs => do
      let (text, rest) ← readNumberText cs
      return (number (← text.toNumber?), rest)

/-- Reads the items of an array up to its end; the items read so far come last first. -/
def readItems (fuel : Nat) (done : List Value) (cs : List Char) : Option (Value × List Char) :=
  match fuel with
  | 0 => none
  | fuel + 1 =>
    match readValue fuel cs with
    | none => none
    | some (item, rest) =>
      match skipBlanks rest with
      | ',' :: rest => readItems fuel (item :: done) rest
      | ']' :: rest => some (array (item :: done).reverse, rest)
      | _ => none

/-- Reads the members of an object up to its end. -/
def readMembers (fuel : Nat) (done : Members) (cs : List Char) : Option (Value × List Char) :=
  match fuel with
  | 0 => none
  | fuel + 1 =>
    match skipBlanks cs with
    | '"' :: rest =>
      match readStringFrom [] rest with
      | none => none
      | some (name, rest) =>
        match skipBlanks rest with
        | ':' :: rest =>
          match readValue fuel rest with
          | none => none
          | some (value, rest) =>
            let done := done.insert name value
            match skipBlanks rest with
            | ',' :: rest => readMembers fuel done rest
            | '\x7d' :: rest => some (object done, rest)
            | _ => none
        | _ => none
    | _ => none

end

/-- The value of a JSON text. -/
def read? (text : String) : Option Value :=
  let cs := text.toList
  match readValue (cs.length + 1) cs with
  | some (value, rest) => if (skipBlanks rest).isEmpty then some value else none
  | none => none

end JsonValidation.Value
