import JsonValidation.Regex.Expr

/-!
# Scanning a pattern

What is left of a pattern, the flags in force, and the group names used so far; and the steps that
readers of patterns are made from.

* `Scan.skipBlanks`: under the flag `x`, blanks and comments do not count.
* `readFlags`: the letters between `(?` and `)` or `:`.
-/

namespace JsonValidation.Regex

/-- Why a pattern is malformed. -/
inductive SyntaxError where
  | groupUnclosed
  | groupUnopened
  | groupName
  | groupNameTwice
  | lookAround
  | flag
  | nothingToRepeat
  | repetitionCount
  | escape
  | wordBoundary
  | unknownProperty
  | classUnclosed
  | classRange
  | classItem
  /-- A character outside ASCII, or a set with one, where only bytes are meant. -/
  | notAscii
  | tooDeep
deriving DecidableEq

/-- The flags that change how a pattern is read. -/
structure Flags where
  caseless : Bool := false
  multiLine : Bool := false
  dotAll : Bool := false
  unicode : Bool := true
  verbose : Bool := false
  crlf : Bool := false

/-- What is left of a pattern, and what was set before. -/
structure Scan where
  rest : List Char
  flags : Flags := {}
  names : List String := []

/-- A reader of a part of a pattern. -/
abbrev Reader := StateT Scan (Except SyntaxError)

/-! ## Characters -/

/-- Without leading blanks and comments; inside a comment nothing counts up to the end of the line. -/
def dropBlanks (inComment : Bool) : List Char → List Char
  | [] => []
  | c :: rest =>
    if inComment then dropBlanks (c != '\n') rest
    else if Unicode.Property.isSpace c then dropBlanks false rest
    else if c == '#' then dropBlanks true rest
    else c :: rest

/-- Skips blanks and comments under the flag `x`. -/
def skipBlanks : Reader Unit := modify fun s =>
  if s.flags.verbose then { s with rest := dropBlanks false s.rest } else s

/-- The next character. -/
def peek : Reader (Option Char) := return (← get).rest.head?

/-- Steps over a character. -/
def bump : Reader Unit := modify fun s => { s with rest := s.rest.drop 1 }

/-- Steps over a character and the blanks after it. -/
def bumpAndSkip : Reader Unit := do bump; skipBlanks

/-- The next character, which is stepped over, or a failure at the end. -/
def next (e : SyntaxError) : Reader Char := do
  match (← get).rest with
  | [] => throw e
  | c :: rest => modify fun s => { s with rest := rest }; return c

/-- Steps over a given text if it is next. -/
def bumpIf (text : List Char) : Reader Bool := do
  let s ← get
  if text.isPrefixOf s.rest then
    set { s with rest := s.rest.drop text.length }
    return true
  else return false

/-- What follows the next character; under the flag `x` without the blanks after it and one mark of a
    comment. -/
def peekBeyond : Reader (Option Char) := do
  let s ← get
  let beyond := s.rest.drop 1
  if !s.flags.verbose then return beyond.head?
  match beyond.dropWhile Unicode.Property.isSpace with
  | '#' :: rest => return (rest.dropWhile Unicode.Property.isSpace).head?
  | rest => return rest.head?

/-! ## Numbers -/

/-- A decimal number in braces, between blanks; counts go up to 32 bits. -/
def readCount : Reader Nat := do
  modify fun s => { s with rest := s.rest.dropWhile Unicode.Property.isSpace }
  let s ← get
  -- Under the flag `x` blanks between the digits do not count either.
  let digits := takeDigits s.flags.verbose s.rest
  let rest := digits.2.dropWhile Unicode.Property.isSpace
  set { s with rest := rest }
  skipBlanks
  if digits.1.isEmpty then throw .repetitionCount
  let n := digits.1.foldl (fun n c => 10 * n + (c.toNat - '0'.toNat)) 0
  if n < 4294967296 then return n else throw .repetitionCount
where
  takeDigits (verbose : Bool) : List Char → List Char × List Char
    | [] => ([], [])
    | c :: rest =>
      if c.isDigit then
        let (digits, rest) := takeDigits verbose rest
        (c :: digits, rest)
      else if verbose && Unicode.Property.isSpace c then takeDigits verbose rest
      else ([], c :: rest)

/-- The value of a hexadecimal digit. -/
def hexDigit? (c : Char) : Option Nat := Unicode.hexDigit? c.toLower

/-- The character with a code point. -/
def charOf (n : Nat) : Reader Char :=
  if n.isValidChar then return Char.ofNat n else throw .escape

/-- That many hexadecimal digits. -/
def readHexDigits : Nat → Nat → Reader Nat
  | 0, n => return n
  | k + 1, n => do
    let c ← next .escape
    skipBlanks
    match hexDigit? c with
    | some d => readHexDigits k (16 * n + d)
    | none => throw .escape

/-- Hexadecimal digits up to a closing brace, between which blanks may be skipped. -/
def hexInBraces (verbose : Bool) : List Char → Nat → Option (Nat × List Char)
  | [], _ => none
  | '\x7d' :: rest, n => some (n, rest)
  | c :: rest, n =>
    match hexDigit? c with
    | some d => hexInBraces verbose rest (16 * n + d)
    | none => if verbose && Unicode.Property.isSpace c then hexInBraces verbose rest n else none

/-! ## Flags -/

/-- A flag with the value that it is given. -/
def Flags.with? (f : Flags) (letter : Char) (on : Bool) : Option Flags :=
  match letter with
  | 'i' => some { f with caseless := on }
  | 'm' => some { f with multiLine := on }
  | 's' => some { f with dotAll := on }
  | 'u' => some { f with unicode := on }
  | 'x' => some { f with verbose := on }
  | 'R' => some { f with crlf := on }
  | 'U' => some f
  | _ => none

/-- Reads flags up to a closing parenthesis or a colon, which is left. A letter can stand once, and a
    minus sign, which can stand once too, turns off what follows it and has to be followed. -/
def readFlags (used : List Char) (on : Bool) (flags : Flags) :
    List Char → Except SyntaxError (Flags × List Char × List Char)
  | [] => .error .flag
  | c :: rest =>
    if c == ':' || c == ')' then
      if used.head? == some '-' then .error .flag else .ok (flags, used, c :: rest)
    else if used.contains c then .error .flag
    else if c == '-' then readFlags (c :: used) false flags rest
    else
      match flags.with? c on with
      | some flags => readFlags (c :: used) on flags rest
      | none => .error .flag

end JsonValidation.Regex
