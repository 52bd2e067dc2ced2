import JsonValidation.Regex.Scan

/-!
# Reading patterns

A pattern is read from left to right. Groups and brackets nest, so that the readers call each other;
every call is preceded by a character of the pattern, which bounds their number.

* `readAlternation`: an expression up to the end of its group.
* `readBrackets`: a set in brackets.
* `Expr.read`: the expression of a whole pattern, or why there is none.
-/

namespace JsonValidation.Regex

/-- What an escape or a plain character stands for. -/
inductive Atom where
  | char (c : Char)
  /-- A byte outside ASCII, if bytes are meant. -/
  | byte (c : Char)
  | set (s : CharSet)
  | look (l : Look)

/-! ## Sets under the flags -/

/-- What differs in case only, if case does not count. -/
def Flags.fold (f : Flags) (s : CharSet) : CharSet :=
  if f.caseless then (if f.unicode then .caseless s else .caselessAscii s) else s

/-- The complement of a set, if it is negated. -/
def negateIf (negated : Bool) (s : CharSet) : CharSet := if negated then .complement s else s

/-- A set that stands alone; it has to be one of ASCII where only bytes are meant. -/
def Flags.setExpr (f : Flags) (s : CharSet) : Reader Expr :=
  if f.unicode || s.isAscii then return .chars s else throw .notAscii

/-- The expression of an atom. -/
def Flags.atomExpr (f : Flags) : Atom → Reader Expr
  | .char c => return .chars (f.fold (.single c))
  | .byte _ => throw .notAscii
  | .set s => f.setExpr s
  | .look l => return .look l

/-- The set of any character. -/
def Flags.dot (f : Flags) : Reader Expr :=
  if !f.unicode then throw .notAscii
  else if f.dotAll then return .chars (.property .any)
  else if f.crlf then return .chars (.complement (.ofRanges [('\n', '\n'), ('\r', '\r')]))
  else return .chars (.complement (.single '\n'))

/-- The start of the text, or of a line. -/
def Flags.caret (f : Flags) : Look :=
  if f.multiLine then (if f.crlf then .lineStartCrlf else .lineStart) else .textStart

/-- The end of the text, or of a line. -/
def Flags.dollar (f : Flags) : Look :=
  if f.multiLine then (if f.crlf then .lineEndCrlf else .lineEnd) else .textEnd

/-! ## Escapes -/

/-- Characters with a meaning of their own, which an escape takes from them. -/
def isMeta (c : Char) : Bool := "\\.+*?()|[]\x7b\x7d^$#&-~".toList.contains c

/-- Characters that can be escaped to stand for themselves. -/
def isEscapable (c : Char) : Bool :=
  isMeta c || (c.toNat < 0x80 && !c.isAlphanum && c != '<' && c != '>')

/-- The set of a class such as `\d`, by its letter in lower case. -/
def Flags.shorthand (f : Flags) : Char → CharSet
  | 'd' => if f.unicode then .digit else .ofRanges [('0', '9')]
  | 's' =>
    if f.unicode then .space else .ofRanges [('\t', '\r'), (' ', ' ')]
  | _ =>
    if f.unicode then .word
    else .ofRanges [('0', '9'), ('A', 'Z'), ('_', '_'), ('a', 'z')]

/-- The characters up to a closing brace, without blanks under the flag `x`. -/
def textInBraces (verbose : Bool) : List Char → Option (List Char × List Char)
  | [] => none
  | '\x7d' :: rest => some ([], rest)
  | c :: rest =>
    match textInBraces verbose rest with
    | some (text, rest) =>
      some (if verbose && Unicode.Property.isSpace c then text else c :: text, rest)
    | none => none

/-- Splits a text at the first place where another text stands. -/
def splitAt? (separator : List Char) : List Char → Option (List Char × List Char)
  | [] => none
  | c :: rest =>
    if separator.isPrefixOf (c :: rest) then some ([], (c :: rest).drop separator.length)
    else (splitAt? separator rest).map fun (before, after) => (c :: before, after)

/-- The property that a text in braces names, and whether it is excluded. -/
def namedProperty? (text : List Char) : Option (Unicode.Property × Bool) :=
  let valued (parts : List Char × List Char) (excluded : Bool) :=
    (Unicode.Property.ofNameAndValue? (String.ofList parts.1) (String.ofList parts.2)).map
      fun p => (p, excluded)
  match splitAt? ['!', '='] text, splitAt? [':'] text, splitAt? ['='] text with
  | some parts, _, _ => valued parts true
  | none, some parts, _ => valued parts false
  | none, none, some parts => valued parts false
  | none, none, none => (Unicode.Property.ofName? (String.ofList text)).map fun p => (p, false)

/-- Reads the name of a property, after `\p` or `\P`. -/
def readProperty (negated : Bool) : Reader Atom := do
  let f := (← get).flags
  skipBlanks
  let found ← match ← next .escape with
    | '\x7b' =>
      let s ← get
      match textInBraces f.verbose s.rest with
      | none => throw .escape
      | some (text, rest) => set { s with rest := rest }; pure (namedProperty? text)
    | '\\' => throw .escape
    | c => pure ((Unicode.Property.ofName? (String.ofList [c])).map fun p => (p, false))
  match found with
  | none => throw .unknownProperty
  | some (p, excluded) =>
    if !f.unicode then throw .notAscii
    return .set (negateIf (negated != excluded) (f.fold (.property p)))

/-- Reads a code point in hexadecimal, after `\x`, `\u` or `\U`. -/
def readHex (digits : Nat) : Reader Atom := do
  let f := (← get).flags
  skipBlanks
  if ← bumpIf ['\x7b'] then
    let s ← get
    match hexInBraces f.verbose s.rest 0 with
    | none => throw .escape
    | some (n, rest) =>
      if s.rest.head? == some '\x7d' then throw .escape
      set { s with rest := rest }
      skipBlanks
      return .char (← charOf n)
  else
    let n ← readHexDigits digits 0
    let c ← charOf n
    return if !f.unicode && digits == 2 && 0x80 ≤ n then .byte c else .char c

/-- Reads what can follow `\b` in braces. It is a count instead if its first character is none of a
    name. -/
def readWordBoundary (ascii : Bool) : Reader Look := do
  let s ← get
  if s.rest.head? != some '\x7b' then return .wordBoundary ascii
  let isNameChar (c : Char) : Bool := c.isAlpha || c == '-'
  bumpAndSkip
  match (← get).rest with
  | [] => throw .wordBoundary
  | c :: rest =>
    if !isNameChar c then
      set s
      return .wordBoundary ascii
    let counts (c : Char) : Bool := isNameChar c || (s.flags.verbose && Unicode.Property.isSpace c)
    let name := (c :: rest).takeWhile counts
    match (c :: rest).dropWhile counts with
    | '\x7d' :: rest =>
      modify fun s => { s with rest := rest }
      match String.ofList (name.filter isNameChar) with
      | "start" => return .wordStart ascii
      | "end" => return .wordEnd ascii
      | "start-half" => return .wordStartHalf ascii
      | "end-half" => return .wordEndHalf ascii
      | _ => throw .wordBoundary
    | _ => throw .wordBoundary

/-- Reads an escape, after its backslash. -/
def readEscape : Reader Atom := do
  let f := (← get).flags
  let ascii := !f.unicode
  let c ← next .escape
  match c with
  | 'x' => readHex 2
  | 'u' => readHex 4
  | 'U' => readHex 8
  | 'p' => readProperty false
  | 'P' => readProperty true
  | 'd' | 's' | 'w' => return .set (f.shorthand c)
  | 'D' | 'S' | 'W' => return .set (.complement (f.shorthand c.toLower))
  | 'a' => return .char '\x07'
  | 'f' => return .char '\x0c'
  | 't' => return .char '\t'
  | 'n' => return .char '\n'
  | 'r' => return .char '\r'
  | 'v' => return .char '\x0b'
  | 'A' => return .look .textStart
  | 'z' => return .look .textEnd
  | 'b' => return .look (← readWordBoundary ascii)
  | 'B' => return .look (.notWordBoundary ascii)
  | '<' => return .look (.wordStart ascii)
  | '>' => return .look (.wordEnd ascii)
  | c => if isEscapable c then return .char c else throw .escape

/-! ## Brackets -/

/-- Reads a class such as `[:alpha:]`, if there is one. -/
def readAsciiClass? : Reader (Option CharSet) := do
  let s ← get
  match s.rest with
  | '[' :: ':' :: rest =>
    let (negated, rest) := match rest with
      | '^' :: rest => (true, rest)
      | _ => (false, rest)
    match rest.dropWhile (· != ':') with
    | ':' :: ']' :: after =>
      match CharSet.asciiClass? (String.ofList (rest.takeWhile (· != ':'))) with
      | some set =>
        modify fun s => { s with rest := after }
        return some (negateIf negated (s.flags.fold set))
      | none => return none
    | _ => return none
  | _ => return none

/-- One end of a range, or an item that stands alone. -/
def readSetAtom : Reader Atom := do
  match ← next .classUnclosed with
  | '\\' => readEscape
  | c => return .char c

/-- The character that an end of a range is. -/
def rangeEnd : Atom → Reader Char
  | .char c => do
    if (← get).flags.unicode || c.toNat < 0x80 then return c else throw .notAscii
  | .byte _ => throw .notAscii
  | _ => throw .classRange

/-- The set of an item that stands alone. -/
def itemSet : Atom → Reader CharSet
  | .set s => return s
  | .look _ => throw .classItem
  | a => return .single (← rangeEnd a)

/-- Reads an item of a set, which can be a range. -/
def readSetItem : Reader CharSet := do
  let low ← readSetAtom
  skipBlanks
  match ← peek with
  | none => throw .classUnclosed
  | some c =>
    let beyond ← peekBeyond
    if c != '-' || beyond == some ']' || beyond == some '-' then itemSet low
    else
      bumpAndSkip
      let high ← readSetAtom
      let a ← rangeEnd low
      let b ← rangeEnd high
      if a ≤ b then return .range a b else throw .classRange

/-- The set of several items. -/
def unionOf : List CharSet → CharSet
  | [s] => s
  | items => .union items

/-- What has been read of a set: the operation that waits for its right side, with its left side, and
    the items after it, the last first. -/
structure OpenSet where
  waiting : Option (SetOperation × CharSet) := none
  items : List CharSet := []

/-- The set that has been read. Where case does not count, it does not on either side of an
    operation. -/
def OpenSet.close (o : OpenSet) (f : Flags) : CharSet :=
  let right := unionOf o.items.reverse
  match o.waiting with
  | some (op, left) => .operation op (f.fold left) (f.fold right)
  | none => right

/-- The operation that two characters are written for. -/
def setOperation? : List Char → Option SetOperation
  | '&' :: '&' :: _ => some .intersection
  | '-' :: '-' :: _ => some .difference
  | '~' :: '~' :: _ => some .symmetricDifference
  | _ => none

/-- Reads hyphens that stand for themselves at the start of a set. -/
def readHyphens : Nat → Reader (List CharSet)
  | 0 => return []
  | fuel + 1 => do
    match ← peek with
    | none => throw .classUnclosed
    | some '-' =>
      bumpAndSkip
      return .single '-' :: (← readHyphens fuel)
    | some _ => return []

/-- Reads the start of a set, after its opening bracket: whether it is negated, and the hyphens or the
    closing bracket that stand for themselves. -/
def readOpening : Reader (Bool × List CharSet) := do
  skipBlanks
  let negated ← bumpIf ['^']
  if negated then skipBlanks
  let hyphens ← readHyphens ((← get).rest.length + 1)
  if hyphens.isEmpty && (← peek) == some ']' then
    bumpAndSkip
    if (← peek).isNone then throw .classUnclosed
    return (negated, [.single ']'])
  return (negated, hyphens)

mutual

/-- Reads a set in brackets, after its opening bracket. -/
def readBrackets (fuel : Nat) : Reader CharSet := do
  match fuel with
  | 0 => throw .tooDeep
  | fuel + 1 =>
    let f := (← get).flags
    let (negated, items) ← readOpening
    let set ← readSetItems fuel { items := items.reverse }
    return .bracketed (negateIf negated (f.fold set))

/-- Reads the items and operations of a set up to its closing bracket. -/
def readSetItems (fuel : Nat) (o : OpenSet) : Reader CharSet := do
  match fuel with
  | 0 => throw .tooDeep
  | fuel + 1 =>
    skipBlanks
    let s ← get
    match setOperation? s.rest, s.rest with
    | some op, _ =>
      bump
      bump
      readSetItems fuel { waiting := some (op, o.close s.flags) }
    | none, [] => throw .classUnclosed
    | none, ']' :: _ =>
      bump
      return o.close s.flags
    | none, '[' :: _ =>
      match ← readAsciiClass? with
      | some set => readSetItems fuel { o with items := set :: o.items }
      | none =>
        bump
        let set ← readBrackets fuel
        readSetItems fuel { o with items := set :: o.items }
    | none, _ =>
      let set ← readSetItem
      readSetItems fuel { o with items := set :: o.items }

end

/-! ## Repetitions -/

/-- A question mark after a repetition, which does not change what matches. -/
def skipPreference : Reader Unit := do
  let _ ← bumpIf ['?']

/-- Reads the bounds of a repetition in braces, after the opening brace. -/
def readBounds : Reader (Nat × Option Nat) := do
  skipBlanks
  if (← peek).isNone then throw .repetitionCount
  let least ← readCount
  let most ← if ← bumpIf [','] then
      skipBlanks
      if (← peek) == some '\x7d' then pure none else pure (some (← readCount))
    else pure (some least)
  if ← bumpIf ['\x7d'] then
    skipBlanks
    skipPreference
    match most with
    | some n => if least ≤ n then return (least, most) else throw .repetitionCount
    | none => return (least, none)
  else throw .repetitionCount

/-- The items of a sequence, the last first; flags are items that cannot be repeated. -/
abbrev Items := List (Option Expr)

/-- The items with the last of them repeated. -/
def repeatLast (items : Items) (min : Nat) (max : Option Nat) : Reader Items :=
  match items with
  | some e :: rest => return some (.repetition e min max) :: rest
  | _ => throw .nothingToRepeat

/-- The expression of the items of a sequence. -/
def sequenceOf (items : Items) : Expr :=
  match items.reverse.filterMap id with
  | [e] => e
  | parts => .sequence parts

/-- The expression of the options of an alternation, the last first. -/
def alternationOf : List Expr → Expr
  | [e] => e
  | options => .alternation options.reverse

/-! ## Groups -/

/-- Characters of a group name. -/
def isNameChar (first : Bool) (c : Char) : Bool :=
  c == '_' || Unicode.Binary.alphabetic.contains c.toNat ||
    (!first && (c == '.' || c == '[' || c == ']' ||
      (match Unicode.Category.ofChar c with
        | .decimalNumber | .letterNumber | .otherNumber => true
        | _ => false)))

/-- Reads the name of a group up to its closing angle bracket; a name can be used once. -/
def readGroupName : Reader Unit := do
  let s ← get
  let name := s.rest.takeWhile (· != '>')
  match s.rest.drop name.length with
  | '>' :: rest =>
    let valid := match name with
      | first :: others => isNameChar true first && others.all (isNameChar false)
      | [] => false
    if !valid then throw .groupName
    let name := String.ofList name
    if s.names.contains name then throw .groupNameTwice
    set { s with rest := rest, names := name :: s.names }
  | _ => throw .groupName

/-- What the start of a group turned out to be. -/
inductive GroupStart where
  /-- A group to be read with these flags. -/
  | opened (flags : Flags)
  /-- Flags for what follows. -/
  | flags

/-- Reads the start of a group, after its opening parenthesis. -/
def readGroupStart : Reader GroupStart := do
  skipBlanks
  let s ← get
  match s.rest with
  | '?' :: '=' :: _ | '?' :: '!' :: _ => throw .lookAround
  | '?' :: '<' :: '=' :: _ | '?' :: '<' :: '!' :: _ => throw .lookAround
  | '?' :: 'P' :: '<' :: rest | '?' :: '<' :: rest =>
    set { s with rest := rest }
    readGroupName
    return .opened s.flags
  | '?' :: rest =>
    match readFlags [] true s.flags rest with
    | .error e => throw e
    | .ok (flags, used, rest) =>
      match rest with
      | ':' :: rest =>
        set { s with rest := rest }
        return .opened flags
      | ')' :: rest =>
        if used.isEmpty then throw .nothingToRepeat
        set { s with rest := rest, flags := flags }
        return .flags
      | _ => throw .flag
  | _ => return .opened s.flags

mutual

/-- Reads an alternation up to the closing parenthesis of its group, which is left, or up to the end:
    the options so far and the items of the current one come last first. -/
def readAlternation (fuel : Nat) (options : List Expr) (items : Items) : Reader Expr := do
  match fuel with
  | 0 => throw .tooDeep
  | fuel + 1 =>
    skipBlanks
    let s ← get
    let f := s.flags
    match s.rest with
    | [] | ')' :: _ => return alternationOf (sequenceOf items :: options)
    | '(' :: _ =>
      bump
      let item ← readGroup fuel
      readAlternation fuel options (item :: items)
    | '|' :: _ =>
      bump
      readAlternation fuel (sequenceOf items :: options) []
    | '[' :: _ =>
      bump
      let set ← readBrackets fuel
      let e ← f.setExpr set
      readAlternation fuel options (some e :: items)
    | '?' :: _ =>
      bump
      skipPreference
      readAlternation fuel options (← repeatLast items 0 (some 1))
    | '*' :: _ =>
      bump
      skipPreference
      readAlternation fuel options (← repeatLast items 0 none)
    | '+' :: _ =>
      bump
      skipPreference
      readAlternation fuel options (← repeatLast items 1 none)
    | '\x7b' :: _ =>
      bump
      let (least, most) ← readBounds
      readAlternation fuel options (← repeatLast items least most)
    | '\\' :: _ =>
      bump
      let e ← f.atomExpr (← readEscape)
      readAlternation fuel options (some e :: items)
    | '.' :: _ =>
      bump
      readAlternation fuel options (some (← f.dot) :: items)
    | '^' :: _ =>
      bump
      readAlternation fuel options (some (.look f.caret) :: items)
    | '$' :: _ =>
      bump
      readAlternation fuel options (some (.look f.dollar) :: items)
    | c :: _ =>
      bump
      let e ← f.atomExpr (.char c)
      readAlternation fuel options (some e :: items)

/-- Reads a group, after its opening parenthesis. Flags that are set inside hold up to its end; there
    is no item if there are flags only. -/
def readGroup (fuel : Nat) : Reader (Option Expr) := do
  match fuel with
  | 0 => throw .tooDeep
  | fuel + 1 =>
    let outer := (← get).flags
    match ← readGroupStart with
    | .flags => return none
    | .opened flags =>
      modify fun s => { s with flags := flags }
      let e ← readAlternation fuel [] []
      if ← bumpIf [')'] then
        modify fun s => { s with flags := outer }
        return some (.group e)
      else throw .groupUnclosed

end

/-! ## Whole patterns -/

/-- How deep an expression can be nested. -/
def depthLimit : Nat := 250

/-- The expression of a pattern. -/
def Expr.read (pattern : String) : Except SyntaxError Expr := do
  let cs := pattern.toList
  let (e, s) ← (readAlternation (2 * cs.length + 2) [] []).run { rest := cs }
  if !s.rest.isEmpty then throw .groupUnopened
  if e.depth > depthLimit then throw .tooDeep
  return e

end JsonValidation.Regex
