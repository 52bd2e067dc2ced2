import JsonValidation.Unicode.Case
import JsonValidation.Unicode.Property

/-!
# Sets of characters

The sets that a pattern can describe, as the operations they are written with. Nothing is expanded:
whether a character belongs to a set is worked out from its parts.

* `CharSet.contains`: membership.
* `CharSet.depth`: how deep brackets and operations are nested.
-/

namespace JsonValidation.Regex

/-- The operations on two sets inside brackets. -/
inductive SetOperation where
  | intersection
  | difference
  | symmetricDifference
deriving DecidableEq

/-- A set of characters. -/
inductive CharSet where
  | range (low high : Char)
  | property (p : Unicode.Property)
  | word
  | digit
  | space
  | union (sets : List CharSet)
  | operation (o : SetOperation) (left right : CharSet)
  | complement (set : CharSet)
  /-- What differs from a character of the set in case only. -/
  | caseless (set : CharSet)
  /-- The same for the letters of ASCII only. -/
  | caselessAscii (set : CharSet)
  /-- A set in brackets. -/
  | bracketed (set : CharSet)

namespace CharSet

/-- The set of one character. -/
def single (c : Char) : CharSet := range c c

/-- A set of single characters and ranges. -/
def ofRanges (ranges : List (Char × Char)) : CharSet := union (ranges.map fun (a, b) => range a b)

/-- The other case of a letter of ASCII, and the character itself. -/
def asciiVariants (c : Char) : List Char := [c, c.toLower, c.toUpper]

mutual

/-- Whether a character belongs to a set. -/
def contains : CharSet → Char → Bool
  | range low high, c => low ≤ c && c ≤ high
  | property p, c => p.contains c
  | word, c => Unicode.Property.isWord c
  | digit, c => Unicode.Property.isDigit c
  | space, c => Unicode.Property.isSpace c
  | union sets, c => containsAny sets c
  | operation o left right, c =>
    match o with
    | .intersection => contains left c && contains right c
    | .difference => contains left c && !contains right c
    | .symmetricDifference => contains left c != contains right c
  | complement set, c => !contains set c
  | caseless set, c => (Unicode.Case.variants c).any fun other => contains set other
  | caselessAscii set, c => (asciiVariants c).any fun other => contains set other
  | bracketed set, c => contains set c

/-- Whether a character belongs to one of some sets. -/
def containsAny : List CharSet → Char → Bool
  | [], _ => false
  | set :: rest, c => contains set c || containsAny rest c

end

/-- Whether a set has characters of ASCII only, looking at those that one byte can name. -/
def isAscii (set : CharSet) : Bool :=
  (List.range 128).all fun n => !set.contains (Char.ofNat (n + 128))

mutual

/-- How deep brackets and operations are nested. -/
def depth : CharSet → Nat
  | union sets => 1 + depthAll sets
  | operation _ left right => 1 + max (depth left) (depth right)
  | complement set => depth set
  | caseless set => depth set
  | caselessAscii set => depth set
  | bracketed set => 1 + depth set
  | _ => 0

/-- The greatest depth of some sets. -/
def depthAll : List CharSet → Nat
  | [] => 0
  | set :: rest => max (depth set) (depthAll rest)

end

/-! ## The classes of ASCII -/

/-- The class of ASCII with a name. -/
def asciiClass? : String → Option CharSet
  | "alnum" => some (ofRanges [('0', '9'), ('A', 'Z'), ('a', 'z')])
  | "alpha" => some (ofRanges [('A', 'Z'), ('a', 'z')])
  | "ascii" => some (ofRanges [('\x00', '\x7f')])
  | "blank" => some (ofRanges [('\t', '\t'), (' ', ' ')])
  | "cntrl" => some (ofRanges [('\x00', '\x1f'), ('\x7f', '\x7f')])
  | "digit" => some (ofRanges [('0', '9')])
  | "graph" => some (ofRanges [('!', '~')])
  | "lower" => some (ofRanges [('a', 'z')])
  | "print" => some (ofRanges [(' ', '~')])
  | "punct" => some (ofRanges [('!', '/'), (':', '@'), ('[', '\x60'), ('\x7b', '~')])
  | "space" => some (ofRanges [('\t', '\r'), (' ', ' ')])
  | "upper" => some (ofRanges [('A', 'Z')])
  | "word" => some (ofRanges [('0', '9'), ('A', 'Z'), ('_', '_'), ('a', 'z')])
  | "xdigit" => some (ofRanges [('0', '9'), ('A', 'F'), ('a', 'f')])
  | _ => none

/-- Characters that are part of words of ASCII. -/
def isAsciiWord (c : Char) : Bool := c.isAlphanum || c == '_'

end CharSet

end JsonValidation.Regex
