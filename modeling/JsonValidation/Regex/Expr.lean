import JsonValidation.Regex.CharSet

/-!
# Regular expressions

An expression describes pieces of a text. Only whether it matches somewhere is asked, so a group is
what it contains, and a repetition is the same whether it prefers many or few.

* `Look.holds`: whether an assertion holds between two characters.
* `Expr.depth`: how deep an expression is nested.
-/

namespace JsonValidation.Regex

/-- The assertions about a place between two characters. -/
inductive Look where
  | textStart
  | textEnd
  | lineStart
  | lineEnd
  /-- The start of a line, where a carriage return and a line feed end a line together or alone. -/
  | lineStartCrlf
  | lineEndCrlf
  | wordBoundary (ascii : Bool)
  | notWordBoundary (ascii : Bool)
  | wordStart (ascii : Bool)
  | wordEnd (ascii : Bool)
  | wordStartHalf (ascii : Bool)
  | wordEndHalf (ascii : Bool)
deriving DecidableEq

/-- Whether there is a character at a place and it is part of a word. -/
def isWordAt (ascii : Bool) : Option Char → Bool
  | some c => if ascii then CharSet.isAsciiWord c else Unicode.Property.isWord c
  | none => false

/-- Whether an assertion holds between the character before and the one after; there is none before
    the start and none after the end of the text. -/
def Look.holds (before after : Option Char) : Look → Bool
  | textStart => before.isNone
  | textEnd => after.isNone
  | lineStart => before.isNone || before == some '\n'
  | lineEnd => after.isNone || after == some '\n'
  | lineStartCrlf =>
    before.isNone || before == some '\n' || (before == some '\r' && after != some '\n')
  | lineEndCrlf =>
    after.isNone || after == some '\r' || (after == some '\n' && before != some '\r')
  | wordBoundary ascii => isWordAt ascii before != isWordAt ascii after
  | notWordBoundary ascii => isWordAt ascii before == isWordAt ascii after
  | wordStart ascii => !isWordAt ascii before && isWordAt ascii after
  | wordEnd ascii => isWordAt ascii before && !isWordAt ascii after
  | wordStartHalf ascii => !isWordAt ascii before
  | wordEndHalf ascii => !isWordAt ascii after

/-- A regular expression. -/
inductive Expr where
  /-- One character of a set. -/
  | chars (set : CharSet)
  | look (l : Look)
  | sequence (parts : List Expr)
  | alternation (options : List Expr)
  | repetition (e : Expr) (min : Nat) (max : Option Nat)
  | group (e : Expr)

namespace Expr

mutual

/-- How deep an expression is nested. -/
def depth : Expr → Nat
  | chars set => set.depth
  | look _ => 0
  | sequence parts => 1 + depthAll parts
  | alternation options => 1 + depthAll options
  | repetition e _ _ => 1 + depth e
  | group e => 1 + depth e

/-- The greatest depth of some expressions. -/
def depthAll : List Expr → Nat
  | [] => 0
  | e :: rest => max (depth e) (depthAll rest)

end

end Expr

end JsonValidation.Regex
