import JsonValidation.Regex.Matcher
import JsonValidation.Regex.Reader

/-!
# Patterns as regular expressions

A pattern matches a text if its expression matches somewhere in the text.

* `dialect`: the test of a pattern, or nothing if the pattern is malformed.
-/

namespace JsonValidation.Regex

/-- The texts that a pattern matches. -/
def dialect (pattern : String) : Option (String → Bool) :=
  match Expr.read pattern with
  | .ok e => some fun text => e.matchesText text
  | .error _ => none

end JsonValidation.Regex
