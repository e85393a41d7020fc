import ElementRules.Pattern.Reader

/-!
Wildcard patterns: a text of the pattern language together with the expression that it writes. A
pattern matches a candidate when the expression is found anywhere in it.
-/

namespace ElementRules

structure Wildcard where
  source : String
  regex : Pattern.Regex

namespace Wildcard

/-- The pattern that a text writes, if it is valid. -/
def ofText? (source : String) (ignoreCase : Bool) : Option Wildcard :=
  let s := source.toList
  (Pattern.Reader.readFrom? (s.length + 1) (Pattern.Reader.initial ignoreCase) s).map
    fun regex => ⟨source, regex⟩

def isIn (pattern : Wildcard) (candidate : String) : Bool :=
  pattern.regex.foundIn candidate.toList

end Wildcard

end ElementRules
