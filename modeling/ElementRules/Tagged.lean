/-!
Closed vocabularies. A `Tagged` type lists its members and gives each the tag under which it is
stored; reading a tag is a search of that list.
-/

namespace ElementRules

class Tagged (α : Type) where
  /-- Every member, in declaration order. -/
  all : List α
  /-- The stored name of a member. -/
  tag : α → String

export Tagged (tag)

/-- The member with this tag. -/
def ofTag? {α : Type} [Tagged α] (s : String) : Option α :=
  (Tagged.all : List α).find? fun member => tag member == s

end ElementRules
