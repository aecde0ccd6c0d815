import DerivedQuery.MethodName.Token

/-!
# The keywords of a method name

A keyword is a sequence of camel words. The list has the keywords with more words first, so the
first one whose words stand at a place of a name is the longest one there.

Mirrors `KEYWORDS` and `keyword_at`.
-/

namespace DerivedQuery.MethodName

open DerivedQuery

/-- A keyword and the camel words it consists of: at least one. -/
structure Keyword where
  kind : TokenKind
  first : String
  others : List String
deriving DecidableEq, Repr

namespace Keyword

/-- The words of the keyword. -/
def words (k : Keyword) : List String := k.first :: k.others

/-- The keyword as it is spelled. -/
def text (k : Keyword) : String := String.join k.words

end Keyword

/-- All keywords but the operations, longest first. -/
def vocabulary : List Keyword := [
  ⟨.comparator .greaterThanEqual, "Greater", ["Than", "Equal"]⟩,
  ⟨.comparator .lessThanEqual, "Less", ["Than", "Equal"]⟩,
  ⟨.comparator .isNotNull, "Is", ["Not", "Null"]⟩,
  ⟨.comparator .greaterThan, "Greater", ["Than"]⟩,
  ⟨.comparator .lessThan, "Less", ["Than"]⟩,
  ⟨.comparator .notLike, "Not", ["Like"]⟩,
  ⟨.comparator .notIn, "Not", ["In"]⟩,
  ⟨.comparator .isNull, "Is", ["Null"]⟩,
  ⟨.comparator .startingWith, "Starting", ["With"]⟩,
  ⟨.comparator .endingWith, "Ending", ["With"]⟩,
  ⟨.orderBy, "Order", ["By"]⟩,
  ⟨.by, "By", []⟩,
  ⟨.and, "And", []⟩,
  ⟨.or, "Or", []⟩,
  ⟨.asc, "Asc", []⟩,
  ⟨.desc, "Desc", []⟩,
  ⟨.all, "All", []⟩,
  ⟨.selective, "Selective", []⟩,
  ⟨.comparator .like, "Like", []⟩,
  ⟨.comparator .in, "In", []⟩,
  ⟨.comparator .between, "Between", []⟩,
  ⟨.comparator .not, "Not", []⟩,
  ⟨.comparator .containing, "Containing", []⟩]

/-- The longest keyword at the start of a word and the pieces of the name after it, of which
`others` are the following words up to the next separator. -/
def keyword? (word : String) (others : List String) : Option Keyword :=
  vocabulary.find? fun k => k.first == word && k.others.isPrefixOf others

end DerivedQuery.MethodName
