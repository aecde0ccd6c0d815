import DerivedQuery.MethodName.Vocabulary
import DerivedQuery.Naming.Camel
import DerivedQuery.Query.Basic

/-!
# Phrases

A `Phrase` is what the grammar of method names can express, part by part as it is spelled:

    Phrase    := Operation All? Selective? (By Group (Or Group)*)? (OrderBy SortPhrase+)?
    Group     := Selective? Term (And Term)*
    Term      := Path Comparator? Selective?
    Path      := Segment (_ Segment)*
    SortPhrase := Path (Asc | Desc)?

`Phrase.toQuery` is the query a phrase stands for and `Phrase.spell` the name it is spelled as.
-/

namespace DerivedQuery.MethodName

open DerivedQuery Naming

/-- A property by the segments of its path as they are spelled, and how it is compared. -/
structure Term where
  segments : List String
  comparator : Comparator
  selective : Bool
deriving DecidableEq, Repr

/-- Terms that hold together. -/
structure TermGroup where
  selective : Bool
  first : Term
  others : List Term
deriving DecidableEq, Repr

/-- A sort key as it is spelled. -/
structure SortPhrase where
  segments : List String
  direction : Direction
deriving DecidableEq, Repr

/-- A method name by its parts. Without groups there is no `By`, without sort keys no `OrderBy`. -/
structure Phrase where
  operation : Operation
  all : Bool
  selective : Bool
  groups : List TermGroup
  order : List SortPhrase
deriving DecidableEq, Repr

/-- The path that segments spell: each one decapitalized. -/
def pathOf (segments : List String) : PropertyPath := ⟨segments.map decapitalize⟩

namespace Term

/-- The condition a term stands for. -/
def toPredicate (t : Term) : Predicate :=
  (Predicate.condition ⟨pathOf t.segments, t.comparator⟩).markedIf t.selective

end Term

namespace TermGroup

/-- The conjunction of the terms, marked if the group is selective. -/
def toPredicate (g : TermGroup) : Predicate :=
  (Predicate.chain .and g.first.toPredicate (g.others.map Term.toPredicate)).markedIf g.selective

end TermGroup

namespace SortPhrase

/-- The sort key a sort phrase stands for. -/
def toSortKey (s : SortPhrase) : SortKey := ⟨pathOf s.segments, s.direction⟩

end SortPhrase

namespace Phrase

/-- The disjunction of the groups, if there are any. -/
def predicate (p : Phrase) : Option Predicate :=
  match p.groups with
  | [] => none
  | first :: others =>
    some (Predicate.chain .or first.toPredicate (others.map TermGroup.toPredicate))

/-- The sort keys, if there are any. -/
def orderBy (p : Phrase) : Option (List SortKey) :=
  match p.order with
  | [] => none
  | keys => some (keys.map SortPhrase.toSortKey)

/-- The query a phrase stands for. -/
def toQuery (p : Phrase) : Query := ⟨p.operation, p.all, p.selective, p.predicate, p.orderBy⟩

end Phrase

/-! ## Spelling -/

/-- The keyword of a comparator; equality has none. -/
def spellComparator (c : Comparator) : String :=
  match c with
  | .equal => ""
  | c => c.name

/-- The text, if it is wanted. -/
def spellIf (wanted : Bool) (text : String) : String := if wanted then text else ""

/-- The spelling of a path. -/
def spellPath (segments : List String) : String := "_".intercalate segments

/-- The spelling of a term. -/
def Term.spell (t : Term) : String :=
  spellPath t.segments ++ spellComparator t.comparator ++ spellIf t.selective "Selective"

/-- The spelling of a group of terms. -/
def TermGroup.spell (g : TermGroup) : String :=
  spellIf g.selective "Selective" ++ "And".intercalate ((g.first :: g.others).map Term.spell)

/-- The spelling of a sort key with its direction. -/
def SortPhrase.spell (s : SortPhrase) : String := spellPath s.segments ++ s.direction.name

/-- The method name a phrase is spelled as. -/
def Phrase.spell (p : Phrase) : String :=
  p.operation.keyword ++ spellIf p.all "All" ++ spellIf p.selective "Selective" ++
    (if p.groups.isEmpty then "" else "By" ++ "Or".intercalate (p.groups.map TermGroup.spell)) ++
    (if p.order.isEmpty then "" else "OrderBy" ++ String.join (p.order.map SortPhrase.spell))

end DerivedQuery.MethodName
