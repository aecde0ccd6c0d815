import DerivedQuery.Naming.Style
import DerivedQuery.Query.Group
import DerivedQuery.Statement.Fragment
import DerivedQuery.Types.Descriptor

/-!
# Conditions of a statement

A `Clause` is a group of conditions in which each condition has its operands. A clause without
selective parts is written out with its connectives and with parentheses around nested groups
(`Clause.fixed`). A clause with selective parts is written so that parts can drop out at run time
(`Clause.conditional`): every part but the first of a group carries the connective in front of it,
a selective part stands under a test for its operands, and the rule around a group strips the
connective that comes to stand first.

Mirrors `push_where`, `static_group`, `dynamic_group`, `condition`, `column` and `presence_test`.
-/

namespace DerivedQuery

open DerivedQuery.Naming DerivedQuery.Types

/-- A group of conditions with the operands that each condition compares with. -/
inductive Clause
  | leaf (condition : Condition) (operands : List String) (selective : Bool)
  | group (op : Connective) (selective : Bool) (children : List Clause)
deriving Repr

mutual

/-- The group with operands handed to its conditions from left to right, and the operands that
are left. -/
def Group.withOperands (operands : List (List String)) : Group → Clause × List (List String)
  | .leaf condition selective => (.leaf condition (operands.headD []) selective, operands.tail)
  | .group op selective children =>
    let (clauses, rest) := withOperandsAll operands children
    (.group op selective clauses, rest)

/-- `withOperands` on groups one after another. -/
def withOperandsAll (operands : List (List String)) : List Group → List Clause × List (List String)
  | [] => ([], operands)
  | g :: gs =>
    let (clause, rest) := g.withOperands operands
    let (clauses, last) := withOperandsAll rest gs
    (clause :: clauses, last)

end

mutual

/-- The operands of all conditions from left to right. -/
def Clause.operands : Clause → List String
  | .leaf _ operands _ => operands
  | .group _ _ children => operandsAll children

/-- The operands of several clauses from left to right. -/
def operandsAll : List Clause → List String
  | [] => []
  | c :: cs => c.operands ++ operandsAll cs

end

/-! ## One condition -/

/-- The column of a property: the one its bean field is mapped to, or the converted segments of
its path with underscores between them. -/
def columnOf (naming : Converter) (fields : List BeanField) (path : PropertyPath) : String :=
  let converted := "_".intercalate (path.segments.map naming)
  if path.isNested then converted
  else
    match fields.find? fun f => some f.name == path.first? with
    | some f => f.column
    | none => converted

/-- The name of the current element in a loop. -/
def itemName : String := "item"

/-- A comparison with every element of a collection. -/
def membership (collection : String) : Fragment :=
  .forEach ⟨collection, itemName, "(", ", ", ")"⟩ [.param itemName]

/-- A condition on a column. An operand that is missing is written as an empty name. -/
def Condition.body (c : Condition) (column : String) (operands : List String) : Body :=
  let operand (i : Nat) : Fragment := .param (operands[i]?.getD "")
  let binary (op : String) : Body := [.text (column ++ " " ++ op ++ " "), operand 0]
  match c.comparator with
  | .equal => binary "="
  | .not => binary "!="
  | .greaterThan => binary ">"
  | .greaterThanEqual => binary ">="
  | .lessThan => binary "<"
  | .lessThanEqual => binary "<="
  | .like => binary "LIKE"
  | .notLike => binary "NOT LIKE"
  | .containing => [.text (column ++ " LIKE CONCAT('%', "), operand 0, .text ", '%')"]
  | .startingWith => [.text (column ++ " LIKE CONCAT("), operand 0, .text ", '%')"]
  | .endingWith => [.text (column ++ " LIKE CONCAT('%', "), operand 0, .text ")"]
  | .in => [.text (column ++ " IN "), membership (operands.headD "")]
  | .notIn => [.text (column ++ " NOT IN "), membership (operands.headD "")]
  | .isNull => [.text (column ++ " IS NULL")]
  | .isNotNull => [.text (column ++ " IS NOT NULL")]
  | .between => [.text (column ++ " BETWEEN "), operand 0, .text " AND ", operand 1]

/-! ## Clauses without selective parts -/

namespace Clause

mutual

/-- The clause with parentheses around it if it is a group inside another one. -/
def fixed (column : PropertyPath → String) (nested : Bool) : Clause → Body
  | .leaf condition operands _ => condition.body (column condition.path) operands
  | .group op _ children =>
    let inner := fixedAll column op children
    if nested then Body.push (Body.append [.text "("] inner) (.text ")") else inner

/-- The members of a group with the connective between them. -/
def fixedAll (column : PropertyPath → String) (op : Connective) : List Clause → Body
  | [] => []
  | [c] => c.fixed column true
  | c :: cs =>
    Body.append (Body.push (c.fixed column true) (.text (" " ++ op.keyword ++ " ")))
      (fixedAll column op cs)

end

/-! ## Clauses with selective parts -/

/-- The test that values are present. -/
def presenceTest (names : List String) : String :=
  " and ".intercalate (names.map (· ++ " != null"))

/-- A part that counts only if its operands are present, if it is selective and has operands. -/
def guarded (selective : Bool) (operands : List String) (body : Body) : Body :=
  if selective && !operands.isEmpty then [.when (presenceTest operands) body] else body

/-- The connectives that may come to stand first. -/
def connectiveOverrides : List String := ["AND ", "OR "]

/-- The connective in front of a part, with the blank after it. -/
def leadText : Option Connective → String
  | none => ""
  | some op => op.keyword ++ " "

mutual

/-- The clause as a part of a group, with the connective that stands in front of it. -/
def conditional (column : PropertyPath → String) (lead : Option Connective) : Clause → Body
  | .leaf condition operands selective =>
    let body := condition.body (column condition.path) operands
    guarded selective operands <|
      match lead with
      | none => body
      | some op => Body.append [.text (" " ++ op.keyword ++ " ")] body
  | .group op selective children =>
    guarded selective (operandsAll children)
      [.trim ⟨leadText lead ++ "(", ")", connectiveOverrides, []⟩
        (conditionalAll column op none children)]

/-- The members of a group: every one but the first has the connective in front of it. -/
def conditionalAll (column : PropertyPath → String) (op : Connective) (lead : Option Connective) :
    List Clause → Body
  | [] => []
  | c :: cs => Body.append (c.conditional column lead) (conditionalAll column op (some op) cs)

end

/-- The clause on its own: the members of a group without parentheses around them. -/
def conditionalTop (column : PropertyPath → String) : Clause → Body
  | .group op selective children =>
    guarded selective (operandsAll children) (conditionalAll column op none children)
  | c => c.conditional column none

end Clause

/-- The part of a statement that a predicate becomes, with the blank in front of it. -/
def whereBody (column : PropertyPath → String) (p : Predicate) (operands : List (List String)) :
    Body :=
  let clause := (p.groups.withOperands operands).1
  if p.hasSelective then
    [.text " ", .trim ⟨"WHERE", "", Clause.connectiveOverrides, []⟩ (clause.conditionalTop column)]
  else Body.append [.text " WHERE "] (clause.fixed column false)

end DerivedQuery
