import DerivedQuery.Statement.Basic
import DerivedQuery.Statement.Operand
import DerivedQuery.Statement.Where

/-!
# Statements for derived methods

A `Translator` knows the table and how names become columns. It builds the statement that carries
out a query with the parameters of a method, or says why there is none.

Mirrors `SqlTranslator` with `select`, `delete`, `insert`, `update`, `statement`, `order_by`,
`entity_fields`, `select_columns`, `value_list`, `parenthesized` and `translate`.
-/

namespace DerivedQuery

open DerivedQuery.Naming DerivedQuery.Types

/-- The table the statements run against and the conversion of property names to columns. -/
structure Translator where
  table : String
  naming : Converter

/-- The fields of the bean that a statement is about: a parameter if there is a bean among them,
else the result. -/
def BoundMethod.entityFields (m : BoundMethod) : List BeanField :=
  match m.params.find? (·.isBean) with
  | some p => p.beanFields
  | none => m.returns.beanFields

/-- The statement of a method around a body. The type of a sole parameter is named. -/
def BoundMethod.statement (m : BoundMethod) (kind : StatementKind) (body : Body) : Statement :=
  let parameterType :=
    match m.params with
    | [p] => some p.type.qualifiedName
    | _ => none
  { id := m.name, kind := kind, parameterType := parameterType, generated := true, body := body }

/-- The refusal of a method for a reason. -/
def BoundMethod.refuse {α : Type} (m : BoundMethod) (reason : String) : Except TranslateError α :=
  .error (.unsupported m.name reason)

/-- The columns of a result: those of the bean's fields, under the fields' names where they
differ, or all columns if there are no fields. -/
def selectList (fields : List BeanField) : String :=
  if fields.isEmpty then "*"
  else
    ", ".intercalate (fields.map fun f =>
      if f.column = f.name then f.column else f.column ++ " AS " ++ f.name)

/-- The fragments with a text between each two of them. -/
def separated (separator : String) : List Fragment → Body
  | [] => []
  | [f] => [f]
  | f :: rest => Body.append [f, .text separator] (separated separator rest)

/-- The bound values of a row between parentheses. -/
def valueList (names : List String) : Body :=
  Body.push (Body.append [.text "("] (separated ", " (names.map .param))) (.text ")")

/-- Parts that each end with a comma, between parentheses and without the last comma. -/
def parenthesized (parts : Body) : Fragment := .trim ⟨"(", ")", [], [","]⟩ parts

/-- The test that a value is present. -/
def isPresent (name : String) : String := name ++ " != null"

namespace Translator

/-- The column of a property for a statement about a bean with the given fields. -/
def column (t : Translator) (fields : List BeanField) (path : PropertyPath) : String :=
  columnOf t.naming fields path

/-- The condition of a statement with the blank in front of it, or nothing without one. -/
def condition (t : Translator) (q : Query) (m : BoundMethod) (fields : List BeanField) :
    Except TranslateError Body := do
  let operands ← m.operands q
  match q.predicate with
  | none => return []
  | some p => return whereBody (t.column fields) p operands

/-- The order of the rows with the blank in front of it, or nothing without one. -/
def orderBy (t : Translator) (q : Query) (fields : List BeanField) : String :=
  match q.orderBy with
  | none => ""
  | some keys =>
    " ORDER BY " ++ ", ".intercalate (keys.map fun key =>
      t.column fields key.path ++ " " ++ key.direction.keyword)

/-- The parameters that bound a page, the offset first; none for another operation. -/
def pageBounds (q : Query) (m : BoundMethod) : Except TranslateError (Option (Param × Param)) :=
  if q.operation = .page then
    match m.param? offsetName, m.param? limitName with
    | some offset, some limit => .ok (some (offset, limit))
    | _, _ => .error (.missingPageParams m.name)
  else .ok none

/-- What a selection shows. -/
def selection (q : Query) (m : BoundMethod) : String :=
  match q.operation with
  | .count => "SELECT COUNT(*)"
  | .exists => "SELECT COUNT(*) > 0"
  | _ => "SELECT " ++ selectList m.returns.beanFields

/-- What bounds the number of rows of a selection. -/
def rowBound (q : Query) (bounds : Option (Param × Param)) : Body :=
  if q.operation = .get then [.text " LIMIT 1"]
  else
    match bounds with
    | none => []
    | some (offset, limit) =>
      [.text " LIMIT ", .param limit.name, .text " OFFSET ", .param offset.name]

/-- The statement that selects rows, counts them or tells whether there are any. -/
def select (t : Translator) (q : Query) (m : BoundMethod) : Except TranslateError Statement := do
  if m.returns = .void then throw (.invalidReturn m.name "a value")
  let bounds ← pageBounds q m
  let fields := m.entityFields
  let condition ← t.condition q m fields
  let head : Body := [.text (selection q m ++ " FROM " ++ t.table)]
  let ordered := (Body.append head condition).pushText (t.orderBy q fields)
  let body := Body.append ordered (rowBound q bounds)
  return { m.statement .select body with resultType := some m.returns.leaf.qualifiedName }

/-- The statement that deletes rows. -/
def delete (t : Translator) (q : Query) (m : BoundMethod) : Except TranslateError Statement := do
  let condition ← t.condition q m m.entityFields
  return m.statement .delete (Body.append [.text ("DELETE FROM " ++ t.table)] condition)

/-- The columns and values of an insertion that leaves out the properties without a value. -/
def selectiveRow (m : BoundMethod) (payload : Param) : Body :=
  let columns := payload.beanFields.map fun f =>
    Fragment.when (isPresent (m.propertyRef payload f.name)) [.text (f.column ++ ",")]
  let values := payload.beanFields.map fun f =>
    let name := m.propertyRef payload f.name
    Fragment.when (isPresent name) [.param name, .text ","]
  [parenthesized columns, .text " VALUES ", parenthesized values]

/-- The columns of fields between parentheses. -/
def columnList (fields : List BeanField) : String :=
  "(" ++ ", ".intercalate (fields.map (·.column)) ++ ")"

/-- The values of an insertion: one row, or one for each element of the payload. -/
def rows (m : BoundMethod) (payload : Param) (batch : Bool) (fields : List BeanField) : Body :=
  if batch then
    [.forEach { collection := payload.name, item := itemName, separator := ", " }
      (valueList (fields.map fun f => itemName ++ "." ++ f.name))]
  else valueList (fields.map fun f => m.propertyRef payload f.name)

/-- The statement that inserts a bean, or every bean of an iterable. -/
def insert (t : Translator) (q : Query) (m : BoundMethod) : Except TranslateError Statement := do
  let some payload := m.params.find? (·.isBean) | throw (.missingPayload m.name)
  if q.predicate.isSome then m.refuse "insert statements take no condition"
  let batch := q.all || payload.isIterable
  if batch && !payload.isIterable then m.refuse "`All` needs an iterable payload"
  if batch && q.selective then m.refuse "a batch insert cannot be selective"
  let head := "INSERT INTO " ++ t.table ++ " "
  let body ←
    if q.selective then pure (Body.append [.text head] (selectiveRow m payload))
    else
      let fields := payload.beanFields.filter (!·.generatedKey)
      if fields.isEmpty then m.refuse "the payload has no insertable fields"
      else pure (Body.append [.text (head ++ columnList fields ++ " VALUES ")]
        (rows m payload batch fields))
  let key := payload.beanFields.find? (·.generatedKey)
  return { m.statement .insert body with keyProperty := key.map (·.name) }

/-- The fields of a payload that an update assigns: those that no condition starts from. -/
def assignedFields (q : Query) (payload : Param) : List BeanField :=
  let compared := q.conditions.filterMap (·.path.first?)
  payload.beanFields.filter fun f => !compared.contains f.name

/-- The assignments of an update with commas between them. -/
def assignments (m : BoundMethod) (payload : Param) : List BeanField → Body
  | [] => []
  | [f] => [.text (f.column ++ " = "), .param (m.propertyRef payload f.name)]
  | f :: rest =>
    Body.append
      [.text (f.column ++ " = "), .param (m.propertyRef payload f.name), .text ", "]
      (assignments m payload rest)

/-- The assignments of an update that leaves out the properties without a value. -/
def selectiveAssignments (m : BoundMethod) (payload : Param) (fields : List BeanField) : Body :=
  [.trim { opening := "SET", closingOverrides := [","] } (fields.map fun f =>
    let name := m.propertyRef payload f.name
    .when (isPresent name) [.text (f.column ++ " = "), .param name, .text ","])]

/-- The statement that assigns the properties of a bean to rows. -/
def update (t : Translator) (q : Query) (m : BoundMethod) : Except TranslateError Statement := do
  let some payload := m.plainBean? | throw (.missingPayload m.name)
  if q.all then m.refuse "batch updates are not supported"
  let fields := assignedFields q payload
  if fields.isEmpty then m.refuse "no field is left to assign"
  let head := "UPDATE " ++ t.table ++ " "
  let assigned : Body :=
    if q.selective then Body.append [.text head] (selectiveAssignments m payload fields)
    else Body.append [.text (head ++ "SET ")] (assignments m payload fields)
  let condition ← t.condition q m payload.beanFields
  return m.statement .update (Body.append assigned condition)

/-- The statement that carries out a query with the parameters of a method. -/
def translate (t : Translator) (q : Query) (m : BoundMethod) : Except TranslateError Statement :=
  match q.operation with
  | .find | .get | .count | .exists | .page => t.select q m
  | .delete => t.delete q m
  | .insert => t.insert q m
  | .update => t.update q m

end Translator

end DerivedQuery
