import DerivedQuery.Proofs.Except
import DerivedQuery.Statement.Translation

/-!
# The parts of a statement

Every operation puts a statement together in its own way, yet all statements for methods have the
same parts: a head that depends on the operation, the condition of the query, the order of the rows
where they are selected, and what may follow it. `Translator.Assembled` names the parts, and
`translate_assembled` says that every statement consists of them. Which operation refuses what is of
no matter to it.
-/

namespace DerivedQuery

open DerivedQuery.Types

/-- Whether the rows of an operation are selected, and not written or deleted. -/
def Operation.selects : Operation → Bool
  | .find | .get | .count | .exists | .page => true
  | .delete | .insert | .update => false

/-- The fields of the bean that the columns of a statement are taken from: for an update the bean
that it assigns, else the one that the method is about. -/
def BoundMethod.subjectFields (m : BoundMethod) : Operation → List BeanField
  | .update => (m.plainBean?.map Param.beanFields).getD []
  | _ => m.entityFields

namespace Translator

variable {t : Translator} {q : Query} {m : BoundMethod} {s : Statement}

/-- Whether a statement is one for a method, made of a head, the condition of a query with the
columns of fields, an order and a tail. -/
structure Assembled (t : Translator) (q : Query) (m : BoundMethod) (fields : List BeanField)
    (order : String) (s : Statement) : Prop where
  id : s.id = m.name
  generated : s.generated = true
  body : ∃ condition head tail, t.condition q m fields = .ok condition ∧
    s.body = Body.append ((Body.append head condition).pushText order) tail

/-- What is not refused goes on. -/
theorem of_unless_refused {α β : Type} {refused : Bool} {reason : String}
    {f : α → Except TranslateError β} {x : Except TranslateError β} {b : β}
    (h : (if refused = true then m.refuse reason >>= f else x) = .ok b) :
    refused = false ∧ x = .ok b := by
  cases refused with
  | false => exact ⟨rfl, h⟩
  | true => cases h

/-- The condition of a query without a predicate is empty. -/
theorem condition_of_none (h : q.predicate = none) (fields : List BeanField) :
    t.condition q m fields = .ok [] := by
  have hcount : q.operandCount = 0 := by simp [Query.operandCount, h]
  rw [condition, BoundMethod.operands, hcount, h]
  rfl

theorem select_assembled (h : t.select q m = .ok s) :
    Assembled t q m m.entityFields (t.orderBy q m.entityFields) s := by
  unfold select at h
  split at h
  · cases h
  · obtain ⟨bounds, -, h⟩ := bind_eq_ok.mp h
    obtain ⟨condition, hcondition, h⟩ := bind_eq_ok.mp h
    cases h
    exact ⟨rfl, rfl, condition, _, _, hcondition, rfl⟩

theorem delete_assembled (h : t.delete q m = .ok s) : Assembled t q m m.entityFields "" s := by
  obtain ⟨condition, hcondition, h⟩ := bind_eq_ok.mp h
  cases h
  exact ⟨rfl, rfl, condition, _, [], hcondition, rfl⟩

/-- An insertion has no condition, and its body is all head. -/
theorem insert_assembled (h : t.insert q m = .ok s) : Assembled t q m m.entityFields "" s := by
  unfold insert at h
  split at h
  case h_2 => cases h
  case h_1 payload hpayload =>
    obtain ⟨hpredicate, h⟩ := of_unless_refused h
    obtain ⟨-, h⟩ := of_unless_refused h
    obtain ⟨-, h⟩ := of_unless_refused h
    have hnone : q.predicate = none := by simpa using hpredicate
    have hcondition : t.condition q m m.entityFields = .ok [] := condition_of_none hnone _
    dsimp only at h
    split at h
    · cases h
      exact ⟨rfl, rfl, [], _, [], hcondition, rfl⟩
    · obtain ⟨-, h⟩ := of_unless_refused h
      cases h
      exact ⟨rfl, rfl, [], _, [], hcondition, rfl⟩

theorem update_assembled (h : t.update q m = .ok s) :
    Assembled t q m (m.subjectFields .update) "" s := by
  unfold update at h
  split at h
  case h_2 => cases h
  case h_1 payload hpayload =>
    obtain ⟨-, h⟩ := of_unless_refused h
    obtain ⟨-, h⟩ := of_unless_refused h
    obtain ⟨condition, hcondition, h⟩ := bind_eq_ok.mp h
    have hfields : m.subjectFields .update = payload.beanFields := by
      rw [BoundMethod.subjectFields, hpayload]
      rfl
    cases h
    exact ⟨rfl, rfl, condition, _, [], by rw [hfields]; exact hcondition, rfl⟩

/-- A statement selects, deletes, inserts or updates. -/
theorem translate_cases (h : t.translate q m = .ok s) :
    t.select q m = .ok s ∨ t.delete q m = .ok s ∨ t.insert q m = .ok s ∨ t.update q m = .ok s := by
  unfold translate at h
  cases hoperation : q.operation with
  | delete =>
    rw [hoperation] at h
    exact .inr (.inl h)
  | insert =>
    rw [hoperation] at h
    exact .inr (.inr (.inl h))
  | update =>
    rw [hoperation] at h
    exact .inr (.inr (.inr h))
  | find | get | count | «exists» | page =>
    rw [hoperation] at h
    exact .inl h

/-- Every statement for a method consists of its parts. -/
theorem translate_assembled (h : t.translate q m = .ok s) :
    Assembled t q m (m.subjectFields q.operation)
      (if q.operation.selects then t.orderBy q (m.subjectFields q.operation) else "") s := by
  unfold translate at h
  cases hoperation : q.operation with
  | delete =>
    rw [hoperation] at h
    exact delete_assembled h
  | insert =>
    rw [hoperation] at h
    exact insert_assembled h
  | update =>
    rw [hoperation] at h
    exact update_assembled h
  | find | get | count | «exists» | page =>
    rw [hoperation] at h
    exact select_assembled h

end Translator

end DerivedQuery
