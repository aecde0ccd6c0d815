import DerivedQuery.Proofs.Operand.Placement
import DerivedQuery.Proofs.Statement.CommaList

/-!
# Updates

An update assigns fields of a bean to the rows that its condition selects. The assignments and the
condition are worked out apart from the same predicate, the one from the first segments of its
paths, the other from its conditions with their operands. `Translator.update_eq_ok` says what every
update consists of, and

> `update_assigns`: what an update assigns are the fields that its condition does not compare.
-/

namespace DerivedQuery

open DerivedQuery.Types Body

namespace Translator

variable {t : Translator} {q : Query} {m : BoundMethod} {s : Statement} {payload : Param}

/-! ## The parts of an update -/

/-- The part of an update that assigns. -/
def assignmentsPart (q : Query) (m : BoundMethod) (payload : Param) : Body :=
  if q.selective then selectiveAssignments m payload (assignedFields q payload)
  else .text "SET " :: assignments m payload (assignedFields q payload)

/-- The text that every update starts with. -/
def updateHead (t : Translator) : String := "UPDATE " ++ t.table ++ " "

/-- The statement that updates from a payload the rows of a condition. -/
def updateStatement (t : Translator) (q : Query) (m : BoundMethod) (payload : Param)
    (condition : Body) : Statement :=
  m.statement .update
    (Body.append (Body.append [.text t.updateHead] (assignmentsPart q m payload)) condition)

/-- What an update consists of, and what has to hold for there to be one. -/
theorem update_eq_ok : t.update q m = .ok s ↔ ∃ payload condition, m.plainBean? = some payload ∧
    q.all = false ∧ assignedFields q payload ≠ [] ∧
      t.condition q m payload.beanFields = .ok condition ∧
        s = t.updateStatement q m payload condition := by
  have hstatement : ∀ payload condition, m.statement .update (Body.append (if q.selective = true
      then Body.append [.text t.updateHead] (selectiveAssignments m payload
        (assignedFields q payload))
      else Body.append [.text (t.updateHead ++ "SET ")] (assignments m payload
        (assignedFields q payload))) condition) = t.updateStatement q m payload condition := by
    intro payload condition
    unfold updateStatement assignmentsPart
    cases q.selective <;> rfl
  constructor
  · intro h
    unfold update at h
    split at h
    case h_2 => cases h
    case h_1 payload hpayload =>
      obtain ⟨hall, h⟩ := of_unless_refused h
      obtain ⟨hfields, h⟩ := of_unless_refused h
      obtain ⟨condition, hcondition, h⟩ := bind_eq_ok.mp h
      cases h
      exact ⟨payload, condition, hpayload, hall, by simpa using hfields, hcondition,
        hstatement payload condition⟩
  · rintro ⟨payload, condition, hpayload, hall, hfields, hcondition, rfl⟩
    have hrest : (assignedFields q payload).isEmpty = false := by simpa using hfields
    unfold update
    simp only [hpayload, hall, hrest]
    exact bind_eq_ok.mpr ⟨condition, hcondition, congrArg Except.ok (hstatement payload condition)⟩

/-- The fields that are assigned are those that no condition starts from. -/
theorem assignedFields_eq (q : Query) (payload : Param) :
    assignedFields q payload =
      payload.beanFields.filter fun f => q.conditions.all fun c => c.path.first? != some f.name := by
  refine List.filter_congr fun f _ => ?_
  rw [Bool.eq_iff_iff]
  simp

/-- No condition starts from a field that is assigned. -/
theorem first?_ne_of_mem_assignedFields {f : BeanField} (hf : f ∈ assignedFields q payload)
    {c : Condition} (hc : c ∈ q.conditions) : c.path.first? ≠ some f.name := by
  rw [assignedFields_eq, List.mem_filter, List.all_eq_true] at hf
  simpa using hf.2 c hc

/-! ## What the assignments come out as -/

/-- The assignment of a field, as text. -/
def assignmentText (m : BoundMethod) (payload : Param) (f : BeanField) : List Char :=
  f.column.toList ++ " = ".toList ++ placeholder (m.propertyRef payload f.name)

/-- The assignment of a field under the test for its value. -/
def guardedAssignment (m : BoundMethod) (payload : Param) (f : BeanField) : Fragment :=
  .when (isPresent (m.propertyRef payload f.name))
    [.text (f.column ++ " = "), .param (m.propertyRef payload f.name), .text ","]

/-- Whether the assignments of an update come out in a run as those of given fields. -/
def AssignsIn (rt : Runtime) (q : Query) (m : BoundMethod) (payload : Param)
    (fields : List BeanField) : Prop :=
  Listed "SET " "" (rt.text (assignmentsPart q m payload)) (fields.map (assignmentText m payload))

variable {rt : Runtime}

theorem flat_assignments (fields : List BeanField) :
    rt.flat (assignments m payload fields) =
      [',', ' '].intercalate (fields.map (assignmentText m payload)) := by
  fun_induction assignments m payload fields with
  | case1 => rfl
  | case2 f => simp [assignmentText, Runtime.flatFragment]
  | case3 f rest hne ih =>
    obtain ⟨g, rest, rfl⟩ := List.exists_cons_of_ne_nil hne
    rw [Runtime.flat_append, ih]
    simp [assignmentText, Runtime.flatFragment]

/-- All assigned fields come out with commas between them. -/
theorem assignsIn_of_not_selective (hselective : q.selective = false)
    (hfields : assignedFields q payload ≠ []) :
    AssignsIn rt q m payload (assignedFields q payload) := by
  obtain ⟨f, fs, hcons⟩ := List.exists_cons_of_ne_nil hfields
  have htext : rt.text (assignmentsPart q m payload) = "SET ".toList ++
      [',', ' '].intercalate ((assignedFields q payload).map (assignmentText m payload)) ++
        "".toList := by
    have hlevels : levels (.text "SET " :: assignments m payload (assignedFields q payload)) ≤ 1 :=
      Nat.max_le.mpr ⟨Nat.le_refl _, levels_assignments m payload _⟩
    rw [assignmentsPart, hselective, if_neg (by decide), Runtime.text_of_levels hlevels,
      Runtime.flat_cons, flat_assignments]
    simp [Runtime.flatFragment]
  rw [AssignsIn, htext, hcons]
  exact .items (commaSeparated_intercalate _ _)

/-- The assigned fields that have a value come out, without the comma behind the last one. -/
theorem assignsIn_of_selective (hselective : q.selective = true) :
    AssignsIn rt q m payload ((assignedFields q payload).filter fun f =>
      rt.holds (isPresent (m.propertyRef payload f.name))) := by
  rw [AssignsIn, assignmentsPart, if_pos hselective, selectiveAssignments]
  have hitem : ∀ f : BeanField, rt.flat [.text (f.column ++ " = "),
      .param (m.propertyRef payload f.name), .text ","] = assignmentText m payload f ++ [','] := by
    intro f
    simp [assignmentText, Runtime.flatFragment]
  rcases Runtime.text_commaTrim (fun _ => Nat.le_refl _) hitem "SET" "" (assignedFields q payload)
    with ⟨hkept, htext⟩ | ⟨inner, hinner, htext⟩
  · rw [hkept]
    exact htext ▸ .nothing
  · have henclose : enclose "SET" "" inner = "SET ".toList ++ inner ++ "".toList := by
      simp [enclose]
    exact (htext.trans henclose) ▸ .items hinner

/-! ## What the condition compares -/

/-- Where the operands of a condition are properties of a bean, it refers to the properties that its
comparisons with an operand are about. -/
theorem references_condition_of_bean {fields : List BeanField} {condition : Body}
    (hcondition : t.condition q m fields = .ok condition) (hpositive : 0 < q.operandCount)
    (hpositional : m.positional q.operation = []) (hpayload : m.plainBean? = some payload) :
    references condition = (q.conditions.filter (·.arity == 1)).map fun c =>
      c.reference (m.propertyRef payload c.path.dotted) := by
  cases hp : q.predicate with
  | none => simp [Query.operandCount, hp] at hpositive
  | some p =>
    have hcount : q.operandCount = p.operandCount := by simp [Query.operandCount, hp]
    have hconditions : q.conditions = p.conditions := by simp [Query.conditions, hp]
    obtain ⟨operands, hoperands, rfl⟩ := condition_eq_ok hp hcondition
    rw [references_whereBody _ (BoundMethod.map_length_operands hp hoperands), hconditions]
    rcases BoundMethod.operands_eq_ok hp hoperands with ⟨hzero, -⟩ | ⟨-, hsource⟩
    · omega
    cases hsource with
    -- there are no parameters to take the operands from
    | parameters shares henough =>
      rw [hpositional, List.length_nil] at henough
      omega
    | bean bean hnone hfirst hsingle hproperties =>
      obtain rfl : payload = bean := Option.some.inj (hpayload.symm.trans hfirst)
      rw [hproperties]
      exact flatMap_references_bean _ hsingle

/-! ## Assignments and condition -/

/-- **An update never assigns its own key.** The payload of an update is the first bean among the
parameters that is no iterable. It assigns, in their order and at least one of them, exactly the
fields of the payload that no path of a condition starts from. Each is assigned the value of the
same property; in the selective form the assignment stands under the test for that very value, and
what comes out are the assignments of the fields that have one. Where the condition takes its
operands from the payload, the properties that it compares start from no field that is assigned. -/
theorem update_assigns (h : t.update q m = .ok s) :
    ∃ payload condition, m.plainBean? = some payload ∧
      t.condition q m payload.beanFields = .ok condition ∧
      s.body = Body.append (Body.append [.text t.updateHead] (assignmentsPart q m payload))
        condition ∧
      assignedFields q payload ≠ [] ∧
      assignedFields q payload = payload.beanFields.filter
        (fun f => q.conditions.all fun c => c.path.first? != some f.name) ∧
      (q.selective = false → ∀ rt : Runtime,
        AssignsIn rt q m payload (assignedFields q payload)) ∧
      (q.selective = true →
        (∃ rule, assignmentsPart q m payload =
          [.trim rule ((assignedFields q payload).map (guardedAssignment m payload))]) ∧
        ∀ rt : Runtime,
          rt.TestsPresence (payload.beanFields.map fun f => m.propertyRef payload f.name) →
          AssignsIn rt q m payload ((assignedFields q payload).filter fun f =>
            rt.present (m.propertyRef payload f.name))) ∧
      (0 < q.operandCount → m.positional q.operation = [] →
        (references condition = (q.conditions.filter (·.arity == 1)).map fun c =>
          c.reference (m.propertyRef payload c.path.dotted)) ∧
        ∀ c ∈ q.conditions, ∀ f ∈ assignedFields q payload, c.path.first? ≠ some f.name) := by
  obtain ⟨payload, condition, hpayload, -, hfields, hcondition, rfl⟩ := update_eq_ok.mp h
  refine ⟨payload, condition, hpayload, hcondition, rfl, hfields, assignedFields_eq q payload,
    fun hselective rt => assignsIn_of_not_selective hselective hfields, fun hselective => ?_,
    fun hpositive hpositional => ?_⟩
  · refine ⟨⟨_, if_pos hselective⟩, fun rt htests => ?_⟩
    have hpresent : ((assignedFields q payload).filter fun f =>
        rt.present (m.propertyRef payload f.name)) =
        (assignedFields q payload).filter fun f =>
          rt.holds (isPresent (m.propertyRef payload f.name)) := by
      refine List.filter_congr fun f hf => ?_
      rw [assignedFields_eq] at hf
      exact (htests _ (List.mem_map_of_mem (List.mem_of_mem_filter hf))).symm
    rw [hpresent]
    exact assignsIn_of_selective hselective
  · exact ⟨references_condition_of_bean hcondition hpositive hpositional hpayload,
      fun c hc f hf => first?_ne_of_mem_assignedFields hf hc⟩

/-- A member, with a name and an age besides the key. -/
def memberParam : Param :=
  ⟨.bean "Member" [⟨"id", "id", true⟩, ⟨"nickName", "nick_name", false⟩, ⟨"age", "age", false⟩],
    "member", "member"⟩

/-- The query of a method that updates the rows of an `id` as far as there are values. -/
def updateById : Query :=
  ⟨.update, false, true, some (.condition ⟨⟨["id"]⟩, .equal⟩), none⟩

/-- Of a member without a name, the age is assigned to the row of the member's `id`. -/
theorem update_assigns_age :
    let t : Translator := ⟨"members", id⟩
    let m : BoundMethod := ⟨"updateSelectiveById", [memberParam], .void, []⟩
    let rt := Runtime.ofPresent (· != "nickName") fun _ _ => []
    ∃ s condition inner, t.update updateById m = .ok s ∧ updateById.selective = true ∧
      rt.TestsPresence (memberParam.beanFields.map fun f => m.propertyRef memberParam f.name) ∧
      0 < updateById.operandCount ∧ m.positional updateById.operation = [] ∧
      s.body = Body.append (Body.append [.text t.updateHead]
        (assignmentsPart updateById m memberParam)) condition ∧
      rt.text (assignmentsPart updateById m memberParam) =
        "SET ".toList ++ inner ++ "".toList ∧
      (inner.splitOn ',').map trimBlanks = ["age = #{age}".toList] ∧
      references condition = [.value "id"] := by
  intro t m rt
  obtain ⟨s, hs⟩ : ∃ s, t.update updateById m = .ok s := ⟨_, rfl⟩
  have htests :
      rt.TestsPresence (memberParam.beanFields.map fun f => m.propertyRef memberParam f.name) := by
    unfold Runtime.TestsPresence
    decide
  have hcount : 0 < updateById.operandCount := by decide
  obtain ⟨payload, condition, hpayload, -, hbody, -, -, -, hselective, hcompared⟩ :=
    update_assigns hs
  cases hpayload
  obtain ⟨inner, htext, hitems⟩ :=
    ((hselective rfl).2 rt htests).exists_items (by decide) (by decide)
  exact ⟨s, condition, inner, hs, rfl, htests, hcount, rfl, hbody, htext,
    hitems.trans (by decide), (hcompared hcount rfl).1.trans (by decide)⟩

end Translator

end DerivedQuery
