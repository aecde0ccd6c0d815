import DerivedQuery.Proofs.Operand.Mentions
import DerivedQuery.Proofs.Statement.Assignments
import DerivedQuery.Proofs.Statement.Columns
import DerivedQuery.Proofs.Statement.Insertion

/-!
# How a statement addresses parameters

A property of a bean is addressed by its own name if the bean is the sole parameter, else behind
the parameter's name. What counts are the parameters that binding has kept: a declared parameter
that was dropped does not show in the statement, which is the one of the method that declares the
kept parameters alone. So

> `translate_addressed`: properties are addressed behind the parameter's name, and no parameter type
> is given, unless just one parameter was kept,

however many were declared. Where a condition needs an operand, a method that has lost a parameter
has no statement; but an insertion needs none.
-/

namespace DerivedQuery

open DerivedQuery.Types Body

/-! ## The parameters that are kept -/

/-- The declared parameters whose types can be classified. -/
def keptParams (r : Resolver) (owner : TypeRef) (decls : List ParamDecl) : List ParamDecl :=
  decls.filter fun p => (r.resolve owner p.type).isOk

/-- The method without a trace of the parameters that were dropped. -/
def BoundMethod.settled (m : BoundMethod) : BoundMethod := { m with dropped := [] }

/-- Whether properties of beans are addressed behind the names of the parameters. -/
def BoundMethod.qualifies (m : BoundMethod) : Bool := m.params.length != 1

section Kept

variable {r : Resolver} {owner : TypeRef}

/-- Binding the kept parameters alone gives the same parameters and drops none. -/
theorem bindParams_keptParams (decls : List ParamDecl) :
    bindParams r owner (keptParams r owner decls) = ((bindParams r owner decls).1, []) := by
  induction decls with
  | nil => rfl
  | cons p decls ih =>
    cases htype : r.resolve owner p.type with
    | error cause =>
      have hkept : keptParams r owner (p :: decls) = keptParams r owner decls :=
        List.filter_cons_of_neg (by rw [htype]; exact Bool.false_ne_true)
      rw [hkept, ih]
      simp only [bindParams, htype]
    | ok type =>
      have hkept : keptParams r owner (p :: decls) = p :: keptParams r owner decls :=
        List.filter_cons_of_pos (by rw [htype]; rfl)
      rw [hkept]
      simp only [bindParams, htype, ih]

theorem length_bindParams (decls : List ParamDecl) :
    (bindParams r owner decls).1.length = (keptParams r owner decls).length := by
  have hkept : bindParams r owner (keptParams r owner decls) = ((bindParams r owner decls).1, []) :=
    bindParams_keptParams decls
  obtain ⟨types, htypes, hparams⟩ := bindParams_of_dropped_nil (congrArg Prod.snd hkept)
  rw [hkept] at hparams
  rw [hparams, List.length_zipWith, htypes.length_eq, Nat.min_self]

variable {decl : MethodDecl} {m : BoundMethod}

/-- A method is bound as the one that declares the kept parameters alone. -/
theorem bindMethod_keptParams (h : bindMethod r owner decl = .ok m) :
    bindMethod r owner { decl with params := keptParams r owner decl.params } = .ok m.settled := by
  unfold bindMethod at h ⊢
  split at h
  · cases h
  · next returns hreturns =>
    cases h
    simp only [hreturns, bindParams_keptParams]
    rfl

theorem length_params_of_bindMethod (h : bindMethod r owner decl = .ok m) :
    m.params.length = (keptParams r owner decl.params).length := by
  unfold bindMethod at h
  split at h
  · cases h
  · cases h
    exact length_bindParams decl.params

end Kept

/-! ## What a statement takes from a method -/

namespace BoundMethod

variable {m : BoundMethod} {q : Query}

/-- Operands that are found are found without a look at the parameters that were dropped. -/
theorem operands_settled {operands : List (List String)} (h : m.operands q = .ok operands) :
    m.settled.operands q = .ok operands := by
  -- what was dropped is looked at only where an operand is needed, and refuses the method there
  by_cases hzero : q.operandCount = 0
  · rw [BoundMethod.operands, if_pos hzero] at h ⊢
    exact h
  · cases hdropped : m.dropped with
    | cons name others =>
      simp only [BoundMethod.operands, if_neg hzero, hdropped] at h
      cases h
    | nil =>
      have hsettled : m.settled = m := by rw [settled, ← hdropped]
      rw [hsettled]
      exact h

end BoundMethod

namespace Translator

variable {t : Translator} {q : Query} {m : BoundMethod} {s : Statement}

theorem condition_settled {fields : List BeanField} {condition : Body}
    (h : t.condition q m fields = .ok condition) :
    t.condition q m.settled fields = .ok condition := by
  obtain ⟨operands, hoperands, h⟩ := bind_eq_ok.mp h
  exact bind_eq_ok.mpr ⟨operands, BoundMethod.operands_settled hoperands, h⟩

/-- The statement of a selection, around its condition and the parameters that bound a page. -/
def selectStatement (t : Translator) (q : Query) (m : BoundMethod) (bounds : Option (Param × Param))
    (condition : Body) : Statement :=
  { m.statement .select (Body.append
      ((Body.append [.text (selection q m ++ " FROM " ++ t.table)] condition).pushText
        (t.orderBy q m.entityFields))
      (rowBound q bounds)) with
    resultType := some m.returns.leaf.qualifiedName }

/-- What a selection consists of. -/
theorem select_eq_ok : t.select q m = .ok s ↔ m.returns ≠ .void ∧ ∃ bounds condition,
    pageBounds q m = .ok bounds ∧ t.condition q m m.entityFields = .ok condition ∧
      s = t.selectStatement q m bounds condition := by
  unfold select
  split
  · next hvoid => exact iff_of_false (fun h => by cases h) fun h => h.1 hvoid
  · next hvoid =>
    refine ⟨fun h => ?_, fun ⟨_, bounds, condition, hbounds, hcondition, hs⟩ => ?_⟩
    · obtain ⟨bounds, hbounds, h⟩ := bind_eq_ok.mp h
      obtain ⟨condition, hcondition, h⟩ := bind_eq_ok.mp h
      cases h
      exact ⟨hvoid, bounds, condition, hbounds, hcondition, rfl⟩
    · exact bind_eq_ok.mpr ⟨bounds, hbounds,
        bind_eq_ok.mpr ⟨condition, hcondition, congrArg Except.ok hs.symm⟩⟩

theorem select_settled (h : t.select q m = .ok s) : t.select q m.settled = .ok s := by
  obtain ⟨hvoid, bounds, condition, hbounds, hcondition, rfl⟩ := select_eq_ok.mp h
  exact select_eq_ok.mpr ⟨hvoid, bounds, condition, hbounds, condition_settled hcondition, rfl⟩

theorem delete_settled (h : t.delete q m = .ok s) : t.delete q m.settled = .ok s := by
  obtain ⟨condition, hcondition, h⟩ := bind_eq_ok.mp h
  exact bind_eq_ok.mpr ⟨condition, condition_settled hcondition, h⟩

theorem assignments_settled (payload : Param) (fields : List BeanField) :
    assignments m.settled payload fields = assignments m payload fields := by
  fun_induction assignments m payload fields with
  | case1 | case2 => rfl
  | case3 f rest hne ih =>
    rw [assignments, ih]
    · rfl
    · exact hne

theorem update_settled (h : t.update q m = .ok s) : t.update q m.settled = .ok s := by
  obtain ⟨payload, condition, hpayload, hall, hfields, hcondition, rfl⟩ := update_eq_ok.mp h
  refine update_eq_ok.mpr
    ⟨payload, condition, hpayload, hall, hfields, condition_settled hcondition, ?_⟩
  simp only [updateStatement, assignmentsPart, assignments_settled]
  rfl

/-- A statement is the one of the method without a trace of the parameters that were dropped. -/
theorem translate_settled (h : t.translate q m = .ok s) : t.translate q m.settled = .ok s := by
  unfold translate at h ⊢
  cases hoperation : q.operation with
  | delete =>
    rw [hoperation] at h
    exact delete_settled h
  | insert =>
    rw [hoperation] at h
    exact h
  | update =>
    rw [hoperation] at h
    exact update_settled h
  | find | get | count | «exists» | page =>
    rw [hoperation] at h
    exact select_settled h

/-! ## Addresses -/

/-- How a statement may address what its method is given. -/
inductive Addresses (m : BoundMethod) (q : Query) (qualified : Bool) : String → Prop
  /-- A parameter that is no bean by itself, by its name. -/
  | parameter {p : Param} (hp : p ∈ m.params) (hplain : p.isBean = false ∨ p.isIterable = true) :
    Addresses m q qualified p.name
  /-- A parameter that bounds a page, by its name. -/
  | bound {p : Param} (hp : p ∈ m.params) (hname : p.name = offsetName ∨ p.name = limitName) :
    Addresses m q qualified p.name
  /-- A property of a bean, a field or what a condition is about: behind the name of the bean, or
  by its own name. -/
  | property {p : Param} {path : String} (hp : p ∈ m.params) (hbean : p.isBean = true)
      (hpath : (∃ f ∈ p.beanFields, f.name = path) ∨ ∃ c ∈ q.conditions, c.path.dotted = path) :
    Addresses m q qualified (if qualified then p.name ++ "." ++ path else path)

theorem addresses_propertyRef {p : Param} {path : String} (hp : p ∈ m.params)
    (hbean : p.isBean = true)
    (hpath : (∃ f ∈ p.beanFields, f.name = path) ∨ ∃ c ∈ q.conditions, c.path.dotted = path) :
    Addresses m q m.qualifies (m.propertyRef p path) := by
  have href : m.propertyRef p path = if m.qualifies then p.name ++ "." ++ path else path := by
    unfold BoundMethod.propertyRef BoundMethod.qualifies
    by_cases hsole : m.params.length = 1 <;> simp [hsole]
  rw [href]
  exact .property hp hbean hpath

/-- The operands of conditions are parameters or properties of a bean. -/
theorem addresses_operands {p : Predicate} {operands : List (List String)}
    (hp : q.predicate = some p) (h : m.operands q = .ok operands) :
    ∀ names ∈ operands, ∀ name ∈ names, Addresses m q m.qualifies name := by
  intro names hnames name hname
  rcases BoundMethod.operands_eq_ok hp h with ⟨-, rfl⟩ | ⟨-, hsource⟩
  · obtain ⟨c, -, rfl⟩ := List.mem_map.mp hnames
    cases hname
  cases hsource with
  | parameters shares henough hinOrder hshares hfitting =>
    subst hshares
    obtain ⟨share, hshare, rfl⟩ := List.mem_map.mp hnames
    obtain ⟨x, hx, rfl⟩ := List.mem_map.mp hname
    have hpositional : x ∈ m.positional q.operation :=
      List.mem_of_mem_take (hinOrder ▸ List.mem_flatten_of_mem hshare hx)
    obtain ⟨hparam, hscalar⟩ := List.mem_filter.mp hpositional
    rw [Bool.and_eq_true, Bool.not_eq_true'] at hscalar
    exact .parameter hparam (.inl hscalar.1)
  | bean bean hnone hfirst hsingle hproperties =>
    subst hproperties
    obtain ⟨c, hc, rfl⟩ := List.mem_map.mp hnames
    split at hname
    · obtain rfl := List.mem_singleton.mp hname
      have hconditions : q.conditions = p.conditions := by simp [Query.conditions, hp]
      have hbean := List.find?_some hfirst
      rw [Bool.and_eq_true] at hbean
      exact addresses_propertyRef (List.mem_of_find?_eq_some hfirst) hbean.1
        (.inr ⟨c, hconditions ▸ hc, rfl⟩)
    · cases hname

/-! ## What the parts of a statement address -/

theorem mentionsOnly_condition {fields : List BeanField} {condition : Body}
    (h : t.condition q m fields = .ok condition) :
    MentionsOnly (Addresses m q m.qualifies) condition := by
  cases hp : q.predicate with
  | none =>
    rw [condition_of_none hp] at h
    cases h
    exact .nil
  | some p =>
    obtain ⟨operands, hoperands, rfl⟩ := condition_eq_ok hp h
    exact mentionsOnly_whereBody _ (BoundMethod.map_length_operands hp hoperands)
      (addresses_operands hp hoperands)

theorem mentionsOnly_rowBound {bounds : Option (Param × Param)} (h : pageBounds q m = .ok bounds) :
    MentionsOnly (Addresses m q m.qualifies) (rowBound q bounds) := by
  have hbound : ∀ {name : String} {p : Param}, m.param? name = some p →
      name = offsetName ∨ name = limitName → Addresses m q m.qualifies p.name := by
    intro name p hparam hname
    have hp : p.name = name := by simpa using List.find?_some hparam
    exact .bound (List.mem_of_find?_eq_some hparam) (hp ▸ hname)
  unfold rowBound
  split
  · exact .text _
  · split
    · exact .nil
    · next offset limit =>
      unfold pageBounds at h
      split at h
      · split at h
        · next hoffset hlimit =>
          cases h
          have hlimit := hbound hlimit (.inr rfl)
          have hoffset := hbound hoffset (.inl rfl)
          exact (MentionsOnly.text _).cons
            ((MentionsOnly.param hlimit).cons ((MentionsOnly.text _).cons (.param hoffset)))
        · cases h
      · cases h

section Payload

variable {payload : Param} (hp : payload ∈ m.params) (hbean : payload.isBean = true)
include hp hbean

theorem addresses_field {f : BeanField} (hf : f ∈ payload.beanFields) :
    Addresses m q m.qualifies (m.propertyRef payload f.name) :=
  addresses_propertyRef hp hbean (.inl ⟨f, hf, rfl⟩)

theorem mentionsOnly_columnsPart (hsingle : q.selective = true → payload.isIterable = false) :
    MentionsOnly (Addresses m q m.qualifies) (columnsPart q m payload) := by
  unfold columnsPart
  split
  · next hselective =>
    refine (MentionsOnly.map fun f hf => (MentionsOnly.text _).when ?_).trim _
    rw [rowRef, hsingle hselective, if_neg (by decide)]
    exact addresses_field hp hbean hf
  · exact .text _

theorem mentionsOnly_rowsPart (hsingle : q.selective = true → payload.isIterable = false) :
    MentionsOnly (Addresses m q m.qualifies) (rowsPart q m payload) := by
  unfold rowsPart rowPart
  cases hiterable : payload.isIterable with
  | true =>
    -- a batch is not selective, so no test stands inside the loop
    have hselective : ¬q.selective = true := fun h => by simp [hsingle h] at hiterable
    rw [if_pos rfl, if_neg hselective]
    exact .forEach (.parameter hp (.inr hiterable)) (tests_of_levels (levels_valueList _))
  | false =>
    have href : ∀ f ∈ payload.beanFields, Addresses m q m.qualifies (rowRef m payload f) := by
      intro f hf
      rw [rowRef, hiterable, if_neg (by decide)]
      exact addresses_field hp hbean hf
    rw [if_neg (by decide)]
    split
    · exact (MentionsOnly.map fun f hf =>
        ((MentionsOnly.param (href f hf)).cons (.text _)).when (href f hf)).trim _
    · exact .valueList
        (List.forall_mem_map.mpr fun f hf => href f (mem_of_mem_insertedFields hf))

theorem mentionsOnly_assignments {fields : List BeanField}
    (hfields : ∀ f ∈ fields, f ∈ payload.beanFields) :
    MentionsOnly (Addresses m q m.qualifies) (assignments m payload fields) := by
  fun_induction assignments m payload fields with
  | case1 => exact .nil
  | case2 f =>
    exact (MentionsOnly.text _).cons (.param (addresses_field hp hbean (hfields f (.head _))))
  | case3 f rest hne ih =>
    obtain ⟨hf, hrest⟩ := List.forall_mem_cons.mp hfields
    exact ((MentionsOnly.text _).cons
      ((MentionsOnly.param (addresses_field hp hbean hf)).cons (.text _))).append (ih hrest)

theorem mentionsOnly_assignmentsPart :
    MentionsOnly (Addresses m q m.qualifies) (assignmentsPart q m payload) := by
  have hfields : ∀ f ∈ assignedFields q payload, f ∈ payload.beanFields :=
    fun f hf => List.mem_of_mem_filter hf
  unfold assignmentsPart
  split
  · refine (MentionsOnly.map fun f hf => ?_).trim _
    have href : Addresses m q m.qualifies (m.propertyRef payload f.name) :=
      addresses_field hp hbean (hfields f hf)
    exact ((MentionsOnly.text _).cons ((MentionsOnly.param href).cons (.text _))).when href
  · exact (MentionsOnly.text _).cons (mentionsOnly_assignments hp hbean hfields)

end Payload

/-! ## What statements address -/

/-- Whether a statement addresses properties of beans behind the names of the parameters, and names
no parameter type, or the other way round. -/
structure AddressedAs (qualified : Bool) (q : Query) (m : BoundMethod) (s : Statement) : Prop where
  parameterType : s.parameterType.isNone = qualified
  body : MentionsOnly (Addresses m q qualified) s.body

theorem isNone_parameterType (m : BoundMethod) (kind : StatementKind) (body : Body) :
    (m.statement kind body).parameterType.isNone = m.qualifies := by
  unfold BoundMethod.statement BoundMethod.qualifies
  match m.params with
  | [] | [p] | p :: next :: rest => simp

/-- Every statement addresses what it mentions in one of the two forms, whichever way the bound
parameters ask for. -/
theorem addressedAs_translate (h : t.translate q m = .ok s) : AddressedAs m.qualifies q m s := by
  rcases translate_cases h with h | h | h | h
  · obtain ⟨-, bounds, condition, hbounds, hcondition, rfl⟩ := select_eq_ok.mp h
    refine ⟨isNone_parameterType m .select [], .append ?_ (mentionsOnly_rowBound hbounds)⟩
    exact ((MentionsOnly.text _).append (mentionsOnly_condition hcondition)).pushText _
  · obtain ⟨condition, hcondition, h⟩ := bind_eq_ok.mp h
    cases h
    exact ⟨isNone_parameterType m .delete [],
      (MentionsOnly.text _).append (mentionsOnly_condition hcondition)⟩
  · obtain ⟨payload, hpayload, -, -, hsingle, -, rfl⟩ := insert_eq_ok h
    have hp := List.mem_of_find?_eq_some hpayload
    have hbean : payload.isBean = true := List.find?_some hpayload
    refine ⟨isNone_parameterType m .insert [], (MentionsOnly.text _).append ?_⟩
    exact (mentionsOnly_columnsPart hp hbean hsingle).append_list
      ((MentionsOnly.text _).cons (mentionsOnly_rowsPart hp hbean hsingle))
  · obtain ⟨payload, condition, hpayload, -, -, hcondition, rfl⟩ := update_eq_ok.mp h
    have hp := List.mem_of_find?_eq_some hpayload
    have hbean := List.find?_some hpayload
    rw [Bool.and_eq_true] at hbean
    refine ⟨isNone_parameterType m .update [], .append ?_ (mentionsOnly_condition hcondition)⟩
    exact (MentionsOnly.text _).append (mentionsOnly_assignmentsPart hp hbean.1)

/-- **What a statement shows of its method are the parameters that were kept.** The statement of a
method is the one of the method that declares the kept parameters alone. So whether properties of
beans are addressed behind the names of the parameters, without a parameter type, is a matter of how
many parameters were kept, however many were declared: it is so unless just one was. -/
theorem translate_addressed {r : Resolver} {owner : TypeRef} {decl : MethodDecl}
    (hbind : bindMethod r owner decl = .ok m) (h : t.translate q m = .ok s) :
    let kept := keptParams r owner decl.params
    bindMethod r owner { decl with params := kept } = .ok m.settled ∧
      t.translate q m.settled = .ok s ∧ AddressedAs (kept.length != 1) q m s ∧
      (AddressedAs true q m s ↔ kept.length ≠ 1) := by
  intro kept
  have haddressed : AddressedAs (kept.length != 1) q m s := by
    rw [← length_params_of_bindMethod hbind]
    exact addressedAs_translate h
  refine ⟨bindMethod_keptParams hbind, translate_settled h, haddressed, fun hqualified => ?_,
    fun hseveral => ?_⟩
  -- the parameter type alone tells the two forms apart
  · have hform := hqualified.parameterType.symm.trans haddressed.parameterType
    simpa using hform.symm
  · have hform : (kept.length != 1) = true := by simpa using hseveral
    rwa [hform] at haddressed

/-- A method that inserts a user, with an editor of an unknown type and what else it takes. -/
def insertUser (others : List ParamDecl) : MethodDecl where
  name := "insert"
  params := { name := "user", type := .simple "User" } ::
    { name := "editor", type := .simple "Editor" } :: others

theorem resolve_editor (owner : TypeRef) :
    aged.resolver.resolve owner (.simple "Editor") = .error (.unknownType "Editor") := by
  have hclosure : aged.resolver.table.closure (.simple "Editor") = [] := by cbv
  have hiterable : aged.resolver.isIterable (.simple "Editor") = false := by
    rw [Resolver.isIterable, hclosure]
    decide
  have hscalar : aged.resolver.isOpaque "Editor" = false := by decide
  have hunknown : ¬aged.resolver.table.contains "Editor" = true := by decide
  rw [TypeRef.simple, resolve_bean hiterable hscalar, Resolver.resolveBean, if_neg hunknown]

/-- The editor is dropped. -/
theorem bindMethod_insertUser {owner : TypeRef} {others : List ParamDecl} {params : List Param}
    (h : bindParams aged.resolver owner others = (params, [])) :
    bindMethod aged.resolver owner (insertUser others) =
      .ok ⟨"insert", ⟨userBean, "user", "user"⟩ :: params, .void, ["editor"]⟩ := by
  have huser : bindParam aged.resolver.naming { name := "user", type := .simple "User" } userBean =
      ⟨userBean, "user", "user"⟩ := by
    decide
  simp only [bindMethod, insertUser, resolve_void, bindParams, resolve_user, resolve_editor, h,
    huser]

/-- With a number besides the user, the user's age is still addressed as the user's. -/
theorem translate_addressed_two_kept :
    let t : Translator := ⟨"users", id⟩
    let owner : TypeRef := .simple "UserMapper"
    let decl := insertUser [{ name := "attempt", type := .primitive "int" }]
    ∃ m s, bindMethod aged.resolver owner decl = .ok m ∧
      t.translate (insertQuery false false) m = .ok s ∧ m.dropped = ["editor"] ∧
      references s.body = [.value "user.age"] ∧
      AddressedAs true (insertQuery false false) m s := by
  intro t owner decl
  have hattempt : bindParams aged.resolver owner [{ name := "attempt", type := .primitive "int" }] =
      ([⟨.scalar "int", "attempt", "attempt"⟩], []) := by
    have hparam : bindParam aged.resolver.naming { name := "attempt", type := .primitive "int" }
        (.scalar "int") = ⟨.scalar "int", "attempt", "attempt"⟩ := by
      decide
    simp only [bindParams, resolve_primitive, hparam]
  have hbind := bindMethod_insertUser hattempt
  obtain ⟨s, hs⟩ : ∃ s, t.translate (insertQuery false false)
      ⟨"insert", [⟨userBean, "user", "user"⟩, ⟨.scalar "int", "attempt", "attempt"⟩], .void,
        ["editor"]⟩ = .ok s := ⟨_, rfl⟩
  have hseveral : (keptParams aged.resolver owner decl.params).length ≠ 1 := by
    rw [← length_params_of_bindMethod hbind]
    decide
  obtain ⟨-, -, -, hiff⟩ := translate_addressed hbind hs
  refine ⟨_, s, hbind, hs, rfl, ?_, hiff.mpr hseveral⟩
  cases hs
  decide

/-- **Losing a parameter can change how the others are addressed.** Of a method with two declared
parameters one is dropped; the insertion names the type of the other one as that of its sole
parameter, and takes a property of it by its own name. -/
theorem insert_loses_qualifier :
    let t : Translator := ⟨"users", id⟩
    ∃ m s, bindMethod aged.resolver (.simple "UserMapper") (insertUser []) = .ok m ∧
      (insertUser []).params.length = 2 ∧ m.dropped = ["editor"] ∧
      t.translate (insertQuery false false) m = .ok s ∧ s.parameterType = some "User" ∧
      s.sql = "INSERT INTO users (years) VALUES (#{age})" ∧
      ¬AddressedAs true (insertQuery false false) m s := by
  intro t
  refine ⟨_, _, bindMethod_insertUser rfl, rfl, rfl, rfl, rfl, by decide, fun h => ?_⟩
  exact absurd h.parameterType (by decide)

end Translator

end DerivedQuery
