import DerivedQuery.Method.Binding
import DerivedQuery.Proofs.Operand.References
import DerivedQuery.Proofs.Statement.Parts
import DerivedQuery.Proofs.Types.Resolving
import Mathlib.Data.List.Forall2

/-!
# Operands end up where they belong

Between the declaration of a method and the text of its statement, a parameter passes three
traversals: binding, which may drop it; handing out, which goes through the conditions of the
predicate; and writing, which goes through its groups. If one of them were a place ahead, a column
would be compared with the value of another parameter.

`BoundMethod.Source` says where operands come from, and `BoundMethod.operands_eq_ok` that they come
from nowhere else. Together with what the condition of a statement refers to this is

> `operands_in_place`: the statement refers to the declared parameters in their order.
-/

namespace DerivedQuery

open DerivedQuery.Naming DerivedQuery.Types

/-! ## Declared parameters -/

/-- The name that statements use for a declared parameter. -/
def exposedName (p : ParamDecl) : String := p.alternate.getD p.name

/-- Whether a condition can take its operand from a parameter of a type: it is not a bean and, for
a page, does not bound it. -/
def takesOperand (operation : Operation) (x : ParamDecl × Descriptor) : Bool :=
  !x.2.isBean &&
    !(operation == .page && (exposedName x.1 == offsetName || exposedName x.1 == limitName))

/-- Without dropped parameters, every declared parameter has a type and is bound at its place. -/
theorem bindParams_of_dropped_nil {r : Resolver} {owner : TypeRef} {decls : List ParamDecl}
    (h : (bindParams r owner decls).2 = []) :
    ∃ types, List.Forall₂ (fun p type => r.resolve owner p.type = .ok type) decls types ∧
      (bindParams r owner decls).1 = List.zipWith (bindParam r.naming) decls types := by
  induction decls with
  | nil => exact ⟨[], .nil, rfl⟩
  | cons p decls ih =>
    cases htype : r.resolve owner p.type with
    | error cause =>
      simp only [bindParams, htype] at h
      cases h
    | ok type =>
      simp only [bindParams, htype] at h
      obtain ⟨types, htypes, hparams⟩ := ih h
      refine ⟨type :: types, .cons htype htypes, ?_⟩
      simp only [bindParams, htype, hparams, List.zipWith_cons_cons]

theorem bindMethod_of_dropped_nil {r : Resolver} {owner : TypeRef} {decl : MethodDecl}
    {m : BoundMethod} (h : bindMethod r owner decl = .ok m) (hdropped : m.dropped = []) :
    ∃ types, List.Forall₂ (fun p type => r.resolve owner p.type = .ok type) decl.params types ∧
      m.params = List.zipWith (bindParam r.naming) decl.params types := by
  unfold bindMethod at h
  split at h
  · cases h
  · cases h
    exact bindParams_of_dropped_nil hdropped

/-- The parameters that conditions take operands from are the declared ones of that kind. -/
theorem positional_zipWith {m : BoundMethod} {decls : List ParamDecl} {types : List Descriptor}
    {naming : Converter} (h : m.params = List.zipWith (bindParam naming) decls types)
    (operation : Operation) :
    m.positional operation = ((decls.zip types).filter (takesOperand operation)).map
      fun x => bindParam naming x.1 x.2 := by
  rw [BoundMethod.positional, h, ← List.map_uncurry_zip_eq_zipWith, List.filter_map]
  rfl

/-- The first plain bean among the parameters is the first one that is declared. -/
theorem plainBean?_zipWith {m : BoundMethod} {decls : List ParamDecl} {types : List Descriptor}
    {naming : Converter} (h : m.params = List.zipWith (bindParam naming) decls types) :
    m.plainBean? = ((decls.zip types).find? fun x => x.2.isBean && !x.2.isIterable).map
      fun x => bindParam naming x.1 x.2 := by
  rw [BoundMethod.plainBean?, h, ← List.map_uncurry_zip_eq_zipWith, List.find?_map]
  rfl

/-! ## Handing out parameters -/

namespace BoundMethod

variable {m : BoundMethod}

/-- A condition takes parameters from the front, iterables if it needs them. -/
theorem takeOperands_eq_ok {c : Condition} {available : List Param} {names : List String}
    (h : m.takeOperands c available = .ok names) :
    names = (available.take c.arity).map (·.name) ∧
      (c.comparator.expectsIterable = true →
        ∀ p ∈ available.take c.arity, p.isIterable = true) := by
  unfold takeOperands at h
  cases hexpects : c.comparator.expectsIterable with
  | false =>
    rw [hexpects] at h
    cases h
    exact ⟨rfl, fun h => by cases h⟩
  | true =>
    cases hfind : (available.take c.arity).find? (!·.isIterable) with
    | some p =>
      simp only [hexpects, if_true, hfind] at h
      cases h
    | none =>
      simp only [hexpects, if_true, hfind] at h
      cases h
      refine ⟨rfl, fun _ p hp => ?_⟩
      simpa using List.find?_eq_none.mp hfind p hp

/-- The parameters are handed out in their order, to each condition as many as it needs. -/
theorem operandsInOrder_eq_ok {cs : List Condition} {available : List Param}
    {operands : List (List String)} (h : m.operandsInOrder cs available = .ok operands)
    (henough : Condition.arityOfAll cs ≤ available.length) :
    ∃ shares : List (List Param), shares.flatten = available.take (Condition.arityOfAll cs) ∧
      operands = shares.map (·.map (·.name)) ∧
      List.Forall₂ (fun c share => share.length = c.arity ∧
        (c.comparator.expectsIterable = true → ∀ p ∈ share, p.isIterable = true)) cs shares := by
  induction cs generalizing available operands with
  | nil =>
    cases h
    exact ⟨[], rfl, rfl, .nil⟩
  | cons c cs ih =>
    simp only [Condition.arityOfAll] at henough ⊢
    obtain ⟨names, hnames, h⟩ := bind_eq_ok.mp h
    obtain ⟨others, hothers, h⟩ := bind_eq_ok.mp h
    cases h
    obtain ⟨rfl, hiterable⟩ := takeOperands_eq_ok hnames
    obtain ⟨shares, hflatten, rfl, hshares⟩ :=
      ih hothers (by rw [List.length_drop]; omega)
    refine ⟨available.take c.arity :: shares, ?_, rfl, .cons ⟨?_, hiterable⟩ hshares⟩
    · rw [List.flatten_cons, hflatten, ← List.take_add]
    · rw [List.length_take]
      omega

/-- A bean gives each condition with an operand the property that the condition is about. -/
theorem operandsOfBean_eq_ok {expected : Nat} {bean : Param} {cs : List Condition}
    {operands : List (List String)} (h : m.operandsOfBean expected bean cs = .ok operands) :
    (∀ c ∈ cs, c.arity ≤ 1) ∧
      operands = cs.map fun c =>
        if c.arity = 1 then [m.propertyRef bean c.path.dotted] else [] := by
  induction cs generalizing operands with
  | nil =>
    cases h
    exact ⟨by simp, rfl⟩
  | cons c cs ih =>
    have hstep : ∃ others, m.operandsOfBean expected bean cs = .ok others ∧ c.arity ≤ 1 ∧
        operands = (if c.arity = 1 then [m.propertyRef bean c.path.dotted] else []) :: others := by
      rw [operandsOfBean] at h
      match harity : c.arity with
      | 0 | 1 =>
        rw [harity] at h
        obtain ⟨names, hnames, h⟩ := bind_eq_ok.mp h
        obtain ⟨others, hothers, h⟩ := bind_eq_ok.mp h
        cases hnames
        cases h
        exact ⟨others, hothers, by omega, rfl⟩
      | n + 2 =>
        rw [harity] at h
        cases h
    obtain ⟨others, hothers, hc, rfl⟩ := hstep
    obtain ⟨hcs, rfl⟩ := ih hothers
    exact ⟨List.forall_mem_cons.mpr ⟨hc, hcs⟩, rfl⟩

/-- Where the operands of a predicate come from: from the parameters in their order, or from a
bean if there are no such parameters. -/
inductive Source (m : BoundMethod) (operation : Operation) (p : Predicate)
    (operands : List (List String)) : Prop
  /-- Every condition has a share of the first parameters that operands are taken from. -/
  | parameters (shares : List (List Param))
      (enough : p.operandCount ≤ (m.positional operation).length)
      (inOrder : shares.flatten = (m.positional operation).take p.operandCount)
      (names : operands = shares.map (·.map (·.name)))
      (fitting : List.Forall₂ (fun c share => share.length = c.arity ∧
        (c.comparator.expectsIterable = true → ∀ p ∈ share, p.isIterable = true))
        p.conditions shares)
  /-- Every condition has at most one operand, the property of a bean that it is about. -/
  | bean (bean : Param) (none : m.positional operation = []) (first : m.plainBean? = some bean)
      (single : ∀ c ∈ p.conditions, c.arity ≤ 1)
      (properties : operands = p.conditions.map fun c =>
        if c.arity = 1 then [m.propertyRef bean c.path.dotted] else [])

/-- The operands of a query have their source, and none of the parameters was dropped, unless no
condition has an operand. -/
theorem operands_eq_ok {q : Query} {p : Predicate} {operands : List (List String)}
    (hp : q.predicate = some p) (h : m.operands q = .ok operands) :
    (p.operandCount = 0 ∧ operands = p.conditions.map fun _ => []) ∨
      (m.dropped = [] ∧ Source m q.operation p operands) := by
  have hcount : q.operandCount = p.operandCount := by simp [Query.operandCount, hp]
  have hconditions : q.conditions = p.conditions := by simp [Query.conditions, hp]
  unfold BoundMethod.operands at h
  rw [hcount, hconditions] at h
  by_cases hzero : p.operandCount = 0
  · simp only [hzero, if_true] at h
    cases h
    exact .inl ⟨hzero, rfl⟩
  · simp only [hzero, if_false] at h
    right
    cases hdropped : m.dropped with
    | cons name others =>
      simp only [hdropped] at h
      cases h
    | nil =>
      simp only [hdropped] at h
      refine ⟨rfl, ?_⟩
      by_cases henough : p.operandCount ≤ (m.positional q.operation).length
      · rw [if_pos henough] at h
        obtain ⟨shares, hflatten, hnames, hshares⟩ := operandsInOrder_eq_ok h henough
        exact .parameters shares henough hflatten hnames hshares
      · rw [if_neg henough] at h
        split at h
        · next bean hbean hnone =>
          obtain ⟨hsingle, hproperties⟩ := operandsOfBean_eq_ok h
          exact .bean bean hnone hbean hsingle hproperties
        · cases h

/-- Where all conditions together have no operand, none of them has one. -/
theorem arity_eq_zero_of_mem {cs : List Condition} (h : Condition.arityOfAll cs = 0) {c : Condition}
    (hc : c ∈ cs) : c.arity = 0 := by
  induction cs with
  | nil => cases hc
  | cons d cs ih =>
    rw [Condition.arityOfAll] at h
    rcases List.mem_cons.mp hc with rfl | hc
    · omega
    · exact ih (by omega) hc

/-- Every condition gets as many operands as it needs. -/
theorem map_length_operands {q : Query} {p : Predicate} {operands : List (List String)}
    (hp : q.predicate = some p) (h : m.operands q = .ok operands) :
    operands.map List.length = p.conditions.map Condition.arity := by
  rcases operands_eq_ok hp h with ⟨hzero, rfl⟩ | ⟨-, hsource⟩
  · rw [List.map_map]
    refine List.map_congr_left fun c hc => ?_
    exact (arity_eq_zero_of_mem hzero hc).symm
  · cases hsource with
    | parameters shares henough hflatten hnames hfitting =>
      rw [hnames, List.map_map]
      clear hflatten hnames henough h
      generalize p.conditions = cs at hfitting
      induction hfitting with
      | nil => rfl
      | cons hshare hshares ih =>
        rw [List.map_cons, List.map_cons, ih, ← hshare.1, Function.comp_apply, List.length_map]
    | bean bean hnone hfirst hsingle hproperties =>
      rw [hproperties, List.map_map]
      refine List.map_congr_left fun c hc => ?_
      have := hsingle c hc
      rw [Function.comp_apply]
      split
      · next hone => exact hone.symm
      · rw [List.length_nil]
        omega

end BoundMethod

/-! ## References to parameters -/

/-- A value or collection of the given name and type: a collection has to be iterable. -/
def Reference.RefersTo : Reference → String → Descriptor → Prop
  | value used, name, _ => used = name
  | collection used, name, type => used = name ∧ type.isIterable = true

/-- Conditions refer to the parameters that they have a share of, one after another. -/
theorem forall₂_refersTo {cs : List Condition} {shares : List (List Param)}
    (h : List.Forall₂ (fun c share => share.length = c.arity ∧
      (c.comparator.expectsIterable = true → ∀ p ∈ share, p.isIterable = true)) cs shares) :
    List.Forall₂ (fun ref p => Reference.RefersTo ref p.name p.type)
      ((List.zipWith Comparison.mk cs (shares.map (·.map (·.name)))).flatMap Comparison.references)
      shares.flatten := by
  induction h with
  | nil => exact .nil
  | @cons c share cs shares hshare hshares ih =>
    refine List.rel_append ?_ ih
    rw [Comparison.references, List.forall₂_map_left_iff, List.forall₂_map_left_iff,
      List.forall₂_same]
    intro p hp
    unfold Condition.reference
    split
    · next hexpects => exact ⟨rfl, hshare.2 hexpects p hp⟩
    · rfl

/-- References one after another have the names of what they refer to. -/
theorem map_name_of_refersTo {refs : List Reference} {xs : List (ParamDecl × Descriptor)}
    (h : List.Forall₂ (fun ref x => Reference.RefersTo ref (exposedName x.1) x.2) refs xs) :
    refs.map Reference.name = xs.map fun x => exposedName x.1 := by
  induction h with
  | nil => rfl
  | @cons ref x refs xs href hrefs ih =>
    have hname : ref.name = exposedName x.1 := by
      cases ref with
      | value used => exact href
      | collection used => exact href.1
    rw [List.map_cons, List.map_cons, ih, hname]

/-- Conditions that a bean gives their operands refer to the properties that they are about. -/
theorem flatMap_references_bean {cs : List Condition} (property : Condition → String)
    (h : ∀ c ∈ cs, c.arity ≤ 1) :
    (List.zipWith Comparison.mk cs
        (cs.map fun c => if c.arity = 1 then [property c] else [])).flatMap Comparison.references =
      (cs.filter (·.arity == 1)).map fun c => c.reference (property c) := by
  induction cs with
  | nil => rfl
  | cons c cs ih =>
    obtain ⟨hc, hcs⟩ := List.forall_mem_cons.mp h
    rw [List.map_cons, List.zipWith_cons_cons, List.flatMap_cons, ih hcs]
    by_cases hone : c.arity = 1
    · rw [if_pos hone, List.filter_cons_of_pos (by simpa using hone)]
      rfl
    · rw [if_neg hone, List.filter_cons_of_neg (by simpa using hone)]
      rfl

/-! ## The statement around the condition -/

/-- Whether a body has the condition of a predicate in it, with the operands of a method. -/
def CarriesCondition (t : Translator) (q : Query) (m : BoundMethod) (p : Predicate)
    (body : Body) : Prop :=
  ∃ operands fields before after, m.operands q = .ok operands ∧
    body = Body.append (Body.append before (whereBody (t.column fields) p operands)) after

namespace Translator

variable {t : Translator} {q : Query} {m : BoundMethod} {s : Statement} {p : Predicate}

/-- The condition of a query with a predicate is written with the operands of the method. -/
theorem condition_eq_ok (hp : q.predicate = some p) {fields : List BeanField} {body : Body}
    (h : t.condition q m fields = .ok body) :
    ∃ operands, m.operands q = .ok operands ∧ body = whereBody (t.column fields) p operands := by
  obtain ⟨operands, hoperands, h⟩ := bind_eq_ok.mp h
  rw [hp] at h
  cases h
  exact ⟨operands, hoperands, rfl⟩

/-- The statement for a query with a predicate has the condition in its body. -/
theorem translate_eq_ok (hp : q.predicate = some p) (h : t.translate q m = .ok s) :
    CarriesCondition t q m p s.body := by
  obtain ⟨condition, head, tail, hcondition, hbody⟩ := (translate_assembled h).body
  obtain ⟨operands, hoperands, rfl⟩ := condition_eq_ok hp hcondition
  -- what comes behind the condition starts with the order, if there is one
  have hordered : ∀ (body more : Body) (text : String),
      Body.append (body.pushText text) more =
        Body.append body ((if text.isEmpty then [] else [.text text]) ++ more) := by
    intro body more text
    unfold Body.pushText
    split <;> rfl
  rw [hordered] at hbody
  exact ⟨operands, _, head, _, hoperands, hbody⟩

end Translator

/-! ## From declared parameters to the statement -/

/-- **Operands never shift.** Where a method is bound and translated for a predicate, every
condition has exactly as many operands as it needs, handing them out leaves none over, and nothing
is written in the place of an operand that is missing.

If the predicate has operands at all, no declared parameter was dropped. Read in the order of the
text, the condition of the statement then refers to the first declared parameters that operands are
taken from, one after another by the names that they expose and where a collection is needed to
iterables. If the method declares no such parameter, it refers to the properties that the
conditions with an operand are about, on the first bean that is declared. -/
theorem operands_in_place {r : Resolver} {owner : TypeRef} {decl : MethodDecl} {t : Translator}
    {q : Query} {m : BoundMethod} {s : Statement} {p : Predicate}
    (hbind : bindMethod r owner decl = .ok m) (htranslate : t.translate q m = .ok s)
    (hp : q.predicate = some p) :
    ∃ operands fields before after,
      s.body = Body.append (Body.append before (whereBody (t.column fields) p operands)) after ∧
      operands.map List.length = p.conditions.map Condition.arity ∧
      p.groups.assign? operands = some (p.assigned operands, []) ∧
      (p.assigned operands).comparisons = List.zipWith Comparison.mk p.conditions operands ∧
      (∀ x ∈ (p.assigned operands).comparisons,
        x.condition.body? (t.column fields x.condition.path) x.operands =
          some (x.condition.body (t.column fields x.condition.path) x.operands)) ∧
      (0 < q.operandCount → m.dropped = [] ∧ ∃ types,
        List.Forall₂ (fun d type => r.resolve owner d.type = .ok type) decl.params types ∧
        m.params = List.zipWith (bindParam r.naming) decl.params types ∧
        ((∃ taken, taken.length = q.operandCount ∧
            taken <+: (decl.params.zip types).filter (takesOperand q.operation) ∧
            List.Forall₂ (fun ref x => Reference.RefersTo ref (exposedName x.1) x.2)
              (Body.references (whereBody (t.column fields) p operands)) taken) ∨
          ((decl.params.zip types).filter (takesOperand q.operation) = [] ∧
            (∀ c ∈ p.conditions, c.arity ≤ 1) ∧
            ∃ x, (decl.params.zip types).find? (fun x => x.2.isBean && !x.2.isIterable) = some x ∧
              Body.references (whereBody (t.column fields) p operands) =
                (p.conditions.filter (·.arity == 1)).map fun c =>
                  c.reference (m.propertyRef (bindParam r.naming x.1 x.2) c.path.dotted)))) := by
  obtain ⟨operands, fields, before, after, hoperands, hbody⟩ :=
    Translator.translate_eq_ok hp htranslate
  have hlengths := BoundMethod.map_length_operands hp hoperands
  have hlength : operands.length = p.conditions.length := by
    simpa using congrArg List.length hlengths
  have hcomparisons := comparisons_assigned hlength
  have hreferences := references_whereBody (t.column fields) hlengths
  have hcount : q.operandCount = p.operandCount := by simp [Query.operandCount, hp]
  refine ⟨operands, fields, before, after, hbody, hlengths, assign?_groups hlength, hcomparisons,
    ?_, ?_⟩
  · intro x hx
    rw [hcomparisons] at hx
    exact body?_of_arity _ (length_eq_arity_of_mem hlengths hx)
  · intro hpositive
    rcases BoundMethod.operands_eq_ok hp hoperands with ⟨hzero, -⟩ | ⟨hdropped, hsource⟩
    · omega
    -- nothing was dropped, so the bound parameters stand where they are declared
    obtain ⟨types, htypes, hparams⟩ := bindMethod_of_dropped_nil hbind hdropped
    have hpositional := positional_zipWith hparams q.operation
    have hbean := plainBean?_zipWith hparams
    refine ⟨hdropped, types, htypes, hparams, ?_⟩
    rw [hreferences]
    cases hsource with
    | parameters shares henough hinOrder hnames hfitting =>
      left
      have hrefers := forall₂_refersTo hfitting
      rw [← hnames, hinOrder, hpositional, ← List.map_take, List.forall₂_map_right_iff] at hrefers
      rw [hpositional, List.length_map] at henough
      refine ⟨_, ?_, List.take_prefix _ _, hrefers⟩
      rw [List.length_take, hcount]
      omega
    | bean bean hnone hfirst hsingle hproperties =>
      right
      rw [hbean, Option.map_eq_some_iff] at hfirst
      rw [hpositional, List.map_eq_nil_iff] at hnone
      obtain ⟨x, hx, rfl⟩ := hfirst
      refine ⟨hnone, hsingle, x, hx, ?_⟩
      rw [hproperties]
      exact flatMap_references_bean _ hsingle

/-! ## A page with operands between its bounds -/

/-- A page of the rows whose `id` is one of several, whose `deleted` is not set and whose `age` lies
between two values. -/
def pageOfThree : Query where
  operation := .page
  all := false
  selective := false
  predicate := some (.binary .and (.binary .and (.condition ⟨⟨["id"]⟩, .in⟩)
    (.condition ⟨⟨["deleted"]⟩, .isNull⟩)) (.condition ⟨⟨["age"]⟩, .between⟩))
  orderBy := none

/-- The parameters of the page, with its bounds among the operands. -/
def pageMethod : MethodDecl where
  name := "page"
  params := [⟨"offset", .primitive "int", none, none⟩,
    ⟨"keys", .array (.primitive "int"), some "ids", none⟩, ⟨"low", .primitive "int", none, none⟩,
    ⟨"limit", .primitive "int", none, none⟩, ⟨"high", .primitive "int", none, none⟩]
  returns := .primitive "int"

/-- The parameters of the page as statements see them. -/
def boundPage : BoundMethod where
  name := "page"
  params := [⟨.scalar "int", "offset", "offset"⟩,
    ⟨.iterable "int[]" (.scalar "int"), "ids", "ids"⟩, ⟨.scalar "int", "low", "low"⟩,
    ⟨.scalar "int", "limit", "limit"⟩, ⟨.scalar "int", "high", "high"⟩]
  returns := .scalar "int"
  dropped := []

/-- Of five parameters, the three that do not bound the page are the operands, in their order. -/
theorem operands_in_place_page :
    let r : Resolver := { table := .empty, naming := id }
    let t : Translator := ⟨"people", id⟩
    bindMethod r (.simple "Mapper") pageMethod = .ok boundPage ∧
      ∃ s p operands fields, t.translate pageOfThree boundPage = .ok s ∧
        pageOfThree.predicate = some p ∧ 0 < pageOfThree.operandCount ∧
        (Body.references (whereBody (t.column fields) p operands)).map Reference.name =
          ["ids", "low", "high"] := by
  intro r t
  have hbind : bindMethod r (.simple "Mapper") pageMethod = .ok boundPage := by
    simp only [bindMethod, pageMethod, bindParams, resolve_primitive, resolve_array_primitive]
    rfl
  obtain ⟨s, hs⟩ : ∃ s, t.translate pageOfThree boundPage = .ok s := ⟨_, rfl⟩
  have hcount : 0 < pageOfThree.operandCount := by decide
  obtain ⟨operands, fields, -, -, -, -, -, -, -, hplaces⟩ := operands_in_place hbind hs rfl
  refine ⟨hbind, s, _, operands, fields, hs, rfl, hcount, ?_⟩
  obtain ⟨-, types, htypes, -, hsource⟩ := hplaces hcount
  obtain rfl : types = boundPage.params.map (·.type) := by
    rcases htypes with _ | ⟨h₁, _ | ⟨h₂, _ | ⟨h₃, _ | ⟨h₄, _ | ⟨h₅, ⟨⟩⟩⟩⟩⟩⟩
    rw [resolve_primitive] at h₁ h₃ h₄ h₅
    rw [resolve_array_primitive] at h₂
    cases h₁
    cases h₂
    cases h₃
    cases h₄
    cases h₅
    rfl
  rcases hsource with ⟨taken, hlength, hprefix, hrefers⟩ | ⟨hnone, -⟩
  · have htaken := List.prefix_iff_eq_take.mp hprefix
    rw [hlength] at htaken
    rw [map_name_of_refersTo hrefers, htaken]
    rfl
  · cases hnone

end DerivedQuery
