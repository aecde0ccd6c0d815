import DerivedQuery.Proofs.Operand.References
import DerivedQuery.Proofs.Statement.Nesting

/-!
# What a statement mentions

A statement mentions a name where it binds a value, where it repeats a part for a collection, and
where a test asks whether a value is there. `Body.tests` reads the tests of a body, as `references`
reads what the body refers to, and `Body.MentionsOnly` is about both.

The condition of a statement mentions nothing but the operands of its conditions
(`mentionsOnly_whereBody`).
-/

namespace DerivedQuery

mutual

/-- The tests of a fragment, in the order of the text. -/
def Fragment.tests : Fragment → List String
  | .text _ | .param _ => []
  | .when test body => test :: Body.tests body
  | .trim _ body | .forEach _ body => Body.tests body

/-- The tests of a body, in the order of the text. -/
def Body.tests : List Fragment → List String
  | [] => []
  | f :: fs => f.tests ++ Body.tests fs

end

namespace Fragment

@[simp] theorem tests_text (text : String) : (Fragment.text text).tests = [] := rfl

@[simp] theorem tests_param (name : String) : (Fragment.param name).tests = [] := rfl

@[simp] theorem tests_when (test : String) (body : Body) :
    (Fragment.when test body).tests = test :: Body.tests body := rfl

@[simp] theorem tests_trim (rule : TrimRule) (body : Body) :
    (Fragment.trim rule body).tests = Body.tests body := rfl

@[simp] theorem tests_forEach (rule : LoopRule) (body : Body) :
    (Fragment.forEach rule body).tests = Body.tests body := rfl

end Fragment

namespace Body

@[simp] theorem tests_nil : tests [] = [] := rfl

@[simp] theorem tests_cons (f : Fragment) (fs : Body) : tests (f :: fs) = f.tests ++ tests fs := rfl

/-- Joining text with the text before it changes no test. -/
@[simp] theorem tests_push (body : Body) (f : Fragment) :
    tests (body.push f) = tests body ++ f.tests :=
  read_push rfl (fun _ _ => rfl) (fun _ _ => rfl) body f

/-- A body that is put together has the tests of its parts. -/
@[simp] theorem tests_append (body more : Body) :
    tests (Body.append body more) = tests body ++ tests more :=
  read_append rfl (fun _ _ => rfl) (fun _ _ => rfl) body more

/-- A body without nesting has no tests. -/
theorem tests_of_levels {body : Body} (h : levels body ≤ 1) : tests body = [] := by
  induction body with
  | nil => rfl
  | cons f body ih =>
    obtain ⟨hf, hbody⟩ := List.forall_mem_cons.mp (levels_le_iff.mp h)
    rw [tests_cons, ih (levels_le_iff.mpr hbody), List.append_nil]
    cases f with
    | text | param => rfl
    | when | trim | forEach =>
      rw [Fragment.levels] at hf
      omega

variable {ok : String → Prop} {body more : Body}

/-- Whether every test of a body is one for values of the right names. -/
def TestsOnly (ok : String → Prop) (body : Body) : Prop :=
  ∀ test ∈ tests body, ∃ names, test = Clause.presenceTest names ∧ ∀ name ∈ names, ok name

theorem testsOnly_of_nil (h : tests body = []) : TestsOnly ok body := by
  intro test htest
  rw [h] at htest
  cases htest

theorem TestsOnly.append (h : TestsOnly ok body) (hmore : TestsOnly ok more) :
    TestsOnly ok (Body.append body more) := by
  intro test htest
  rw [tests_append, List.mem_append] at htest
  exact htest.elim (h test) (hmore test)

/-- Whether a body refers to and tests only values and collections of the right names. -/
structure MentionsOnly (ok : String → Prop) (body : Body) : Prop where
  references : ∀ ref ∈ references body, ok ref.name
  tests : TestsOnly ok body

theorem mentionsOnly_iff : MentionsOnly ok body ↔ ∀ f ∈ body, MentionsOnly ok [f] := by
  induction body with
  | nil => exact iff_of_true ⟨by simp, testsOnly_of_nil rfl⟩ (by simp)
  | cons f body ih =>
    have htests : TestsOnly ok (f :: body) ↔ TestsOnly ok [f] ∧ TestsOnly ok body := by
      simp only [TestsOnly, tests_cons, tests_nil, List.append_nil, List.forall_mem_append]
    rw [List.forall_mem_cons, ← ih]
    refine ⟨fun h => ?_, fun ⟨hf, h⟩ => ⟨?_, htests.mpr ⟨hf.tests, h.tests⟩⟩⟩
    · obtain ⟨hf, hbody⟩ := List.forall_mem_append.mp h.references
      obtain ⟨hftests, hbodytests⟩ := htests.mp h.tests
      exact ⟨⟨by simpa using hf, hftests⟩, ⟨hbody, hbodytests⟩⟩
    · exact List.forall_mem_append.mpr ⟨by simpa using hf.references, h.references⟩

namespace MentionsOnly

theorem nil : MentionsOnly ok [] := mentionsOnly_iff.mpr (by simp)

theorem cons {f : Fragment} (hf : MentionsOnly ok [f]) (h : MentionsOnly ok body) :
    MentionsOnly ok (f :: body) :=
  mentionsOnly_iff.mpr (List.forall_mem_cons.mpr ⟨hf, mentionsOnly_iff.mp h⟩)

theorem append (h : MentionsOnly ok body) (hmore : MentionsOnly ok more) :
    MentionsOnly ok (Body.append body more) := by
  refine ⟨?_, h.tests.append hmore.tests⟩
  rw [references_append]
  exact List.forall_mem_append.mpr ⟨h.references, hmore.references⟩

theorem append_list (h : MentionsOnly ok body) (hmore : MentionsOnly ok more) :
    MentionsOnly ok (body ++ more) :=
  mentionsOnly_iff.mpr
    (List.forall_mem_append.mpr ⟨mentionsOnly_iff.mp h, mentionsOnly_iff.mp hmore⟩)

theorem map {α : Type} {fragment : α → Fragment} {xs : List α}
    (h : ∀ x ∈ xs, MentionsOnly ok [fragment x]) : MentionsOnly ok (xs.map fragment) :=
  mentionsOnly_iff.mpr (List.forall_mem_map.mpr h)

theorem text (text : String) : MentionsOnly ok [.text text] :=
  ⟨by simp, testsOnly_of_nil rfl⟩

theorem pushText (h : MentionsOnly ok body) (text : String) :
    MentionsOnly ok (body.pushText text) := by
  unfold Body.pushText
  split
  · exact h
  · exact h.append (.text text)

theorem param {name : String} (h : ok name) : MentionsOnly ok [.param name] :=
  ⟨List.forall_mem_singleton.mpr h, testsOnly_of_nil rfl⟩

/-- The test for a value mentions the value. -/
theorem when {name : String} (hname : ok name) (h : MentionsOnly ok body) :
    MentionsOnly ok [.when (isPresent name) body] := by
  refine ⟨by simpa using h.references, fun test htest => ?_⟩
  rw [tests_cons, tests_nil, List.append_nil] at htest
  rcases List.mem_cons.mp htest with rfl | htest
  · exact ⟨[name], String.intercalate_singleton.symm, List.forall_mem_singleton.mpr hname⟩
  · exact h.tests test htest

theorem trim (h : MentionsOnly ok body) (rule : TrimRule) : MentionsOnly ok [.trim rule body] :=
  ⟨by simpa using h.references, by simpa [TestsOnly] using h.tests⟩

/-- A part that is repeated may mention the element at hand, but not test it. -/
theorem forEach {rule : LoopRule} (hcollection : ok rule.collection) (h : Body.tests body = []) :
    MentionsOnly ok [.forEach rule body] :=
  ⟨List.forall_mem_singleton.mpr hcollection, testsOnly_of_nil (by simpa using h)⟩

theorem separated {separator : String} {fs : List Fragment} (h : MentionsOnly ok fs) :
    MentionsOnly ok (separated separator fs) := by
  fun_induction DerivedQuery.separated separator fs with
  | case1 | case2 => exact h
  | case3 f rest hne ih =>
    obtain ⟨hf, hrest⟩ := List.forall_mem_cons.mp (mentionsOnly_iff.mp h)
    exact (hf.cons (.text _)).append (ih (mentionsOnly_iff.mpr hrest))

theorem valueList {names : List String} (h : ∀ name ∈ names, ok name) :
    MentionsOnly ok (valueList names) :=
  ((text "(").append (separated (map fun name hname => param (h name hname)))).append (text ")")

end MentionsOnly

end Body

open Body

theorem tests_body (c : Condition) (column : String) (operands : List String) :
    tests (c.body column operands) = [] := by
  unfold Condition.body
  cases c.comparator <;> simp [membership]

namespace Clause

variable {column : PropertyPath → String} {ok : String → Prop}

mutual

/-- A clause that is written out has no tests. -/
theorem tests_fixed (c : Clause) (nested : Bool) : tests (c.fixed column nested) = [] := by
  match c with
  | leaf condition operands mark => exact tests_body condition _ operands
  | group op mark children =>
    have hchildren := tests_fixedAll children op
    rw [fixed]
    cases nested <;> simp [hchildren]

theorem tests_fixedAll (cs : List Clause) (op : Connective) :
    tests (fixedAll column op cs) = [] := by
  match cs with
  | [] => rfl
  | [c] => exact tests_fixed c true
  | c :: next :: cs =>
    show tests (Body.append (Body.push _ (.text _)) (fixedAll column op (next :: cs))) = []
    rw [tests_append, tests_push, tests_fixed c, tests_fixedAll (next :: cs)]
    rfl

end

theorem testsOnly_guarded {selective : Bool} {operands : List String} {body : Body}
    (hoperands : ∀ name ∈ operands, ok name) (h : TestsOnly ok body) :
    TestsOnly ok (guarded selective operands body) := by
  unfold guarded
  split
  · intro test htest
    rcases List.mem_cons.mp htest with rfl | htest
    · exact ⟨operands, rfl, hoperands⟩
    · exact h test (by simpa using htest)
  · exact h

mutual

/-- A clause with parts that may drop out tests its operands. -/
theorem testsOnly_conditional (c : Clause) (h : ∀ name ∈ c.operands, ok name)
    (lead : Option Connective) : TestsOnly ok (c.conditional column lead) := by
  match c with
  | leaf condition operands mark =>
    have hbody := tests_body condition (column condition.path) operands
    refine testsOnly_guarded h (testsOnly_of_nil ?_)
    cases lead with
    | none => exact hbody
    | some op => simp [hbody]
  | group op mark children =>
    -- the test in front of the group is for all its operands, those inside are for some of them
    refine testsOnly_guarded h fun test htest => ?_
    rw [tests_cons, tests_nil, List.append_nil] at htest
    exact testsOnly_conditionalAll children h op none test htest

theorem testsOnly_conditionalAll (cs : List Clause) (h : ∀ name ∈ operandsAll cs, ok name)
    (op : Connective) (lead : Option Connective) :
    TestsOnly ok (conditionalAll column op lead cs) := by
  match cs with
  | [] => exact testsOnly_of_nil rfl
  | c :: cs =>
    obtain ⟨hc, hcs⟩ := List.forall_mem_append.mp h
    exact (testsOnly_conditional c hc lead).append (testsOnly_conditionalAll cs hcs op (some op))

end

/-- A clause on its own tests its operands. -/
theorem testsOnly_conditionalTop (c : Clause) (h : ∀ name ∈ c.operands, ok name) :
    TestsOnly ok (c.conditionalTop column) := by
  cases c with
  | leaf condition operands mark => exact testsOnly_conditional _ h none
  | group op mark children => exact testsOnly_guarded h (testsOnly_conditionalAll children h op none)

end Clause

theorem name_reference (c : Condition) (name : String) : (c.reference name).name = name := by
  unfold Condition.reference
  split <;> rfl

/-- With one list of operands for each condition, as long as the condition needs it, the condition
of a statement mentions these operands and nothing else. -/
theorem mentionsOnly_whereBody {ok : String → Prop} {p : Predicate} {operands : List (List String)}
    (column : PropertyPath → String)
    (hlength : operands.map List.length = p.conditions.map Condition.arity)
    (hok : ∀ names ∈ operands, ∀ name ∈ names, ok name) :
    MentionsOnly ok (whereBody column p operands) := by
  have hcomparison : ∀ x ∈ List.zipWith Comparison.mk p.conditions operands,
      ∀ name ∈ x.operands, ok name := by
    intro x hx
    obtain ⟨i, hi, rfl⟩ := List.mem_iff_getElem.mp hx
    rw [List.getElem_zipWith]
    exact hok _ (List.getElem_mem _)
  constructor
  · intro ref href
    rw [references_whereBody column hlength] at href
    obtain ⟨x, hx, href⟩ := List.mem_flatMap.mp href
    obtain ⟨name, hname, rfl⟩ := List.mem_map.mp href
    rw [name_reference]
    exact hcomparison x hx name hname
  · have hcomparisons : (p.assigned operands).comparisons =
        List.zipWith Comparison.mk p.conditions operands :=
      comparisons_assigned (by simpa using congrArg List.length hlength)
    have hclause : ∀ name ∈ (p.assigned operands).operands, ok name := by
      intro name hname
      rw [Clause.operands_eq_flatMap, hcomparisons] at hname
      obtain ⟨x, hx, hname⟩ := List.mem_flatMap.mp hname
      exact hcomparison x hx name hname
    by_cases hselective : p.hasSelective = true
    · intro test htest
      rw [whereBody, if_pos hselective, tests_cons, tests_cons, tests_nil, List.append_nil] at htest
      exact Clause.testsOnly_conditionalTop _ hclause test htest
    · refine testsOnly_of_nil ?_
      rw [whereBody, if_neg hselective, tests_append, Clause.tests_fixed]
      rfl

end DerivedQuery
