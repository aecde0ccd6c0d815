import DerivedQuery.Proofs.Statement.Addressing
import DerivedQuery.Proofs.Statement.Fragments
import Mathlib.Data.List.Chain

/-!
# Statements in canonical form

A body is in canonical form if at every level no text in it is empty and no two texts are
neighbours (`Body.IsCanonical`). A body may be put together from literal parts, as long as it is put
together by adding: what comes behind a body that is in canonical form need not be so as a whole,
only its fragments one by one (`Body.IsCanonical.append`). That is what every part of a statement
comes to, however it is nested.

> `translate_canonical`: the statement for a method is in canonical form, and joining texts does not
> change how a body is written.
-/

namespace DerivedQuery

open DerivedQuery.Types DerivedQuery.Xml

/-! ## Canonical form -/

/-- Whether a fragment is text. -/
def Fragment.isText : Fragment → Bool
  | .text _ => true
  | .param _ | .when _ _ | .trim _ _ | .forEach _ _ => false

mutual

/-- Whether a fragment is no empty text, and the body in it, if there is one, is in canonical
form. -/
def Fragment.IsCanonical : Fragment → Prop
  | .text text => text ≠ ""
  | .param _ => True
  | .when _ body | .trim _ body | .forEach _ body => Body.IsCanonical body

/-- Whether a body is in canonical form: so are its fragments, and directly behind a text there is
no other text. -/
def Body.IsCanonical : List Fragment → Prop
  | [] => True
  | f :: rest =>
    f.IsCanonical ∧ (∀ g ∈ rest.head?, ¬(f.isText = true ∧ g.isText = true)) ∧ Body.IsCanonical rest

end

namespace Fragment

variable {body : Body}

theorem isText_iff {f : Fragment} : f.isText = true ↔ ∃ text, f = .text text := by
  cases f <;> simp [isText]

@[simp] theorem isCanonical_text {text : String} :
    (Fragment.text text).IsCanonical ↔ text ≠ "" := by
  rw [IsCanonical]

@[simp] theorem isCanonical_param (name : String) : (param name).IsCanonical := by
  rw [IsCanonical]
  trivial

@[simp] theorem isCanonical_when {test : String} :
    (when test body).IsCanonical ↔ Body.IsCanonical body := by
  rw [IsCanonical]

@[simp] theorem isCanonical_trim {rule : TrimRule} :
    (trim rule body).IsCanonical ↔ Body.IsCanonical body := by
  rw [IsCanonical]

@[simp] theorem isCanonical_forEach {rule : LoopRule} :
    (forEach rule body).IsCanonical ↔ Body.IsCanonical body := by
  rw [IsCanonical]

end Fragment

namespace Body

variable {body more : Body} {f : Fragment}

@[simp] theorem isCanonical_nil : IsCanonical [] := by
  rw [IsCanonical]
  trivial

@[simp] theorem isCanonical_cons : IsCanonical (f :: body) ↔ f.IsCanonical ∧
    (∀ g ∈ body.head?, ¬(f.isText = true ∧ g.isText = true)) ∧ IsCanonical body := by
  rw [IsCanonical]

/-- Fragments that are in canonical form one by one may still be neighbouring texts. -/
theorem isCanonical_iff : IsCanonical body ↔
    (∀ f ∈ body, f.IsCanonical) ∧ body.IsChain fun f g => ¬(f.isText = true ∧ g.isText = true) := by
  induction body with
  | nil => simp
  | cons f body ih =>
    rw [isCanonical_cons, ih, List.forall_mem_cons, List.isChain_cons]
    tauto

/-- Adding a fragment makes the last text longer if both are texts, and else puts the fragment
behind the last. -/
theorem push_cases (body : Body) (f : Fragment) :
    (∃ first before after, body = first ++ [.text before] ∧ f = .text after ∧
      body.push f = first ++ [.text (before ++ after)]) ∨
    (body.push f = body ++ [f] ∧ ∀ g ∈ body.getLast?, ¬(g.isText = true ∧ f.isText = true)) := by
  fun_induction push body f with
  | case1 before after => exact .inl ⟨[], before, after, rfl, rfl, rfl⟩
  | case2 f => exact .inr ⟨rfl, by simp⟩
  | case3 g rest f hne ih =>
    rcases ih with ⟨first, before, after, rfl, rfl, hpush⟩ | ⟨hpush, hlast⟩
    · exact .inl ⟨g :: first, before, after, rfl, rfl, by rw [hpush, List.cons_append]⟩
    · refine .inr ⟨by rw [hpush, List.cons_append], ?_⟩
      cases rest with
      | cons r rest => rwa [List.getLast?_cons_cons]
      | nil =>
        -- two texts alone are the case in which they are joined
        intro last hmem htexts
        obtain rfl := Option.mem_some_iff.mp hmem
        obtain ⟨before, rfl⟩ := Fragment.isText_iff.mp htexts.1
        obtain ⟨after, rfl⟩ := Fragment.isText_iff.mp htexts.2
        exact hne before after rfl rfl rfl

theorem IsCanonical.push (h : IsCanonical body) (hf : f.IsCanonical) :
    IsCanonical (body.push f) := by
  rcases push_cases body f with ⟨first, before, after, rfl, rfl, hpush⟩ | ⟨hpush, hlast⟩
  · rw [isCanonical_iff, List.forall_mem_append, List.isChain_append] at h
    obtain ⟨⟨hfirst, hbefore⟩, hchain, -, hborder⟩ := h
    have hlonger : (Fragment.text (before ++ after)).IsCanonical := by
      have hne : before ≠ "" := by simpa using hbefore
      simp [hne]
    rw [hpush, isCanonical_iff, List.forall_mem_append, List.isChain_append]
    exact ⟨⟨hfirst, List.forall_mem_singleton.mpr hlonger⟩, hchain, List.isChain_singleton _,
      by simpa [Fragment.isText] using hborder⟩
  · rw [isCanonical_iff] at h
    rw [hpush, isCanonical_iff, List.forall_mem_append, List.isChain_append]
    exact ⟨⟨h.1, List.forall_mem_singleton.mpr hf⟩, h.2, List.isChain_singleton _,
      by simpa using hlast⟩

/-- What is added to a body need only be in canonical form fragment by fragment. -/
theorem IsCanonical.append (h : IsCanonical body) (hmore : ∀ f ∈ more, f.IsCanonical) :
    IsCanonical (Body.append body more) := by
  induction more generalizing body with
  | nil => exact h
  | cons f more ih =>
    obtain ⟨hf, hmore⟩ := List.forall_mem_cons.mp hmore
    rw [append_cons]
    exact ih (h.push hf) hmore

theorem IsCanonical.forall_mem (h : IsCanonical body) : ∀ f ∈ body, f.IsCanonical :=
  (isCanonical_iff.mp h).1

theorem IsCanonical.pushText (h : IsCanonical body) (text : String) :
    IsCanonical (body.pushText text) := by
  unfold Body.pushText
  split
  · exact h
  · next hne => exact h.push (by simpa using hne)

/-- Fragments of which none is a text are no neighbouring texts. -/
theorem isCanonical_map {α : Type} {fragment : α → Fragment} {xs : List α}
    (h : ∀ x, (fragment x).IsCanonical) (hnot : ∀ x, (fragment x).isText = false) :
    IsCanonical (xs.map fragment) := by
  induction xs with
  | nil => exact isCanonical_nil
  | cons x xs ih =>
    rw [List.map_cons, isCanonical_cons, hnot]
    exact ⟨h x, by simp, ih⟩

end Body

open Body

/-! ## The parts of a condition -/

theorem isCanonical_body (c : Condition) (column : String) (operands : List String) :
    IsCanonical (c.body column operands) := by
  unfold Condition.body
  cases c.comparator <;> simp [membership, Fragment.isText]

namespace Clause

variable (column : PropertyPath → String)

mutual

theorem isCanonical_fixed (c : Clause) (nested : Bool) : IsCanonical (c.fixed column nested) := by
  match c with
  | .leaf condition operands _ => exact isCanonical_body condition _ operands
  | .group op _ children =>
    have hinner := isCanonical_fixedAll op children
    have hopening : IsCanonical [.text "("] := by simp
    rw [fixed]
    split
    · exact (hopening.append hinner.forall_mem).push (by simp)
    · exact hinner

theorem isCanonical_fixedAll (op : Connective) (cs : List Clause) :
    IsCanonical (fixedAll column op cs) := by
  match cs with
  | [] => exact isCanonical_nil
  | [c] => exact isCanonical_fixed c true
  | c :: d :: rest =>
    have hc := isCanonical_fixed c true
    have hrest := isCanonical_fixedAll op (d :: rest)
    rw [fixedAll]
    · exact (hc.push (by simp)).append hrest.forall_mem
    · exact List.cons_ne_nil _ _

end

theorem isCanonical_guarded {selective : Bool} {operands : List String} {body : Body}
    (h : IsCanonical body) : IsCanonical (guarded selective operands body) := by
  unfold guarded
  split
  · simpa using h
  · exact h

mutual

theorem isCanonical_conditional (c : Clause) (lead : Option Connective) :
    IsCanonical (c.conditional column lead) := by
  match c with
  | .leaf condition operands selective =>
    have hbody := isCanonical_body condition (column condition.path) operands
    refine isCanonical_guarded ?_
    cases lead with
    | none => exact hbody
    | some op =>
      have hlead : IsCanonical [.text (" " ++ op.keyword ++ " ")] := by simp
      exact hlead.append hbody.forall_mem
  | .group op selective children =>
    have hchildren := isCanonical_conditionalAll op none children
    exact isCanonical_guarded (by simpa using hchildren)

theorem isCanonical_conditionalAll (op : Connective) (lead : Option Connective)
    (cs : List Clause) : IsCanonical (conditionalAll column op lead cs) := by
  match cs with
  | [] => exact isCanonical_nil
  | c :: cs =>
    have hc := isCanonical_conditional c lead
    have hcs := isCanonical_conditionalAll op (some op) cs
    rw [conditionalAll]
    exact hc.append hcs.forall_mem

end

theorem isCanonical_conditionalTop (c : Clause) : IsCanonical (c.conditionalTop column) := by
  cases c with
  | leaf condition operands selective => exact isCanonical_conditional column _ none
  | group op selective children =>
    exact isCanonical_guarded (isCanonical_conditionalAll column op none children)

end Clause

theorem isCanonical_whereBody (column : PropertyPath → String) (p : Predicate)
    (operands : List (List String)) : IsCanonical (whereBody column p operands) := by
  unfold whereBody
  split
  · simpa [Fragment.isText] using Clause.isCanonical_conditionalTop column _
  · have hword : IsCanonical [.text " WHERE "] := by simp
    exact hword.append (Clause.isCanonical_fixed column _ false).forall_mem

/-! ## The parts of a statement -/

theorem isCanonical_separated {separator : String} {fs : List Fragment} (hne : separator ≠ "")
    (h : ∀ f ∈ fs, f.IsCanonical ∧ f.isText = false) : IsCanonical (separated separator fs) := by
  fun_induction separated separator fs with
  | case1 => exact isCanonical_nil
  | case2 f => simpa using (h f (.head _)).1
  | case3 f rest hrest ih =>
    obtain ⟨⟨hf, hnot⟩, hothers⟩ := List.forall_mem_cons.mp h
    have hfirst : IsCanonical [f, .text separator] := by simp [hf, hnot, hne]
    exact hfirst.append (ih hothers).forall_mem

theorem isCanonical_valueList (names : List String) : IsCanonical (valueList names) := by
  have hopening : IsCanonical [.text "("] := by simp
  have hnames : IsCanonical (separated ", " (names.map .param)) :=
    isCanonical_separated (by decide) (List.forall_mem_map.mpr fun name _ => ⟨by simp, rfl⟩)
  exact (hopening.append hnames.forall_mem).push (by simp)

namespace Translator

variable {t : Translator} {q : Query} {m : BoundMethod} {s : Statement}

theorem isCanonical_condition {fields : List BeanField} {condition : Body}
    (h : t.condition q m fields = .ok condition) : IsCanonical condition := by
  cases hp : q.predicate with
  | none =>
    rw [condition_of_none hp] at h
    cases h
    exact isCanonical_nil
  | some p =>
    obtain ⟨operands, -, rfl⟩ := condition_eq_ok hp h
    exact isCanonical_whereBody _ p operands

theorem isCanonical_rowBound (bounds : Option (Param × Param)) :
    IsCanonical (rowBound q bounds) := by
  unfold rowBound
  split
  · simp
  · split <;> simp [Fragment.isText]

theorem isCanonical_columnsPart (payload : Param) : IsCanonical (columnsPart q m payload) := by
  unfold columnsPart parenthesized
  split
  · have hcolumns : IsCanonical (payload.beanFields.map fun f =>
        .when (isPresent (rowRef m payload f)) [.text (f.column ++ ",")]) :=
      isCanonical_map (by simp) fun _ => rfl
    simpa using hcolumns
  · simp [columnList]

theorem isCanonical_rowsPart (payload : Param) : IsCanonical (rowsPart q m payload) := by
  have hrow : IsCanonical (rowPart q m payload) := by
    unfold rowPart parenthesized
    split
    · have hvalues : IsCanonical (payload.beanFields.map fun f =>
          .when (isPresent (rowRef m payload f)) [.param (rowRef m payload f), .text ","]) :=
        isCanonical_map (by simp [Fragment.isText]) fun _ => rfl
      simpa using hvalues
    · exact isCanonical_valueList _
  unfold rowsPart
  split
  · simpa using hrow
  · exact hrow

theorem isCanonical_assignments (payload : Param) (fields : List BeanField) :
    IsCanonical (assignments m payload fields) := by
  fun_induction assignments m payload fields with
  | case1 => exact isCanonical_nil
  | case2 f => simp [Fragment.isText]
  | case3 f rest hne ih =>
    have hfirst : IsCanonical [.text (f.column ++ " = "), .param (m.propertyRef payload f.name),
        .text ", "] := by simp [Fragment.isText]
    exact hfirst.append ih.forall_mem

theorem isCanonical_assignmentsPart (payload : Param) :
    ∀ f ∈ assignmentsPart q m payload, f.IsCanonical := by
  unfold assignmentsPart
  split
  · have hparts : IsCanonical ((assignedFields q payload).map fun f =>
        .when (isPresent (m.propertyRef payload f.name))
          [.text (f.column ++ " = "), .param (m.propertyRef payload f.name), .text ","]) :=
      isCanonical_map (by simp [Fragment.isText]) fun _ => rfl
    simpa [selectiveAssignments] using hparts
  · exact List.forall_mem_cons.mpr ⟨by simp, (isCanonical_assignments payload _).forall_mem⟩

/-! ## The statements -/

theorem isCanonical_select (h : t.select q m = .ok s) : IsCanonical s.body := by
  obtain ⟨-, bounds, condition, -, hcondition, rfl⟩ := select_eq_ok.mp h
  have hhead : IsCanonical [.text (selection q m ++ " FROM " ++ t.table)] := by simp
  exact ((hhead.append (isCanonical_condition hcondition).forall_mem).pushText _).append
    (isCanonical_rowBound bounds).forall_mem

theorem isCanonical_delete (h : t.delete q m = .ok s) : IsCanonical s.body := by
  obtain ⟨condition, hcondition, h⟩ := bind_eq_ok.mp h
  cases h
  have hhead : IsCanonical [.text ("DELETE FROM " ++ t.table)] := by simp
  exact hhead.append (isCanonical_condition hcondition).forall_mem

theorem isCanonical_insert (h : t.insert q m = .ok s) : IsCanonical s.body := by
  obtain ⟨payload, -, -, -, -, -, rfl⟩ := insert_eq_ok h
  have hhead : IsCanonical [.text t.insertHead] := by simp [insertHead]
  have hrows : ∀ f ∈ .text " VALUES " :: rowsPart q m payload, f.IsCanonical :=
    List.forall_mem_cons.mpr ⟨by simp, (isCanonical_rowsPart payload).forall_mem⟩
  -- two of the parts may be neighbouring texts, which are joined as they are added
  exact hhead.append
    (List.forall_mem_append.mpr ⟨(isCanonical_columnsPart payload).forall_mem, hrows⟩)

theorem isCanonical_update (h : t.update q m = .ok s) : IsCanonical s.body := by
  obtain ⟨payload, condition, -, -, -, hcondition, rfl⟩ := update_eq_ok.mp h
  have hhead : IsCanonical [.text t.updateHead] := by simp [updateHead]
  exact (hhead.append (isCanonical_assignmentsPart payload)).append
    (isCanonical_condition hcondition).forall_mem

theorem isCanonical_translate (h : t.translate q m = .ok s) : IsCanonical s.body := by
  rcases translate_cases h with h | h | h | h
  · exact isCanonical_select h
  · exact isCanonical_delete h
  · exact isCanonical_insert h
  · exact isCanonical_update h

/-- **Statements are in canonical form.** Whatever the table, the conversion of names, the query and
the method are, no text in a statement is empty and no two texts are neighbours, at every level. A
fragment that is added to a body is written behind it, also where its text joins the text before it,
because texts are escaped character by character. -/
theorem translate_canonical (t : Translator) :
    (∀ q m s, t.translate q m = .ok s → IsCanonical s.body) ∧
    (∀ body f, renderBody (Body.push body f) = renderBody body ++ f.render) ∧
    ∀ a b, escapeText (a ++ b) = escapeText a ++ escapeText b :=
  ⟨fun _ _ _ h => isCanonical_translate h, renderBody_push, escapeText_append⟩

/-- The texts of a group that may drop out are not joined with those in front of it and behind it,
and those within it are. -/
theorem translate_canonical_either :
    let t : Translator := ⟨"notes", id⟩
    let q : Query := ⟨.find, false, false,
      some (.binary .or
        (.selective (.binary .and (.condition ⟨⟨["tag"]⟩, .equal⟩)
          (.condition ⟨⟨["age"]⟩, .between⟩)))
        (.condition ⟨⟨["id"]⟩, .in⟩)),
      some [⟨⟨["age"]⟩, .descending⟩]⟩
    let m : BoundMethod := ⟨"find",
      [⟨.scalar "String", "tag", "tag"⟩, ⟨.scalar "int", "low", "low"⟩,
        ⟨.scalar "int", "high", "high"⟩, ⟨.iterable "int[]" (.scalar "int"), "ids", "ids"⟩],
      .scalar "long", []⟩
    let s : Statement :=
      { id := "find", kind := .select, resultType := some "long", generated := true, body := [
        .text "SELECT * FROM notes ",
        .trim ⟨"WHERE", "", ["AND ", "OR "], []⟩ [
          .when "tag != null and low != null and high != null" [
            .trim ⟨"(", ")", ["AND ", "OR "], []⟩ [.text "tag = ", .param "tag",
              .text " AND age BETWEEN ", .param "low", .text " AND ", .param "high"]],
          .text " OR id IN ", .forEach ⟨"ids", "item", "(", ", ", ")"⟩ [.param "item"]],
        .text " ORDER BY age DESC"] }
    t.translate q m = .ok s ∧ IsCanonical s.body := by
  intro t q m s
  have hs : t.translate q m = .ok s := by decide +kernel
  exact ⟨hs, (translate_canonical t).1 q m s hs⟩

end Translator

end DerivedQuery
