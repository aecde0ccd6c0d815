import DerivedQuery.Proofs.MethodName.Paths
import DerivedQuery.Proofs.Statement.Parts

/-!
# How deep statements are nested

The levels of arrays and objects that a fragment takes in a document (`Fragment.levels`). A
statement for a method is nested no deeper than the groups of its condition make it
(`levels_translate`), and the condition of a method name has groups of `AND` within one of `OR` and
no more (`height_parse`), so the statements that are derived are nested no deeper than a fixed
bound.
-/

namespace DerivedQuery

open DerivedQuery.MethodName DerivedQuery.Types

/-! ## Levels of fragments -/

mutual

/-- The levels of arrays and objects of a fragment: a body is an array in an object. -/
def Fragment.levels : Fragment → Nat
  | .text _ | .param _ => 1
  | .when _ body | .trim _ body | .forEach _ body => Body.levels body + 2

/-- The greatest number of levels of a fragment in a body. -/
def Body.levels : List Fragment → Nat
  | [] => 0
  | f :: fs => max f.levels (Body.levels fs)

end

namespace Body

@[simp] theorem levels_nil : levels [] = 0 := rfl

@[simp] theorem levels_cons (f : Fragment) (fs : Body) :
    levels (f :: fs) = max f.levels (levels fs) := rfl

theorem levels_le_iff {body : Body} {n : Nat} :
    levels body ≤ n ↔ ∀ f ∈ body, f.levels ≤ n := by
  induction body with
  | nil => simp
  | cons f body ih => rw [levels_cons, Nat.max_le, ih, List.forall_mem_cons]

/-- Joining text with the text before it does not change the levels. -/
@[simp] theorem levels_push (body : Body) (f : Fragment) :
    levels (body.push f) = max (levels body) f.levels := by
  fun_induction push body f with
  | case1 before after => rfl
  | case2 f => exact Nat.max_comm _ _
  | case3 f g rest h ih => rw [levels_cons, levels_cons, ih, Nat.max_assoc]

@[simp] theorem levels_append (body more : Body) :
    levels (Body.append body more) = max (levels body) (levels more) := by
  induction more generalizing body with
  | nil => exact (Nat.max_zero _).symm
  | cons f more ih =>
    show levels ((body.push f).append more) = _
    rw [ih, levels_push, levels_cons, Nat.max_assoc]

theorem levels_pushText (body : Body) (text : String) :
    levels (body.pushText text) ≤ max (levels body) 1 := by
  unfold pushText
  split
  · exact Nat.le_max_left _ _
  · rw [levels_push]
    exact Nat.le_refl _

end Body

open Body

/-! ## Levels of conditions -/

theorem levels_body (c : Condition) (column : String) (operands : List String) :
    levels (c.body column operands) ≤ 3 := by
  unfold Condition.body
  cases c.comparator <;> simp [membership, Fragment.levels]

namespace Clause

mutual

/-- The number of groups inside each other. -/
def height : Clause → Nat
  | .leaf _ _ _ => 0
  | .group _ _ children => heightOfAll children + 1

/-- The greatest height of several clauses. -/
def heightOfAll : List Clause → Nat
  | [] => 0
  | c :: cs => max c.height (heightOfAll cs)

end

variable (column : PropertyPath → String)

mutual

/-- A clause without selective parts is written without nesting. -/
theorem levels_fixed (c : Clause) (nested : Bool) : levels (c.fixed column nested) ≤ 3 := by
  match c with
  | .leaf condition operands _ => exact levels_body condition _ operands
  | .group op _ children =>
    have hinner := levels_fixedAll op children
    rw [fixed]
    cases nested with
    | false => exact hinner
    | true =>
      simp only [if_true, levels_push, levels_append, levels_cons, levels_nil, Fragment.levels]
      omega

theorem levels_fixedAll (op : Connective) (cs : List Clause) :
    levels (fixedAll column op cs) ≤ 3 := by
  match cs with
  | [] => exact Nat.zero_le _
  | [c] => exact levels_fixed c true
  | c :: d :: rest =>
    have hc := levels_fixed c true
    have hrest := levels_fixedAll op (d :: rest)
    rw [fixedAll]
    · simp only [levels_append, levels_push, Fragment.levels]
      omega
    · exact List.cons_ne_nil _ _

end

theorem levels_guarded (selective : Bool) (operands : List String) (body : Body) :
    levels (guarded selective operands body) ≤ levels body + 2 := by
  unfold guarded
  split
  · simp [Fragment.levels]
  · omega

mutual

/-- A group adds the levels of its parentheses and of its test. -/
theorem levels_conditional (c : Clause) (lead : Option Connective) :
    levels (c.conditional column lead) ≤ 4 * c.height + 5 := by
  match c with
  | .leaf condition operands selective =>
    have hbody := levels_body condition (column condition.path) operands
    cases lead with
    | none =>
      refine Nat.le_trans (levels_guarded selective operands _) ?_
      simp only [height]
      omega
    | some op =>
      refine Nat.le_trans (levels_guarded selective operands _) ?_
      simp only [height, levels_append, levels_cons, levels_nil, Fragment.levels]
      omega
  | .group op selective children =>
    have hchildren := levels_conditionalAll op none children
    rw [conditional]
    refine Nat.le_trans (levels_guarded selective _ _) ?_
    simp only [height, levels_cons, levels_nil, Fragment.levels]
    omega

theorem levels_conditionalAll (op : Connective) (lead : Option Connective) (cs : List Clause) :
    levels (conditionalAll column op lead cs) ≤ 4 * heightOfAll cs + 5 := by
  match cs with
  | [] => exact Nat.zero_le _
  | c :: cs =>
    have hc := levels_conditional c lead
    have hcs := levels_conditionalAll op (some op) cs
    rw [conditionalAll, levels_append, heightOfAll]
    omega

end

theorem levels_conditionalTop (c : Clause) :
    levels (c.conditionalTop column) ≤ 4 * c.height + 5 := by
  cases c with
  | leaf condition operands selective => exact levels_conditional column _ none
  | group op selective children =>
    have hchildren := levels_conditionalAll column op none children
    rw [conditionalTop]
    refine Nat.le_trans (levels_guarded selective _ _) ?_
    simp only [height]
    omega

end Clause

namespace Group

mutual

/-- The number of groups inside each other. -/
def height : Group → Nat
  | .leaf _ _ => 0
  | .group _ _ children => heightOfAll children + 1

/-- The greatest height of several groups. -/
def heightOfAll : List Group → Nat
  | [] => 0
  | g :: gs => max g.height (heightOfAll gs)

end

mutual

/-- Operands do not change the height. -/
theorem height_withOperands (g : Group) (operands : List (List String)) :
    (g.withOperands operands).1.height = g.height := by
  match g with
  | .leaf condition selective => rfl
  | .group op selective children =>
    have hchildren := heightOfAll_withOperandsAll children operands
    simp only [withOperands, Clause.height, height, hchildren]

theorem heightOfAll_withOperandsAll (gs : List Group) (operands : List (List String)) :
    Clause.heightOfAll (withOperandsAll operands gs).1 = heightOfAll gs := by
  match gs with
  | [] => rfl
  | g :: gs =>
    have hg := height_withOperands g operands
    have hgs := heightOfAll_withOperandsAll gs (g.withOperands operands).2
    simp only [withOperandsAll, Clause.heightOfAll, heightOfAll, hg, hgs]

end

end Group

theorem levels_whereBody (column : PropertyPath → String) (p : Predicate)
    (operands : List (List String)) :
    levels (whereBody column p operands) ≤ 4 * p.groups.height + 7 := by
  have hheight := Group.height_withOperands p.groups operands
  unfold whereBody
  split
  · have htop := Clause.levels_conditionalTop column (p.groups.withOperands operands).1
    simp only [levels_cons, levels_nil, Fragment.levels]
    omega
  · have hfixed := Clause.levels_fixed column (p.groups.withOperands operands).1 false
    simp only [levels_append, levels_cons, levels_nil, Fragment.levels]
    omega

/-! ## Levels of statements -/

/-- The height of the groups of a query's condition. -/
def Query.height (q : Query) : Nat := (q.predicate.map (·.groups.height)).getD 0

theorem levels_map {α : Type} {f : α → Fragment} {xs : List α} {n : Nat}
    (h : ∀ x, (f x).levels ≤ n) : levels (xs.map f) ≤ n := by
  refine levels_le_iff.mpr fun g hg => ?_
  obtain ⟨x, -, rfl⟩ := List.mem_map.mp hg
  exact h x

theorem levels_separated (separator : String) (fs : List Fragment) :
    levels (separated separator fs) ≤ max (levels fs) 1 := by
  fun_induction separated separator fs with
  | case1 => exact Nat.zero_le _
  | case2 f => exact Nat.le_max_left _ _
  | case3 f rest hne ih =>
    simp only [levels_append, levels_cons, levels_nil, Fragment.levels]
    omega

theorem levels_valueList (names : List String) : levels (valueList names) ≤ 1 := by
  have hnames : levels (names.map Fragment.param) ≤ 1 := levels_map fun _ => Nat.le_refl _
  have hseparated := levels_separated ", " (names.map Fragment.param)
  simp only [valueList, levels_push, levels_append, levels_cons, levels_nil, Fragment.levels]
  omega

namespace Translator

variable {t : Translator} {q : Query} {m : BoundMethod} {s : Statement}

theorem levels_condition {fields : List BeanField} {body : Body}
    (h : t.condition q m fields = .ok body) : levels body ≤ 4 * q.height + 7 := by
  obtain ⟨operands, -, h⟩ := bind_eq_ok.mp h
  split at h
  · cases h
    exact Nat.zero_le _
  next p hp =>
    cases h
    have hheight : q.height = p.groups.height := by rw [Query.height, hp]; rfl
    rw [hheight]
    exact levels_whereBody _ p operands

theorem levels_select (h : t.select q m = .ok s) : levels s.body ≤ 4 * q.height + 7 := by
  unfold select at h
  split at h
  · cases h
  · obtain ⟨bounds, -, h⟩ := bind_eq_ok.mp h
    obtain ⟨condition, hcondition, h⟩ := bind_eq_ok.mp h
    cases h
    have hlevels := levels_condition hcondition
    have hbound : levels (rowBound q bounds) ≤ 1 := by
      unfold rowBound
      split
      · exact Nat.le_refl _
      · split <;> simp [Fragment.levels]
    have hordered := levels_pushText
      (Body.append [.text (selection q m ++ " FROM " ++ t.table)] condition)
      (t.orderBy q m.entityFields)
    simp only [levels_append, levels_cons, levels_nil, Fragment.levels] at hordered
    show levels (Body.append _ _) ≤ _
    rw [levels_append]
    omega

theorem levels_delete (h : t.delete q m = .ok s) : levels s.body ≤ 4 * q.height + 7 := by
  obtain ⟨condition, hcondition, h⟩ := bind_eq_ok.mp h
  cases h
  have hlevels := levels_condition hcondition
  show levels (Body.append _ _) ≤ _
  simp only [levels_append, levels_cons, levels_nil, Fragment.levels]
  omega

theorem levels_selectiveRow (m : BoundMethod) (payload : Param) :
    levels (selectiveRow m payload) ≤ 5 := by
  have hcolumns : levels (payload.beanFields.map fun f =>
      Fragment.when (isPresent (m.propertyRef payload f.name)) [.text (f.column ++ ",")]) ≤ 3 :=
    levels_map fun _ => Nat.le_refl _
  have hvalues : levels (payload.beanFields.map fun f =>
      let name := m.propertyRef payload f.name
      Fragment.when (isPresent name) [.param name, .text ","]) ≤ 3 :=
    levels_map fun _ => Nat.le_refl _
  simp only [selectiveRow, parenthesized, levels_cons, levels_nil, Fragment.levels]
  dsimp only at hvalues
  omega

theorem levels_rows (m : BoundMethod) (payload : Param) (batch : Bool) (fields : List BeanField) :
    levels (rows m payload batch fields) ≤ 3 := by
  unfold rows
  split
  · have hvalues := levels_valueList (fields.map fun f => itemName ++ "." ++ f.name)
    simp only [levels_cons, levels_nil, Fragment.levels]
    omega
  · exact Nat.le_trans (levels_valueList _) (by omega)

theorem levels_insert (h : t.insert q m = .ok s) : levels s.body ≤ 4 * q.height + 7 := by
  unfold insert at h
  split at h
  case h_2 => cases h
  case h_1 payload hpayload =>
    obtain ⟨-, h⟩ := of_unless_refused h
    obtain ⟨-, h⟩ := of_unless_refused h
    obtain ⟨-, h⟩ := of_unless_refused h
    dsimp only at h
    split at h
    · cases h
      have hrow := levels_selectiveRow m payload
      show levels (Body.append _ _) ≤ _
      simp only [levels_append, levels_cons, levels_nil, Fragment.levels]
      omega
    · obtain ⟨-, h⟩ := of_unless_refused h
      cases h
      have hrows := levels_rows m payload (q.all || payload.isIterable)
        (payload.beanFields.filter (!·.generatedKey))
      show levels (Body.append _ _) ≤ _
      simp only [levels_append, levels_cons, levels_nil, Fragment.levels]
      omega

theorem levels_assignments (m : BoundMethod) (payload : Param) (fields : List BeanField) :
    levels (assignments m payload fields) ≤ 1 := by
  fun_induction assignments m payload fields with
  | case1 => exact Nat.zero_le _
  | case2 f => exact Nat.le_refl _
  | case3 f rest hne ih =>
    simp only [levels_append, levels_cons, levels_nil, Fragment.levels]
    omega

theorem levels_selectiveAssignments (m : BoundMethod) (payload : Param) (fields : List BeanField) :
    levels (selectiveAssignments m payload fields) ≤ 5 := by
  have hparts : levels (fields.map fun f =>
      let name := m.propertyRef payload f.name
      Fragment.when (isPresent name) [.text (f.column ++ " = "), .param name, .text ","]) ≤ 3 :=
    levels_map fun _ => Nat.le_refl _
  dsimp only at hparts
  simp only [selectiveAssignments, levels_cons, levels_nil, Fragment.levels]
  omega

theorem levels_update (h : t.update q m = .ok s) : levels s.body ≤ 4 * q.height + 7 := by
  unfold update at h
  split at h
  case h_2 => cases h
  case h_1 payload hpayload =>
    obtain ⟨-, h⟩ := of_unless_refused h
    obtain ⟨-, h⟩ := of_unless_refused h
    obtain ⟨condition, hcondition, h⟩ := bind_eq_ok.mp h
    cases h
    have hlevels := levels_condition hcondition
    have hselective := levels_selectiveAssignments m payload (assignedFields q payload)
    have hassigned := levels_assignments m payload (assignedFields q payload)
    show levels (Body.append _ _) ≤ _
    rw [levels_append]
    split
    · simp only [levels_append, levels_cons, levels_nil, Fragment.levels]
      omega
    · simp only [levels_append, levels_cons, levels_nil, Fragment.levels]
      omega

/-- A statement is nested as deep as the groups of its condition, at most. -/
theorem levels_translate (h : t.translate q m = .ok s) : levels s.body ≤ 4 * q.height + 7 := by
  rcases translate_cases h with h | h | h | h
  · exact levels_select h
  · exact levels_delete h
  · exact levels_insert h
  · exact levels_update h

end Translator

/-! ## Conditions of method names -/

namespace Predicate

/-- Whether the groups that a predicate becomes have at most a height, on its own or as a part of
a chain. -/
structure Nests (p : Predicate) (n : Nat) : Prop where
  toGroup : ∀ mark, (p.toGroup mark).height ≤ n
  members : ∀ op, Group.heightOfAll (p.members op) ≤ n

theorem nests_condition (c : Condition) : (condition c).Nests 0 :=
  ⟨fun _ => Nat.le_refl _, fun _ => Nat.le_refl _⟩

theorem Nests.markedIf {p : Predicate} {n : Nat} (h : p.Nests n) (mark : Bool) :
    (p.markedIf mark).Nests n := by
  cases mark with
  | false => exact h
  | true => exact ⟨fun _ => h.toGroup true, fun _ => Nat.max_le.mpr ⟨h.toGroup true, Nat.zero_le _⟩⟩

theorem heightOfAll_append (gs hs : List Group) :
    Group.heightOfAll (gs ++ hs) = max (Group.heightOfAll gs) (Group.heightOfAll hs) := by
  induction gs with
  | nil => exact (Nat.zero_max _).symm
  | cons g gs ih => rw [List.cons_append, Group.heightOfAll, Group.heightOfAll, ih, Nat.max_assoc]

/-- A chain is one group of its members. -/
theorem nests_chain {op : Connective} {first : Predicate} {rest : List Predicate} {n : Nat}
    (h : ∀ p ∈ first :: rest, p.Nests n) : (chain op first rest).Nests (n + 1) := by
  -- what the chain so far contributes to a longer one is not yet a group of its own
  suffices ∀ p : Predicate, Group.heightOfAll (p.members op) ≤ n → p.Nests (n + 1) →
      (∀ q ∈ rest, q.Nests n) → (chain op p rest).Nests (n + 1) by
    obtain ⟨hfirst, hrest⟩ := List.forall_mem_cons.mp h
    exact this first (hfirst.members op)
      ⟨fun mark => Nat.le_succ_of_le (hfirst.toGroup mark),
        fun op => Nat.le_succ_of_le (hfirst.members op)⟩ hrest
  clear h
  induction rest with
  | nil => exact fun p _ hp _ => hp
  | cons second rest ih =>
    intro p hmembers hp hrest
    obtain ⟨hsecond, hrest⟩ := List.forall_mem_cons.mp hrest
    have hjoined : Group.heightOfAll (p.members op ++ second.members op) ≤ n := by
      rw [heightOfAll_append]
      exact Nat.max_le.mpr ⟨hmembers, hsecond.members op⟩
    refine ih (binary op p second) ?_ ⟨fun mark => ?_, fun other => ?_⟩ hrest
    · rw [members, if_pos rfl]
      exact hjoined
    · exact Nat.succ_le_succ hjoined
    · rw [members]
      split
      next hop =>
        subst hop
        exact Nat.le_succ_of_le hjoined
      next => exact Nat.max_le.mpr ⟨Nat.succ_le_succ hjoined, Nat.zero_le _⟩

end Predicate

namespace MethodName

theorem nests_term (term : Term) : term.toPredicate.Nests 0 :=
  (Predicate.nests_condition _).markedIf _

theorem nests_termGroup (g : TermGroup) : g.toPredicate.Nests 1 := by
  refine (Predicate.nests_chain ?_).markedIf _
  rw [← List.map_cons]
  intro p hp
  obtain ⟨term, -, rfl⟩ := List.mem_map.mp hp
  exact nests_term term

/-- The condition of a method name is an alternative of conjunctions. -/
theorem height_parse {name : String} {q : Query} (h : parse name = .ok q) : q.height ≤ 2 := by
  obtain ⟨p, rfl⟩ := exists_phrase_of_parse h
  have hpredicate : p.toQuery.predicate = p.predicate := rfl
  rw [Query.height, hpredicate, Phrase.predicate]
  cases p.groups with
  | nil => exact Nat.zero_le _
  | cons first others =>
    refine (Predicate.nests_chain ?_).toGroup false
    rw [← List.map_cons]
    intro q hq
    obtain ⟨g, -, rfl⟩ := List.mem_map.mp hq
    exact nests_termGroup g

end MethodName

end DerivedQuery
