import DerivedQuery.Proofs.Condition.Assignment
import DerivedQuery.Proofs.Condition.Expression

/-!
# Which rows a condition selects

Once it is known of every condition of a predicate whether it holds, the predicate holds or not. A
condition is told by its place, since the same condition may stand in a predicate twice.

Between the tree and the text that a database reads, a predicate is taken apart and put together
twice: grouping joins the chains of one connective, and reading drops groups of a single member.
Neither changes whether it holds:

> `holds_numbered`: the groups of a predicate hold if the predicate does.

> `holds_simplified`: an expression without groups of a single member holds if the expression does.
-/

namespace DerivedQuery

/-- Two truth values with the connective between them. -/
def Connective.join : Connective → Bool → Bool → Bool
  | .and, a, b => a && b
  | .or, a, b => a || b

/-- The truth value that changes no other one it is joined with. -/
def Connective.neutral : Connective → Bool
  | .and => true
  | .or => false

namespace Connective

theorem join_assoc (op : Connective) (a b c : Bool) :
    op.join (op.join a b) c = op.join a (op.join b c) := by
  cases op
  · exact Bool.and_assoc a b c
  · exact Bool.or_assoc a b c

@[simp] theorem join_neutral (op : Connective) (a : Bool) : op.join a op.neutral = a := by
  cases op
  · exact Bool.and_true a
  · exact Bool.or_false a

@[simp] theorem neutral_join (op : Connective) (a : Bool) : op.join op.neutral a = a := by
  cases op
  · exact Bool.true_and a
  · exact Bool.false_or a

end Connective

/-- Whether a predicate holds, if `truth` tells so of each condition by its place and the first
condition has the place `first`. A mark changes nothing. -/
def Predicate.holds (truth : Nat → Bool) (first : Nat) : Predicate → Bool
  | condition _ => truth first
  | selective inner => inner.holds truth first
  | binary op left right =>
    op.join (left.holds truth first) (right.holds truth (first + left.conditions.length))

namespace Expression

section Holds

variable {α : Type} (truth : α → Bool)

mutual

/-- Whether an expression holds, if `truth` tells so of each leaf. -/
def holds : Expression α → Bool
  | leaf a => truth a
  | group op members => holdsAll op members

/-- Whether several expressions with a connective between them hold. -/
def holdsAll (op : Connective) : List (Expression α) → Bool
  | [] => op.neutral
  | e :: es => op.join (holds e) (holdsAll op es)

end

variable {truth}

theorem holdsAll_append (op : Connective) (es fs : List (Expression α)) :
    holdsAll truth op (es ++ fs) = op.join (holdsAll truth op es) (holdsAll truth op fs) := by
  induction es with
  | nil => exact (op.neutral_join _).symm
  | cons e es ih => rw [List.cons_append, holdsAll, ih, holdsAll, op.join_assoc]

/-- A single member stands for itself. -/
theorem holds_joinedBy (op : Connective) (es : List (Expression α)) :
    (joinedBy op es).holds truth = holdsAll truth op es := by
  unfold joinedBy
  split
  · rw [holdsAll, holdsAll, op.join_neutral]
  · rfl

mutual

/-- An expression without groups of a single member holds if the expression does. -/
theorem holds_simplified (e : Expression α) : e.simplified.holds truth = e.holds truth := by
  match e with
  | leaf a => rfl
  | group op members =>
    rw [simplified, holds_joinedBy, holds, holdsAll_simplifiedAll op members]

theorem holdsAll_simplifiedAll (op : Connective) (es : List (Expression α)) :
    holdsAll truth op (simplifiedAll es) = holdsAll truth op es := by
  match es with
  | [] => rfl
  | e :: es =>
    rw [simplifiedAll, holdsAll, holdsAll, holds_simplified e, holdsAll_simplifiedAll op es]

end

end Holds

end Expression

/-! ## Conditions by their places -/

namespace Clause

open Expression

mutual

/-- The clause as an expression in which each condition has its place; the first one has the place
`first`. -/
def numbered (first : Nat) : Clause → Expression (Comparison × Nat)
  | leaf condition operands _ => .leaf (⟨condition, operands⟩, first)
  | group op _ children => .group op (numberedAll first children)

/-- Several clauses, whose conditions have places one after another. -/
def numberedAll (first : Nat) : List Clause → List (Expression (Comparison × Nat))
  | [] => []
  | c :: cs => c.numbered first :: numberedAll (first + c.comparisons.length) cs

end

mutual

/-- The leaves are the conditions in their order, each with its place. -/
theorem leaves_numbered (c : Clause) (first : Nat) :
    (c.numbered first).leaves = c.comparisons.zipIdx first := by
  match c with
  | leaf condition operands mark => rfl
  | group op mark children => exact leavesAll_numberedAll children first

theorem leavesAll_numberedAll (cs : List Clause) (first : Nat) :
    leavesAll (numberedAll first cs) = (comparisonsAll cs).zipIdx first := by
  match cs with
  | [] => rfl
  | c :: cs =>
    rw [numberedAll, leavesAll, comparisonsAll, List.zipIdx_append, leaves_numbered c,
      leavesAll_numberedAll cs]

end

theorem numberedAll_append (cs ds : List Clause) (first : Nat) :
    numberedAll first (cs ++ ds) =
      numberedAll first cs ++ numberedAll (first + (comparisonsAll cs).length) ds := by
  induction cs generalizing first with
  | nil => rfl
  | cons c cs ih =>
    rw [List.cons_append, numberedAll, ih, numberedAll, List.cons_append, comparisonsAll,
      List.length_append, Nat.add_assoc]

theorem shapeAll_eq_map (cs : List Clause) : shapeAll cs = cs.map shape := by
  induction cs with
  | nil => rfl
  | cons c cs ih => rw [shapeAll, ih, List.map_cons]

mutual

/-- A clause has as many comparisons as its groups have conditions. -/
theorem length_comparisons (c : Clause) : c.comparisons.length = c.shape.conditions.length := by
  match c with
  | leaf condition operands mark => rfl
  | group op mark children => exact length_comparisonsAll children

theorem length_comparisonsAll (cs : List Clause) :
    (comparisonsAll cs).length = (Group.conditionsOfAll (shapeAll cs)).length := by
  match cs with
  | [] => rfl
  | c :: cs =>
    rw [comparisonsAll, shapeAll, Group.conditionsOfAll, List.length_append, List.length_append,
      length_comparisons c, length_comparisonsAll cs]

end

/-- Clauses of the shape of two lists of groups are the clauses of each. -/
theorem exists_append_of_shapeAll {cs : List Clause} {gs hs : List Group}
    (h : shapeAll cs = gs ++ hs) :
    ∃ ds es, cs = ds ++ es ∧ shapeAll ds = gs ∧ shapeAll es = hs := by
  simp only [shapeAll_eq_map] at h ⊢
  exact List.map_eq_append_iff.mp h

/-- A clause of the shape of one group. -/
theorem exists_of_shapeAll_singleton {cs : List Clause} {g : Group} (h : shapeAll cs = [g]) :
    ∃ c, cs = [c] ∧ c.shape = g := by
  rw [shapeAll_eq_map] at h
  exact List.map_eq_singleton_iff.mp h

end Clause

/-! ## Grouping keeps the truth value -/

theorem Expression.fullAll_append {α : Type} {es fs : List (Expression α)} (h : FullAll es)
    (h' : FullAll fs) : FullAll (es ++ fs) := by
  induction es with
  | nil => exact h'
  | cons e es ih => exact ⟨h.1, ih h.2⟩

namespace Predicate

open Expression Clause

/-- The clause has no empty group, and it holds if the predicate does. -/
def Means (p : Predicate) (c : Clause) : Prop :=
  ∀ truth first, (c.numbered first).Full ∧
    (c.numbered first).holds (fun x => truth x.2) = p.holds truth first

/-- The clauses are the members of a chain, at least one, that has no empty group and holds if the
predicate does. -/
def MeansAll (p : Predicate) (op : Connective) (cs : List Clause) : Prop :=
  cs ≠ [] ∧ ∀ truth first, FullAll (numberedAll first cs) ∧
    holdsAll (fun x => truth x.2) op (numberedAll first cs) = p.holds truth first

section Means

variable {p left right : Predicate} {op : Connective} {c : Clause} {cs ds : List Clause}

theorem Means.single (h : p.Means c) (op : Connective) : p.MeansAll op [c] := by
  refine ⟨List.cons_ne_nil _ _, fun truth first => ?_⟩
  obtain ⟨hfull, hholds⟩ := h truth first
  refine ⟨⟨hfull, trivial⟩, ?_⟩
  rw [numberedAll, numberedAll, holdsAll, holdsAll, op.join_neutral, hholds]

/-- The members of both sides are those of the chain. -/
theorem MeansAll.append (h : left.MeansAll op cs) (h' : right.MeansAll op ds)
    (hlength : (comparisonsAll cs).length = left.conditions.length) :
    (binary op left right).MeansAll op (cs ++ ds) := by
  refine ⟨by simp [h.1], fun truth first => ?_⟩
  obtain ⟨hfull, hholds⟩ := h.2 truth first
  obtain ⟨hfull', hholds'⟩ := h'.2 truth (first + left.conditions.length)
  rw [numberedAll_append, hlength]
  refine ⟨fullAll_append hfull hfull', ?_⟩
  rw [holdsAll_append, hholds, hholds', holds]

theorem MeansAll.group (h : p.MeansAll op cs) (mark : Bool) : p.Means (.group op mark cs) := by
  intro truth first
  obtain ⟨hfull, hholds⟩ := h.2 truth first
  refine ⟨⟨?_, hfull⟩, hholds⟩
  cases cs with
  | nil => exact absurd rfl h.1
  | cons c cs => exact List.cons_ne_nil _ _

end Means

/-- Whatever operands it has, the group of a predicate means the predicate, and so do the members
that the predicate contributes to a chain. -/
theorem means_of_shape (p : Predicate) :
    (∀ mark c, c.shape = p.toGroup mark → p.Means c) ∧
      ∀ op cs, shapeAll cs = p.members op → p.MeansAll op cs := by
  -- the two facts need each other: a chain is made of the members of its sides, and a side of
  -- another connective is a member as the group that it is
  induction p with
  | condition c₀ =>
    have hleaf : ∀ mark c, c.shape = (condition c₀).toGroup mark → (condition c₀).Means c := by
      intro mark c h
      cases c with
      | leaf c operands mark' => exact fun truth first => ⟨trivial, rfl⟩
      | group op mark' children => cases h
    refine ⟨hleaf, fun op cs h => ?_⟩
    obtain ⟨c, rfl, hc⟩ := exists_of_shapeAll_singleton h
    exact (hleaf false c hc).single op
  | selective inner ih =>
    refine ⟨fun mark c h => ih.1 true c h, fun op cs h => ?_⟩
    obtain ⟨c, rfl, hc⟩ := exists_of_shapeAll_singleton h
    exact (ih.1 true c hc).single op
  | binary op left right ihl ihr =>
    have hchain : ∀ cs, shapeAll cs = left.members op ++ right.members op →
        (binary op left right).MeansAll op cs := by
      intro cs h
      obtain ⟨ds, es, rfl, hds, hes⟩ := exists_append_of_shapeAll h
      refine (ihl.2 op ds hds).append (ihr.2 op es hes) ?_
      rw [length_comparisonsAll, hds, (conditions_toGroup_members left).2]
    have hgroup : ∀ mark c, c.shape = (binary op left right).toGroup mark →
        (binary op left right).Means c := by
      intro mark c h
      cases c with
      | leaf c operands mark' => cases h
      | group op' mark' children =>
        rw [shape, toGroup, Group.group.injEq] at h
        obtain ⟨rfl, -, hchildren⟩ := h
        exact (hchain children hchildren).group mark'
    refine ⟨hgroup, fun op' cs h => ?_⟩
    rw [members] at h
    split at h
    · next heq =>
      obtain rfl := heq
      exact hchain cs h
    · obtain ⟨c, rfl, hc⟩ := exists_of_shapeAll_singleton h
      exact (hgroup false c hc).single op'

end Predicate

/-- The groups of a predicate, whatever operands they have, are not empty, and they hold if the
predicate does. -/
theorem holds_numbered (p : Predicate) (operands : List (List String)) (truth : Nat → Bool) :
    ((p.assigned operands).numbered 0).Full ∧
      ((p.assigned operands).numbered 0).holds (fun x => truth x.2) = p.holds truth 0 :=
  (Predicate.means_of_shape p).1 false _ (shape_assigned p operands) truth 0

end DerivedQuery
