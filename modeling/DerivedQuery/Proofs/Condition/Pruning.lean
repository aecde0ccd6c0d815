import DerivedQuery.Proofs.Condition.Assignment
import DerivedQuery.Proofs.Condition.Evaluation
import DerivedQuery.Proofs.Condition.Expression

/-!
# Conditions that drop out

A selective part of a clause drops out as soon as one of its operands is missing, with everything
in it. `Clause.prune` takes these parts away, and with them the groups that have nothing left;
what remains is an expression over the conditions. `Clause.survivors` names the conditions that
remain without building anything, and `leaves_prune` says that the two agree: in particular
nothing remains exactly when no condition survives.
-/

namespace DerivedQuery

open Expression

/-! ## What is left of a clause -/

/-- The comparison as it is written. -/
def Comparison.body (column : PropertyPath → String) (c : Comparison) : Body :=
  c.condition.body (column c.condition.path) c.operands

namespace Clause

section Prune

variable (present : String → Bool)

/-- Whether a part drops out: it is selective and one of its operands is missing. -/
def drops (selective : Bool) (operands : List String) : Bool :=
  selective && operands.any fun name => !present name

mutual

/-- The clause without the parts that drop out. A group that loses all its members is gone too. -/
def prune : Clause → Option (Expression Comparison)
  | leaf condition operands selective =>
    if drops present selective operands then none else some (.leaf ⟨condition, operands⟩)
  | group op selective children =>
    if drops present selective (operandsAll children) then none
    else
      match pruneAll children with
      | [] => none
      | e :: es => some (.group op (e :: es))

/-- What is left of several clauses. -/
def pruneAll : List Clause → List (Expression Comparison)
  | [] => []
  | c :: cs => (prune c).toList ++ pruneAll cs

end

mutual

/-- The conditions that survive: neither they nor a group around them drops out. -/
def survivors : Clause → List Comparison
  | leaf condition operands selective =>
    if drops present selective operands then [] else [⟨condition, operands⟩]
  | group _ selective children =>
    if drops present selective (operandsAll children) then [] else survivorsAll children

/-- The conditions that survive in several clauses. -/
def survivorsAll : List Clause → List Comparison
  | [] => []
  | c :: cs => survivors c ++ survivorsAll cs

end

end Prune

variable {present : String → Bool}

mutual

/-- What is left of a clause has the conditions that survive, and nothing is left if none does. -/
theorem leaves_prune (c : Clause) :
    leavesAll (c.prune present).toList = c.survivors present ∧
      (c.survivors present = [] → c.prune present = none) := by
  match c with
  | leaf condition operands selective =>
    rw [prune, survivors]
    split
    · exact ⟨rfl, fun _ => rfl⟩
    · exact ⟨rfl, fun h => by cases h⟩
  | group op selective children =>
    obtain ⟨hleaves, hnone⟩ := leaves_pruneAll children
    rw [prune, survivors]
    split
    · exact ⟨rfl, fun _ => rfl⟩
    · cases hp : pruneAll present children with
      | nil =>
        rw [hp] at hleaves
        exact ⟨hleaves, fun _ => rfl⟩
      | cons e es =>
        refine ⟨?_, fun h => ?_⟩
        · rw [← hleaves, hp]
          simp [leavesAll, leaves]
        · rw [hnone h] at hp
          cases hp

theorem leaves_pruneAll (cs : List Clause) :
    leavesAll (pruneAll present cs) = survivorsAll present cs ∧
      (survivorsAll present cs = [] → pruneAll present cs = []) := by
  match cs with
  | [] => exact ⟨rfl, fun _ => rfl⟩
  | c :: cs =>
    obtain ⟨hc, hcnone⟩ := leaves_prune c
    obtain ⟨hcs, hcsnone⟩ := leaves_pruneAll cs
    rw [pruneAll, survivorsAll]
    refine ⟨?_, fun h => ?_⟩
    · rw [← hc, ← hcs]
      cases c.prune present <;> simp [leavesAll]
    · obtain ⟨h₁, h₂⟩ := List.append_eq_nil_iff.mp h
      rw [hcnone h₁, hcsnone h₂]
      rfl

end

mutual

/-- Surviving conditions are conditions of the clause, in their order. -/
theorem survivors_sublist (c : Clause) : (c.survivors present).Sublist c.comparisons := by
  match c with
  | leaf condition operands selective =>
    rw [survivors]
    split
    · exact List.nil_sublist _
    · exact List.Sublist.refl _
  | group op selective children =>
    rw [survivors]
    split
    · exact List.nil_sublist _
    · exact survivorsAll_sublist children

theorem survivorsAll_sublist (cs : List Clause) :
    (survivorsAll present cs).Sublist (comparisonsAll cs) := by
  match cs with
  | [] => exact List.Sublist.refl _
  | c :: cs => exact (survivors_sublist c).append (survivorsAll_sublist cs)

end

/-- What is left of clauses is made of their conditions. -/
theorem mem_comparisonsAll_of_mem_leaves {cs : List Clause} {e : Expression Comparison}
    (he : e ∈ pruneAll present cs) {c : Comparison} (hc : c ∈ e.leaves) :
    c ∈ comparisonsAll cs := by
  have hsurvives : c ∈ survivorsAll present cs := by
    rw [← (leaves_pruneAll cs).1]
    exact mem_leavesAll.mpr ⟨e, he, hc⟩
  exact (survivorsAll_sublist cs).subset hsurvives

/-- What is left of a clause is made of its conditions. -/
theorem mem_comparisons_of_mem_leaves {c : Clause} {e : Expression Comparison}
    (he : c.prune present = some e) {x : Comparison} (hx : x ∈ e.leaves) : x ∈ c.comparisons := by
  have hsurvives : x ∈ c.survivors present := by
    rw [← (leaves_prune c).1, he]
    exact mem_leavesAll.mpr ⟨e, List.mem_singleton_self e, hx⟩
  exact (survivors_sublist c).subset hsurvives

mutual

/-- What is left of a clause has no empty groups. -/
theorem full_prune (c : Clause) : FullAll (c.prune present).toList := by
  match c with
  | leaf condition operands selective =>
    rw [prune]
    split
    · exact trivial
    · exact ⟨trivial, trivial⟩
  | group op selective children =>
    have hchildren := full_pruneAll children
    rw [prune]
    split
    · exact trivial
    · cases hp : pruneAll present children with
      | nil => exact trivial
      | cons e es =>
        rw [hp] at hchildren
        exact ⟨⟨List.cons_ne_nil e es, hchildren⟩, trivial⟩

theorem full_pruneAll (cs : List Clause) : FullAll (pruneAll present cs) := by
  match cs with
  | [] => exact trivial
  | c :: cs =>
    have hc := full_prune c
    have hcs := full_pruneAll cs
    rw [pruneAll]
    cases hp : c.prune present with
    | none => exact hcs
    | some e =>
      rw [hp] at hc
      exact ⟨hc.1, hcs⟩

end

end Clause

end DerivedQuery
