import DerivedQuery.Statement.Where

/-!
# Which condition gets which operands

Three traversals have to agree on the order of the conditions of a predicate: the list of its
conditions, the leaves of its groups, and the operands handed out to these leaves. They do:
grouping keeps the order (`conditions_groups`), and with one list of operands for each condition
the leaf of each condition gets the list at the condition's own place
(`comparisons_assigned`).
-/

namespace DerivedQuery

/-- A condition with the operands it compares with. -/
structure Comparison where
  condition : Condition
  operands : List String
deriving DecidableEq, Repr

namespace Clause

mutual

/-- The group without the operands. -/
def shape : Clause → Group
  | leaf condition _ mark => .leaf condition mark
  | group op mark children => .group op mark (shapeAll children)

/-- Several groups without their operands. -/
def shapeAll : List Clause → List Group
  | [] => []
  | c :: cs => c.shape :: shapeAll cs

end

mutual

/-- The conditions with their operands from left to right. -/
def comparisons : Clause → List Comparison
  | leaf condition operands _ => [⟨condition, operands⟩]
  | group _ _ children => comparisonsAll children

/-- The conditions of several clauses with their operands from left to right. -/
def comparisonsAll : List Clause → List Comparison
  | [] => []
  | c :: cs => c.comparisons ++ comparisonsAll cs

end

mutual

/-- The operands of a clause are those of its conditions. -/
theorem operands_eq_flatMap (c : Clause) : c.operands = c.comparisons.flatMap (·.operands) := by
  match c with
  | leaf condition operands mark => simp [Clause.operands, comparisons]
  | group op mark children =>
    rw [Clause.operands, comparisons, operandsAll_eq_flatMap children]

theorem operandsAll_eq_flatMap (cs : List Clause) :
    operandsAll cs = (comparisonsAll cs).flatMap (·.operands) := by
  match cs with
  | [] => rfl
  | c :: cs =>
    rw [operandsAll, comparisonsAll, List.flatMap_append, operands_eq_flatMap c,
      operandsAll_eq_flatMap cs]

end

end Clause

/-! ## Grouping keeps the order of the conditions -/

theorem Group.conditionsOfAll_append (gs hs : List Group) :
    Group.conditionsOfAll (gs ++ hs) = Group.conditionsOfAll gs ++ Group.conditionsOfAll hs := by
  induction gs with
  | nil => rfl
  | cons g gs ih => simp [Group.conditionsOfAll, ih]

namespace Predicate

/-- The conditions of a group and of the members of a chain are those of the predicate. -/
theorem conditions_toGroup_members (p : Predicate) :
    (∀ mark, (p.toGroup mark).conditions = p.conditions) ∧
      ∀ op, Group.conditionsOfAll (p.members op) = p.conditions := by
  induction p with
  | condition c => simp [toGroup, members, Group.conditions, Group.conditionsOfAll, conditions]
  | selective inner ih =>
    simp [toGroup, members, Group.conditionsOfAll, conditions, ih.1]
  | binary op left right ihl ihr =>
    have hchain : ∀ op, Group.conditionsOfAll (left.members op ++ right.members op) =
        (binary op left right).conditions := by
      intro op
      rw [Group.conditionsOfAll_append, ihl.2, ihr.2, conditions]
    refine ⟨fun mark => ?_, fun op' => ?_⟩
    · rw [toGroup, Group.conditions, hchain]
    · rw [members]
      split
      · rw [hchain]
        rfl
      · simp only [Group.conditionsOfAll, Group.conditions, List.append_nil, hchain]

/-- The leaves of the groups are the conditions in their order. -/
theorem conditions_groups (p : Predicate) : p.groups.conditions = p.conditions :=
  (conditions_toGroup_members p).1 false

/-- The groups of a predicate with operands handed to the conditions from left to right. -/
def assigned (p : Predicate) (operands : List (List String)) : Clause :=
  (p.groups.withOperands operands).1

end Predicate

/-! ## Handing out operands -/

namespace Group

mutual

/-- Operands change nothing else about a group. -/
theorem shape_withOperands (g : Group) (operands : List (List String)) :
    (g.withOperands operands).1.shape = g := by
  match g with
  | leaf condition mark => rfl
  | group op mark children =>
    show group op mark (Clause.shapeAll (withOperandsAll operands children).1) = _
    rw [shapeAll_withOperandsAll children operands]

theorem shapeAll_withOperandsAll (gs : List Group) (operands : List (List String)) :
    Clause.shapeAll (withOperandsAll operands gs).1 = gs := by
  match gs with
  | [] => rfl
  | g :: gs =>
    show (g.withOperands operands).1.shape :: Clause.shapeAll (withOperandsAll _ gs).1 = _
    rw [shape_withOperands g, shapeAll_withOperandsAll gs]

end

mutual

/-- A group takes one list of operands for each of its conditions, each condition the list at its
own place, and leaves the lists after these. -/
theorem comparisons_withOperands (g : Group) (own rest : List (List String))
    (h : own.length = g.conditions.length) :
    (g.withOperands (own ++ rest)).1.comparisons = List.zipWith Comparison.mk g.conditions own ∧
      (g.withOperands (own ++ rest)).2 = rest := by
  match g with
  | leaf condition mark =>
    obtain ⟨operands, rfl⟩ := List.length_eq_one_iff.mp h
    exact ⟨rfl, rfl⟩
  | group op mark children => exact comparisons_withOperandsAll children own rest h

theorem comparisons_withOperandsAll (gs : List Group) (own rest : List (List String))
    (h : own.length = (conditionsOfAll gs).length) :
    Clause.comparisonsAll (withOperandsAll (own ++ rest) gs).1 =
        List.zipWith Comparison.mk (conditionsOfAll gs) own ∧
      (withOperandsAll (own ++ rest) gs).2 = rest := by
  match gs with
  | [] =>
    obtain rfl := List.length_eq_zero_iff.mp h
    exact ⟨rfl, rfl⟩
  | g :: gs =>
    rw [conditionsOfAll, List.length_append] at h
    -- the lists for the first group, and those for the others
    have hfirst : (own.take g.conditions.length).length = g.conditions.length := by
      rw [List.length_take]
      omega
    have hothers : (own.drop g.conditions.length).length = (conditionsOfAll gs).length := by
      rw [List.length_drop]
      omega
    obtain ⟨hg, hgrest⟩ :=
      comparisons_withOperands g _ (own.drop g.conditions.length ++ rest) hfirst
    obtain ⟨hgs, hgsrest⟩ := comparisons_withOperandsAll gs _ rest hothers
    rw [← List.append_assoc, List.take_append_drop] at hg hgrest
    refine ⟨?_, ?_⟩
    · show (g.withOperands (own ++ rest)).1.comparisons ++
        Clause.comparisonsAll (withOperandsAll (g.withOperands (own ++ rest)).2 gs).1 = _
      rw [hgrest, hg, hgs, conditionsOfAll, ← List.zipWith_append hfirst.symm,
        List.take_append_drop]
    · show (withOperandsAll (g.withOperands (own ++ rest)).2 gs).2 = rest
      rw [hgrest, hgsrest]

end

end Group

/-- A predicate with operands is its groups with operands. -/
theorem shape_assigned (p : Predicate) (operands : List (List String)) :
    (p.assigned operands).shape = p.groups :=
  Group.shape_withOperands p.groups operands

/-- With one list of operands for each condition, every condition has the list at its own
place. -/
theorem comparisons_assigned {p : Predicate} {operands : List (List String)}
    (h : operands.length = p.conditions.length) :
    (p.assigned operands).comparisons = List.zipWith Comparison.mk p.conditions operands := by
  rw [← Predicate.conditions_groups] at h ⊢
  have := (Group.comparisons_withOperands p.groups operands [] h).1
  rwa [List.append_nil] at this

end DerivedQuery
