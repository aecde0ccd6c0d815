import DerivedQuery.Proofs.Condition.Truth
import DerivedQuery.Statement.Translation
import Mathlib.Logic.Relation

/-!
# What grouping keeps of a predicate

The groups of a predicate are another way to look at it: they have its conditions in their order,
they hold if the predicate does, and a leaf or group is marked if the node directly above the part
it stands for is selective. They are as flat as marks allow (`Group.Flat`), so how a chain of one
connective is nested cannot be seen in them.

> `groups_faithful`: all of this, and that statements do not depend on how chains are nested.

Each of these facts is two in the proof. A part of a predicate is looked at as a group of its own
and as members of the chain around it, and either way of looking leads to the other one.
-/

namespace DerivedQuery

namespace Group

/-! ## Truth -/

section Holds

variable (truth : Nat → Bool)

mutual

/-- Whether a group holds, if `truth` tells so of each condition by its place and the first
condition has the place `first`. -/
def holds (first : Nat) : Group → Bool
  | leaf _ _ => truth first
  | group op _ children => holdsAll op first children

/-- Whether several groups with a connective between them hold. -/
def holdsAll (op : Connective) (first : Nat) : List Group → Bool
  | [] => op.neutral
  | g :: gs => op.join (holds first g) (holdsAll op (first + g.conditions.length) gs)

end

variable {truth}

theorem holdsAll_singleton (op : Connective) (first : Nat) (g : Group) :
    holdsAll truth op first [g] = g.holds truth first := by
  rw [holdsAll, holdsAll, op.join_neutral]

theorem holdsAll_append (op : Connective) (first : Nat) (gs hs : List Group) :
    holdsAll truth op first (gs ++ hs) = op.join (holdsAll truth op first gs)
      (holdsAll truth op (first + (conditionsOfAll gs).length) hs) := by
  induction gs generalizing first with
  | nil => exact (op.neutral_join _).symm
  | cons g gs ih =>
    rw [List.cons_append, holdsAll, ih, holdsAll, op.join_assoc, conditionsOfAll,
      List.length_append, Nat.add_assoc]

end Holds

/-! ## Shape -/

/-- Whether every group has at least two members, none of which is an unmarked group of the same
connective. -/
inductive Flat : Group → Prop
  | leaf (condition : Condition) (mark : Bool) : Flat (.leaf condition mark)
  | group {op : Connective} {mark : Bool} {children : List Group} (two : 2 ≤ children.length)
    (alternates : ∀ op' members, .group op' false members ∈ children → op' ≠ op)
    (members : ∀ g ∈ children, Flat g) : Flat (.group op mark children)

/-! ## Marks -/

/-- What a leaf or group is, a condition or a connective, and whether it is marked. -/
abbrev Entry : Type := (Condition ⊕ Connective) × Bool

mutual

/-- A leaf or group and everything in it, each group in front of its members. -/
def outline : Group → List Entry
  | leaf c mark => [(.inl c, mark)]
  | group op mark children => (.inr op, mark) :: outlineAll children

/-- The outlines of several groups. -/
def outlineAll : List Group → List Entry
  | [] => []
  | g :: gs => g.outline ++ outlineAll gs

end

theorem outlineAll_singleton (g : Group) : outlineAll [g] = g.outline := by
  rw [outlineAll, outlineAll, List.append_nil]

theorem outlineAll_append (gs hs : List Group) :
    outlineAll (gs ++ hs) = outlineAll gs ++ outlineAll hs := by
  induction gs with
  | nil => rfl
  | cons g gs ih => rw [List.cons_append, outlineAll, ih, outlineAll, List.append_assoc]

end Group

namespace Predicate

/-- What stands directly above a part of a predicate. -/
inductive Above
  | nothing
  | selective
  | binary (op : Connective)
deriving DecidableEq, Repr

/-- The parts of a predicate that are leaves or groups, each in front of what is in it: the
conditions, and the binary nodes that do not continue the chain above them. Each is marked if a
selective node stands directly above it. -/
def outline (above : Above) : Predicate → List Group.Entry
  | condition c => [(.inl c, above = .selective)]
  | selective inner => inner.outline .selective
  | binary op left right =>
    (if above = .binary op then [] else [(.inr op, decide (above = .selective))]) ++
      left.outline (.binary op) ++ right.outline (.binary op)

/-- One chain of a connective is nested in another way, anywhere in a predicate. -/
inductive Rotates : Predicate → Predicate → Prop
  | here (op : Connective) (a b c : Predicate) :
    Rotates (binary op (binary op a b) c) (binary op a (binary op b c))
  | left {op : Connective} {a a' : Predicate} (b : Predicate) (h : Rotates a a') :
    Rotates (binary op a b) (binary op a' b)
  | right {op : Connective} (a : Predicate) {b b' : Predicate} (h : Rotates b b') :
    Rotates (binary op a b) (binary op a b')
  | selective {a a' : Predicate} (h : Rotates a a') : Rotates (.selective a) (.selective a')

open DerivedQuery.Group

/-! ## A part as a group and as members of a chain -/

theorem length_conditionsOfAll_members (p : Predicate) (op : Connective) :
    (conditionsOfAll (p.members op)).length = p.conditions.length :=
  congrArg _ ((conditions_toGroup_members p).2 op)

theorem holds_toGroup_members (truth : Nat → Bool) (p : Predicate) :
    (∀ mark first, (p.toGroup mark).holds truth first = p.holds truth first) ∧
      ∀ op first, holdsAll truth op first (p.members op) = p.holds truth first := by
  induction p with
  | condition c =>
    exact ⟨fun mark first => rfl, fun op first => holdsAll_singleton op first _⟩
  | selective inner ih =>
    refine ⟨fun mark first => ih.1 true first, fun op first => ?_⟩
    exact (holdsAll_singleton op first _).trans (ih.1 true first)
  | binary op left right ihl ihr =>
    have hchain : ∀ first, holdsAll truth op first (left.members op ++ right.members op) =
        (binary op left right).holds truth first := by
      intro first
      rw [holdsAll_append, ihl.2, ihr.2, length_conditionsOfAll_members, holds]
    refine ⟨fun mark first => hchain first, fun op' first => ?_⟩
    rw [members]
    split
    next heq => rw [← heq, hchain]
    next => exact (holdsAll_singleton op' first _).trans (hchain first)

theorem flat_toGroup_members (p : Predicate) :
    (∀ mark, (p.toGroup mark).Flat) ∧ ∀ op, p.members op ≠ [] ∧
      (∀ g ∈ p.members op, g.Flat) ∧ ∀ gs, .group op false gs ∉ p.members op := by
  induction p with
  | condition c =>
    refine ⟨fun mark => .leaf c mark, fun op => ⟨List.cons_ne_nil _ _, ?_, fun gs h => ?_⟩⟩
    · exact List.forall_mem_singleton.mpr (.leaf c false)
    · cases List.mem_singleton.mp h
  | selective inner ih =>
    refine ⟨fun mark => ih.1 true, fun op => ⟨List.cons_ne_nil _ _, ?_, fun gs h => ?_⟩⟩
    · exact List.forall_mem_singleton.mpr (ih.1 true)
    · -- what a selective node marks is no unmarked group
      have hmarked : ∀ q : Predicate, (q.toGroup true).isSelective = true := by
        intro q
        induction q with
        | condition | binary => rfl
        | selective _ ih => exact ih
      have hmark := hmarked inner
      rw [← List.mem_singleton.mp h] at hmark
      cases hmark
  | binary op left right ihl ihr =>
    have hgroup : ∀ mark, ((binary op left right).toGroup mark).Flat := by
      intro mark
      obtain ⟨hnel, hflatl, hotherl⟩ := ihl.2 op
      obtain ⟨hner, hflatr, hotherr⟩ := ihr.2 op
      have hposl := List.length_pos_of_ne_nil hnel
      have hposr := List.length_pos_of_ne_nil hner
      refine .group ?_ ?_ (List.forall_mem_append.mpr ⟨hflatl, hflatr⟩)
      · rw [List.length_append]
        omega
      · rintro op' gs h rfl
        exact (List.mem_append.mp h).elim (hotherl gs) (hotherr gs)
    refine ⟨hgroup, fun op' => ?_⟩
    rw [members]
    split
    next heq =>
      obtain rfl := heq
      obtain ⟨hnel, hflatl, hotherl⟩ := ihl.2 op
      obtain ⟨-, hflatr, hotherr⟩ := ihr.2 op
      refine ⟨List.append_ne_nil_of_left_ne_nil hnel _,
        List.forall_mem_append.mpr ⟨hflatl, hflatr⟩, fun gs h => ?_⟩
      exact (List.mem_append.mp h).elim (hotherl gs) (hotherr gs)
    next hne =>
      refine ⟨List.cons_ne_nil _ _, List.forall_mem_singleton.mpr (hgroup false), fun gs h => ?_⟩
      cases List.mem_singleton.mp h
      exact hne rfl

theorem outline_toGroup_members (p : Predicate) :
    (∀ mark, (p.toGroup mark).outline = p.outline (if mark then .selective else .nothing)) ∧
      ∀ op, outlineAll (p.members op) = p.outline (.binary op) := by
  induction p with
  | condition c =>
    refine ⟨fun mark => ?_, fun op => rfl⟩
    cases mark <;> rfl
  | selective inner ih =>
    exact ⟨fun mark => ih.1 true, fun op => (outlineAll_singleton _).trans (ih.1 true)⟩
  | binary op left right ihl ihr =>
    have hchain : outlineAll (left.members op ++ right.members op) =
        left.outline (.binary op) ++ right.outline (.binary op) := by
      rw [outlineAll_append, ihl.2, ihr.2]
    have hgroup : ∀ mark, ((binary op left right).toGroup mark).outline =
        (.inr op, mark) :: (left.outline (.binary op) ++ right.outline (.binary op)) := by
      intro mark
      rw [toGroup, Group.outline, hchain]
    refine ⟨fun mark => ?_, fun op' => ?_⟩
    · rw [hgroup]
      cases mark <;> rfl
    · rw [members, outline]
      split
      next heq => rw [heq, if_pos rfl, ← heq, hchain, List.nil_append]
      next hne =>
        have hother : Above.binary op' ≠ .binary op := fun h => hne (Above.binary.inj h).symm
        rw [outlineAll_singleton, if_neg hother]
        exact hgroup false

/-- A mark stands somewhere in the outline if a node is selective. -/
theorem any_outline (p : Predicate) (above : Above) :
    (p.outline above).any (·.2) = (p.hasSelective || decide (above = .selective)) := by
  induction p generalizing above with
  | condition c => simp [outline, hasSelective]
  | selective inner ih =>
    rw [outline, ih, hasSelective, decide_eq_true rfl, Bool.or_true, Bool.true_or]
  | binary op left right ihl ihr =>
    rw [outline, List.any_append, List.any_append, ihl, ihr, hasSelective]
    have hbinary : decide (Above.binary op = .selective) = false := rfl
    rw [hbinary, Bool.or_false, Bool.or_false]
    split
    next h => rw [h, hbinary, List.any_nil, Bool.false_or, Bool.or_false]
    next => rw [List.any_cons, List.any_nil, Bool.or_false, Bool.or_assoc, Bool.or_comm]

/-- How a chain is nested is not seen in groups. -/
theorem Rotates.toGroup_members {p p' : Predicate} (h : Rotates p p') :
    (∀ mark, p.toGroup mark = p'.toGroup mark) ∧ ∀ op, p.members op = p'.members op := by
  induction h with
  | here op a b c =>
    refine ⟨fun mark => ?_, fun op' => ?_⟩
    · simp only [toGroup, members, if_true, List.append_assoc]
    · by_cases hop : op = op'
      · simp only [members, hop, if_true, List.append_assoc]
      · simp only [members, hop, if_true, if_false, List.append_assoc]
  | left b _ ih | right a _ ih =>
    refine ⟨fun mark => ?_, fun op' => ?_⟩
    · simp only [toGroup, ih.2]
    · simp only [members, ih.2]
  | selective _ ih => exact ⟨fun mark => ih.1 true, fun op' => congrArg (fun g => [g]) (ih.1 true)⟩

theorem groups_eq_of_rotates {p p' : Predicate} (h : Relation.EqvGen Rotates p p') :
    p.groups = p'.groups := by
  induction h with
  | rel _ _ h => exact h.toGroup_members.1 false
  | refl => rfl
  | symm _ _ _ ih => exact ih.symm
  | trans _ _ _ _ _ ih ih' => exact ih.trans ih'

theorem hasSelective_eq_any (p : Predicate) : p.hasSelective = p.groups.outline.any (·.2) := by
  rw [groups, (outline_toGroup_members p).1 false, any_outline]
  simp

end Predicate

/-! ## Statements -/

section Statements

variable {p p' : Predicate}

theorem whereBody_eq_of_groups (h : p.groups = p'.groups) (column : PropertyPath → String)
    (operands : List (List String)) :
    whereBody column p operands = whereBody column p' operands := by
  rw [whereBody, whereBody, p.hasSelective_eq_any, p'.hasSelective_eq_any, h]

/-- A statement depends on the condition of its query only by the groups of it. -/
theorem Translator.translate_eq_of_groups (t : Translator) (q : Query) (m : BoundMethod)
    (h : p.groups = p'.groups) :
    t.translate { q with predicate := some p } m =
      t.translate { q with predicate := some p' } m := by
  have hconditions : p.conditions = p'.conditions := by
    rw [← p.conditions_groups, h, p'.conditions_groups]
  have hoperands : m.operands { q with predicate := some p } =
      m.operands { q with predicate := some p' } := by
    simp only [BoundMethod.operands, Query.operandCount, Query.conditions, Option.map_some,
      Option.getD_some, Predicate.operandCount, hconditions]
    rfl
  have hcondition : ∀ fields, t.condition { q with predicate := some p } m fields =
      t.condition { q with predicate := some p' } m fields := by
    intro fields
    simp only [condition, hoperands, whereBody_eq_of_groups h]
  have hassigned : ∀ payload, assignedFields { q with predicate := some p } payload =
      assignedFields { q with predicate := some p' } payload := by
    intro payload
    simp only [assignedFields, Query.conditions, Option.map_some, Option.getD_some, hconditions]
  unfold translate
  obtain ⟨operation, all, selective, predicate, orderBy⟩ := q
  cases operation with
  | delete => simp only [delete, hcondition]
  | insert =>
    simp only [insert]
    rfl
  | update => simp only [update, hcondition, hassigned]
  | _ =>
    simp only [select, hcondition]
    rfl

end Statements

/-- **Grouping keeps the meaning and the order of a predicate.** The leaves of the groups are the
conditions in their order, and the groups hold if the predicate does, whichever of the conditions
hold. The groups are flat. A leaf or group is marked just in case a selective node stands directly
above it, so a predicate has a selective node just in case something is marked. However the chains
of a predicate are nested, its groups are the same, and so are the statements of its queries. -/
theorem groups_faithful (p : Predicate) :
    p.groups.conditions = p.conditions ∧
    (∀ truth : Nat → Bool, p.groups.holds truth 0 = p.holds truth 0) ∧
    p.groups.Flat ∧
    p.groups.outline = p.outline .nothing ∧
    (p.hasSelective = true ↔ ∃ entry ∈ p.groups.outline, entry.2 = true) ∧
    ∀ p', Relation.EqvGen Predicate.Rotates p p' → p.groups = p'.groups ∧
      ∀ (t : Translator) (q : Query) (m : BoundMethod),
        t.translate { q with predicate := some p } m =
          t.translate { q with predicate := some p' } m := by
  refine ⟨p.conditions_groups, fun truth => (p.holds_toGroup_members truth).1 false 0,
    p.flat_toGroup_members.1 false, p.outline_toGroup_members.1 false, ?_, fun p' h => ?_⟩
  · rw [p.hasSelective_eq_any, List.any_eq_true]
  · have hgroups := Predicate.groups_eq_of_rotates h
    exact ⟨hgroups, fun t q m => t.translate_eq_of_groups q m hgroups⟩

/-- `a` and a selective `b`, together with one of `c`, `a` and `b` if all of their operands are
present: the first chain nested to the left if `toLeft` holds, else to the right, and the second one
the other way. -/
def nestedChains (toLeft : Bool) : Predicate :=
  let a : Predicate := .condition ⟨⟨["a"]⟩, .equal⟩
  let b : Predicate := .condition ⟨⟨["b"]⟩, .between⟩
  let c : Predicate := .condition ⟨⟨["c"]⟩, .isNull⟩
  if toLeft then
    .binary .and (.binary .and a (.selective b)) (.selective (.binary .or c (.binary .or a b)))
  else .binary .and a (.binary .and (.selective b) (.selective (.binary .or (.binary .or c a) b)))

theorem groups_faithful_nestings :
    Relation.EqvGen Predicate.Rotates (nestedChains true) (nestedChains false) ∧
      (nestedChains true).groups = (nestedChains false).groups ∧
      (nestedChains false).groups.outline = [(.inr .and, false), (.inl ⟨⟨["a"]⟩, .equal⟩, false),
        (.inl ⟨⟨["b"]⟩, .between⟩, true), (.inr .or, true), (.inl ⟨⟨["c"]⟩, .isNull⟩, false),
        (.inl ⟨⟨["a"]⟩, .equal⟩, false), (.inl ⟨⟨["b"]⟩, .between⟩, false)] := by
  have hnested : Relation.EqvGen Predicate.Rotates (nestedChains true) (nestedChains false) :=
    .trans _ _ _ (.rel _ _ (.here _ _ _ _))
      (.symm _ _ (.rel _ _ (.right _ (.right _ (.selective (.here _ _ _ _))))))
  exact ⟨hnested, ((groups_faithful (nestedChains true)).2.2.2.2.2 _ hnested).1, rfl⟩

end DerivedQuery
