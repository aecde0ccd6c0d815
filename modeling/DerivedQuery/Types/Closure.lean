import DerivedQuery.Types.Table

/-!
# The supertypes of a type, near and far

`TypeTable.closure` lists every transitive supertype of a type in depth-first order, the first one
met of each name. The walk keeps the types still to be visited, nearest first, and the names it
has met. A type is passed over if its name has been met, so every step either shortens the list of
pending types or meets a declaration for the first time (`length_unmet_lt`), and the walk ends on
cyclic hierarchies too.

Mirrors `supertype_closure` and `walk_supertypes`; in place of the recursion over the supertypes of
a type there are the types still to be visited.
-/

namespace DerivedQuery.Types

namespace TypeTable

/-- The declarations whose name has not been met. -/
def unmet (table : TypeTable) (met : List String) : List TypeDecl :=
  table.decls.filter fun d => !met.contains d.name

theorem find?_mem {table : TypeTable} {name : String} {d : TypeDecl}
    (h : table.find? name = some d) : d ∈ table.decls ∧ d.name = name := by
  refine ⟨List.mem_of_find?_eq_some h, ?_⟩
  simpa using List.find?_some h

theorem length_filter_le_of_imp {α : Type} (p q : α → Bool) (l : List α)
    (h : ∀ a ∈ l, p a = true → q a = true) : (l.filter p).length ≤ (l.filter q).length := by
  induction l with
  | nil => simp
  | cons a l ih =>
    have ih := ih fun b hb => h b (List.mem_cons_of_mem a hb)
    have ha := h a List.mem_cons_self
    simp only [List.filter_cons]
    split
    · rw [if_pos (ha ‹_›)]
      simpa using ih
    · split
      · exact Nat.le_succ_of_le ih
      · exact ih

theorem length_filter_lt_of_imp {α : Type} (p q : α → Bool) (l : List α)
    (h : ∀ a ∈ l, p a = true → q a = true) {x : α} (hx : x ∈ l) (hp : p x = false)
    (hq : q x = true) : (l.filter p).length < (l.filter q).length := by
  induction l with
  | nil => simp at hx
  | cons a l ih =>
    have hle := length_filter_le_of_imp p q l fun b hb => h b (List.mem_cons_of_mem a hb)
    simp only [List.filter_cons]
    rcases List.mem_cons.1 hx with rfl | hx
    · rw [if_neg (by simp [hp]), if_pos hq]
      simpa using Nat.lt_succ_of_le hle
    · have ih := ih (fun b hb => h b (List.mem_cons_of_mem a hb)) hx
      have ha := h a List.mem_cons_self
      split
      · rw [if_pos (ha ‹_›)]
        simpa using ih
      · split
        · exact Nat.lt_succ_of_lt ih
        · exact ih

theorem length_unmet_le (table : TypeTable) (name : String) (met : List String) :
    (table.unmet (name :: met)).length ≤ (table.unmet met).length := by
  apply length_filter_le_of_imp
  intro d _ h
  simp_all

/-- Meeting a declared name for the first time leaves fewer declarations unmet. -/
theorem length_unmet_lt {table : TypeTable} {name : String} {met : List String} {d : TypeDecl}
    (hd : table.find? name = some d) (hmet : met.contains name = false) :
    (table.unmet (name :: met)).length < (table.unmet met).length := by
  obtain ⟨hmem, rfl⟩ := find?_mem hd
  refine length_filter_lt_of_imp _ _ _ ?_ hmem ?_ ?_
  · intro d _ h
    simp_all
  · simp
  · simpa using hmet

theorem supertypes_eq_nil {table : TypeTable} {type : TypeRef}
    (h : ∀ name, type.erasure? = some name → table.find? name = none) :
    table.supertypes type = [] := by
  unfold supertypes
  split
  · rw [h _ rfl]
  · rfl

/-- The walk over the pending types and their supertypes. -/
def walk (table : TypeTable) (met : List String) (pending : List TypeRef) : List TypeRef :=
  match pending with
  | [] => []
  | type :: rest =>
    match _ht : type.erasure? with
    | none => table.walk met rest
    | some name =>
      if _hm : met.contains name then table.walk met rest
      else type :: table.walk (name :: met) (table.supertypes type ++ rest)
termination_by ((table.unmet met).length, pending.length)
decreasing_by
  · exact Prod.Lex.right _ (Nat.lt_succ_self _)
  · exact Prod.Lex.right _ (Nat.lt_succ_self _)
  · cases hd : table.find? name with
    | some d => exact Prod.Lex.left _ _ (length_unmet_lt hd (by simpa using _hm))
    | none =>
      rw [supertypes_eq_nil (by intro n hn; rw [hn] at _ht; cases _ht; exact hd)]
      rcases Nat.lt_or_eq_of_le (length_unmet_le table name met) with hlt | heq
      · exact Prod.Lex.left _ _ hlt
      · rw [heq]
        exact Prod.Lex.right _ (Nat.lt_succ_self _)

/-- Every transitive supertype of a type in depth-first order, the first one of each name and none
of the type's own name. -/
def closure (table : TypeTable) (type : TypeRef) : List TypeRef :=
  table.walk type.erasure?.toList (table.supertypes type)

end TypeTable

end DerivedQuery.Types
