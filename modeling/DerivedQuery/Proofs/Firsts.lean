import DerivedQuery.Method.Candidate
import DerivedQuery.Types.Resolver

/-!
# The first of each key

Fields of one name, and methods of one name with the same parameter types, count once: the first
one stands for all (`firstsBy`). An element is kept if a search for its key finds it
(`mem_firstsBy`), so no two that are kept have the same key (`nodup_firstsBy`).
-/

namespace DerivedQuery

open DerivedQuery.Types

section

variable {α κ : Type} [BEq κ] {key : α → κ} {a : α} {l : List α}

/-- The elements of which no earlier one has the same key. -/
def firstsBy (key : α → κ) : List α → List α
  | [] => []
  | a :: l => a :: (firstsBy key l).filter fun b => !(key b == key a)

variable [LawfulBEq κ]

theorem mem_firstsBy : a ∈ firstsBy key l ↔ l.find? (fun b => key b == key a) = some a := by
  induction l with
  | nil => simp [firstsBy]
  | cons b l ih =>
    rw [firstsBy, List.mem_cons, List.mem_filter, ih, List.find?_cons]
    by_cases hkey : key b = key a
    · simp [hkey, eq_comm]
    · have hne : a ≠ b := fun h => hkey (congrArg key h.symm)
      simp [beq_false_of_ne hkey, beq_false_of_ne (Ne.symm hkey), hne]

/-- What is kept stands in the list, and nothing before it has its key. -/
theorem mem_firstsBy_iff_append : a ∈ firstsBy key l ↔
    ∃ before after, l = before ++ a :: after ∧ ∀ b ∈ before, key b ≠ key a := by
  simp [mem_firstsBy, List.find?_eq_some_iff_append]

theorem mem_of_mem_firstsBy (h : a ∈ firstsBy key l) : a ∈ l :=
  List.mem_of_find?_eq_some (mem_firstsBy.mp h)

/-- Every key is that of an element that is kept. -/
theorem exists_mem_firstsBy (key : α → κ) (ha : a ∈ l) :
    ∃ b ∈ firstsBy key l, key b = key a := by
  cases hfind : l.find? (fun b => key b == key a) with
  | none => exact absurd (beq_self_eq_true _) (List.find?_eq_none.mp hfind a ha)
  | some b =>
    have hfound := List.find?_some hfind
    have hkey : key b = key a := beq_iff_eq.mp hfound
    exact ⟨b, mem_firstsBy.mpr (by rw [hkey]; exact hfind), hkey⟩

theorem nodup_firstsBy (key : α → κ) (l : List α) : ((firstsBy key l).map key).Nodup := by
  induction l with
  | nil => exact .nil
  | cons a l ih =>
    rw [firstsBy, List.map_cons, List.nodup_cons]
    refine ⟨?_, ih.sublist (List.filter_sublist.map key)⟩
    intro hmem
    obtain ⟨b, hb, hkey⟩ := List.mem_map.mp hmem
    have hother := (List.mem_filter.mp hb).2
    rw [hkey, beq_self_eq_true] at hother
    cases hother

/-- What is kept stands in the order in which it is first met. -/
theorem pairwise_idxOf_firstsBy [DecidableEq α] (key : α → κ) (l : List α) :
    (firstsBy key l).Pairwise fun a b => l.idxOf a < l.idxOf b := by
  induction l with
  | nil => exact .nil
  | cons a l ih =>
    -- what is kept of the others has another key than `a`, so it is not `a`
    have hother : ∀ b ∈ (firstsBy key l).filter fun b => !(key b == key a), a ≠ b := by
      rintro b hb rfl
      have hkey := (List.mem_filter.mp hb).2
      rw [beq_self_eq_true] at hkey
      cases hkey
    have hindex : ∀ b ∈ (firstsBy key l).filter fun b => !(key b == key a),
        (a :: l).idxOf b = l.idxOf b + 1 := by
      intro b hb
      rw [List.idxOf_cons, beq_false_of_ne (hother b hb), cond_false]
    rw [firstsBy, List.pairwise_cons]
    refine ⟨fun b hb => ?_, ?_⟩
    · rw [List.idxOf_cons_self, hindex b hb]
      exact Nat.succ_pos _
    · refine (ih.filter _).imp_of_mem fun hb hc hlt => ?_
      rw [hindex _ hb, hindex _ hc]
      exact Nat.succ_lt_succ hlt

end

theorem firstByName_eq (fields : List FieldDecl) :
    Resolver.firstByName fields = firstsBy (·.name) fields := by
  induction fields with
  | nil => rfl
  | cons f fields ih =>
    rw [Resolver.firstByName, firstsBy, ih]
    rfl

theorem distinctMethods_eq (methods : List MethodDecl) :
    distinctMethods methods = firstsBy (fun m => (m.name, m.signature)) methods := by
  induction methods with
  | nil => rfl
  | cons m methods ih =>
    rw [distinctMethods, firstsBy, ih]
    rfl

end DerivedQuery
