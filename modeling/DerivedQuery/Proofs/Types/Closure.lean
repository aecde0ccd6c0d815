import DerivedQuery.Proofs.Types.Variables
import DerivedQuery.Types.Closure

/-!
# What the walk over supertypes meets

The closure of a type is found by a walk that passes over names it has met. Everything it meets is
a supertype, near or far (`forall_mem_walk`), and it meets the name of every supertype of what it
meets (`covered_of_mem_walk`), also where the hierarchy is cyclic.

The walk looks at names only. Where no declaration has one of its own variables for a supertype,
the names that are met do not depend on the arguments of the type (`erasures_closure`).
-/

namespace DerivedQuery.Types.TypeTable

variable {table : TypeTable}

/-! ## Direct supertypes -/

/-- The supertypes that the declaration of a name gives, as they are declared. -/
def declaredSupertypes (table : TypeTable) (name : String) : List TypeRef :=
  ((table.find? name).map (·.supertypes)).getD []

/-- A type in the declaration of `t`, with the arguments of `t` put in. -/
def seenFrom (table : TypeTable) (t s : TypeRef) : TypeRef :=
  match t with
  | .declared name args => s.substitute name (table.typeParams name) args
  | _ => s

theorem supertypes_declared (table : TypeTable) (name : String) (args : List TypeRef) :
    table.supertypes (.declared name args) =
      (table.declaredSupertypes name).map (table.seenFrom (.declared name args)) := by
  simp only [supertypes, declaredSupertypes]
  cases hfind : table.find? name with
  | none => rfl
  | some d =>
    obtain ⟨-, rfl⟩ := find?_mem hfind
    have hseen : table.seenFrom (.declared d.name args) =
        (·.substitute d.name d.typeParams args) := by
      funext s
      rw [seenFrom, typeParams, hfind]
      rfl
    rw [hseen]
    cases args with
    | nil => simp
    | cons => rfl

/-- Whether no declaration has a variable for a supertype. -/
def ExtendsTypes (table : TypeTable) : Prop :=
  ∀ d ∈ table.decls, ∀ s ∈ d.supertypes, ∀ name owner, s ≠ .var name owner

theorem ExtendsTypes.ne_var (h : table.ExtendsTypes) {name : String} {s : TypeRef}
    (hs : s ∈ table.declaredSupertypes name) (param owner : String) : s ≠ .var param owner := by
  unfold declaredSupertypes at hs
  cases hfind : table.find? name with
  | none =>
    rw [hfind] at hs
    cases hs
  | some d =>
    rw [hfind] at hs
    exact h d (find?_mem hfind).1 s hs param owner

/-- Putting arguments in does not change what type is mentioned. -/
theorem erasure?_seenFrom {s : TypeRef} (hs : ∀ name owner, s ≠ .var name owner) (t : TypeRef) :
    (table.seenFrom t s).erasure? = s.erasure? := by
  unfold seenFrom
  split
  · cases s with
    | primitive | void | array => rfl
    | declared name args =>
      rw [TypeRef.substitute_declared]
      rfl
    | var name owner => exact absurd rfl (hs name owner)
  · rfl

/-! ## The walk -/

section Unfolding

variable {t : TypeRef} {name : String} {met : List String} (rest : List TypeRef)

theorem walk_of_erasure?_eq_none (h : t.erasure? = none) (met : List String) :
    table.walk met (t :: rest) = table.walk met rest := by
  rw [walk]
  split
  · rfl
  next hname => cases h.symm.trans hname

theorem walk_of_mem (h : t.erasure? = some name) (hmet : name ∈ met) :
    table.walk met (t :: rest) = table.walk met rest := by
  rw [walk]
  split
  · rfl
  next other hother =>
    obtain rfl : name = other := Option.some.inj (h.symm.trans hother)
    rw [dif_pos (List.contains_iff_mem.mpr hmet)]

theorem walk_of_not_mem (h : t.erasure? = some name) (hmet : name ∉ met) :
    table.walk met (t :: rest) =
      t :: table.walk (name :: met) (table.supertypes t ++ rest) := by
  rw [walk]
  split
  next hnone => cases h.symm.trans hnone
  next other hother =>
    obtain rfl : name = other := Option.some.inj (h.symm.trans hother)
    rw [dif_neg fun hcontains => hmet (List.contains_iff_mem.mp hcontains)]

end Unfolding

/-- What holds of the pending types and is passed on to supertypes holds of everything met. -/
theorem forall_mem_walk {P : TypeRef → Prop} (hstep : ∀ t, P t → ∀ s ∈ table.supertypes t, P s)
    (met : List String) (pending : List TypeRef) (hpending : ∀ t ∈ pending, P t) :
    ∀ t ∈ table.walk met pending, P t := by
  fun_induction table.walk met pending with
  | case1 => exact fun t ht => by cases ht
  | case2 met type rest _ ih => exact ih (List.forall_mem_cons.mp hpending).2
  | case3 met type rest name _ _ ih => exact ih (List.forall_mem_cons.mp hpending).2
  | case4 met type rest name _ _ ih =>
    obtain ⟨htype, hrest⟩ := List.forall_mem_cons.mp hpending
    refine List.forall_mem_cons.mpr ⟨htype, ih fun t ht => ?_⟩
    rcases List.mem_append.mp ht with hsup | hlater
    · exact hstep type htype t hsup
    · exact hrest t hlater

theorem forall_mem_closure {P : TypeRef → Prop}
    (hstep : ∀ t, P t → ∀ s ∈ table.supertypes t, P s) {t : TypeRef} (ht : P t) :
    ∀ s ∈ table.closure t, P s :=
  forall_mem_walk hstep _ _ (hstep t ht)

/-- Whether the name of a type is among some names or is that of one of some types. A type without
a name is passed over. -/
def Covered (met : List String) (types : List TypeRef) (t : TypeRef) : Prop :=
  ∀ name, t.erasure? = some name → name ∈ met ∨ ∃ s ∈ types, s.erasure? = some name

/-- A name counts as met from the type on that has it. -/
theorem Covered.of_cons {met : List String} {types : List TypeRef} {t u : TypeRef} {name : String}
    (hname : u.erasure? = some name) (h : Covered (name :: met) types t) :
    Covered met (u :: types) t := by
  intro other hother
  rcases h other hother with hmem | ⟨s, hs, hsname⟩
  · rcases List.mem_cons.mp hmem with rfl | hmet
    · exact .inr ⟨u, .head _, hname⟩
    · exact .inl hmet
  · exact .inr ⟨s, .tail _ hs, hsname⟩

/-- The walk meets the names of all pending types, and of all supertypes of what it meets. -/
theorem covered_of_mem_walk (table : TypeTable) (met : List String) (pending : List TypeRef) :
    (∀ t ∈ pending, Covered met (table.walk met pending) t) ∧
      ∀ t ∈ table.walk met pending, ∀ s ∈ table.supertypes t,
        Covered met (table.walk met pending) s := by
  fun_induction table.walk met pending with
  | case1 =>
    constructor
    · intro t ht
      cases ht
    · intro t ht
      cases ht
  | case2 met type rest herasure ih =>
    refine ⟨List.forall_mem_cons.mpr ⟨fun name hname => ?_, ih.1⟩, ih.2⟩
    rw [herasure] at hname
    cases hname
  | case3 met type rest name herasure hmet ih =>
    refine ⟨List.forall_mem_cons.mpr ⟨fun other hother => ?_, ih.1⟩, ih.2⟩
    rw [herasure] at hother
    cases hother
    exact .inl (List.contains_iff_mem.mp hmet)
  | case4 met type rest name herasure hmet ih =>
    obtain ⟨hpending, hsup⟩ := ih
    constructor
    · refine List.forall_mem_cons.mpr ⟨fun other hother => .inr ⟨type, .head _, hother⟩, ?_⟩
      exact fun t ht => (hpending t (List.mem_append_right _ ht)).of_cons herasure
    · refine List.forall_mem_cons.mpr ⟨?_, ?_⟩
      · exact fun s hs => (hpending s (List.mem_append_left _ hs)).of_cons herasure
      · exact fun t ht s hs => (hsup t ht s hs).of_cons herasure

/-- A type that the walk comes to is pending or a supertype of one that it came to before. -/
theorem mem_or_supertype_of_walk {met : List String} {pending before after : List TypeRef}
    {u : TypeRef} (h : table.walk met pending = before ++ u :: after) :
    u ∈ pending ∨ ∃ s ∈ before, u ∈ table.supertypes s := by
  fun_induction table.walk met pending generalizing before with
  | case1 => cases List.append_eq_nil_iff.mp h.symm |>.2
  | case2 met type rest _ ih | case3 met type rest _ _ _ ih =>
    exact (ih h).imp_left (.tail _)
  | case4 met type rest name _ _ ih =>
    cases before with
    | nil =>
      obtain ⟨rfl, -⟩ := List.cons.inj h
      exact .inl (.head _)
    | cons first before =>
      obtain ⟨rfl, hrest⟩ := List.cons.inj h
      rcases ih hrest with hpending | ⟨s, hs, hsup⟩
      · rcases List.mem_append.mp hpending with hsup | hrest
        · exact .inr ⟨_, .head _, hsup⟩
        · exact .inl (.tail _ hrest)
      · exact .inr ⟨s, .tail _ hs, hsup⟩

/-- The walk comes to no name twice, and to none that it has met. -/
theorem pairwise_walk (table : TypeTable) (met : List String) (pending : List TypeRef) :
    (table.walk met pending).Pairwise (fun s u => s.erasure? ≠ u.erasure?) ∧
      ∀ u ∈ table.walk met pending, ∀ name ∈ met, u.erasure? ≠ some name := by
  fun_induction table.walk met pending with
  | case1 => exact ⟨.nil, fun u hu => by cases hu⟩
  | case2 met type rest _ ih | case3 met type rest _ _ _ ih => exact ih
  | case4 met type rest name herasure hmet ih =>
    obtain ⟨hpairwise, hfresh⟩ := ih
    refine ⟨List.pairwise_cons.mpr ⟨fun u hu => ?_, hpairwise⟩, ?_⟩
    · rw [herasure]
      exact (hfresh u hu name (.head _)).symm
    · refine List.forall_mem_cons.mpr ⟨fun other hother => ?_, fun u hu other hother => ?_⟩
      · rw [herasure]
        rintro ⟨⟩
        exact hmet (List.contains_iff_mem.mpr hother)
      · exact hfresh u hu other (.tail _ hother)

/-- A type and its closure have the names of all their supertypes. -/
theorem covered_closure (t : TypeRef) :
    ∀ u ∈ t :: table.closure t, ∀ s ∈ table.supertypes u,
      Covered [] (t :: table.closure t) s := by
  obtain ⟨hpending, hsup⟩ := table.covered_of_mem_walk t.erasure?.toList
    (table.supertypes t)
  have hstart : ∀ s, Covered t.erasure?.toList (table.closure t) s →
      Covered [] (t :: table.closure t) s := by
    intro s hs name hname
    rcases hs name hname with hmem | ⟨u, hu, huname⟩
    · exact .inr ⟨t, .head _, Option.mem_toList.mp hmem⟩
    · exact .inr ⟨u, .tail _ hu, huname⟩
  intro u hu s hs
  rcases List.mem_cons.mp hu with rfl | hu
  · exact hstart s (hpending s hs)
  · exact hstart s (hsup u hu s hs)

/-! ## Names and arguments -/

/-- Types of one name have supertypes of the same names. -/
theorem erasures_supertypes (h : table.ExtendsTypes) {s t : TypeRef}
    (hst : s.erasure? = t.erasure?) :
    (table.supertypes s).map (·.erasure?) = (table.supertypes t).map (·.erasure?) := by
  have hnames : ∀ name args, (table.supertypes (.declared name args)).map (·.erasure?) =
      (table.declaredSupertypes name).map (·.erasure?) := by
    intro name args
    rw [supertypes_declared, List.map_map]
    exact List.map_congr_left fun u hu => erasure?_seenFrom (h.ne_var hu) _
  have hnone : ∀ t : TypeRef, t.erasure? = none → table.supertypes t = [] := by
    intro t ht
    cases t with
    | declared => cases ht
    | primitive | void | array | var => rfl
  cases hs : s.erasure? with
  | none => rw [hnone s hs, hnone t (hst.symm.trans hs)]
  | some name =>
    have hdeclared : ∀ u : TypeRef, u.erasure? = some name → ∃ args, u = .declared name args := by
      intro u hu
      cases u with
      | declared other args => exact ⟨args, by rw [Option.some.inj hu]⟩
      | primitive | void | array | var => cases hu
    obtain ⟨args, rfl⟩ := hdeclared s hs
    obtain ⟨args', rfl⟩ := hdeclared t (hst.symm.trans hs)
    rw [hnames, hnames]

/-- Pending types of the same names lead to types of the same names. -/
theorem erasures_walk (h : table.ExtendsTypes) (met : List String) (pending : List TypeRef)
    {pending' : List TypeRef}
    (hnames : pending.map (·.erasure?) = pending'.map (·.erasure?)) :
    (table.walk met pending).map (·.erasure?) = (table.walk met pending').map (·.erasure?) := by
  fun_induction table.walk met pending generalizing pending' with
  | case1 met =>
    rw [List.map_eq_nil_iff.mp hnames.symm, walk]
  | case2 met type rest herasure ih =>
    obtain ⟨type', rest', rfl, htype, hrest⟩ := List.map_eq_cons_iff.mp hnames.symm
    rw [ih hrest.symm, walk_of_erasure?_eq_none rest' (htype.trans herasure)]
  | case3 met type rest name herasure hmet ih =>
    obtain ⟨type', rest', rfl, htype, hrest⟩ := List.map_eq_cons_iff.mp hnames.symm
    rw [ih hrest.symm,
      walk_of_mem rest' (htype.trans herasure) (List.contains_iff_mem.mp hmet)]
  | case4 met type rest name herasure hmet ih =>
    obtain ⟨type', rest', rfl, htype, hrest⟩ := List.map_eq_cons_iff.mp hnames.symm
    have hmem : name ∉ met := fun hmem => hmet (List.contains_iff_mem.mpr hmem)
    rw [walk_of_not_mem rest' (htype.trans herasure) hmem, List.map_cons, List.map_cons, htype]
    refine congrArg _ (ih ?_)
    rw [List.map_append, List.map_append, hrest, erasures_supertypes h htype.symm]

/-- Types of one name have closures of the same names. -/
theorem erasures_closure (h : table.ExtendsTypes) {s t : TypeRef}
    (hst : s.erasure? = t.erasure?) :
    (table.closure s).map (·.erasure?) = (table.closure t).map (·.erasure?) := by
  unfold closure
  rw [hst]
  exact erasures_walk h _ _ (erasures_supertypes h hst)

end DerivedQuery.Types.TypeTable
