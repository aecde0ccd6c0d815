import DerivedQuery.Proofs.Types.Closure

/-!
# All supertypes of a type, each once

The closure of a type is what a depth-first search through its supertypes lists (`search`): a
supertype is listed where its name is met for the first time, and what is above it is searched
before the supertypes beside it. Every search inside a search is for the supertypes of a type whose
name has just been met, so there are no more of them inside one another than there are declarations,
and the search ends on cyclic hierarchies too (`search_closure`), also where a type is its own
supertype with ever larger arguments.

> `closure_supertypes`: what the closure consists of.
-/

namespace DerivedQuery.Types.TypeTable

variable {table : TypeTable}

/-! ## The search -/

/-- The names that a search has met and the types it has listed. -/
structure Found where
  met : List String
  listed : List TypeRef

/-- The search through some types and what is above each of them, with at most `calls` searches
inside one another. There is no result if these are not enough. -/
def search (table : TypeTable) (calls : Nat) (types : List TypeRef) (found : Found) :
    Option Found :=
  match types with
  | [] => some found
  | t :: rest =>
    match t.erasure? with
    | none => table.search calls rest found
    | some name =>
      if found.met.contains name then table.search calls rest found
      else
        match calls with
        | 0 => none
        | calls + 1 =>
          (table.search calls (table.supertypes t) ⟨name :: found.met, found.listed ++ [t]⟩).bind
            (table.search (calls + 1) rest)
termination_by (calls, types.length)

variable {calls : Nat} {types : List TypeRef} {found found' : Found}

/-- A search lists what the walk comes to next, and leaves it with the names that have been met
meanwhile. -/
theorem walk_of_search (h : table.search calls types found = some found') :
    ∃ new, found'.listed = found.listed ++ new ∧
      ∀ rest, table.walk found.met (types ++ rest) = new ++ table.walk found'.met rest := by
  fun_induction search table calls types found generalizing found' with
  | case1 =>
    cases h
    exact ⟨[], (List.append_nil _).symm, fun rest => rfl⟩
  | case2 calls found t types herasure ih =>
    obtain ⟨new, hlisted, hwalk⟩ := ih h
    refine ⟨new, hlisted, fun rest => ?_⟩
    rw [List.cons_append, walk_of_erasure?_eq_none _ herasure, hwalk]
  | case3 calls found t types name herasure hmet ih =>
    obtain ⟨new, hlisted, hwalk⟩ := ih h
    refine ⟨new, hlisted, fun rest => ?_⟩
    rw [List.cons_append, walk_of_mem _ herasure (List.contains_iff_mem.mp hmet), hwalk]
  | case4 => cases h
  | case5 found t types name herasure hmet calls ihabove ihrest =>
    obtain ⟨middle, habove, hrest⟩ := Option.bind_eq_some_iff.mp h
    obtain ⟨new, hlisted, hwalk⟩ := ihabove habove
    obtain ⟨new', hlisted', hwalk'⟩ := ihrest middle hrest
    have hmem : name ∉ found.met := fun hmem => hmet (List.contains_iff_mem.mpr hmem)
    refine ⟨t :: new ++ new', ?_, fun rest => ?_⟩
    · rw [hlisted', hlisted, List.append_assoc, List.append_assoc]
      rfl
    · -- the supertypes are pending in front of the types beside `t`
      rw [List.cons_append, walk_of_not_mem _ herasure hmem, hwalk, hwalk', List.append_assoc]
      rfl

theorem length_unmet_mono {met met' : List String} (h : met ⊆ met') :
    (table.unmet met').length ≤ (table.unmet met).length := by
  refine length_filter_le_of_imp _ _ _ fun d _ hunmet => ?_
  rw [Bool.not_eq_true'] at hunmet ⊢
  refine Bool.eq_false_iff.mpr fun hmem => ?_
  rw [List.contains_iff_mem.mpr (h (List.contains_iff_mem.mp hmem))] at hunmet
  cases hunmet

/-- A search ends if more searches inside one another are allowed than there are declarations of
names that have not been met. -/
theorem exists_search (hcalls : (table.unmet found.met).length < calls) :
    ∃ found', table.search calls types found = some found' ∧ found.met ⊆ found'.met := by
  fun_induction search table calls types found with
  | case1 calls found => exact ⟨found, rfl, fun _ h => h⟩
  | case2 calls found t types _ ih => exact ih hcalls
  | case3 calls found t types _ _ _ ih => exact ih hcalls
  | case4 => exact absurd hcalls (Nat.not_lt_zero _)
  | case5 found t types name herasure hmet calls ihabove ihrest =>
    have habove : ∃ middle, table.search calls (table.supertypes t)
        ⟨name :: found.met, found.listed ++ [t]⟩ = some middle ∧ name :: found.met ⊆ middle.met := by
      cases hfind : table.find? name with
      | some d =>
        -- one declaration less is left to be met
        have hless := length_unmet_lt hfind (Bool.eq_false_iff.mpr hmet)
        exact ihabove (show (table.unmet (name :: found.met)).length < calls by omega)
      | none =>
        -- nothing is above a name without a declaration
        have hnone : table.supertypes t = [] := by
          refine supertypes_eq_nil fun other hother => ?_
          obtain rfl : name = other := Option.some.inj (herasure.symm.trans hother)
          exact hfind
        rw [hnone, search]
        exact ⟨_, rfl, fun _ h => h⟩
    obtain ⟨middle, hsearch, hsubset⟩ := habove
    have hmet' : found.met ⊆ middle.met := fun _ h => hsubset (.tail _ h)
    obtain ⟨last, hlast, hlater⟩ := ihrest middle
      (Nat.lt_of_le_of_lt (length_unmet_mono hmet') hcalls)
    exact ⟨last, Option.bind_eq_some_iff.mpr ⟨middle, hsearch, hlast⟩,
      fun _ h => hlater (hmet' h)⟩

/-- The search for the supertypes of a type ends, and lists its closure. -/
theorem search_closure (table : TypeTable) (t : TypeRef) :
    ∃ met, table.search (table.size + 1) (table.supertypes t) ⟨t.erasure?.toList, []⟩ =
      some ⟨met, table.closure t⟩ := by
  have hends : ∃ found, table.search (table.size + 1) (table.supertypes t)
      ⟨t.erasure?.toList, []⟩ = some found ∧ t.erasure?.toList ⊆ found.met :=
    exists_search (Nat.lt_succ_of_le (List.length_filter_le _ _))
  obtain ⟨⟨met, listed⟩, hsearch, -⟩ := hends
  obtain ⟨new, hlisted, hwalk⟩ := walk_of_search hsearch
  have hlisted : listed = new := hlisted
  have hwalk := hwalk []
  rw [List.append_nil, walk, List.append_nil] at hwalk
  refine ⟨met, ?_⟩
  rw [hsearch, hlisted, closure, hwalk]

/-! ## What the closure consists of -/

/-- A list of all supertypes of a type, near and far, by their names. -/
structure ListsSupertypes (table : TypeTable) (t : TypeRef) (types : List TypeRef) : Prop where
  declared : ∀ u ∈ types, ∃ name args, u = .declared name args
  distinct : (t :: types).Pairwise fun s u => s.erasure? ≠ u.erasure?
  /-- Every type is a direct supertype of the type itself or of one before it. -/
  sound : ∀ before u after, types = before ++ u :: after → ∃ s ∈ t :: before, u ∈ table.supertypes s
  /-- Every direct supertype has the name of the type itself or of one in the list. -/
  complete : ∀ s ∈ t :: types, ∀ name args, .declared name args ∈ table.supertypes s →
    ∃ u ∈ t :: types, u.erasure? = some name

theorem erasure?_isSome_of_mem_walk (table : TypeTable) (met : List String)
    (pending : List TypeRef) : ∀ u ∈ table.walk met pending, u.erasure?.isSome := by
  fun_induction table.walk met pending with
  | case1 => exact fun u hu => by cases hu
  | case2 _ _ _ _ ih | case3 _ _ _ _ _ _ ih => exact ih
  | case4 met type rest name herasure _ ih =>
    exact List.forall_mem_cons.mpr ⟨Option.isSome_of_eq_some herasure, ih⟩

theorem exists_declared_of_isSome {u : TypeRef} (h : u.erasure?.isSome) :
    ∃ name args, u = .declared name args := by
  cases u with
  | declared name args => exact ⟨name, args, rfl⟩
  | primitive | void | array | var => cases h

theorem listsSupertypes_closure (table : TypeTable) (t : TypeRef) :
    table.ListsSupertypes t (table.closure t) := by
  obtain ⟨hpairwise, hfresh⟩ := table.pairwise_walk t.erasure?.toList (table.supertypes t)
  refine ⟨?_, ?_, ?_, ?_⟩
  · exact fun u hu => exists_declared_of_isSome (table.erasure?_isSome_of_mem_walk _ _ u hu)
  · refine List.pairwise_cons.mpr ⟨fun u hu hname => ?_, hpairwise⟩
    obtain ⟨name, args, rfl⟩ :=
      exists_declared_of_isSome (table.erasure?_isSome_of_mem_walk _ _ u hu)
    exact hfresh _ hu name (by rw [hname]; exact .head _) rfl
  · intro before u after happend
    rcases mem_or_supertype_of_walk happend with hsup | ⟨s, hs, hsup⟩
    · exact ⟨t, .head _, hsup⟩
    · exact ⟨s, .tail _ hs, hsup⟩
  · intro s hs name args hsup
    rcases covered_closure t s hs _ hsup name rfl with hmet | hlisted
    · cases hmet
    · exact hlisted

/-- **The closure of a type is the list of all its supertypes.** The search for them ends, however
the declarations refer to one another, and lists the closure: declared types of different names,
none of them that of the type itself, each a direct supertype of the type or of one before it with
the arguments put in, and with every direct supertype of any of them. -/
theorem closure_supertypes (table : TypeTable) (t : TypeRef) :
    (∃ met, table.search (table.size + 1) (table.supertypes t) ⟨t.erasure?.toList, []⟩ =
      some ⟨met, table.closure t⟩) ∧
    table.ListsSupertypes t (table.closure t) :=
  ⟨table.search_closure t, table.listsSupertypes_closure t⟩

/-- A generic type above itself, with ever larger arguments, is listed once. -/
example : (TypeTable.empty.insertAll [
      { name := "Node", typeParams := ["T"]
        superclass := some (.declared "Node" [.declared "List" [.simple "T"]]) },
      { name := "Leaf", superclass := some (.declared "Node" [.simple "Page"])
        interfaces := [.simple "Leaf", .simple "Unknown"] }]).closure (.simple "Leaf") =
    [.declared "Node" [.simple "Page"], .simple "Unknown"] := by
  cbv

end DerivedQuery.Types.TypeTable
