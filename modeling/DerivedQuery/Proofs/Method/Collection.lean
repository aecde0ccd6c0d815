import DerivedQuery.Proofs.Method.Hierarchy
import DerivedQuery.Proofs.Types.Supertypes
import Mathlib.Data.List.Nodup

/-!
# The order in which candidates are listed

The hierarchy of a mapper is what a recursive search lists (`collect_hierarchy`). The search looks a
name up where it meets it for the first time, searches everything above it, and lists its
declaration then. Between these two moments the name is *pending*. A search called for a name that
is pending passes over it, so a declaration may be listed before one above it, but only on a cycle:
a name that is pending leads up to all names the search is called for meanwhile.

> `collect_completes`: a search that is not called for anything below a pending name lists every
> declaration behind those above it, and leaves nothing else pending.

> `listsCandidates`: what the list of candidates consists of, and in which order.
-/

namespace DerivedQuery

open DerivedQuery.Types

namespace Types.TypeTable

variable {table : TypeTable} {mapper : String}

/-! ## The search -/

/-- The names that a search has met and the declarations it has listed. -/
structure Collected where
  met : List String
  listed : List TypeDecl

/-- The names of the supertypes of a declaration. -/
def namesAbove (d : TypeDecl) : List String := d.supertypes.filterMap (·.erasure?)

theorem mem_namesAbove {d : TypeDecl} {next : String} :
    next ∈ namesAbove d ↔ ∃ args, .declared next args ∈ d.supertypes := by
  rw [namesAbove, List.mem_filterMap]
  constructor
  · rintro ⟨t, ht, herasure⟩
    cases t with
    | declared name args =>
      cases herasure
      exact ⟨args, ht⟩
    | primitive | void | array | var => cases herasure
  · rintro ⟨args, ht⟩
    exact ⟨_, ht, rfl⟩

/-- The search through some names and what is above each of them, with at most `calls` searches
inside one another. There is no result if these are not enough. -/
def collect (table : TypeTable) (calls : Nat) (names : List String) (found : Collected) :
    Option Collected :=
  match names with
  | [] => some found
  | name :: rest =>
    if found.met.contains name then table.collect calls rest found
    else
      match calls with
      | 0 => none
      | calls + 1 =>
        match table.find? name with
        | none => table.collect (calls + 1) rest ⟨name :: found.met, found.listed⟩
        | some d =>
          (table.collect calls (namesAbove d) ⟨name :: found.met, found.listed⟩).bind
            fun above => table.collect (calls + 1) rest ⟨above.met, above.listed ++ [d]⟩
termination_by (calls, names.length)

variable {calls : Nat} {names : List String} {found found' : Collected}

section Unfolding

variable {name : String} {met : List String} (rest : List Visit)

theorem visitAll_enter_of_mem (h : name ∈ met) :
    table.visitAll met (.enter name :: rest) = table.visitAll met rest := by
  rw [visitAll, dif_pos (List.contains_iff_mem.mpr h)]

theorem visitAll_enter_of_none (h : name ∉ met) (hfind : table.find? name = none) :
    table.visitAll met (.enter name :: rest) = table.visitAll (name :: met) rest := by
  rw [visitAll, dif_neg fun hcontains => h (List.contains_iff_mem.mp hcontains)]
  split
  · rfl
  next d hd => cases hfind.symm.trans hd

theorem visitAll_enter_of_some {d : TypeDecl} (h : name ∉ met) (hfind : table.find? name = some d) :
    table.visitAll met (.enter name :: rest) =
      table.visitAll (name :: met) (enterSupertypes d ++ .leave d :: rest) := by
  rw [visitAll, dif_neg fun hcontains => h (List.contains_iff_mem.mp hcontains)]
  split
  next hd => cases hfind.symm.trans hd
  next other hd =>
    obtain rfl : d = other := Option.some.inj (hfind.symm.trans hd)
    rfl

end Unfolding

/-- A search lists what the walk comes to next, and leaves it with the names that have been met
meanwhile. -/
theorem visitAll_of_collect (h : table.collect calls names found = some found') :
    ∃ new, found'.listed = found.listed ++ new ∧
      ∀ rest, table.visitAll found.met (names.map .enter ++ rest) =
        new ++ table.visitAll found'.met rest := by
  fun_induction collect table calls names found generalizing found' with
  | case1 =>
    cases h
    exact ⟨[], (List.append_nil _).symm, fun rest => rfl⟩
  | case2 calls found name names hmet ih =>
    obtain ⟨new, hlisted, hvisit⟩ := ih h
    refine ⟨new, hlisted, fun rest => ?_⟩
    rw [List.map_cons, List.cons_append,
      visitAll_enter_of_mem _ (List.contains_iff_mem.mp hmet), hvisit]
  | case3 => cases h
  | case4 found name names hmet calls hfind ih =>
    have hmem : name ∉ found.met := fun hmem => hmet (List.contains_iff_mem.mpr hmem)
    obtain ⟨new, hlisted, hvisit⟩ := ih h
    refine ⟨new, hlisted, fun rest => ?_⟩
    rw [List.map_cons, List.cons_append, visitAll_enter_of_none _ hmem hfind, hvisit]
  | case5 found name names hmet calls d hfind ihabove ihrest =>
    have hmem : name ∉ found.met := fun hmem => hmet (List.contains_iff_mem.mpr hmem)
    obtain ⟨above, habove, hrest⟩ := Option.bind_eq_some_iff.mp h
    obtain ⟨new, hlisted, hvisit⟩ := ihabove habove
    obtain ⟨new', hlisted', hvisit'⟩ := ihrest above hrest
    refine ⟨new ++ d :: new', ?_, fun rest => ?_⟩
    · rw [hlisted', hlisted, List.append_assoc, List.append_assoc]
      rfl
    · -- the declaration is left when everything above it has been visited
      have hleave : table.visitAll above.met (.leave d :: (names.map .enter ++ rest)) =
          d :: table.visitAll above.met (names.map .enter ++ rest) := by
        rw [visitAll]
      rw [List.map_cons, List.cons_append, visitAll_enter_of_some _ hmem hfind, enterSupertypes,
        ← namesAbove, hvisit, hleave, hvisit', List.append_assoc]
      rfl

/-- A search ends if more searches inside one another are allowed than there are declarations of
names that have not been met. -/
theorem exists_collect (hcalls : (table.unmet found.met).length < calls) :
    ∃ found', table.collect calls names found = some found' ∧ found.met ⊆ found'.met := by
  fun_induction collect table calls names found with
  | case1 calls found => exact ⟨found, rfl, fun _ h => h⟩
  | case2 calls found name names _ ih => exact ih hcalls
  | case3 => exact absurd hcalls (Nat.not_lt_zero _)
  | case4 found name names hmet calls hfind ih =>
    obtain ⟨last, hlast, hlater⟩ :=
      ih (Nat.lt_of_le_of_lt (length_unmet_mono (List.subset_cons_self _ _)) hcalls)
    exact ⟨last, hlast, fun _ h => hlater (.tail _ h)⟩
  | case5 found name names hmet calls d hfind ihabove ihrest =>
    -- one declaration less is left to be met
    have hless := length_unmet_lt hfind (Bool.eq_false_iff.mpr hmet)
    obtain ⟨above, habove, hsubset⟩ :=
      ihabove (show (table.unmet (name :: found.met)).length < calls by omega)
    have hmet' : found.met ⊆ above.met := fun _ h => hsubset (.tail _ h)
    obtain ⟨last, hlast, hlater⟩ := ihrest above
      (Nat.lt_of_le_of_lt (length_unmet_mono hmet') hcalls)
    exact ⟨last, Option.bind_eq_some_iff.mpr ⟨above, habove, hlast⟩, fun _ h => hlater (hmet' h)⟩

/-- The search for a mapper ends, and lists the hierarchy of the mapper. -/
theorem collect_hierarchy (table : TypeTable) (mapper : String) :
    ∃ met, table.collect (table.size + 1) [mapper] ⟨[], []⟩ =
      some ⟨met, table.hierarchy mapper⟩ := by
  have hends : ∃ found, table.collect (table.size + 1) [mapper] ⟨[], []⟩ = some found ∧
      [] ⊆ found.met :=
    exists_collect (Nat.lt_succ_of_le (List.length_filter_le _ _))
  obtain ⟨⟨met, listed⟩, hcollect, -⟩ := hends
  obtain ⟨new, hlisted, hvisit⟩ := visitAll_of_collect hcollect
  have hlisted : listed = new := hlisted
  have hvisit : table.hierarchy mapper = new ++ table.visitAll met [] := hvisit []
  rw [visitAll, List.append_nil] at hvisit
  exact ⟨met, by rw [hcollect, hlisted, hvisit]⟩

/-! ## Every declaration once -/

/-- A search lists declarations of different names, none of which had been met. -/
theorem nodup_of_collect (h : table.collect calls names found = some found') :
    found.met ⊆ found'.met ∧ ∃ new, found'.listed = found.listed ++ new ∧
      (new.map (·.name)).Nodup ∧ ∀ d ∈ new, d.name ∉ found.met ∧ d.name ∈ found'.met := by
  fun_induction collect table calls names found generalizing found' with
  | case1 =>
    cases h
    exact ⟨fun _ h => h, [], (List.append_nil _).symm, .nil, List.forall_mem_nil _⟩
  | case2 calls found name names hmet ih => exact ih h
  | case3 => cases h
  | case4 found name names hmet calls hfind ih =>
    obtain ⟨hsubset, new, hlisted, hnodup, hnew⟩ := ih h
    refine ⟨fun _ h => hsubset (.tail _ h), new, hlisted, hnodup, fun d hd => ?_⟩
    exact (hnew d hd).imp_left fun hfresh hmem => hfresh (.tail _ hmem)
  | case5 found name names hmet calls d hfind ihabove ihrest =>
    obtain ⟨-, rfl⟩ := find?_mem hfind
    have hmem : d.name ∉ found.met := fun hmem => hmet (List.contains_iff_mem.mpr hmem)
    obtain ⟨above, habove, hrest⟩ := Option.bind_eq_some_iff.mp h
    obtain ⟨hsubset, new, hlisted, hnodup, hnew⟩ := ihabove habove
    obtain ⟨hsubset', new', hlisted', hnodup', hnew'⟩ := ihrest above hrest
    have hname : d.name ∈ above.met := hsubset (.head _)
    refine ⟨fun _ h => hsubset' (hsubset (.tail _ h)), new ++ d :: new', ?_, ?_, ?_⟩
    · rw [hlisted', hlisted, List.append_assoc, List.append_assoc]
      rfl
    · -- what is above has been met behind the name, and what comes later behind both
      rw [List.map_append, List.map_cons, List.nodup_append, List.nodup_cons]
      refine ⟨hnodup, ⟨fun hd => ?_, hnodup'⟩, fun a ha b hb => ?_⟩
      · obtain ⟨e, he, hename⟩ := List.mem_map.mp hd
        exact (hnew' e he).1 (hename ▸ hname)
      · rintro rfl
        obtain ⟨e, he, rfl⟩ := List.mem_map.mp ha
        rcases List.mem_cons.mp hb with heq | hb
        · exact (hnew e he).1 (heq ▸ .head _)
        · obtain ⟨e', he', hname'⟩ := List.mem_map.mp hb
          exact (hnew' e' he').1 (hname' ▸ (hnew e he).2)
    · intro e he
      rcases List.mem_append.mp he with he | he
      · exact ⟨fun hmem => (hnew e he).1 (.tail _ hmem), hsubset' (hnew e he).2⟩
      · rcases List.mem_cons.mp he with rfl | he
        · exact ⟨hmem, hsubset' hname⟩
        · exact ⟨fun hmem => (hnew' e he).1 (hsubset (.tail _ hmem)), (hnew' e he).2⟩

/-- The hierarchy of a mapper has no two declarations of one name. -/
theorem nodup_hierarchy (table : TypeTable) (mapper : String) :
    ((table.hierarchy mapper).map (·.name)).Nodup := by
  obtain ⟨met, hcollect⟩ := table.collect_hierarchy mapper
  obtain ⟨-, new, hlisted, hnodup, -⟩ := nodup_of_collect hcollect
  have hlisted : table.hierarchy mapper = new := hlisted
  rwa [hlisted]

/-! ## Ancestors first -/

/-- Whether everything directly above a declaration in the list stands before it. -/
def AncestorsFirst (table : TypeTable) (listed : List TypeDecl) : Prop :=
  ∀ before d after, listed = before ++ d :: after → ∀ next ∈ namesAbove d, ∀ e,
    table.find? next = some e → e ∈ before

theorem AncestorsFirst.concat {listed : List TypeDecl} {d : TypeDecl}
    (h : table.AncestorsFirst listed)
    (hd : ∀ next ∈ namesAbove d, ∀ e, table.find? next = some e → e ∈ listed) :
    table.AncestorsFirst (listed ++ [d]) := by
  intro before d' after happend next hnext e he
  rcases List.eq_nil_or_concat' after with rfl | ⟨after, last, rfl⟩
  · obtain ⟨rfl, hlast⟩ := List.append_inj' happend rfl
    cases hlast
    exact hd next hnext e he
  · rw [← List.cons_append, ← List.append_assoc] at happend
    exact h before d' after (List.append_inj' happend rfl).1 next hnext e he

/-- Whether a declared name has been met and its declaration is not listed yet. -/
def Pending (table : TypeTable) (found : Collected) (name : String) : Prop :=
  name ∈ found.met ∧ ∃ d, table.find? name = some d ∧ d ∉ found.listed

/-- Whether no way leads from a name back to it, for all names that a way leads to from `start`. -/
def AcyclicAbove (table : TypeTable) (start : String) : Prop :=
  ∀ name way, table.Ascends start way name → ∀ cycle, table.Ascends name cycle name → cycle = []

/-- What a search does for the names it is called for. -/
structure Completes (table : TypeTable) (names : List String) (found found' : Collected) :
    Prop where
  listed : ∀ name ∈ names, ∀ d, table.find? name = some d → d ∈ found'.listed
  kept : found.listed ⊆ found'.listed
  pending : ∀ name, table.Pending found' name → table.Pending found name
  ordered : table.AncestorsFirst found'.listed

theorem mem_declaredSupertypes {name : String} {d : TypeDecl} {t : TypeRef}
    (hfind : table.find? name = some d) : t ∈ table.declaredSupertypes name ↔ t ∈ d.supertypes := by
  rw [declaredSupertypes, hfind]
  rfl

/-- A search from which no way leads up to a cycle or to a pending name lists everything behind what
is above it, and leaves nothing pending that was not pending before. -/
theorem collect_completes (h : table.collect calls names found = some found')
    (hacyclic : ∀ start ∈ names, table.AcyclicAbove start)
    (hpending : ∀ start ∈ names, ∀ way name, table.Ascends start way name →
      ¬ table.Pending found name)
    (hordered : table.AncestorsFirst found.listed) : table.Completes names found found' := by
  fun_induction collect table calls names found generalizing found' with
  | case1 =>
    cases h
    exact ⟨List.forall_mem_nil _, fun _ h => h, fun _ h => h, hordered⟩
  | case2 calls found name names hmet ih =>
    have hrest := ih h (List.forall_mem_cons.mp hacyclic).2 (List.forall_mem_cons.mp hpending).2
      hordered
    refine ⟨List.forall_mem_cons.mpr ⟨fun d hd => ?_, hrest.listed⟩, hrest.kept, hrest.pending,
      hrest.ordered⟩
    -- the name has been met and is not pending
    by_contra hlisted
    refine hpending name (.head _) [] name (.here name) ⟨List.contains_iff_mem.mp hmet, d, hd, ?_⟩
    exact fun hmem => hlisted (hrest.kept hmem)
  | case3 => cases h
  | case4 found name names hmet calls hfind ih =>
    -- a name without a declaration is never pending
    have hback : ∀ other, table.Pending ⟨name :: found.met, found.listed⟩ other →
        table.Pending found other := by
      rintro other ⟨hmem, d, hd, hlisted⟩
      rcases List.mem_cons.mp hmem with rfl | hmem
      · cases hfind.symm.trans hd
      · exact ⟨hmem, d, hd, hlisted⟩
    have hrest := ih h (List.forall_mem_cons.mp hacyclic).2
      (fun start hstart way other hway hother =>
        hpending start (.tail _ hstart) way other hway (hback other hother)) hordered
    refine ⟨List.forall_mem_cons.mpr ⟨fun d hd => ?_, hrest.listed⟩, hrest.kept,
      fun other hother => hback other (hrest.pending other hother), hrest.ordered⟩
    cases hfind.symm.trans hd
  | case5 found name names hmet calls d hfind ihabove ihrest =>
    obtain ⟨hacyclicName, hacyclicRest⟩ := List.forall_mem_cons.mp hacyclic
    obtain ⟨hpendingName, hpendingRest⟩ := List.forall_mem_cons.mp hpending
    obtain ⟨above, habove, hrest⟩ := Option.bind_eq_some_iff.mp h
    -- while what is above the name is searched, the name is pending, and no way leads back to it
    have hstep : ∀ next ∈ namesAbove d, ∃ args,
        .declared next args ∈ table.declaredSupertypes name := by
      intro next hnext
      obtain ⟨args, ht⟩ := mem_namesAbove.mp hnext
      exact ⟨args, (mem_declaredSupertypes hfind).mpr ht⟩
    have hcompletes : table.Completes (namesAbove d) ⟨name :: found.met, found.listed⟩ above := by
      refine ihabove habove ?_ ?_ hordered
      · intro next hnext other way hway
        obtain ⟨args, declares⟩ := hstep next hnext
        exact hacyclicName other _ (.step declares hway)
      · rintro next hnext way other hway ⟨hmem, hother⟩
        obtain ⟨args, declares⟩ := hstep next hnext
        rcases List.mem_cons.mp hmem with rfl | hmem
        · cases hacyclicName other [] (.here other) _ (.step declares hway)
        · exact hpendingName _ other (.step declares hway) ⟨hmem, hother⟩
    -- afterwards the name is listed, so nothing is pending that was not before
    have hback : ∀ other, table.Pending ⟨above.met, above.listed ++ [d]⟩ other →
        table.Pending found other := by
      rintro other ⟨hmem, e, he, hlisted⟩
      rw [List.mem_append, List.mem_singleton, not_or] at hlisted
      obtain ⟨hmem', e', he', hlisted'⟩ := hcompletes.pending other ⟨hmem, e, he, hlisted.1⟩
      rcases List.mem_cons.mp hmem' with rfl | hmem'
      · exact absurd (Option.some.inj (he.symm.trans hfind)) hlisted.2
      · exact ⟨hmem', e', he', hlisted'⟩
    have hlater := ihrest above hrest hacyclicRest
      (fun start hstart way other hway hother =>
        hpendingRest start hstart way other hway (hback other hother))
      (hcompletes.ordered.concat hcompletes.listed)
    refine ⟨List.forall_mem_cons.mpr ⟨fun e he => ?_, hlater.listed⟩, fun e he => ?_,
      fun other hother => hback other (hlater.pending other hother), hlater.ordered⟩
    · obtain rfl : d = e := Option.some.inj (hfind.symm.trans he)
      exact hlater.kept (List.mem_append_right _ (.head _))
    · exact hlater.kept (List.mem_append_left _ (hcompletes.kept he))

theorem ancestorsFirst_hierarchy (h : table.AcyclicAbove mapper) :
    table.AncestorsFirst (table.hierarchy mapper) := by
  obtain ⟨met, hcollect⟩ := table.collect_hierarchy mapper
  refine (collect_completes hcollect (List.forall_mem_singleton.mpr h) ?_ ?_).ordered
  · rintro - - - name - ⟨hmem, -⟩
    cases hmem
  · intro before d after happend
    cases (List.append_eq_nil_iff.mp happend.symm).2

/-- Whether the first name is that of a proper supertype of the type of the second name. -/
def IsProperSupertype (table : TypeTable) (above name : String) : Prop :=
  ∃ way, way ≠ [] ∧ table.Ascends name way above

/-- What is above a declaration at any distance stands before it, too. -/
theorem AncestorsFirst.mem_before {listed before after : List TypeDecl} {d e : TypeDecl}
    (h : table.AncestorsFirst listed) (hdeclared : ∀ d ∈ listed, table.find? d.name = some d)
    (happend : listed = before ++ d :: after) (habove : table.IsProperSupertype e.name d.name)
    (he : table.find? e.name = some e) : e ∈ before := by
  obtain ⟨way, hne, hway⟩ := habove
  generalize htarget : e.name = target at hway he
  generalize hname : d.name = name at hway
  induction hway generalizing d before after with
  | here => exact absurd rfl hne
  | @step name next target args links declares hrest ih =>
    have hd : table.find? name = some d := hname ▸ hdeclared d (by simp [happend])
    have hnext : next ∈ namesAbove d :=
      mem_namesAbove.mpr ⟨args, (mem_declaredSupertypes hd).mp declares⟩
    have hdirect := h before d after happend next hnext
    cases links with
    | nil =>
      cases hrest
      exact hdirect e he
    | cons link links =>
      -- the way goes on, so there is a declaration of the next name, and it stands before `d`
      obtain ⟨n, hn⟩ : ∃ n, table.find? next = some n := by
        cases hfind : table.find? next with
        | some n => exact ⟨n, rfl⟩
        | none =>
          cases hrest with
          | step declares' =>
            rw [declaredSupertypes, hfind] at declares'
            cases declares'
      obtain ⟨earlier, later, rfl⟩ := List.append_of_mem (hdirect n hn)
      have hsplit : listed = earlier ++ n :: (later ++ d :: after) := by
        rw [happend, List.append_assoc]
        rfl
      exact List.mem_append_left _
        (ih hsplit (List.cons_ne_nil _ _) htarget he (find?_mem hn).2)

/-- If no way up leads to a cycle, no declaration stands before one above it. -/
theorem pairwise_hierarchy (h : table.AcyclicAbove mapper) :
    (table.hierarchy mapper).Pairwise fun d e => ¬ table.IsProperSupertype e.name d.name := by
  have hdeclared : ∀ d ∈ table.hierarchy mapper, table.find? d.name = some d :=
    fun d hd => (mem_hierarchy.mp hd).1
  have hnodup : (table.hierarchy mapper).Nodup := .of_map _ (nodup_hierarchy table mapper)
  rw [List.pairwise_iff_forall_sublist]
  intro d e hsublist habove
  obtain ⟨first, second, happend, hd, he⟩ := List.cons_sublist_iff.mp hsublist
  obtain ⟨before, middle, rfl⟩ := List.append_of_mem hd
  have he := List.singleton_sublist.mp he
  rw [List.append_assoc, List.cons_append] at happend
  have hbefore := (ancestorsFirst_hierarchy h).mem_before hdeclared happend habove
    (hdeclared e (hsublist.subset (.tail _ (.head _))))
  rw [happend] at hnodup
  exact (List.nodup_append.mp hnodup).2.2 e hbefore e (.tail _ (List.mem_append_right _ he)) rfl

end Types.TypeTable

/-! ## The list of candidates -/

section Candidates

variable {table : TypeTable} {mapper : String} {d : TypeDecl} {c : Candidate}

/-- A declaration contributes no two methods with the same name and parameter types. -/
theorem nodup_candidatesOf (d : TypeDecl) :
    ((candidatesOf d).map fun c => (c.declaringType, c.method.name, c.method.signature)).Nodup := by
  unfold candidatesOf
  split
  · exact .nil
  · rw [distinctMethods_eq, List.map_map]
    refine .of_map Prod.snd ?_
    rw [List.map_map]
    exact (nodup_firstsBy _ d.methods).sublist (List.filter_sublist.map _)

/-- The methods that a declaration contributes stand in the order of the declaration. -/
theorem pairwise_candidatesOf (d : TypeDecl) : (candidatesOf d).Pairwise fun c c' =>
    d.methods.idxOf c.method < d.methods.idxOf c'.method := by
  unfold candidatesOf
  split
  · exact .nil
  · rw [distinctMethods_eq, List.pairwise_map]
    exact (pairwise_idxOf_firstsBy _ d.methods).filter _

/-- A list of all candidates of a mapper, in the order in which a run comes to them. -/
structure ListsCandidates (table : TypeTable) (mapper : String) (cs : List Candidate) : Prop where
  mem : ∀ c, c ∈ cs ↔ ∃ d, table.Reaches mapper d ∧ c.declaringType = d.name ∧ OpenIn d c.method
  distinct : (cs.map fun c => (c.declaringType, c.method.name, c.method.signature)).Nodup
  /-- The candidates of one type stand together, as its declaration has them. -/
  together : ∀ d, table.Reaches mapper d → ∃ before own after, cs = before ++ own ++ after ∧
    (∀ c ∈ before ++ after, c.declaringType ≠ d.name) ∧ (∀ c ∈ own, c.declaringType = d.name) ∧
    own.Pairwise fun c c' => d.methods.idxOf c.method < d.methods.idxOf c'.method
  /-- No candidate stands before one of a proper supertype of its type. -/
  ancestorsFirst : table.AcyclicAbove mapper →
    cs.Pairwise fun c c' => ¬ table.IsProperSupertype c'.declaringType c.declaringType

theorem candidates_distinct (table : TypeTable) (mapper : String) :
    ((candidates table mapper).map
      fun c => (c.declaringType, c.method.name, c.method.signature)).Nodup := by
  rw [candidates, List.map_flatMap, List.nodup_flatMap]
  refine ⟨fun d _ => nodup_candidatesOf d, ?_⟩
  refine (List.pairwise_map.mp (table.nodup_hierarchy mapper)).imp fun hne => ?_
  -- the candidates of two declarations differ in the name of the type
  intro key hkey hkey'
  obtain ⟨c, hc, rfl⟩ := List.mem_map.mp hkey
  obtain ⟨c', hc', heq⟩ := List.mem_map.mp hkey'
  refine hne ?_
  rw [← (mem_candidatesOf.mp hc).1, ← (mem_candidatesOf.mp hc').1, (Prod.mk.inj heq).1]

theorem candidates_together (h : table.Reaches mapper d) :
    ∃ before own after, candidates table mapper = before ++ own ++ after ∧
      (∀ c ∈ before ++ after, c.declaringType ≠ d.name) ∧ (∀ c ∈ own, c.declaringType = d.name) ∧
      own.Pairwise fun c c' => d.methods.idxOf c.method < d.methods.idxOf c'.method := by
  obtain ⟨before, after, happend⟩ := List.append_of_mem (TypeTable.mem_hierarchy.mpr h)
  have hnodup := table.nodup_hierarchy mapper
  rw [happend, List.map_append, List.map_cons, List.nodup_middle, List.nodup_cons,
    ← List.map_append] at hnodup
  refine ⟨before.flatMap candidatesOf, candidatesOf d, after.flatMap candidatesOf, ?_, ?_,
    fun c hc => (mem_candidatesOf.mp hc).1, pairwise_candidatesOf d⟩
  · rw [candidates, happend, List.flatMap_append, List.flatMap_cons, List.append_assoc]
  · intro c hc hname
    rw [← List.flatMap_append] at hc
    obtain ⟨e, he, hce⟩ := List.mem_flatMap.mp hc
    refine hnodup.1 (List.mem_map.mpr ⟨e, he, ?_⟩)
    rw [← hname, (mem_candidatesOf.mp hce).1]

theorem candidates_ancestorsFirst (h : table.AcyclicAbove mapper) :
    (candidates table mapper).Pairwise
      fun c c' => ¬ table.IsProperSupertype c'.declaringType c.declaringType := by
  rw [candidates, List.pairwise_flatMap]
  constructor
  · intro d hd
    obtain ⟨-, way, hway⟩ := TypeTable.mem_hierarchy.mp hd
    refine List.pairwise_of_forall_mem_list ?_
    rintro c hc c' hc' ⟨cycle, hne, hcycle⟩
    rw [(mem_candidatesOf.mp hc).1, (mem_candidatesOf.mp hc').1] at hcycle
    exact hne (h d.name way hway cycle hcycle)
  · refine (TypeTable.pairwise_hierarchy h).imp fun habove c hc c' hc' => ?_
    rwa [(mem_candidatesOf.mp hc).1, (mem_candidatesOf.mp hc').1]

/-- **The candidates of a mapper.** The search for the declarations above a mapper ends, however
they refer to one another. The candidates are the open methods of these declarations, each once:
those of one type together and in the order of its declaration, and, unless the types above the
mapper are above themselves, behind those of every proper supertype. -/
theorem listsCandidates (table : TypeTable) (mapper : String) :
    (∃ found, table.collect (table.size + 1) [mapper] ⟨[], []⟩ = some found ∧
      candidates table mapper = found.listed.flatMap candidatesOf) ∧
    ListsCandidates table mapper (candidates table mapper) := by
  obtain ⟨met, hcollect⟩ := table.collect_hierarchy mapper
  exact ⟨⟨_, hcollect, rfl⟩,
    { mem := fun _ => mem_candidates
      distinct := candidates_distinct table mapper
      together := fun _ => candidates_together
      ancestorsFirst := candidates_ancestorsFirst }⟩

end Candidates

/-! ## A diamond -/

/-- No way up leads to a cycle if every declaration has a higher rank than those above it. -/
theorem Types.TypeTable.acyclicAbove_of_rank {table : TypeTable} (rank : String → Nat)
    (h : ∀ d ∈ table.decls, ∀ next ∈ namesAbove d, rank next < rank d.name) (mapper : String) :
    table.AcyclicAbove mapper := by
  have hstep : ∀ name next args, .declared next args ∈ table.declaredSupertypes name →
      rank next < rank name := by
    intro name next args declares
    cases hfind : table.find? name with
    | none =>
      rw [declaredSupertypes, hfind] at declares
      cases declares
    | some d =>
      obtain ⟨hmem, rfl⟩ := find?_mem hfind
      exact h d hmem next
        (mem_namesAbove.mpr ⟨args, (mem_declaredSupertypes hfind).mp declares⟩)
  have hway : ∀ name way target, table.Ascends name way target → rank target ≤ rank name := by
    intro name way target hway
    induction hway with
    | here => exact Nat.le_refl _
    | step declares _ ih => exact Nat.le_trans ih (Nat.le_of_lt (hstep _ _ _ declares))
  intro name _ _ cycle hcycle
  cases hcycle with
  | here => rfl
  | step declares further =>
    exact absurd (hstep _ _ _ declares) (Nat.not_lt.mpr (hway _ _ _ further))

/-- A mapper with two ways up to the same type. One of its methods is a repetition, and one type in
between redeclares what stands above. -/
def diamond : TypeTable := TypeTable.empty.insertAll [
  { name := "NoteMapper", kind := .interfaceType
    interfaces := [.simple "Reader", .declared "Writer" [.simple "Note"]]
    methods := [{ name := "countAll" }, { name := "findAll" }, { name := "countAll" }] },
  { name := "Reader", kind := .interfaceType, interfaces := [.simple "Store"]
    methods := [{ name := "find" }] },
  { name := "Writer", kind := .interfaceType, typeParams := ["T"], interfaces := [.simple "Store"]
    methods := [{ name := "insert", params := [{ name := "note", type := .simple "T" }] },
      { name := "count" }] },
  { name := "Store", kind := .interfaceType
    methods := [{ name := "count" }, { name := "clear", isDefault := true }] }]

/-- No candidate of the diamond stands before one above it. -/
theorem listsCandidates_diamond :
    candidates diamond "NoteMapper" = [⟨"Store", { name := "count" }⟩,
      ⟨"Reader", { name := "find" }⟩,
      ⟨"Writer", { name := "insert", params := [{ name := "note", type := .var "T" "Writer" }] }⟩,
      ⟨"Writer", { name := "count" }⟩, ⟨"NoteMapper", { name := "countAll" }⟩,
      ⟨"NoteMapper", { name := "findAll" }⟩] ∧
    diamond.AcyclicAbove "NoteMapper" ∧
    (candidates diamond "NoteMapper").Pairwise
      fun c c' => ¬ diamond.IsProperSupertype c'.declaringType c.declaringType := by
  have hacyclic : diamond.AcyclicAbove "NoteMapper" := by
    refine TypeTable.acyclicAbove_of_rank
      (fun name => if name = "NoteMapper" then 2 else if name = "Store" then 0 else 1) ?_ _
    decide
  have hhierarchy : diamond.hierarchy "NoteMapper" =
      ["Store", "Reader", "Writer", "NoteMapper"].filterMap diamond.find? := by
    cbv
  refine ⟨?_, hacyclic, (listsCandidates diamond "NoteMapper").2.ancestorsFirst hacyclic⟩
  rw [candidates, hhierarchy]
  decide +kernel

/-- Two types above one another are listed, each once, though neither can be listed first. -/
example : ((TypeTable.empty.insertAll [{ name := "Left", interfaces := [.simple "Right"] },
      { name := "Right", interfaces := [.simple "Left"] }]).hierarchy "Left").map (·.name) =
    ["Right", "Left"] := by
  cbv

end DerivedQuery
