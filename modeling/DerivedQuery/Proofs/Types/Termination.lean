import DerivedQuery.Proofs.Except
import DerivedQuery.Proofs.Types.Inherited
import DerivedQuery.Proofs.Types.Supertypes
import Mathlib

/-!
# Resolving ends, and gives up on nothing that has a descriptor

Resolving goes from a type to an element of it, which adds to the depth, or from a variable to the
argument supplied for it, which meets the variable. Both can happen only so often, and `attempt`,
which resolves with a bounded number of such steps, gets to the end (`attempt_guarded`).

`attempt` can also be made without regard to the variables that have been met. The types that such
an attempt goes through are determined by the first one (`LeadsTo.unique`), so an attempt that comes
to a variable for a second time would go on like that forever. Where it ends in a descriptor, no
variable is met twice, and resolving ends in the same descriptor (`resolveAt_of_leadsTo`).

> `resolve_ends`: resolving ends, within the depth, and fails on a variable that resolves back to
> itself only where nothing else would have helped.
-/

namespace DerivedQuery.Types

/-- How many iterables are inside one another, the type itself included. -/
def Descriptor.layers : Descriptor → Nat
  | iterable _ element => element.layers + 1
  | _ => 0

/-- What is next when a type is to be resolved. -/
inductive Move
  /-- The type resolves without another one. -/
  | stop (result : Except ResolveError Descriptor)
  /-- The type is an iterable of a name, or an array, and its element is next. -/
  | unwrap (name : String) (element : TypeRef)
  /-- The type is a variable, and the argument supplied for it is next. -/
  | replace (name declaring : String)

namespace Resolver

/-- What is next when a type is to be resolved, the depth permitting. -/
def move (r : Resolver) : TypeRef → Move
  | .primitive name => .stop (.ok (.scalar name))
  | .void => .stop (.ok .void)
  | .array element => .unwrap (TypeRef.array element).print element
  | .declared name args =>
    if r.isIterable (.declared name args) then
      match args with
      | [] => .stop (.error (.rawIterable name))
      | arg :: _ => .unwrap name arg
    else
      .stop (if r.isOpaque name then .ok (.scalar name)
        else r.resolveBean (.declared name args) name)
  | .var name declaring => .replace name declaring

/-- Whether a type is unwrapped: an array or an iterable. -/
def isWrapper (r : Resolver) : TypeRef → Bool
  | .array _ => true
  | .declared name args => r.isIterable (.declared name args)
  | _ => false

/-- Resolves a type with at most `calls` attempts inside one another. There is no result if these
are not enough. Only a guarded attempt fails on variables that have been met. -/
def attempt (r : Resolver) (guarded : Bool) (owner : TypeRef) (calls depth : Nat)
    (met : List (String × String)) (type : TypeRef) : Option (Except ResolveError Descriptor) :=
  match calls with
  | 0 => none
  | calls + 1 =>
    if depth > maxDepth then some (.error (.depthExceeded type.print))
    else
      match r.move type with
      | .stop result => some result
      | .unwrap name element =>
        (r.attempt guarded owner calls (depth + 1) met element).map (·.map (.iterable name))
      | .replace name declaring =>
        if guarded && met.contains (declaring, name) then
          some (.error (.cyclicVariable name declaring))
        else
          match r.argument? owner name declaring with
          | none => some (.error (.unresolvedVariable name declaring))
          | some arg => r.attempt guarded owner calls depth ((declaring, name) :: met) arg

variable {r : Resolver} {owner t : TypeRef} {calls depth : Nat} {met : List (String × String)}
  {d : Descriptor}

/-! ## What is next -/

theorem move_raw {name : String} (hiterable : r.isIterable (.declared name [])) :
    r.move (.declared name []) = .stop (.error (.rawIterable name)) :=
  if_pos hiterable

theorem move_iterable {name : String} {arg : TypeRef} {args : List TypeRef}
    (hiterable : r.isIterable (.declared name (arg :: args))) :
    r.move (.declared name (arg :: args)) = .unwrap name arg :=
  if_pos hiterable

theorem move_single {name : String} {args : List TypeRef}
    (hiterable : ¬r.isIterable (.declared name args)) :
    r.move (.declared name args) = .stop (if r.isOpaque name then .ok (.scalar name)
      else r.resolveBean (.declared name args) name) :=
  if_neg hiterable

/-- What a type resolves to by what is next. -/
theorem resolveAt_move (hd : ¬depth > maxDepth) : r.resolveAt owner depth met t =
    match r.move t with
    | .stop result => result
    | .unwrap name element => (r.resolveAt owner (depth + 1) met element).map (.iterable name)
    | .replace name declaring => r.resolveAt owner depth met (.var name declaring) := by
  cases t with
  | primitive | void =>
    rw [resolveAt, dif_neg hd]
    rfl
  | array element => exact resolveAt_array hd element
  | var => rfl
  | declared name args =>
    by_cases hiterable : r.isIterable (.declared name args)
    · cases args with
      | nil => rw [move_raw hiterable, resolveAt_raw hd hiterable]
      | cons arg args => rw [move_iterable hiterable, resolveAt_iterable hd hiterable]
    · rw [move_single hiterable, resolveAt_single hd hiterable]

theorem layers_of_resolveBean {name : String} (h : r.resolveBean t name = .ok d) :
    d.layers = 0 := by
  unfold resolveBean at h
  split at h <;> cases h
  rfl

/-- A type is unwrapped for a layer, and not where there is nothing next. -/
theorem isWrapper_move (r : Resolver) (t : TypeRef) :
    match r.move t with
    | .stop result => ∀ d, result = .ok d → r.isWrapper t = false ∧ d.layers = 0
    | .unwrap _ _ => r.isWrapper t = true
    | .replace name declaring => t = .var name declaring := by
  cases t with
  | primitive | void =>
    rintro d ⟨⟩
    exact ⟨rfl, rfl⟩
  | array | var => rfl
  | declared name args =>
    by_cases hiterable : r.isIterable (.declared name args)
    · cases args with
      | nil =>
        rw [move_raw hiterable]
        rintro d ⟨⟩
      | cons arg args =>
        rw [move_iterable hiterable]
        exact hiterable
    · rw [move_single hiterable]
      refine fun d hresult => ⟨Bool.eq_false_iff.mpr hiterable, ?_⟩
      split at hresult
      · cases hresult
        rfl
      · exact layers_of_resolveBean hresult

theorem isWrapper_of_stop (h : r.move t = .stop (.ok d)) :
    r.isWrapper t = false ∧ d.layers = 0 := by
  have hspec := r.isWrapper_move t
  rw [h] at hspec
  exact hspec d rfl

/-! ## One attempt inside another -/

section Step

variable {guarded : Bool}

theorem attempt_exceeded (hd : depth > maxDepth) :
    r.attempt guarded owner (calls + 1) depth met t = some (.error (.depthExceeded t.print)) :=
  if_pos hd

theorem attempt_stop (hd : ¬depth > maxDepth) {result : Except ResolveError Descriptor}
    (hmove : r.move t = .stop result) :
    r.attempt guarded owner (calls + 1) depth met t = some result := by
  rw [attempt, if_neg hd, hmove]

theorem attempt_unwrap (hd : ¬depth > maxDepth) {name : String} {element : TypeRef}
    (hmove : r.move t = .unwrap name element) :
    r.attempt guarded owner (calls + 1) depth met t =
      (r.attempt guarded owner calls (depth + 1) met element).map (·.map (.iterable name)) := by
  rw [attempt, if_neg hd, hmove]

variable {name declaring : String}

theorem attempt_unresolved (hd : ¬depth > maxDepth) (hmove : r.move t = .replace name declaring)
    (hguard : ¬(guarded && met.contains (declaring, name)))
    (hargument : r.argument? owner name declaring = none) :
    r.attempt guarded owner (calls + 1) depth met t =
      some (.error (.unresolvedVariable name declaring)) := by
  rw [attempt, if_neg hd, hmove]
  refine (if_neg hguard).trans ?_
  rw [hargument]

theorem attempt_replace (hd : ¬depth > maxDepth) (hmove : r.move t = .replace name declaring)
    (hguard : ¬(guarded && met.contains (declaring, name))) {arg : TypeRef}
    (hargument : r.argument? owner name declaring = some arg) :
    r.attempt guarded owner (calls + 1) depth met t =
      r.attempt guarded owner calls depth ((declaring, name) :: met) arg := by
  rw [attempt, if_neg hd, hmove]
  refine (if_neg hguard).trans ?_
  rw [hargument]

end Step

/-! ## The end -/

/-- A guarded attempt gives what the type resolves to, if more calls are allowed than the depth and
the variables of the table permit. -/
theorem attempt_guarded
    (hcalls : maxDepth + 1 - depth + (r.unmetVariables met).length < calls) :
    r.attempt true owner calls depth met t = some (r.resolveAt owner depth met t) := by
  induction calls generalizing depth met t with
  | zero => exact absurd hcalls (Nat.not_lt_zero _)
  | succ calls ih =>
    by_cases hd : depth > maxDepth
    · rw [attempt, if_pos hd, resolveAt_exceeded hd]
    rw [attempt, if_neg hd, resolveAt_move hd]
    cases r.move t with
    | stop result => rfl
    | unwrap name element =>
      have hdeeper : maxDepth + 1 - (depth + 1) + (r.unmetVariables met).length < calls := by
        omega
      exact congrArg (Option.map _) (ih hdeeper)
    | replace name declaring =>
      by_cases hmet : (declaring, name) ∈ met
      · refine (if_pos (List.contains_iff_mem.mpr hmet)).trans ?_
        exact congrArg some (resolveAt_cyclic hd hmet).symm
      · refine (if_neg fun h => hmet (List.contains_iff_mem.mp h)).trans ?_
        cases hargument : r.argument? owner name declaring with
        | none => exact congrArg some (resolveAt_unresolved hd hmet hargument).symm
        | some arg =>
          -- the variable is one of the table's, and is no longer unmet
          have hfewer := length_unmetVariables_lt (mem_variables_of_argument? hargument) hmet
          exact (ih (by omega)).trans (congrArg some (resolveAt_var hd hmet hargument).symm)

/-- As many calls as always suffice: one for each depth at which a type may be unwrapped and for
each variable of the table, and one for the last type. -/
def enoughCalls (r : Resolver) : Nat := maxDepth + 1 + r.variableNames.length + 1

theorem attempt_resolve (r : Resolver) (owner t : TypeRef) :
    r.attempt true owner r.enoughCalls 0 [] t = some (r.resolve owner t) := by
  have hunmet : (r.unmetVariables []).length ≤ r.variableNames.length := List.length_filter_le _ _
  refine attempt_guarded ?_
  unfold enoughCalls
  omega

/-- Where a guarded attempt does not fail on a variable that has been met, it goes the way that it
would go without the guard. -/
theorem attempt_unguarded {result : Except ResolveError Descriptor}
    (h : r.attempt true owner calls depth met t = some result)
    (hcyclic : ∀ name declaring, result ≠ .error (.cyclicVariable name declaring)) :
    r.attempt false owner calls depth met t = some result := by
  have hunguarded : ∀ (met : List (String × String)) v, ¬(false && met.contains v) = true :=
    fun _ _ => Bool.false_ne_true
  fun_induction r.attempt true owner calls depth met t generalizing result with
  | case1 => cases h
  | case2 depth met t calls hd => exact (attempt_exceeded hd).trans h
  | case3 depth met t calls hd result' hmove => exact (attempt_stop hd hmove).trans h
  | case4 depth met t calls hd name element hmove ih =>
    obtain ⟨inner, hinner, rfl⟩ := Option.map_eq_some_iff.mp h
    rw [attempt_unwrap hd hmove]
    refine Option.map_eq_some_iff.mpr ⟨inner, ih hinner ?_, rfl⟩
    rintro param declaring rfl
    exact hcyclic param declaring rfl
  | case5 depth met t calls hd name declaring hmove hguard =>
    exact absurd (Option.some.inj h).symm (hcyclic name declaring)
  | case6 depth met t calls hd name declaring hmove hguard hargument =>
    exact (attempt_unresolved hd hmove (hunguarded _ _) hargument).trans h
  | case7 depth met t calls hd name declaring hmove hguard arg hargument ih =>
    exact (attempt_replace hd hmove (hunguarded _ _) hargument).trans (ih h hcyclic)

/-! ## The types on the way to a descriptor -/

/-- A type leads to a descriptor by way of the types that are resolved for it, itself the first.
No depth is counted on the way, and no variable remembered. -/
inductive LeadsTo (r : Resolver) (owner : TypeRef) : TypeRef → List TypeRef → Descriptor → Prop
  | stop {t : TypeRef} {d : Descriptor} (next : r.move t = .stop (.ok d)) :
    LeadsTo r owner t [t] d
  | unwrap {t element : TypeRef} {name : String} {types : List TypeRef} {d : Descriptor}
    (next : r.move t = .unwrap name element) (further : LeadsTo r owner element types d) :
    LeadsTo r owner t (t :: types) (.iterable name d)
  | replace {name declaring : String} {arg : TypeRef} {types : List TypeRef} {d : Descriptor}
    (argument : r.argument? owner name declaring = some arg)
    (further : LeadsTo r owner arg types d) :
    LeadsTo r owner (.var name declaring) (.var name declaring :: types) d

variable {types types' : List TypeRef} {d' : Descriptor}

/-- A type determines the types on the way and the descriptor. -/
theorem LeadsTo.unique (h : r.LeadsTo owner t types d) (h' : r.LeadsTo owner t types' d') :
    types = types' ∧ d = d' := by
  induction h generalizing types' d' with
  | stop hmove =>
    cases h' with
    | stop hmove' =>
      cases hmove.symm.trans hmove'
      exact ⟨rfl, rfl⟩
    | unwrap hmove' => cases hmove.symm.trans hmove'
    | replace => cases hmove
  | unwrap hmove _ ih =>
    cases h' with
    | stop hmove' => cases hmove.symm.trans hmove'
    | unwrap hmove' further' =>
      cases hmove.symm.trans hmove'
      obtain ⟨rfl, rfl⟩ := ih further'
      exact ⟨rfl, rfl⟩
    | replace => cases hmove
  | replace hargument _ ih =>
    cases h' with
    | stop hmove' => cases hmove'
    | unwrap hmove' => cases hmove'
    | replace hargument' further' =>
      cases hargument.symm.trans hargument'
      obtain ⟨rfl, rfl⟩ := ih further'
      exact ⟨rfl, rfl⟩

/-- A descriptor has one layer for each type on the way that is unwrapped. -/
theorem LeadsTo.layers_eq (h : r.LeadsTo owner t types d) :
    d.layers = types.countP r.isWrapper := by
  induction h with
  | stop hmove =>
    obtain ⟨hwrapper, hlayers⟩ := isWrapper_of_stop hmove
    rw [hlayers, List.countP_singleton, hwrapper]
    rfl
  | @unwrap t _ _ _ _ hmove _ ih =>
    have hspec := r.isWrapper_move t
    rw [hmove] at hspec
    rw [Descriptor.layers, ih, List.countP_cons_of_pos hspec]
  | replace _ _ ih => exact ih

/-- An attempt that gives a descriptor, guarded or not, has gone a way to it within the depth. -/
theorem leadsTo_of_attempt {guarded : Bool}
    (h : r.attempt guarded owner calls depth met t = some (.ok d)) :
    ∃ types, r.LeadsTo owner t types d ∧ depth + d.layers ≤ maxDepth := by
  fun_induction r.attempt guarded owner calls depth met t generalizing d with
  | case1 | case2 | case5 | case6 => cases h
  | case3 depth met t calls hd result hmove =>
    cases h
    refine ⟨[t], .stop hmove, ?_⟩
    rw [(isWrapper_of_stop hmove).2]
    exact Nat.not_lt.mp hd
  | case4 depth met t calls hd name element hmove ih =>
    obtain ⟨inner, hinner, hmap⟩ := Option.map_eq_some_iff.mp h
    obtain ⟨d, rfl, rfl⟩ := map_eq_ok.mp hmap
    obtain ⟨types, hleads, hdepth⟩ := ih hinner
    refine ⟨t :: types, .unwrap hmove hleads, ?_⟩
    rw [Descriptor.layers]
    omega
  | case7 depth met t calls hd name declaring hmove hguard arg hargument ih =>
    obtain ⟨types, hleads, hdepth⟩ := ih h
    have hspec := r.isWrapper_move t
    rw [hmove] at hspec
    subst hspec
    exact ⟨_, .replace hargument hleads, hdepth⟩

/-- A type resolves to the descriptor that it leads to within the depth, if the ways from all
variables that have been met are longer. No variable on the way has been met then: the ways from
one variable are all of one length. -/
theorem resolveAt_of_leadsTo (h : r.LeadsTo owner t types d)
    (hdepth : depth + d.layers ≤ maxDepth)
    (hmet : ∀ name declaring, (declaring, name) ∈ met → ∀ types' d',
      r.LeadsTo owner (.var name declaring) types' d' → types.length < types'.length) :
    r.resolveAt owner depth met t = .ok d := by
  induction h generalizing depth met with
  | stop hmove =>
    rw [resolveAt_move (by omega), hmove]
  | unwrap hmove _ ih =>
    rw [Descriptor.layers] at hdepth
    rw [resolveAt_move (by omega), hmove]
    refine map_eq_ok.mpr ⟨_, ih (by omega) fun name declaring hmem types' d' hleads => ?_, rfl⟩
    exact Nat.lt_of_succ_lt (hmet name declaring hmem types' d' hleads)
  | @replace name declaring arg types d hargument hfurther ih =>
    have hself : r.LeadsTo owner (.var name declaring) (.var name declaring :: types) d :=
      .replace hargument hfurther
    -- a variable met before would have a longer way than its own
    have hfresh : (declaring, name) ∉ met := fun hmem =>
      Nat.lt_irrefl _ (hmet name declaring hmem _ _ hself)
    rw [resolveAt_var (by omega) hfresh hargument]
    refine ih hdepth fun name' declaring' hmem types' d' hleads => ?_
    rcases List.mem_cons.mp hmem with hsame | hmem
    · cases hsame
      rw [← (hself.unique hleads).1]
      exact Nat.lt_succ_self _
    · exact Nat.lt_of_succ_lt (hmet name' declaring' hmem types' d' hleads)

/-- **Resolving ends, and fails on cycles only where there is nothing to find.** However the
declarations refer to one another, the search for the supertypes of any type ends, and a bounded
number of calls gives what a type resolves to. A descriptor has at most two layers, one for each
type that is unwrapped on the way to it. Where a variable resolves back to itself, no number of
calls without the guard gives a descriptor, and wherever one does, the type resolves to it. -/
theorem resolve_ends (r : Resolver) (owner t : TypeRef) :
    (∀ u, ∃ met, r.table.search (r.table.size + 1) (r.table.supertypes u) ⟨u.erasure?.toList, []⟩ =
      some ⟨met, r.table.closure u⟩) ∧
    r.attempt true owner r.enoughCalls 0 [] t = some (r.resolve owner t) ∧
    (∀ d, r.resolve owner t = .ok d → d.layers ≤ 2 ∧
      ∃ types, r.LeadsTo owner t types d ∧ d.layers = types.countP r.isWrapper) ∧
    (∀ name declaring, r.resolve owner t = .error (.cyclicVariable name declaring) →
      ∀ calls d, r.attempt false owner calls 0 [] t ≠ some (.ok d)) ∧
    ∀ d, (∃ calls, r.attempt false owner calls 0 [] t = some (.ok d)) ↔
      r.resolve owner t = .ok d := by
  have hends := r.attempt_resolve owner t
  have hfinds : ∀ calls d, r.attempt false owner calls 0 [] t = some (.ok d) →
      r.resolve owner t = .ok d := by
    intro calls d hattempt
    obtain ⟨types, hleads, hdepth⟩ := leadsTo_of_attempt hattempt
    exact resolveAt_of_leadsTo hleads hdepth fun _ _ hmem => by cases hmem
  refine ⟨r.table.search_closure, hends, ?_, ?_, fun d => ⟨?_, ?_⟩⟩
  · intro d hd
    obtain ⟨types, hleads, hdepth⟩ := leadsTo_of_attempt (hends.trans (congrArg some hd))
    rw [Nat.zero_add] at hdepth
    exact ⟨hdepth, types, hleads, hleads.layers_eq⟩
  · intro name declaring hcyclic calls d hattempt
    cases hcyclic.symm.trans (hfinds calls d hattempt)
  · rintro ⟨calls, hattempt⟩
    exact hfinds calls d hattempt
  · intro hd
    refine ⟨r.enoughCalls, attempt_unguarded (hends.trans (congrArg some hd)) ?_⟩
    rintro name declaring ⟨⟩

end Resolver

/-- Among the journals, pages of arrays of keys have two layers for the notes. A store that keeps
its own keys on pages never gets to an end by replacing them. -/
theorem resolve_ends_pages :
    let pages : TypeRef := .declared "Page" [.array (.var "K" "Store")]
    let shelf : TypeRef := .declared "Store" [.declared "Page" [.var "K" "Store"]]
    journalResolver.resolve (.simple "NoteMapper") pages =
        .ok (.iterable "Page" (.iterable "K[]" (.scalar "long"))) ∧
      (∃ calls, journalResolver.attempt false (.simple "NoteMapper") calls 0 [] pages =
        some (.ok (.iterable "Page" (.iterable "K[]" (.scalar "long"))))) ∧
      journalResolver.resolve shelf (.var "K" "Store") = .error (.cyclicVariable "K" "Store") ∧
      ∀ calls d, journalResolver.attempt false shelf calls 0 [] (.var "K" "Store") ≠
        some (.ok d) := by
  intro pages shelf
  have hiterable : ∀ t, journalResolver.isIterable (.declared "Page" [t]) :=
    fun t => Bool.or_eq_true_iff.mpr (.inl (beq_self_eq_true (some "Page")))
  have hpages : journalResolver.resolve (.simple "NoteMapper") pages =
      .ok (.iterable "Page" (.iterable "K[]" (.scalar "long"))) := by
    have hargument : journalResolver.argument? (.simple "NoteMapper") "K" "Store" =
        some (.primitive "long") := by
      cbv
    rw [Resolver.resolve, Resolver.resolveAt_iterable (by decide) (hiterable _),
      Resolver.resolveAt_array (by decide),
      Resolver.resolveAt_var (by decide) List.not_mem_nil hargument, Resolver.resolveAt]
    rfl
  have hshelf : journalResolver.resolve shelf (.var "K" "Store") =
      .error (.cyclicVariable "K" "Store") := by
    have hargument : journalResolver.argument? shelf "K" "Store" =
        some (.declared "Page" [.var "K" "Store"]) := by
      cbv
    rw [Resolver.resolve, Resolver.resolveAt_var (by decide) List.not_mem_nil hargument,
      Resolver.resolveAt_iterable (by decide) (hiterable _),
      Resolver.resolveAt_cyclic (by decide) (.head _)]
    rfl
  obtain ⟨-, -, -, -, hfound⟩ := journalResolver.resolve_ends (.simple "NoteMapper") pages
  obtain ⟨-, -, -, hlost, -⟩ := journalResolver.resolve_ends shelf (.var "K" "Store")
  exact ⟨hpages, (hfound _).mpr hpages, hshelf, hlost _ _ hshelf⟩

end DerivedQuery.Types
