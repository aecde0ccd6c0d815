import DerivedQuery.Proofs.Except
import DerivedQuery.Proofs.Types.Inheritance
import DerivedQuery.Proofs.Types.Resolving

/-!
# How inherited types resolve

A member of a generic declaration mentions the declaration's parameters. Resolved for a mapper that
inherits it, its type comes to the same as the type with everything put in that the mapper supplies,
at the same depth: both fail or neither does (`resolve_inherited`).

The descriptors are the same too but for one thing. An array goes by the name that it is written
with, and in the member that is the name of the parameter (`resolve_parameter_array`). And all this
holds of tables in which no declaration extends one of its own parameters: where one does, what is
put in for the parameter has fields that the parameter itself has not (`resolve_parameter_supertype`).
-/

namespace DerivedQuery.Types

/-! ## One step of resolving -/

namespace Resolver

variable {r : Resolver} {owner : TypeRef} {depth : Nat} {met : List (String × String)}

theorem resolveAt_exceeded (hd : depth > maxDepth) (t : TypeRef) :
    r.resolveAt owner depth met t = .error (.depthExceeded t.print) := by
  rw [resolveAt.eq_def, dif_pos hd]

theorem resolveAt_array (hd : ¬depth > maxDepth) (element : TypeRef) :
    r.resolveAt owner depth met (.array element) =
      (r.resolveAt owner (depth + 1) met element).map
        (.iterable (TypeRef.array element).print) := by
  rw [resolveAt, dif_neg hd]

theorem resolveAt_raw (hd : ¬depth > maxDepth) {name : String}
    (hiterable : r.isIterable (.declared name [])) :
    r.resolveAt owner depth met (.declared name []) = .error (.rawIterable name) := by
  rw [resolveAt, dif_neg hd]
  exact if_pos hiterable

theorem resolveAt_iterable (hd : ¬depth > maxDepth) {name : String} {arg : TypeRef}
    {args : List TypeRef} (hiterable : r.isIterable (.declared name (arg :: args))) :
    r.resolveAt owner depth met (.declared name (arg :: args)) =
      (r.resolveAt owner (depth + 1) met arg).map (.iterable name) := by
  rw [resolveAt, dif_neg hd]
  exact if_pos hiterable

theorem resolveAt_single (hd : ¬depth > maxDepth) {name : String} {args : List TypeRef}
    (hiterable : ¬r.isIterable (.declared name args)) :
    r.resolveAt owner depth met (.declared name args) =
      if r.isOpaque name then .ok (.scalar name)
      else r.resolveBean (.declared name args) name := by
  unfold resolveAt
  rw [dif_neg hd]
  exact if_neg hiterable

theorem resolveAt_var (hd : ¬depth > maxDepth) {param declaring : String} {arg : TypeRef}
    (hmet : (declaring, param) ∉ met) (harg : r.argument? owner param declaring = some arg) :
    r.resolveAt owner depth met (.var param declaring) =
      r.resolveAt owner depth ((declaring, param) :: met) arg := by
  rw [resolveAt, dif_neg hd]
  simp only [dif_neg hmet]
  split
  next hnone => cases hnone.symm.trans harg
  next other hother => rw [Option.some.inj (hother.symm.trans harg)]

theorem resolveAt_cyclic (hd : ¬depth > maxDepth) {name declaring : String}
    (hmet : (declaring, name) ∈ met) :
    r.resolveAt owner depth met (.var name declaring) =
      .error (.cyclicVariable name declaring) := by
  rw [resolveAt, dif_neg hd]
  exact dif_pos hmet

theorem resolveAt_unresolved (hd : ¬depth > maxDepth) {name declaring : String}
    (hmet : (declaring, name) ∉ met) (hargument : r.argument? owner name declaring = none) :
    r.resolveAt owner depth met (.var name declaring) =
      .error (.unresolvedVariable name declaring) := by
  rw [resolveAt, dif_neg hd]
  simp only [dif_neg hmet]
  split
  · rfl
  next arg harg => cases hargument.symm.trans harg

/-- Without variables it makes no difference which variables have been met. -/
theorem resolveAt_closed {t : TypeRef} (ht : t.Closed) (met met' : List (String × String)) :
    r.resolveAt owner depth met t = r.resolveAt owner depth met' t := by
  induction t generalizing depth with
  | primitive | void =>
    rw [resolveAt]
    conv_rhs => rw [resolveAt]
  | array element ih =>
    by_cases hd : depth > maxDepth
    · rw [resolveAt_exceeded hd, resolveAt_exceeded hd]
    · rw [resolveAt_array hd, resolveAt_array hd, ih ht]
  | declared name args ih =>
    by_cases hd : depth > maxDepth
    · rw [resolveAt_exceeded hd, resolveAt_exceeded hd]
    · by_cases hiterable : r.isIterable (.declared name args)
      · cases args with
        | nil => rw [resolveAt_raw hd hiterable, resolveAt_raw hd hiterable]
        | cons arg args =>
          rw [resolveAt_iterable hd hiterable, resolveAt_iterable hd hiterable,
            ih arg (.head _) (ht.of_mem (.head _))]
      · rw [resolveAt_single hd hiterable, resolveAt_single hd hiterable]
  | var => cases ht

/-! ## Arguments do not tell iterables, scalars and beans apart -/

variable (hext : r.table.ExtendsTypes)
include hext

theorem isIterable_congr (name : String) (args args' : List TypeRef) :
    r.isIterable (.declared name args) = r.isIterable (.declared name args') := by
  have hany : ∀ t : TypeRef,
      (r.table.closure t).any (fun s => s.erasure? == some r.iterableType) =
        ((r.table.closure t).map (·.erasure?)).any (· == some r.iterableType) := by
    intro t
    rw [List.any_map]
    rfl
  unfold isIterable
  rw [hany, hany, TypeTable.erasures_closure hext
    (s := .declared name args) (t := .declared name args') rfl]
  rfl

theorem resolveBean_congr (name : String) (args args' : List TypeRef) :
    r.resolveBean (.declared name args) name = r.resolveBean (.declared name args') name := by
  have hnames : ∀ t : TypeRef, r.lineage t =
      (((r.table.closure t).map (·.erasure?)).reverse ++ [t.erasure?]).filterMap
        (·.bind r.table.find?) := by
    intro t
    have hmap : ((r.table.closure t).map (·.erasure?)).reverse ++ [t.erasure?] =
        ((r.table.closure t).reverse ++ [t]).map (·.erasure?) := by
      rw [List.map_append, List.map_reverse, List.map_singleton]
    rw [hmap, List.filterMap_map]
    rfl
  unfold resolveBean
  rw [hnames, hnames, TypeTable.erasures_closure hext
    (s := .declared name args) (t := .declared name args') rfl]
  rfl

end Resolver

/-! ## Names of arrays -/

/-- The descriptor with its arrays under the names that they are written with in a type. -/
def Descriptor.arraysNamedIn : Descriptor → TypeRef → Descriptor
  | .iterable _ d, .array element =>
    .iterable (TypeRef.array element).print (d.arraysNamedIn element)
  | .iterable name d, .declared _ (arg :: _) => .iterable name (d.arraysNamedIn arg)
  | d, _ => d

/-- A scalar or a bean has no arrays. -/
theorem Descriptor.arraysNamedIn_of_not_isIterable {r : Resolver} {owner : TypeRef} {depth : Nat}
    {met : List (String × String)} {name : String} {args : List TypeRef} {d : Descriptor}
    (hd : ¬depth > maxDepth) (hiterable : ¬r.isIterable (.declared name args))
    (h : r.resolveAt owner depth met (.declared name args) = .ok d) (t : TypeRef) :
    d.arraysNamedIn t = d := by
  rw [Resolver.resolveAt_single hd hiterable] at h
  split at h
  · cases h
    rfl
  · unfold Resolver.resolveBean at h
    split at h
    · cases h
      rfl
    · cases h

/-- The arrays of a descriptor are named as they are written in the type itself. -/
theorem Descriptor.arraysNamedIn_of_resolveAt {r : Resolver} {owner t : TypeRef} {depth : Nat}
    {met : List (String × String)} {d : Descriptor}
    (h : r.resolveAt owner depth met t = .ok d) : d.arraysNamedIn t = d := by
  induction t generalizing depth d with
  | primitive | void | var => cases d <;> rfl
  | array element ih =>
    by_cases hd : depth > maxDepth
    · cases (Resolver.resolveAt_exceeded hd _).symm.trans h
    · rw [Resolver.resolveAt_array hd] at h
      obtain ⟨e, he, rfl⟩ := map_eq_ok.mp h
      rw [arraysNamedIn, ih he]
  | declared name args ih =>
    by_cases hd : depth > maxDepth
    · cases (Resolver.resolveAt_exceeded hd _).symm.trans h
    · by_cases hiterable : r.isIterable (.declared name args)
      · cases args with
        | nil => cases (Resolver.resolveAt_raw hd hiterable).symm.trans h
        | cons arg args =>
          rw [Resolver.resolveAt_iterable hd hiterable] at h
          obtain ⟨e, he, rfl⟩ := map_eq_ok.mp h
          rw [arraysNamedIn, ih arg (.head _) he]
      · exact arraysNamedIn_of_not_isIterable hd hiterable h _

theorem toOption_resolveAt {r : Resolver} {owner : TypeRef} {depth : Nat}
    {met : List (String × String)} (t : TypeRef) :
    (r.resolveAt owner depth met t).toOption =
      (r.resolveAt owner depth met t).toOption.map (·.arraysNamedIn t) := by
  cases h : r.resolveAt owner depth met t with
  | error e => rfl
  | ok d => exact congrArg some (Descriptor.arraysNamedIn_of_resolveAt h).symm

/-- Whether the arrays in a type mention no variables. -/
inductive TypeRef.PlainArrays : TypeRef → Prop
  | primitive (name : String) : PlainArrays (.primitive name)
  | void : PlainArrays .void
  | var (name owner : String) : PlainArrays (.var name owner)
  | array {element : TypeRef} (h : element.Closed) : PlainArrays (.array element)
  | declared {name : String} {args : List TypeRef} (h : ∀ a ∈ args, PlainArrays a) :
    PlainArrays (.declared name args)

/-! ## Along a way -/

namespace TypeTable

variable {table : TypeTable}

theorem seenFrom_array (t element : TypeRef) :
    table.seenFrom t (.array element) = .array (table.seenFrom t element) := by
  cases t <;> rfl

theorem seenFrom_declared (t : TypeRef) (name : String) (args : List TypeRef) :
    table.seenFrom t (.declared name args) = .declared name (args.map (table.seenFrom t)) := by
  cases t with
  | primitive | void | array | var =>
    exact congrArg (TypeRef.declared name) (List.map_id' args).symm
  | declared other args' => exact TypeRef.substitute_declared other _ args' args name

theorem seenFrom_closed {s : TypeRef} (hs : s.Closed) (t : TypeRef) : table.seenFrom t s = s := by
  cases t with
  | primitive | void | array | var => rfl
  | declared => exact hs.substitute _ _ _

theorem along_closed {t : TypeRef} (ht : t.Closed) (links : List TypeRef) :
    table.along links t = t := by
  induction links with
  | nil => rfl
  | cons link links ih =>
    show table.seenFrom link (table.along links t) = t
    rw [ih, seenFrom_closed ht]

theorem along_array (links : List TypeRef) (element : TypeRef) :
    table.along links (.array element) = .array (table.along links element) := by
  induction links with
  | nil => rfl
  | cons link links ih =>
    show table.seenFrom link (table.along links _) = .array (table.seenFrom link _)
    rw [ih, seenFrom_array]
    rfl

theorem along_declared (links : List TypeRef) (name : String) (args : List TypeRef) :
    table.along links (.declared name args) = .declared name (args.map (table.along links)) := by
  induction links with
  | nil => exact congrArg (TypeRef.declared name) (List.map_id' args).symm
  | cons link links ih =>
    show table.seenFrom link (table.along links _) = _
    rw [ih, seenFrom_declared, List.map_map]
    rfl

end TypeTable

section Inherited

variable {r : Resolver} {mapper target : String} {links : List TypeRef}

/-- At every depth a type of the declaration resolves to what it becomes along the way, with the
arrays under the names that they are written with in it. -/
theorem resolveAt_along (hext : r.table.ExtendsTypes)
    (hway : r.table.Inherits mapper [] links target)
    (honly : ∀ other, r.table.Ascends mapper other target → other = links) {t : TypeRef}
    (ht : t.Over target (r.table.typeParams target)) (depth : Nat) :
    (r.resolveAt (.simple mapper) depth [] t).toOption =
      (r.resolveAt (.simple mapper) depth [] (r.table.along links t)).toOption.map
        (·.arraysNamedIn t) := by
  induction t generalizing depth with
  | primitive name =>
    rw [TypeTable.along_closed (show (TypeRef.primitive name).Closed from rfl)]
    exact toOption_resolveAt _
  | void =>
    rw [TypeTable.along_closed (show TypeRef.void.Closed from rfl)]
    exact toOption_resolveAt _
  | array element ih =>
    rw [TypeTable.along_array]
    by_cases hd : depth > maxDepth
    · rw [Resolver.resolveAt_exceeded hd, Resolver.resolveAt_exceeded hd]
      rfl
    · rw [Resolver.resolveAt_array hd, Resolver.resolveAt_array hd, toOption_map, toOption_map,
        ih ht, Option.map_map, Option.map_map]
      rfl
  | declared name args ih =>
    rw [TypeTable.along_declared]
    by_cases hd : depth > maxDepth
    · rw [Resolver.resolveAt_exceeded hd, Resolver.resolveAt_exceeded hd]
      rfl
    have hcongr := Resolver.isIterable_congr hext name args (args.map (r.table.along links))
    by_cases hiterable : r.isIterable (.declared name args)
    · have hiterable' := hcongr.symm.trans hiterable
      cases args with
      | nil =>
        rw [List.map_nil, Resolver.resolveAt_raw hd hiterable]
        rfl
      | cons arg args =>
        rw [List.map_cons] at hiterable' ⊢
        rw [Resolver.resolveAt_iterable hd hiterable, Resolver.resolveAt_iterable hd hiterable',
          toOption_map, toOption_map, ih arg (.head _) (ht.of_mem (.head _)), Option.map_map,
          Option.map_map]
        rfl
    · have hiterable' : ¬r.isIterable (.declared name (args.map (r.table.along links))) := by
        rwa [← hcongr]
      have hsingle := @Resolver.resolveAt_single r (.simple mapper) depth [] hd name args hiterable
      rw [Resolver.resolveAt_single hd hiterable', ← Resolver.resolveBean_congr hext name args,
        ← hsingle]
      exact toOption_resolveAt _
  | var param owner =>
    obtain ⟨rfl, hparam⟩ := ht _ (.head _)
    have hclosed := (TypeTable.over_along hway ht).closed
    by_cases hd : depth > maxDepth
    · rw [Resolver.resolveAt_exceeded hd, Resolver.resolveAt_exceeded hd]
      rfl
    · rw [Resolver.resolveAt_var hd List.not_mem_nil
        (Resolver.argument?_inherited hext hway honly hparam),
        Resolver.resolveAt_closed hclosed _ []]
      cases Resolver.resolveAt r (.simple mapper) depth [] (r.table.along links _) with
      | error e => rfl
      | ok d => cases d <;> rfl

/-- If no array in a type mentions a variable, its arrays have the names that they have after
everything has been put in. -/
theorem TypeRef.PlainArrays.arraysNamedIn {t : TypeRef} (h : t.PlainArrays) {owner : TypeRef}
    {depth : Nat} {met : List (String × String)} {d : Descriptor}
    (hd : r.resolveAt owner depth met (r.table.along links t) = .ok d) :
    d.arraysNamedIn t = d := by
  induction t generalizing depth d with
  | primitive | void | var => cases d <;> rfl
  | array element ih =>
    cases h with
    | array hclosed =>
      rw [TypeTable.along_closed (show (TypeRef.array element).Closed from hclosed)] at hd
      exact Descriptor.arraysNamedIn_of_resolveAt hd
  | declared name args ih =>
    rw [TypeTable.along_declared] at hd
    by_cases hdepth : depth > maxDepth
    · cases (Resolver.resolveAt_exceeded hdepth _).symm.trans hd
    · by_cases hiterable : r.isIterable (.declared name (args.map (r.table.along links)))
      · cases args with
        | nil => cases (Resolver.resolveAt_raw hdepth hiterable).symm.trans hd
        | cons arg args =>
          cases h with
          | declared hargs =>
            rw [List.map_cons] at hiterable hd
            rw [Resolver.resolveAt_iterable hdepth hiterable] at hd
            obtain ⟨e, he, rfl⟩ := map_eq_ok.mp hd
            rw [Descriptor.arraysNamedIn, ih arg (.head _) (hargs arg (.head _)) he]
      · exact Descriptor.arraysNamedIn_of_not_isIterable hdepth hiterable hd _

/-- **Inherited variables resolve to what the mapper supplies.** Let exactly one way lead from a
mapper without arguments to a declaration, of any length, on which every link supplies all
parameters. A type over the parameters of the declaration becomes one without variables along the
way. Resolved for the mapper, either both fail or neither does, and then they have the same
descriptor except that arrays keep the names they are written with in the declaration: the same one
altogether if no array in the type mentions a variable. -/
theorem resolve_inherited {t : TypeRef} (hext : r.table.ExtendsTypes)
    (hway : r.table.Inherits mapper [] links target)
    (honly : ∀ other, r.table.Ascends mapper other target → other = links)
    (ht : t.Over target (r.table.typeParams target)) :
    (r.table.along links t).Closed ∧
      (r.resolve (.simple mapper) t).toOption =
        (r.resolve (.simple mapper) (r.table.along links t)).toOption.map (·.arraysNamedIn t) ∧
      (t.PlainArrays → (r.resolve (.simple mapper) t).toOption =
        (r.resolve (.simple mapper) (r.table.along links t)).toOption) := by
  have hnamed := resolveAt_along hext hway honly ht 0
  refine ⟨(TypeTable.over_along hway ht).closed, hnamed, fun hplain => hnamed.trans ?_⟩
  show _ = (r.resolveAt (.simple mapper) 0 [] (r.table.along links t)).toOption
  cases h : r.resolveAt (.simple mapper) 0 [] (r.table.along links t) with
  | error e => rfl
  | ok d => exact congrArg some (hplain.arraysNamedIn h)

end Inherited

/-! ## A mapper two links away from a declaration -/

/-- A hierarchy in which parameters change their names and places: a journal stores under the
numbers of days pages of what is entered. -/
def journals : TypeTable := TypeTable.empty.insertAll [
  { name := "Store", kind := .interfaceType, typeParams := ["K", "V"] },
  { name := "Journal", kind := .interfaceType, typeParams := ["E", "D"]
    interfaces := [.declared "Store" [.simple "D", .declared "Page" [.simple "E"]]] },
  { name := "NoteMapper", kind := .interfaceType
    interfaces := [.declared "Journal" [.simple "Note", .primitive "long"]] }]

/-- The resolver of the journals, for which pages are iterable. -/
def journalResolver : Resolver where
  table := journals
  naming := id
  iterableType := "Page"

/-- The way from the mapper to the store. -/
def noteLinks : List TypeRef := [
  .declared "Journal" [.simple "Note", .primitive "long"],
  .declared "Store" [.var "D" "Journal", .declared "Page" [.var "E" "Journal"]]]

theorem extendsTypes_journals : journals.ExtendsTypes := by
  have hsup : ∀ d ∈ journals.decls, ∀ s ∈ d.supertypes, s.erasure?.isSome := by decide
  rintro d hd s hs name owner rfl
  cases hsup d hd _ hs

theorem inherits_noteLinks : journals.Inherits "NoteMapper" [] noteLinks "Store" := by
  refine .further ?_ ?_ ?_ (.direct ?_ ?_ ?_) <;> decide

theorem only_noteLinks (other : List TypeRef) (h : journals.Ascends "NoteMapper" other "Store") :
    other = noteLinks := by
  have hmapper : journals.declaredSupertypes "NoteMapper" =
      [.declared "Journal" [.simple "Note", .primitive "long"]] := by decide
  have hjournal : journals.declaredSupertypes "Journal" =
      [.declared "Store" [.var "D" "Journal", .declared "Page" [.var "E" "Journal"]]] := by
    decide
  have hstore : journals.declaredSupertypes "Store" = [] := by decide
  obtain ⟨hname, -⟩ | ⟨_, _, _, hnext, hrest, rfl⟩ := h.first
  · exact absurd hname (by decide)
  rw [hmapper] at hnext
  cases List.mem_singleton.mp hnext
  obtain ⟨hname, -⟩ | ⟨_, _, _, hnext, hlast, rfl⟩ := hrest.first
  · exact absurd hname (by decide)
  rw [hjournal] at hnext
  cases List.mem_singleton.mp hnext
  obtain ⟨-, rfl⟩ | ⟨_, _, _, hnext, -, -⟩ := hlast.first
  · rfl
  · rw [hstore] at hnext
    cases hnext

/-- Pages of arrays of keys are, for the notes, pages of arrays of numbers. -/
theorem resolve_inherited_pages :
    let t : TypeRef := .declared "Page" [.array (.var "K" "Store")]
    journals.ExtendsTypes ∧ journals.Inherits "NoteMapper" [] noteLinks "Store" ∧
      (∀ other, journals.Ascends "NoteMapper" other "Store" → other = noteLinks) ∧
      t.Over "Store" (journals.typeParams "Store") ∧
      journals.along noteLinks t = .declared "Page" [.array (.primitive "long")] ∧
      (journalResolver.resolve (.simple "NoteMapper") t).toOption =
        some (.iterable "Page" (.iterable "K[]" (.scalar "long"))) := by
  intro t
  have hover : t.Over "Store" (journals.typeParams "Store") := by decide
  have halong : journals.along noteLinks t = .declared "Page" [.array (.primitive "long")] := by
    decide
  have hresolve : journalResolver.resolve (.simple "NoteMapper") (journals.along noteLinks t) =
      .ok (.iterable "Page" (.iterable "long[]" (.scalar "long"))) := by
    have hiterable : journalResolver.isIterable (.declared "Page" [.array (.primitive "long")]) :=
      Bool.or_eq_true_iff.mpr (.inl (by decide))
    rw [halong, Resolver.resolve, Resolver.resolveAt_iterable (by decide) hiterable,
      Resolver.resolveAt_array (by decide), Resolver.resolveAt]
    rfl
  obtain ⟨-, hnamed, -⟩ := resolve_inherited (r := journalResolver) extendsTypes_journals
    inherits_noteLinks only_noteLinks hover
  refine ⟨extendsTypes_journals, inherits_noteLinks, only_noteLinks, hover, halong, ?_⟩
  rw [hnamed]
  exact congrArg (fun x => (Except.toOption x).map _) hresolve

/-- **An array of a parameter goes by the parameter's name.** The store's array of keys is the
mapper's array of numbers, but it does not have that array's name. -/
theorem resolve_parameter_array :
    let t : TypeRef := .array (.var "K" "Store")
    journals.Inherits "NoteMapper" [] noteLinks "Store" ∧
      (∀ other, journals.Ascends "NoteMapper" other "Store" → other = noteLinks) ∧
      t.Over "Store" (journals.typeParams "Store") ∧
      journals.along noteLinks t = .array (.primitive "long") ∧
      journalResolver.resolve (.simple "NoteMapper") t = .ok (.iterable "K[]" (.scalar "long")) ∧
      journalResolver.resolve (.simple "NoteMapper") (journals.along noteLinks t) =
        .ok (.iterable "long[]" (.scalar "long")) := by
  intro t
  have halong : journals.along noteLinks t = .array (.primitive "long") := by decide
  have hparam : "K" ∈ journals.typeParams "Store" := by decide
  have hargument : journalResolver.argument? (.simple "NoteMapper") "K" "Store" =
      some (journals.along noteLinks (.var "K" "Store")) :=
    Resolver.argument?_inherited extendsTypes_journals inherits_noteLinks only_noteLinks hparam
  have hkey : journals.along noteLinks (.var "K" "Store") = .primitive "long" := by decide
  refine ⟨inherits_noteLinks, only_noteLinks, by decide, halong, ?_, ?_⟩
  · rw [Resolver.resolve, Resolver.resolveAt_array (by decide),
      Resolver.resolveAt_var (by decide) List.not_mem_nil hargument, hkey, Resolver.resolveAt]
    rfl
  · rw [halong]
    exact resolve_array_primitive _ _ _

/-! ## A declaration that extends its own parameter -/

/-- A hierarchy in which what wraps a type extends it too. -/
def wraps : TypeTable := TypeTable.empty.insertAll [
  { name := "Store", kind := .interfaceType, typeParams := ["K"] },
  { name := "Wrap", typeParams := ["S"], superclass := some (.simple "S") },
  { name := "Note", fields := [{ name := "id", type := .primitive "long" }]
    methods := [
      { name := "getId", returns := .primitive "long" },
      { name := "setId", params := [{ name := "id", type := .primitive "long" }] }] },
  { name := "NoteMapper", kind := .interfaceType
    interfaces := [.declared "Store" [.simple "Note"]] }]

/-- The resolver of the wrapped notes. -/
def wrapResolver : Resolver where
  table := wraps
  naming := id

/-- The way from the mapper to the store of wrapped notes. -/
def storeLinks : List TypeRef := [.declared "Store" [.simple "Note"]]

theorem inherits_storeLinks : wraps.Inherits "NoteMapper" [] storeLinks "Store" := by
  refine .direct ?_ ?_ ?_ <;> decide

theorem only_storeLinks (other : List TypeRef) (h : wraps.Ascends "NoteMapper" other "Store") :
    other = storeLinks := by
  have hmapper : wraps.declaredSupertypes "NoteMapper" =
      [.declared "Store" [.simple "Note"]] := by decide
  have hstore : wraps.declaredSupertypes "Store" = [] := by decide
  obtain ⟨hname, -⟩ | ⟨_, _, _, hnext, hrest, rfl⟩ := h.first
  · exact absurd hname (by decide)
  rw [hmapper] at hnext
  cases List.mem_singleton.mp hnext
  obtain ⟨-, rfl⟩ | ⟨_, _, _, hnext, -, -⟩ := hrest.first
  · rfl
  · rw [hstore] at hnext
    cases hnext

/-- **A supertype that is a parameter is not replaced.** What wraps the store's key has no field,
although what wraps the mapper's note has the note's. -/
theorem resolve_parameter_supertype :
    let t : TypeRef := .declared "Wrap" [.var "K" "Store"]
    wraps.Inherits "NoteMapper" [] storeLinks "Store" ∧
      (∀ other, wraps.Ascends "NoteMapper" other "Store" → other = storeLinks) ∧
      t.Over "Store" (wraps.typeParams "Store") ∧ t.PlainArrays ∧
      wraps.along storeLinks t = .declared "Wrap" [.simple "Note"] ∧
      wrapResolver.resolve (.simple "NoteMapper") t = .ok (.bean "Wrap" []) ∧
      wrapResolver.resolve (.simple "NoteMapper") (wraps.along storeLinks t) =
        .ok (.bean "Wrap" [⟨"id", "id", false⟩]) := by
  intro t
  have halong : wraps.along storeLinks t = .declared "Wrap" [.simple "Note"] := by decide
  have hparameter : wraps.closure (.declared "Wrap" [.var "K" "Store"]) = [] := by
    cbv
  have hnote : wraps.closure (.declared "Wrap" [.simple "Note"]) = [.simple "Note"] := by
    cbv
  have hplain : t.PlainArrays :=
    .declared (List.forall_mem_singleton.mpr (.var "K" "Store"))
  refine ⟨inherits_storeLinks, only_storeLinks, by decide, hplain, halong, ?_, ?_⟩
  · refine resolve_of_closure _ hparameter ?_ ?_ ?_ ?_ _ <;> decide
  · rw [halong]
    refine resolve_of_closure _ hnote ?_ ?_ ?_ ?_ _ <;> decide

end DerivedQuery.Types
