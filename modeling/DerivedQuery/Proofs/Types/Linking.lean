import DerivedQuery.Proofs.Types.Signature
import DerivedQuery.Types.Decl

/-!
# Linked declarations and their written form

The written form of a declaration's types forgets which names are its type parameters, and nothing
else: reading it back and linking gives the linked declaration again (`parse_print_linked`).
-/

namespace DerivedQuery.Types

namespace TypeRef

variable (params : List String) (owner : String)

@[simp] theorem linkVars_cons (name : String) (arg : TypeRef) (args : List TypeRef) :
    (declared name (arg :: args)).linkVars params owner =
      .declared name ((arg :: args).map (·.linkVars params owner)) := by
  rw [linkVars, linkVarsAll_eq_map, List.map_cons]

/-- Linking twice changes nothing more. -/
theorem linkVars_linkVars (t : TypeRef) :
    (t.linkVars params owner).linkVars params owner = t.linkVars params owner := by
  induction t with
  | primitive | void | var => rfl
  | array element ih => simp only [linkVars, ih]
  | declared name args ih =>
    cases args with
    | nil =>
      rw [linkVars]
      split
      next => rfl
      next h => rw [linkVars, if_neg h]
    | cons arg args =>
      rw [linkVars_cons, List.map_cons, linkVars_cons, ← List.map_cons, List.map_map]
      exact congrArg _ (List.map_congr_left ih)

theorem printRest_map {f : TypeRef → TypeRef} {ts : List TypeRef}
    (h : ∀ t ∈ ts, (f t).print = t.print) : printRest (ts.map f) = printRest ts := by
  induction ts with
  | nil => rfl
  | cons t ts ih =>
    obtain ⟨ht, hts⟩ := List.forall_mem_cons.mp h
    rw [List.map_cons, printRest, printRest, ht, ih hts]

/-- A variable is written as the name it was linked from. -/
@[simp] theorem print_linkVars (t : TypeRef) : (t.linkVars params owner).print = t.print := by
  induction t with
  | primitive | void | var => rfl
  | array element ih => rw [linkVars, print, print, ih]
  | declared name args ih =>
    cases args with
    | nil =>
      rw [linkVars]
      split <;> rfl
    | cons arg args =>
      obtain ⟨harg, hargs⟩ := List.forall_mem_cons.mp ih
      rw [linkVars_cons, List.map_cons, print, print, harg, printRest_map hargs]

end TypeRef

/-! ## The types of a declaration -/

/-- The types that a method mentions. -/
def MethodDecl.types (m : MethodDecl) : List TypeRef := m.returns :: m.params.map (·.type)

/-- The types that a declaration mentions. -/
def TypeDecl.types (d : TypeDecl) : List TypeRef :=
  d.supertypes ++ d.fields.map (·.type) ++ d.methods.flatMap (·.types)

section Traversal

variable {ε : Type} (f : TypeRef → Except ε TypeRef)

/-- The field with another type, if there is one for it. -/
def FieldDecl.traverseType (field : FieldDecl) : Except ε FieldDecl := do
  return { field with type := ← f field.type }

/-- The parameter with another type, if there is one for it. -/
def ParamDecl.traverseType (p : ParamDecl) : Except ε ParamDecl := do
  return { p with type := ← f p.type }

/-- The method with another type in the place of each of its own, if there is one for each. -/
def MethodDecl.traverseTypes (m : MethodDecl) : Except ε MethodDecl := do
  return { m with
    params := ← m.params.mapM (·.traverseType f)
    returns := ← f m.returns }

/-- The declaration with another type in the place of each of its own, if there is one for each. -/
def TypeDecl.traverseTypes (d : TypeDecl) : Except ε TypeDecl := do
  return { d with
    superclass := ← d.superclass.mapM f
    interfaces := ← d.interfaces.mapM f
    fields := ← d.fields.mapM (·.traverseType f)
    methods := ← d.methods.mapM (·.traverseTypes f) }

end Traversal

/-! ## Undoing a change of all types -/

section Undone

variable {ε : Type} {f : TypeRef → Except ε TypeRef} {g : TypeRef → TypeRef}

theorem MethodDecl.traverseTypes_map {m : MethodDecl} (h : ∀ t ∈ m.types, f (g t) = .ok t) :
    MethodDecl.traverseTypes f
      { m with
        returns := g m.returns
        params := m.params.map fun p => { p with type := g p.type } } = .ok m := by
  obtain ⟨hreturns, hparams⟩ := List.forall_mem_cons.mp h
  have hback : ∀ p ∈ m.params, ParamDecl.traverseType f { p with type := g p.type } = .ok p := by
    intro p hp
    exact bind_eq_ok.mpr ⟨p.type, hparams _ (List.mem_map_of_mem hp), rfl⟩
  exact bind_eq_ok.mpr ⟨m.params, mapM_map_eq_ok hback, bind_eq_ok.mpr ⟨m.returns, hreturns, rfl⟩⟩

/-- What undoes a change of every type of a declaration undoes it in the declaration. -/
theorem TypeDecl.traverseTypes_mapTypes {d : TypeDecl} (h : ∀ t ∈ d.types, f (g t) = .ok t) :
    (d.mapTypes g).traverseTypes f = .ok d := by
  obtain ⟨hrest, hmethods⟩ := List.forall_mem_append.mp h
  obtain ⟨hsupertypes, hfields⟩ := List.forall_mem_append.mp hrest
  obtain ⟨hsuperclass, hinterfaces⟩ := List.forall_mem_append.mp hsupertypes
  have hclass : (d.superclass.map g).mapM f = .ok d.superclass := by
    cases hsuper : d.superclass with
    | none => rfl
    | some t => exact bind_eq_ok.mpr ⟨t, hsuperclass t (by simp [hsuper]), rfl⟩
  have hfield : ∀ field ∈ d.fields,
      FieldDecl.traverseType f { field with type := g field.type } = .ok field := by
    intro field hfield
    exact bind_eq_ok.mpr ⟨field.type, hfields _ (List.mem_map_of_mem hfield), rfl⟩
  have hmethod : ∀ m ∈ d.methods, MethodDecl.traverseTypes f
      { m with
        returns := g m.returns
        params := m.params.map fun p => { p with type := g p.type } } = .ok m := by
    intro m hm
    exact MethodDecl.traverseTypes_map fun t ht => hmethods t (List.mem_flatMap.mpr ⟨m, hm, ht⟩)
  refine bind_eq_ok.mpr ⟨_, hclass, ?_⟩
  refine bind_eq_ok.mpr ⟨_, mapM_map_eq_ok hinterfaces, ?_⟩
  refine bind_eq_ok.mpr ⟨_, mapM_map_eq_ok hfield, ?_⟩
  exact bind_eq_ok.mpr ⟨_, mapM_map_eq_ok hmethod, rfl⟩

end Undone

namespace TypeDecl

theorem mapTypes_mapTypes (f g : TypeRef → TypeRef) (d : TypeDecl) :
    (d.mapTypes g).mapTypes f = d.mapTypes (f ∘ g) := by
  simp [mapTypes, Function.comp_def]

theorem types_mapTypes (f : TypeRef → TypeRef) (d : TypeDecl) :
    (d.mapTypes f).types = d.types.map f := by
  cases hsuper : d.superclass <;>
    simp [types, mapTypes, supertypes, MethodDecl.types, hsuper, List.flatMap_map, List.map_flatMap,
      Function.comp_def]

theorem linked_linked (d : TypeDecl) : d.linked.linked = d.linked := by
  have hlink := funext (TypeRef.linkVars_linkVars d.typeParams d.name)
  exact (mapTypes_mapTypes _ _ d).trans (congrArg (fun f => d.mapTypes f) hlink)

/-- The written form loses nothing. What was read from a text is read from its written form, and
linking a declaration is done once, changes no written form, and gives back the linked declaration
from its types' written forms. -/
theorem parse_print_linked :
    (∀ signature t, TypeRef.parse signature = .ok t → TypeRef.parse t.print = .ok t) ∧
      ∀ d : TypeDecl, (∀ t ∈ d.types, ∃ signature, TypeRef.parse signature = .ok t) →
        d.linked.linked = d.linked ∧
          d.linked.types.map (·.print) = d.types.map (·.print) ∧
            (d.linked.traverseTypes fun t => TypeRef.parse t.print).map (·.linked) =
              .ok d.linked := by
  constructor
  · intro signature t h
    exact (TypeRef.readable_of_parse h).parse_print
  · intro d hd
    refine ⟨d.linked_linked, ?_, ?_⟩
    · rw [linked, types_mapTypes, List.map_map]
      exact List.map_congr_left fun t _ => TypeRef.print_linkVars _ _ t
    · have hback : ∀ t ∈ d.types,
          TypeRef.parse (t.linkVars d.typeParams d.name).print = .ok t := by
        intro t ht
        obtain ⟨signature, hread⟩ := hd t ht
        rw [TypeRef.print_linkVars]
        exact (TypeRef.readable_of_parse hread).parse_print
      exact map_eq_ok.mpr ⟨d, traverseTypes_mapTypes hback, rfl⟩

/-- A declaration `Shelf<T>` that mentions its parameter bare, in an array and as an argument, and
also a class of that name with an argument. -/
def shelf : TypeDecl where
  name := "Shelf"
  typeParams := ["T"]
  superclass := some (.declared "Store" [.simple "T", .array (.simple "T")])
  fields := [{ name := "count", type := .primitive "int" }]
  methods := [{ name := "find", returns := .declared "T" [.simple "T"] }]

theorem parse_print_linked_shelf :
    TypeRef.parse "Store < T,? extends T [ ]>" =
        .ok (.declared "Store" [.simple "T", .array (.simple "T")]) ∧
      TypeRef.parse "Store<T, T[]>" =
        .ok (.declared "Store" [.simple "T", .array (.simple "T")]) ∧
      shelf.linked ≠ shelf ∧
      (shelf.linked.traverseTypes fun t => TypeRef.parse t.print).map (·.linked) =
        .ok shelf.linked := by
  have hread : TypeRef.parse "Store < T,? extends T [ ]>" =
      .ok (.declared "Store" [.simple "T", .array (.simple "T")]) := by decide +kernel
  have htypes : ∀ t ∈ shelf.types, ∃ signature, TypeRef.parse signature = .ok t := by
    simp only [TypeDecl.types, shelf, supertypes, MethodDecl.types, Option.toList, List.append_nil,
      List.map_cons, List.map_nil, List.flatMap_cons, List.flatMap_nil, List.cons_append,
      List.nil_append, List.forall_mem_cons]
    exact ⟨⟨_, hread⟩, ⟨"int", by decide +kernel⟩, ⟨"T<T>", by decide +kernel⟩,
      List.forall_mem_nil _⟩
  have hprint : (TypeRef.declared "Store" [.simple "T", .array (.simple "T")]).print =
      "Store<T, T[]>" := by decide +kernel
  have hagain := parse_print_linked.1 _ _ hread
  rw [hprint] at hagain
  obtain ⟨-, -, hback⟩ := parse_print_linked.2 shelf htypes
  exact ⟨hread, hagain, by decide, hback⟩

end TypeDecl

end DerivedQuery.Types
