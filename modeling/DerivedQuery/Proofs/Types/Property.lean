import DerivedQuery.Proofs.Naming.Capitalize
import DerivedQuery.Proofs.Types.Bean

/-!
# Properties that classes are built with

A class that is built with a property has the field and its two accessors, whatever is added to the
class before and afterwards. Every bean with the class in its hierarchy then has the property,
provided that the accessors' names stand for it: `neverLost_iff` says for which names they do, and
`lost_x_axis` is a property that no bean has.
-/

namespace DerivedQuery.Types

open DerivedQuery.Naming

/-! ## Building a class -/

/-- One step of building a declaration. -/
inductive TypeDecl.Step : TypeDecl → TypeDecl → Prop
  | typeParams (d : TypeDecl) (params : List String) : Step d { d with typeParams := params }
  | superclass (d : TypeDecl) (t : TypeRef) : Step d { d with superclass := some t }
  | interface (d : TypeDecl) (t : TypeRef) : Step d (d.addInterface t)
  | field (d : TypeDecl) (f : FieldDecl) : Step d (d.addField f)
  | method (d : TypeDecl) (m : MethodDecl) : Step d (d.addMethod m)
  | linked (d : TypeDecl) : Step d d.linked

/-- Whether a declaration has a field and the two accessors that are built for it. -/
structure TypeDecl.HasProperty (d : TypeDecl) (property : String) : Prop where
  field : property ∈ d.fields.map (·.name)
  getter : "get" ++ capitalize property ∈ d.methods.map (·.name)
  setter : "set" ++ capitalize property ∈ d.methods.map (·.name)

theorem TypeDecl.hasProperty_addProperty (d : TypeDecl) (property : String) (type : TypeRef) :
    (d.addProperty property type).HasProperty property where
  field := by simp [addProperty, addField, addGetter, addSetter, addMethod]
  getter := by simp [addProperty, addField, addGetter, addSetter, addMethod]
  setter := by simp [addProperty, addField, addGetter, addSetter, addMethod]

/-- No step of building takes a property away. -/
theorem TypeDecl.HasProperty.step {d d' : TypeDecl} {property : String}
    (h : d.HasProperty property) (hstep : d.Step d') : d'.HasProperty property := by
  have hgrows : (∀ name ∈ d.fields.map (·.name), name ∈ d'.fields.map (·.name)) ∧
      ∀ name ∈ d.methods.map (·.name), name ∈ d'.methods.map (·.name) := by
    cases hstep with
    | typeParams | superclass | interface => exact ⟨fun _ => id, fun _ => id⟩
    | field f => exact ⟨fun name hname => by simp_all [addField], fun _ => id⟩
    | method m => exact ⟨fun _ => id, fun name hname => by simp_all [addMethod]⟩
    | linked =>
      exact ⟨fun name hname => by simp_all [linked, mapTypes],
        fun name hname => by simp_all [linked, mapTypes]⟩
  exact ⟨hgrows.1 _ h.field, hgrows.2 _ h.getter, hgrows.2 _ h.setter⟩

theorem TypeDecl.HasProperty.steps {d d' : TypeDecl} {property : String}
    (h : d.HasProperty property) (hsteps : Relation.ReflTransGen TypeDecl.Step d d') :
    d'.HasProperty property := by
  induction hsteps with
  | refl => exact h
  | tail _ hstep ih => exact ih.step hstep

/-! ## Accessors that stand for their property -/

/-- A method with the name that is built for an accessor is one just in case the property is named
in one line and its first character can be recovered. -/
theorem MethodDecl.accesses_iff {m : MethodDecl} {word property : String}
    (hname : m.name = word ++ capitalize property) : m.Accesses word property ↔
      property ≠ "" ∧ '\n' ∉ property.toList ∧ isRecoverable property = true := by
  rw [← decapitalize_capitalize_iff, ← lineFeed_mem_capitalize, ne_eq, ← capitalize_eq_empty]
  constructor
  · rintro ⟨stem, hstem, hline⟩
    obtain rfl : stem = capitalize property := by
      simpa [← String.toList_inj] using hstem.symm.trans hname
    exact hline
  · exact fun hline => ⟨_, hname, hline⟩

theorem TypeTable.InHierarchy.contains {table : TypeTable} {name : String} {args : List TypeRef}
    {d : TypeDecl} (h : table.InHierarchy (.declared name args) d) :
    table.contains name = true := by
  obtain ⟨u, hu, other, herasure, hfind⟩ := h
  cases hname : table.find? name with
  | some d => rw [TypeTable.contains, hname, Option.isSome_some]
  | none =>
    have hclosure : table.closure (.declared name args) = [] := by
      rw [TypeTable.closure, TypeTable.supertypes, hname, TypeTable.walk]
    rw [hclosure, List.mem_singleton] at hu
    subst hu
    cases herasure
    rw [hname] at hfind
    cases hfind

/-! ## Properties of beans -/

/-- Whether no bean loses a property of a name: where a class is built with it, in any order of
steps, all types with the class in their hierarchy resolve to beans with the property, unless they
are iterable or opaque. -/
def NeverLost (property : String) : Prop :=
  ∀ (r : Resolver) (owner type : TypeRef) (start d : TypeDecl) (name : String)
    (args : List TypeRef),
    Relation.ReflTransGen TypeDecl.Step (start.addProperty property type) d →
    r.table.InHierarchy (.declared name args) d →
    r.isIterable (.declared name args) = false → r.isOpaque name = false →
    ∃ fields, r.resolve owner (.declared name args) = .ok (.bean name fields) ∧
      ∃ b ∈ fields, b.name = property

/-- A class with a single property. -/
def point (property : String) : TypeDecl :=
  ({ name := "Point" } : TypeDecl).addProperty property (.primitive "int")

/-- The resolver of a table with nothing but the class. -/
def pointResolver (property : String) : Resolver where
  table := TypeTable.empty.insert (point property)
  naming := id

theorem find?_point (property : String) :
    (pointResolver property).table.find? "Point" = some (point property) :=
  TypeTable.find?_insert_self TypeTable.empty (point property)

theorem closure_point (property : String) :
    (pointResolver property).table.closure (.simple "Point") = [] := by
  have hsupertypes : (pointResolver property).table.supertypes (.declared "Point" []) = [] := by
    rw [TypeTable.supertypes, find?_point]
    rfl
  rw [TypeTable.closure, TypeRef.simple, hsupertypes, TypeTable.walk]

theorem isIterable_point (property : String) :
    (pointResolver property).isIterable (.simple "Point") = false := by
  rw [Resolver.isIterable, closure_point]
  rfl

theorem isOpaque_point (property : String) : (pointResolver property).isOpaque "Point" = false := by
  show (defaultOpaquePrefixes.any fun p => p.toList.isPrefixOf "Point".toList) = false
  decide

theorem resolve_point (property : String) (owner : TypeRef) :
    (pointResolver property).resolve owner (.simple "Point") =
      .ok (.bean "Point" ((pointResolver property).beanFields [point property])) := by
  have hdeclared : (pointResolver property).table.contains "Point" = true := by
    rw [TypeTable.contains, find?_point, Option.isSome_some]
  have hlineage : (pointResolver property).lineage (.declared "Point" []) = [point property] := by
    rw [Resolver.lineage, ← TypeRef.simple, closure_point]
    simp [TypeRef.simple, TypeRef.erasure?, find?_point]
  rw [TypeRef.simple, resolve_bean (isIterable_point property) (isOpaque_point property),
    Resolver.resolveBean, if_pos hdeclared, hlineage]

/-- **Which properties are never lost.** The accessors that are built for a property stand for it
just in case its name is one line, as identifiers are, and its first character can be recovered from
its capital; a property of any other name is lost already by a class with nothing else. -/
theorem neverLost_iff (property : String) : NeverLost property ↔
    property ≠ "" ∧ '\n' ∉ property.toList ∧ isRecoverable property = true := by
  constructor
  · intro h
    have hbuilt : Relation.ReflTransGen TypeDecl.Step (point property) (point property) := .refl
    have hmem : (pointResolver property).table.InHierarchy (.simple "Point") (point property) :=
      ⟨_, .head _, "Point", rfl, find?_point property⟩
    obtain ⟨fields, hresolve, hkept⟩ :=
      h _ .void _ _ _ _ _ hbuilt hmem (isIterable_point property) (isOpaque_point property)
    rw [← TypeRef.simple, resolve_point] at hresolve
    cases hresolve
    obtain ⟨-, ⟨d, hd, m, hm, haccess⟩, -⟩ := Resolver.exists_mem_beanFields.mp hkept
    obtain rfl := List.mem_singleton.mp hd
    rcases List.mem_pair.mp hm with rfl | rfl
    · exact (MethodDecl.accesses_iff rfl).mp haccess
    · -- the setter's name does not start with the word of a getter
      obtain ⟨stem, hname, -⟩ := haccess
      simp [← String.toList_inj] at hname
  · intro hline r owner type start d name args hbuilt hmem hiterable hscalar
    have hproperty := (start.hasProperty_addProperty property type).steps hbuilt
    refine ⟨r.beanFields (r.lineage (.declared name args)), ?_, ?_⟩
    · rw [resolve_bean hiterable hscalar, Resolver.resolveBean, if_pos hmem.contains]
    · have hd := Resolver.mem_lineage.mpr hmem
      obtain ⟨f, hf, hfield⟩ := List.mem_map.mp hproperty.field
      obtain ⟨getter, hgetter, hget⟩ := List.mem_map.mp hproperty.getter
      obtain ⟨setter, hsetter, hset⟩ := List.mem_map.mp hproperty.setter
      exact Resolver.exists_mem_beanFields.mpr ⟨⟨d, hd, f, hf, hfield⟩,
        ⟨d, hd, getter, hgetter, (MethodDecl.accesses_iff hget).mpr hline⟩,
        ⟨d, hd, setter, hsetter, (MethodDecl.accesses_iff hset).mpr hline⟩⟩

/-- **A property that is lost.** The accessors of `xAxis` stand for an acronym, so the bean has
nothing to read. -/
theorem lost_x_axis :
    (pointResolver "xAxis").isIterable (.simple "Point") = false ∧
      (pointResolver "xAxis").isOpaque "Point" = false ∧
      (pointResolver "xAxis").resolve (.simple "PointMapper") (.simple "Point") =
        .ok (.bean "Point" []) := by
  refine ⟨isIterable_point _, isOpaque_point _, ?_⟩
  rw [resolve_point]
  decide

end DerivedQuery.Types
