import DerivedQuery.Proofs.Firsts
import DerivedQuery.Proofs.Types.Inherited
import Mathlib

/-!
# The properties of a bean

A bean has a property for every field in its hierarchy for which the hierarchy has both accessors,
on whatever levels the three are declared (`resolve_bean_properties`). The fields of all levels are
gathered first and the first one of a name is kept, so no property occurs twice, and a column and
the marker of a generated key come from one declaration.
-/

namespace DerivedQuery.Types

open DerivedQuery.Naming

/-- Whether a declaration is that of a type or of a supertype of it, near or far. -/
def TypeTable.InHierarchy (table : TypeTable) (t : TypeRef) (d : TypeDecl) : Prop :=
  ∃ u ∈ t :: table.closure t, ∃ name, u.erasure? = some name ∧ table.find? name = some d

/-! ## Accessors -/

theorem accessorStem?_append (word stem : String) :
    accessorStem? word (word ++ stem) =
      if stem = "" ∨ '\n' ∈ stem.toList then none else some stem := by
  have hprefix : word.toList.isPrefixOf (word ++ stem).toList = true := by
    rw [String.toList_append, List.isPrefixOf_iff_prefix]
    exact List.prefix_append _ _
  have hdrop : (word ++ stem).toList.drop word.length = stem.toList := by
    rw [String.toList_append, ← String.length_toList, List.drop_left]
  have hempty : stem = "" ↔ stem.toList = [] := by rw [← String.toList_inj]; rfl
  simp only [accessorStem?, hprefix, hdrop, hempty, if_true, String.ofList_toList,
    Bool.or_eq_true, List.isEmpty_iff, List.contains_iff_mem]

/-- The stem of a method's name is all that follows the word, if that is a line of text. -/
theorem accessorStem?_eq_some {word name stem : String} :
    accessorStem? word name = some stem ↔
      name = word ++ stem ∧ stem ≠ "" ∧ '\n' ∉ stem.toList := by
  by_cases hprefix : ∃ rest, name = word ++ rest
  · obtain ⟨rest, rfl⟩ := hprefix
    rw [accessorStem?_append]
    constructor
    · intro h
      split at h
      · cases h
      next hline =>
        cases h
        exact ⟨rfl, not_or.mp hline⟩
    · rintro ⟨happend, hline⟩
      obtain rfl : rest = stem := by simpa [← String.toList_inj] using happend
      rw [if_neg (not_or.mpr hline)]
  · refine iff_of_false (fun h => hprefix ?_) fun h => hprefix ⟨stem, h.1⟩
    unfold accessorStem? at h
    split at h
    next hword =>
      obtain ⟨rest, hrest⟩ := List.isPrefixOf_iff_prefix.mp hword
      refine ⟨String.ofList rest, ?_⟩
      rw [← String.toList_inj, String.toList_append, String.toList_ofList, hrest]
    · cases h

/-- Whether a method is an accessor of a property: its name is the word with a stem behind it that
stands for the property, be its first letter capital or not. -/
def MethodDecl.Accesses (m : MethodDecl) (word property : String) : Prop :=
  ∃ stem, m.name = word ++ stem ∧ stem ≠ "" ∧ '\n' ∉ stem.toList ∧
    decapitalize stem = decapitalize property

namespace Resolver

theorem mem_accessorProperties {word property : String} {decls : List TypeDecl} :
    decapitalize property ∈ accessorProperties word decls ↔
      ∃ d ∈ decls, ∃ m ∈ d.methods, m.Accesses word property := by
  simp only [accessorProperties, List.mem_filterMap, List.mem_flatMap, Option.map_eq_some_iff,
    accessorStem?_eq_some, MethodDecl.Accesses]
  constructor
  · rintro ⟨m, ⟨d, hd, hm⟩, stem, ⟨hname, hne, hline⟩, hproperty⟩
    exact ⟨d, hd, m, hm, stem, hname, hne, hline, hproperty⟩
  · rintro ⟨d, hd, m, hm, stem, hname, hne, hline, hproperty⟩
    exact ⟨m, ⟨d, hd, hm⟩, stem, ⟨hname, hne, hline⟩, hproperty⟩

/-! ## Properties -/

variable {r : Resolver} {decls : List TypeDecl}

/-- Whether some declarations have both accessors of a property. -/
def Accessible (decls : List TypeDecl) (property : String) : Prop :=
  (∃ d ∈ decls, ∃ m ∈ d.methods, m.Accesses "get" property) ∧
    ∃ d ∈ decls, ∃ m ∈ d.methods, m.Accesses "set" property

/-- Whether the accessors of a field are among the methods of some declarations. -/
def isAccessible (decls : List TypeDecl) (f : FieldDecl) : Bool :=
  (accessorProperties "get" decls).contains (decapitalize f.name) &&
    (accessorProperties "set" decls).contains (decapitalize f.name)

theorem isAccessible_iff {f : FieldDecl} :
    isAccessible decls f = true ↔ Accessible decls f.name := by
  rw [isAccessible, Bool.and_eq_true, List.contains_iff_mem, List.contains_iff_mem,
    mem_accessorProperties, mem_accessorProperties]
  rfl

/-- The properties of a bean are read off the fields that count, where they are accessible. -/
theorem beanFields_eq (r : Resolver) (decls : List TypeDecl) :
    r.beanFields decls = ((firstsBy FieldDecl.name (decls.flatMap (·.fields))).filter
      (isAccessible decls)).map r.beanField := by
  rw [beanFields, firstByName_eq, ← List.filterMap_eq_map, ← List.filterMap_eq_filter,
    List.filterMap_filterMap]
  refine List.filterMap_congr fun f _ => ?_
  by_cases h : isAccessible decls f = true
  · rw [Option.guard, if_pos h]
    exact if_pos h
  · rw [Option.guard, if_neg h]
    exact if_neg h

theorem mem_beanFields {b : BeanField} :
    b ∈ r.beanFields decls ↔
      ∃ f ∈ firstsBy FieldDecl.name (decls.flatMap (·.fields)), Accessible decls f.name ∧
        r.beanField f = b := by
  simp only [beanFields_eq, List.mem_map, List.mem_filter, isAccessible_iff, and_assoc]

/-- A bean has a property of a name if a field has the name and the property is accessible. -/
theorem exists_mem_beanFields {name : String} :
    (∃ b ∈ r.beanFields decls, b.name = name) ↔
      (∃ d ∈ decls, ∃ f ∈ d.fields, f.name = name) ∧ Accessible decls name := by
  constructor
  · rintro ⟨b, hb, rfl⟩
    obtain ⟨f, hf, haccessible, rfl⟩ := mem_beanFields.mp hb
    obtain ⟨d, hd, hfield⟩ := List.mem_flatMap.mp (mem_of_mem_firstsBy hf)
    exact ⟨⟨d, hd, f, hfield, rfl⟩, haccessible⟩
  · rintro ⟨⟨d, hd, f, hf, rfl⟩, haccessible⟩
    obtain ⟨g, hg, hname⟩ :=
      exists_mem_firstsBy FieldDecl.name (List.mem_flatMap.mpr ⟨d, hd, hf⟩)
    exact ⟨r.beanField g, mem_beanFields.mpr ⟨g, hg, by rwa [hname], rfl⟩, hname⟩

theorem nodup_beanFields : ((r.beanFields decls).map (·.name)).Nodup := by
  have hnames : (r.beanFields decls).map (·.name) =
      ((firstsBy FieldDecl.name (decls.flatMap (·.fields))).filter (isAccessible decls)).map
        FieldDecl.name := by
    rw [beanFields_eq, List.map_map]
    rfl
  rw [hnames]
  exact (nodup_firstsBy _ _).sublist (List.filter_sublist.map _)

/-! ## Types that are beans -/

/-- What a type stands for as seen from an owner: a declared type for itself, a variable for what
the argument that the owner supplies stands for. -/
inductive StandsFor (r : Resolver) (owner : TypeRef) : TypeRef → TypeRef → Prop
  | declared (name : String) (args : List TypeRef) :
    StandsFor r owner (.declared name args) (.declared name args)
  | var {name declaring : String} {arg t : TypeRef}
    (argument : r.argument? owner name declaring = some arg) (further : StandsFor r owner arg t) :
    StandsFor r owner (.var name declaring) t

theorem mem_lineage {t : TypeRef} {d : TypeDecl} :
    d ∈ r.lineage t ↔ r.table.InHierarchy t d := by
  rw [lineage, List.mem_filterMap, TypeTable.InHierarchy]
  refine exists_congr fun u => and_congr ?_ Option.bind_eq_some_iff
  rw [List.mem_append, List.mem_reverse, List.mem_singleton, List.mem_cons, or_comm]

/-- What resolves to a bean stands for a declared type, and has the properties of its lineage. -/
theorem standsFor_of_resolveAt {owner type : TypeRef} {depth : Nat} {met : List (String × String)}
    {name : String} {fields : List BeanField}
    (h : r.resolveAt owner depth met type = .ok (.bean name fields)) :
    ∃ args, r.StandsFor owner type (.declared name args) ∧
      fields = r.beanFields (r.lineage (.declared name args)) := by
  fun_induction r.resolveAt owner depth met type with
  | case1 | case2 | case3 | case5 | case7 | case9 | case10 => cases h
  | case4 =>
    obtain ⟨d, -, hd⟩ := map_eq_ok.mp h
    cases hd
  | case6 =>
    obtain ⟨d, -, hd⟩ := map_eq_ok.mp h
    cases hd
  | case8 depth met _ other args =>
    rw [resolveBean] at h
    split at h
    · cases h
      exact ⟨args, .declared name args, rfl⟩
    · cases h
  | case11 _ _ _ _ _ _ _ hargument ih =>
    obtain ⟨args, hstands, hfields⟩ := ih h
    exact ⟨args, .var hargument hstands, hfields⟩

/-- The properties of a bean: one for each field of its hierarchy to which the hierarchy has both
accessors, with the column and the marker of one declaration. -/
structure PropertiesOf (r : Resolver) (t : TypeRef) (fields : List BeanField) : Prop where
  nodup : (fields.map (·.name)).Nodup
  /-- The field and the accessors may be declared on different levels. -/
  exists_iff : ∀ name, (∃ b ∈ fields, b.name = name) ↔
    (∃ d, r.table.InHierarchy t d ∧ ∃ f ∈ d.fields, f.name = name) ∧
    (∃ d, r.table.InHierarchy t d ∧ ∃ m ∈ d.methods, m.Accesses "get" name) ∧
    (∃ d, r.table.InHierarchy t d ∧ ∃ m ∈ d.methods, m.Accesses "set" name)
  declared : ∀ b ∈ fields, ∃ d, r.table.InHierarchy t d ∧ ∃ f ∈ d.fields, f.name = b.name ∧
    b.column = f.column.getD (r.naming (decapitalize f.name)) ∧ b.generatedKey = f.generatedKey

theorem propertiesOf_beanFields (r : Resolver) (t : TypeRef) :
    r.PropertiesOf t (r.beanFields (r.lineage t)) where
  nodup := nodup_beanFields
  exists_iff name := by
    simp only [exists_mem_beanFields, Accessible, mem_lineage]
  declared b hb := by
    obtain ⟨f, hf, -, rfl⟩ := mem_beanFields.mp hb
    obtain ⟨d, hd, hfield⟩ := List.mem_flatMap.mp (mem_of_mem_firstsBy hf)
    exact ⟨d, mem_lineage.mp hd, f, hfield, rfl, rfl, rfl⟩

end Resolver

/-- **Beans have the properties that can be read and written.** Where a type resolves to a bean, it
stands for a declared type, and the properties are those of that type, whatever its hierarchy is
like. -/
theorem resolve_bean_properties {r : Resolver} {owner type : TypeRef} {name : String}
    {fields : List BeanField} (h : r.resolve owner type = .ok (.bean name fields)) :
    ∃ args, r.StandsFor owner type (.declared name args) ∧
      r.PropertiesOf (.declared name args) fields := by
  obtain ⟨args, hstands, rfl⟩ := Resolver.standsFor_of_resolveAt h
  exact ⟨args, hstands, r.propertiesOf_beanFields _⟩

/-! ## Pages of a library -/

/-- A page has an address on three levels, by an acronym: the field and a method that reads it are
its superclass's, which knows that the database makes addresses up; the method that assigns it is an
interface's, which in turn extends the page and something unknown; and the page redeclares the field
under another column. The size of a resource cannot be assigned. -/
def library : TypeTable := TypeTable.empty.insertAll [
  { name := "Store", kind := .interfaceType, typeParams := ["K"] },
  { name := "Resource"
    fields := [
      { name := "URL", type := .simple "Text", generatedKey := true },
      { name := "size", type := .primitive "int", column := some "bytes" }]
    methods := [
      { name := "getURL", returns := .simple "Text" },
      { name := "getSize", returns := .primitive "int" }] },
  { name := "Linked", kind := .interfaceType, interfaces := [.simple "Page", .simple "Unknown"]
    methods := [{ name := "setURL", params := [{ name := "url", type := .simple "Text" }] }] },
  ({ name := "Page", superclass := some (.simple "Resource"), interfaces := [.simple "Linked"]
     fields := [{ name := "URL", type := .simple "Text", column := some "address" }] } :
    TypeDecl).addProperty "title" (.simple "Text"),
  { name := "PageMapper", kind := .interfaceType
    interfaces := [.declared "Store" [.simple "Page"]] }]

/-- The resolver of the library. -/
def libraryResolver : Resolver where
  table := library
  naming := Style.lowerUnderScore.convert

theorem closure_page : libraryResolver.table.closure (.simple "Page") =
    [.simple "Resource", .simple "Linked", .simple "Unknown"] := by
  cbv

/-- A page has an address and a title. -/
theorem resolve_page (owner : TypeRef) : libraryResolver.resolve owner (.simple "Page") =
    .ok (.bean "Page" [⟨"URL", "url", true⟩, ⟨"title", "title", false⟩]) := by
  refine resolve_of_closure _ closure_page ?_ ?_ ?_ ?_ _ <;> decide

/-- What a store of the library keeps is a page. -/
theorem resolve_stored_page :
    libraryResolver.resolve (.simple "PageMapper") (.var "K" "Store") =
      .ok (.bean "Page" [⟨"URL", "url", true⟩, ⟨"title", "title", false⟩]) := by
  have hargument : libraryResolver.argument? (.simple "PageMapper") "K" "Store" =
      some (.simple "Page") := by
    cbv
  have hclosed : (TypeRef.simple "Page").Closed := rfl
  rw [Resolver.resolve, Resolver.resolveAt_var (by decide) List.not_mem_nil hargument,
    Resolver.resolveAt_closed hclosed _ []]
  exact resolve_page _

theorem resolve_bean_properties_stored_page :
    libraryResolver.resolve (.simple "PageMapper") (.var "K" "Store") =
        .ok (.bean "Page" [⟨"URL", "url", true⟩, ⟨"title", "title", false⟩]) ∧
      ∃ args, libraryResolver.StandsFor (.simple "PageMapper") (.var "K" "Store")
          (.declared "Page" args) ∧
        libraryResolver.PropertiesOf (.declared "Page" args)
          [⟨"URL", "url", true⟩, ⟨"title", "title", false⟩] :=
  ⟨resolve_stored_page, resolve_bean_properties resolve_stored_page⟩

end DerivedQuery.Types
