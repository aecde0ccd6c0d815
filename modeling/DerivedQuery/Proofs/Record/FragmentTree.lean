import DerivedQuery.Proofs.Record.Fields
import DerivedQuery.Proofs.Statement.Nesting
import DerivedQuery.Record.Tree

/-!
# Reading written fragments

The tree that a fragment is written as has a content of its own, whatever the notation, and that
content is read as the fragment (`fragment_toContent`): fields that were left out have the values
they are given when they are missing.
-/

namespace DerivedQuery.Record

/-! ## Content of trees -/

namespace Tree

mutual

/-- The tree as a content. -/
def toContent : Tree → Content
  | .text value => .text value
  | .flag value => .flag value
  | .list items => .list (itemsToContents items)
  | .record fields => .map (fieldsToContents fields)

/-- The items as contents. -/
def itemsToContents : List Tree → List Content
  | [] => []
  | t :: rest => t.toContent :: itemsToContents rest

/-- The fields as contents. -/
def fieldsToContents : List (String × Tree) → List (Content × Content)
  | [] => []
  | (name, t) :: rest => (.text name, t.toContent) :: fieldsToContents rest

end

end Tree

/-! ## Readings of what was written -/

theorem itemsToContents_eq_map (items : List Tree) :
    Tree.itemsToContents items = items.map Tree.toContent := by
  induction items with
  | nil => rfl
  | cons t items ih => rw [Tree.itemsToContents, ih, List.map_cons]

theorem readingsOfItems_eq_map (items : List Content) :
    Content.readingsOfItems items = items.map Content.readings := by
  induction items with
  | nil => rfl
  | cons c items ih => rw [Content.readingsOfItems, ih, List.map_cons]

/-- What the fields of a record can be read as. -/
def readingsOfFields (fields : List (String × Tree)) : List (String × Readings) :=
  fields.map fun f => (f.1, f.2.toContent.readings)

theorem readingsOfEntries_fieldsToContents (fields : List (String × Tree)) :
    Content.readingsOfEntries (Tree.fieldsToContents fields) =
      (readingsOfFields fields).map fun f => (.text f.1, f.2) := by
  induction fields with
  | nil => rfl
  | cons f fields ih => rw [Tree.fieldsToContents, Content.readingsOfEntries, ih]; rfl

theorem lookup_readingsOfFields (fields : List (String × Tree)) (name : String) :
    (readingsOfFields fields).lookup name =
      (fields.lookup name).map fun t => t.toContent.readings :=
  lookup_map_snd (fun t : Tree => t.toContent.readings) fields name

theorem texts_readings (values : List String) :
    (Tree.texts values).toContent.readings.texts? = some values := by
  show ((Content.readingsOfItems (Tree.itemsToContents (values.map .text))).mapM (·.text?)) = _
  rw [itemsToContents_eq_map, readingsOfItems_eq_map, List.map_map, List.map_map]
  exact mapM_map_eq_some fun _ _ => rfl

/-! ## Fields of fragments -/

theorem ofName_name (kind : FragmentKind) : FragmentKind.ofName? kind.name = some kind := by
  cases kind <;> rfl

theorem nodup_fieldNames (kind : FragmentKind) : kind.fieldNames.Nodup := by
  cases kind <;> decide

theorem type_not_mem_fieldNames (kind : FragmentKind) : "type" ∉ kind.fieldNames := by
  cases kind <;> decide

end DerivedQuery.Record

namespace DerivedQuery

open DerivedQuery.Record

/-- The kind of a fragment. -/
def Fragment.kind : Fragment → FragmentKind
  | .text _ => .text
  | .param _ => .param
  | .when _ _ => .when
  | .trim _ _ => .trim
  | .forEach _ _ => .forEach

/-- The body inside a fragment. -/
def Fragment.inner : Fragment → Body
  | .text _ | .param _ => []
  | .when _ body | .trim _ body | .forEach _ body => body

/-- The fields that are written for a fragment behind its kind. -/
def Fragment.fields : Fragment → List (String × Tree)
  | .text value => [("text", .text value)]
  | .param value => [("name", .text value)]
  | .when test body => [("test", .text test), ("body", .list (bodyToTrees body))]
  | .trim rule body =>
    Tree.textField "prefix" rule.opening ++ Tree.textField "suffix" rule.closing ++
      Tree.textsField "prefix_overrides" rule.openingOverrides ++
      Tree.textsField "suffix_overrides" rule.closingOverrides ++
      [("body", .list (bodyToTrees body))]
  | .forEach rule body =>
    [("collection", .text rule.collection), ("item", .text rule.item), ("open", .text rule.opening),
      ("separator", .text rule.separator), ("close", .text rule.closing),
      ("body", .list (bodyToTrees body))]

theorem Fragment.toTree_eq (f : Fragment) :
    f.toTree = .record (("type", .text f.kind.name) :: f.fields) := by
  cases f <;> rfl

namespace Record

/-- A tagged record is read as the fragment that its fields make. -/
theorem fragmentOfEntries_tagged {kindOf : Readings → Option FragmentKind} {kind : FragmentKind}
    {tag : Readings} (hkind : kindOf tag = some kind) {fields : List (String × Readings)}
    (hnames : List.Sublist (fields.map (·.1)) kind.fieldNames) :
    fragmentOfEntries kindOf ((.text "type", tag) :: fields.map fun f => (.text f.1, f.2)) =
      assemble kind (kind.fieldNames.map fun name => fields.lookup name) := by
  have htype : ∀ entry ∈ fields.map fun f => (Content.text f.1, f.2), ¬entry.1.isTag = true := by
    intro entry hentry
    obtain ⟨f, hf, rfl⟩ := List.mem_map.mp hentry
    intro htag
    have hname : f.1 = "type" := eq_of_beq htag
    exact type_not_mem_fieldNames kind (hname ▸ hnames.subset (List.mem_map_of_mem hf))
  have htag : ((.text "type", tag) :: fields.map fun f => (Content.text f.1, f.2)).filter
      (·.1.isTag) = [(.text "type", tag)] := by
    rw [List.filter_cons_of_pos (by rfl), List.filter_eq_nil_iff.mpr htype]
  have hrest : ((.text "type", tag) :: fields.map fun f => (Content.text f.1, f.2)).filter
      (!·.1.isTag) = fields.map fun f => (Content.text f.1, f.2) := by
    rw [List.filter_cons_of_neg (by simp [Content.isTag])]
    exact List.filter_eq_self.mpr fun entry hentry => by simpa using htype entry hentry
  have hplaces : (fields.map fun f => (Content.text f.1, f.2)).mapM
      (fun x => (x.1.place? kind.fieldNames).map (·, x.2)) =
        some (fields.map fun f => (kind.fieldNames.idxOf? f.1, f.2)) := by
    rw [List.mapM_map]
    exact mapM_eq_some_map fun _ _ => rfl
  have hfill := fillPlaces_named (nodup_fieldNames kind) ((nodup_fieldNames kind).sublist hnames)
  unfold fragmentOfEntries
  rw [htag, hrest]
  simp only [hkind, hplaces, hfill, Option.bind_eq_bind, Option.bind_some]

/-! ### Fields that were left out -/

theorem lookup_textField (name value other : String) :
    (Tree.textField name value).lookup other =
      if other = name ∧ value ≠ "" then some (.text value) else none := by
  unfold Tree.textField
  by_cases hvalue : value = ""
  · simp [hvalue]
  · by_cases hname : other = name
    · simp [hvalue, hname]
    · simp [hvalue, hname]

theorem lookup_textsField (name other : String) (values : List String) :
    (Tree.textsField name values).lookup other =
      if other = name ∧ values ≠ [] then some (Tree.texts values) else none := by
  unfold Tree.textsField
  by_cases hvalues : values = []
  · simp [hvalues]
  · by_cases hname : other = name
    · simp [hvalues, hname]
    · simp [hvalues, hname]

/-- A text is read back, whether it was written or left out because it is empty. -/
theorem orElse_text (value : String) :
    orElse "" (·.text?)
        ((if value ≠ "" then some (Tree.text value) else none).map (·.toContent.readings)) =
      some value := by
  by_cases h : value = ""
  · rw [if_neg (not_not.mpr h), h]
    rfl
  · rw [if_pos h]
    rfl

/-- Texts are read back, whether they were written or left out because there are none. -/
theorem orElse_texts (values : List String) :
    orElse [] (·.texts?)
        ((if values ≠ [] then some (Tree.texts values) else none).map (·.toContent.readings)) =
      some values := by
  by_cases h : values = []
  · rw [if_neg (not_not.mpr h), h]
    rfl
  · rw [if_pos h]
    exact texts_readings values

theorem sublist_textField (name value : String) :
    List.Sublist ((Tree.textField name value).map (·.1)) [name] := by
  unfold Tree.textField
  split
  · exact List.nil_sublist _
  · exact List.Sublist.refl _

theorem sublist_textsField (name : String) (values : List String) :
    List.Sublist ((Tree.textsField name values).map (·.1)) [name] := by
  unfold Tree.textsField
  split
  · exact List.nil_sublist _
  · exact List.Sublist.refl _

theorem sublist_fields (f : Fragment) : List.Sublist (f.fields.map (·.1)) f.kind.fieldNames := by
  cases f with
  | text | param | when | forEach => exact List.Sublist.refl _
  | trim rule body =>
    simp only [Fragment.fields, List.map_append]
    exact ((((sublist_textField _ _).append (sublist_textField _ _)).append
      (sublist_textsField _ _)).append (sublist_textsField _ _)).append (List.Sublist.refl ["body"])

/-! ## Reading a fragment -/

/-- The fields of a fragment make the fragment, if its body is read back. -/
theorem assemble_fields (f : Fragment)
    (hbody : (Tree.list (bodyToTrees f.inner)).toContent.readings.body? = some f.inner) :
    assemble f.kind (f.kind.fieldNames.map fun name => (readingsOfFields f.fields).lookup name) =
      some f := by
  simp only [lookup_readingsOfFields]
  cases f with
  | text | param => rfl
  | when test body =>
    replace hbody : (Tree.list (bodyToTrees body)).toContent.readings.body? = some body := hbody
    show ((Tree.list (bodyToTrees body)).toContent.readings.body?.bind fun inner =>
      some (Fragment.when test inner)) = _
    rw [hbody]
    rfl
  | forEach rule body =>
    replace hbody : (Tree.list (bodyToTrees body)).toContent.readings.body? = some body := hbody
    show ((Tree.list (bodyToTrees body)).toContent.readings.body?.bind fun inner =>
      some (Fragment.forEach rule inner)) = _
    rw [hbody]
    rfl
  | trim rule body =>
    replace hbody : (Tree.list (bodyToTrees body)).toContent.readings.body? = some body := hbody
    -- any field but the body may have been left out
    have hlookups : (Fragment.trim rule body).kind.fieldNames.map (fun name =>
        (Fragment.trim rule body).fields.lookup name) = [
          if rule.opening ≠ "" then some (.text rule.opening) else none,
          if rule.closing ≠ "" then some (.text rule.closing) else none,
          if rule.openingOverrides ≠ [] then some (.texts rule.openingOverrides) else none,
          if rule.closingOverrides ≠ [] then some (.texts rule.closingOverrides) else none,
          some (.list (bodyToTrees body))] := by
      simp [Fragment.kind, Fragment.fields, FragmentKind.fieldNames, List.lookup_append,
        List.lookup_cons, lookup_textField, lookup_textsField]
    have hreadings := congrArg (List.map fun (field : Option Tree) =>
      field.map fun t => t.toContent.readings) hlookups
    rw [List.map_map] at hreadings
    refine (congrArg (assemble .trim) hreadings).trans ?_
    simp only [List.map_cons, List.map_nil, assemble, orElse_text, orElse_texts, needed,
      Option.map_some, Option.bind_some, Option.bind_eq_bind, hbody]
    rfl

/-- A written fragment is read back, whichever way its kind is read. -/
theorem fragmentOfEntries_toTree {kindOf : Readings → Option FragmentKind}
    (hkind : ∀ name, kindOf (Content.text name).readings = FragmentKind.ofName? name) (f : Fragment)
    (hbody : (Tree.list (bodyToTrees f.inner)).toContent.readings.body? = some f.inner) :
    fragmentOfEntries kindOf (Content.readingsOfEntries
        (Tree.fieldsToContents (("type", .text f.kind.name) :: f.fields))) =
      some f := by
  have htag : kindOf (Tree.text f.kind.name).toContent.readings = some f.kind := by
    rw [← ofName_name f.kind]
    exact hkind f.kind.name
  have hnames : List.Sublist ((readingsOfFields f.fields).map (·.1)) f.kind.fieldNames := by
    have hsame : (readingsOfFields f.fields).map (·.1) = f.fields.map (·.1) := by
      rw [readingsOfFields, List.map_map]
      rfl
    rw [hsame]
    exact sublist_fields f
  rw [readingsOfEntries_fieldsToContents]
  exact (fragmentOfEntries_tagged htag hnames).trans (assemble_fields f hbody)

mutual

/-- The content of a written fragment is read as the fragment inside another content. -/
theorem fragment_readings (f : Fragment) : f.toTree.toContent.readings.fragment? = some f := by
  have hbody : (Tree.list (bodyToTrees f.inner)).toContent.readings.body? = some f.inner := by
    match f with
    | .text _ | .param _ => rfl
    | .when _ body | .trim _ body | .forEach _ body => exact body_readings body
  rw [f.toTree_eq]
  exact fragmentOfEntries_toTree (fun _ => rfl) f hbody

/-- The content of a written body is read as the body. -/
theorem body_readings (body : List Fragment) :
    (Tree.list (bodyToTrees body)).toContent.readings.body? = some body := by
  match body with
  | [] => rfl
  | f :: fs =>
    have hf := fragment_readings f
    have hfs : (Content.readingsOfItems (Tree.itemsToContents (bodyToTrees fs))).mapM
        (·.fragment?) = some fs := body_readings fs
    show (f.toTree.toContent.readings ::
      Content.readingsOfItems (Tree.itemsToContents (bodyToTrees fs))).mapM (·.fragment?) = _
    rw [List.mapM_cons, hf, hfs]
    rfl

end

/-- The content of a written fragment is read as the fragment. -/
theorem fragment_toContent (f : Fragment) : f.toTree.toContent.fragment? = some f := by
  have hread := @fragmentOfEntries_toTree (·.text?.bind FragmentKind.ofName?) (fun _ => rfl) f
    (body_readings f.inner)
  rw [f.toTree_eq]
  exact hread

end Record

end DerivedQuery
