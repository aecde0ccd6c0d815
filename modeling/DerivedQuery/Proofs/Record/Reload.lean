import DerivedQuery.Proofs.Record.Depth

/-!
# Loading written documents

What was written as a record is read as it was from any value that shows it (`Shows.document`), the
fields included that were left out as they are unset. So a lawful text layer loads a document that
it wrote as it was (`load_write`), as long as the fragments of its statements are nested no deeper
than the layer reads.
-/

namespace DerivedQuery.Record

theorem lookup_optionalField (name other : String) (value : Option String) :
    (Tree.optionalField name value).lookup other =
      if other = name then value.map .text else none := by
  cases value with
  | none => exact (ite_self none).symm
  | some value =>
    by_cases hname : other = name
    · simp [Tree.optionalField, hname]
    · simp [Tree.optionalField, hname]

theorem sublist_optionalField (name : String) (value : Option String) :
    List.Sublist ((Tree.optionalField name value).map (·.1)) [name] := by
  cases value with
  | none => exact List.nil_sublist _
  | some value => exact List.Sublist.refl _

theorem bodyToTrees_eq_map (body : Body) : bodyToTrees body = body.map Fragment.toTree := by
  induction body with
  | nil => rfl
  | cons f body ih => rw [bodyToTrees, ih, List.map_cons]

end DerivedQuery.Record

namespace DerivedQuery

open DerivedQuery.Record

/-- The fields that are written for a statement. -/
def Statement.fields (s : Statement) : List (String × Tree) :=
  [("id", .text s.id), ("kind", .text s.kind.tag)] ++
    Tree.optionalField "parameter_type" s.parameterType ++
    Tree.optionalField "result_type" s.resultType ++
    Tree.optionalField "key_property" s.keyProperty ++
    [("generated", .flag s.generated), ("body", .list (bodyToTrees s.body))]

/-- The names of the fields of a statement in order. -/
def Statement.fieldNames : List String :=
  ["id", "kind", "parameter_type", "result_type", "key_property", "generated", "body"]

theorem Statement.toTree_eq (s : Statement) : s.toTree = .record s.fields := rfl

theorem Statement.sublist_fields (s : Statement) :
    List.Sublist (s.fields.map (·.1)) fieldNames := by
  simp only [fields, List.map_append]
  exact ((((List.Sublist.refl ["id", "kind"]).append (sublist_optionalField _ _)).append
    (sublist_optionalField _ _)).append (sublist_optionalField _ _)).append
      (List.Sublist.refl ["generated", "body"])

/-- A field is there unless it is an optional one that is unset. -/
theorem Statement.lookup_fields (s : Statement) :
    fieldNames.map (fun name => s.fields.lookup name) =
      [some (.text s.id), some (.text s.kind.tag), s.parameterType.map .text,
        s.resultType.map .text, s.keyProperty.map .text, some (.flag s.generated),
        some (.list (bodyToTrees s.body))] := by
  simp [fieldNames, fields, List.lookup_append, List.lookup_cons, lookup_optionalField]

namespace Record

section

variable {α β : Type} {s : Source Option α} {v : α}

/-! ## Fields that show what was written -/

/-- What is found under a name shows what was written under it, if anything was. -/
theorem rel_lookup {R : Tree → α → Prop} {fields : List (String × Tree)} {vs : List α}
    (h : List.Forall₂ R (fields.map (·.2)) vs) (name : String) :
    Option.Rel R (fields.lookup name) (((fields.map (·.1)).zip vs).lookup name) := by
  induction fields generalizing vs with
  | nil => exact .none
  | cons f fields ih =>
    obtain _ | ⟨hfirst, hrest⟩ := h
    rw [List.map_cons, List.zip_cons_cons, List.lookup_cons, List.lookup_cons]
    cases name == f.1 with
    | true => exact .some hfirst
    | false => exact ih hrest

theorem Source.Shows.fields {fields : List (String × Tree)} (h : s.Shows (.record fields) v)
    (names : List String) (hnames : names.Nodup)
    (hfields : List.Sublist (fields.map (·.1)) names) :
    ∃ values, s.fields? names v = some values ∧
      List.Forall₂ (Option.Rel s.Shows) (names.map fun name => fields.lookup name) values := by
  cases h with
  | record hcontent hshow htaken =>
    refine ⟨_, htaken names hnames (hnames.sublist hfields), ?_⟩
    rw [List.forall₂_map_left_iff, List.forall₂_map_right_iff]
    exact List.forall₂_same.mpr fun name _ => rel_lookup hshow name

/-! ## Readings of fields -/

variable {field : Option α}

theorem required_text {value : String} (h : Option.Rel s.Shows (some (.text value)) field) :
    Source.required s.text? field = some value := by
  cases h with
  | some h =>
    cases h with
    | text htext => exact htext

theorem required_choice {kind : StatementKind}
    (h : Option.Rel s.Shows (some (.text kind.tag)) field) :
    Source.required (s.choice statementKinds) field = some kind := by
  cases h with
  | some h =>
    cases h with
    | text htext hword =>
      rw [Source.required, Source.choice, hword]
      cases kind <;> rfl

theorem optional_text {value : Option String} (h : Option.Rel s.Shows (value.map .text) field) :
    s.optional s.text? field = some value := by
  cases value with
  | none =>
    cases h
    rfl
  | some value =>
    cases h with
    | some h =>
      cases h with
      | text htext hword hoptional =>
        simp only [Source.optional, hoptional, Option.bind_eq_bind, Option.bind_some, htext]
        rfl

theorem orDefault_flag {value missing : Bool} (h : Option.Rel s.Shows (some (.flag value)) field) :
    Source.orDefault missing s.flag? field = some value := by
  cases h with
  | some h =>
    cases h with
    | flag hflag => exact hflag

/-- Items are read one by one, each from a value that shows it. -/
theorem orDefault_list {read : α → Option β} {write : β → Tree} {items missing : List β}
    (hread : ∀ b w, s.Shows (write b) w → read w = some b)
    (h : Option.Rel s.Shows (some (.list (items.map write))) field) :
    Source.orDefault missing (s.list read) field = some items := by
  cases h with
  | some h =>
    cases h with
    | list htaken hitems =>
      rw [Source.orDefault, Source.list, htaken]
      exact mapM_of_forall₂ ((List.forall₂_map_left_iff.mp hitems).imp hread)

/-! ## Readings of records -/

theorem Source.Shows.fragment {f : Fragment} (h : s.Shows f.toTree v) :
    s.fragment v = some f := by
  rw [f.toTree_eq] at h
  cases h with
  | record hcontent =>
    rw [Source.fragment, hcontent, ← f.toTree_eq]
    exact fragment_toContent f

theorem Source.Shows.statement {st : Statement} (h : s.Shows st.toTree v) :
    s.statement v = some st := by
  rw [st.toTree_eq] at h
  obtain ⟨values, htaken, hvalues⟩ := h.fields Statement.fieldNames (by decide) st.sublist_fields
  rw [st.lookup_fields, bodyToTrees_eq_map] at hvalues
  obtain _ | ⟨hid, _ | ⟨hkind, _ | ⟨hparameter, _ | ⟨hresult, _ | ⟨hkey, _ | ⟨hgenerated,
    _ | ⟨hbody, _ | _⟩⟩⟩⟩⟩⟩⟩ := hvalues
  have hfragments : Source.orDefault [] (s.list s.fragment) _ = some st.body :=
    orDefault_list (fun _ _ hw => hw.fragment) hbody
  rw [Statement.fieldNames] at htaken
  rw [Source.statement, htaken]
  simp only [Option.bind_some, Option.bind_eq_bind, required_text hid, required_choice hkind,
    optional_text hparameter, optional_text hresult, optional_text hkey, orDefault_flag hgenerated,
    hfragments]
  rfl

theorem Source.Shows.document {d : Document} (h : s.Shows d.toTree v) :
    s.document v = some d := by
  obtain ⟨values, htaken, hvalues⟩ :=
    h.fields ["namespace", "statements"] (by decide) (List.Sublist.refl _)
  obtain _ | ⟨hname, _ | ⟨hstatements, _ | _⟩⟩ := hvalues
  have hread : Source.orDefault [] (s.list s.statement) _ = some d.statements :=
    orDefault_list (fun _ _ hw => hw.statement) hstatements
  rw [Source.document, htaken]
  simp only [Option.bind_some, Option.bind_eq_bind, required_text hname, hread]
  rfl

end

/-- A document that was written is loaded as it was, if its statements are not nested too deeply. -/
theorem TextLayer.load_write {l : TextLayer} {n : Nat} (hl : l.Lawful (n + 4)) {d : Document}
    (h : ∀ s ∈ d.statements, Body.levels s.body ≤ n) (overLines : Bool) :
    l.load? (l.write overLines d) = some d := by
  obtain ⟨v, hread, hshows⟩ := hl.reads overLines d.toTree (depth_document h)
  rw [load?, write, hread, Option.bind_some]
  exact hshows.document

end Record

end DerivedQuery
