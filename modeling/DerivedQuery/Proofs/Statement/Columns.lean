import DerivedQuery.Proofs.Generation.Run
import DerivedQuery.Proofs.MethodName.Paths
import DerivedQuery.Proofs.MethodName.RoundTrip
import DerivedQuery.Proofs.Statement.Fragments
import DerivedQuery.Proofs.Types.Resolving

/-!
# The column of a property

Within a statement a property has one column, the one that the bean of the statement maps it to. A
method without such a bean, or with a bean without the property, is left with the naming, which
knows nothing of a column that a declaration gives a field: two methods of a mapper can then take
the same property from different columns (`aged_takes_two_columns`).

Where all beans of a mapper agree on the column of a property, every statement of a run has that
column or the named one, and it depends on the bean alone which (`column_of_property`).
-/

namespace DerivedQuery

open DerivedQuery.MethodName DerivedQuery.Naming DerivedQuery.Types

/-! ## What is written with columns -/

/-- The condition with the columns of properties, or nothing without one. -/
def conditionText (column : PropertyPath → String) (q : Query) (operands : List (List String)) :
    Body :=
  match q.predicate with
  | none => []
  | some p => whereBody column p operands

/-- The order of selected rows with the columns of properties. -/
def orderText (column : PropertyPath → String) (q : Query) : String :=
  match q.operation.selects, q.orderBy with
  | true, some keys =>
    " ORDER BY " ++ ", ".intercalate (keys.map fun key =>
      column key.path ++ " " ++ key.direction.keyword)
  | _, _ => ""

/-- Whether the condition and the order in the body of a statement are written with the columns of
properties. -/
def WrittenWith (column : PropertyPath → String) (q : Query) (m : BoundMethod) (body : Body) :
    Prop :=
  ∃ operands head tail, m.operands q = .ok operands ∧
    body = Body.append
      ((Body.append head (conditionText column q operands)).pushText (orderText column q)) tail

/-- What is written with columns has the text of the condition in it. -/
theorem WrittenWith.condition_infix {column : PropertyPath → String} {q : Query} {m : BoundMethod}
    {body : Body} (h : WrittenWith column q m body) :
    ∃ operands, m.operands q = .ok operands ∧
      (renderBody (conditionText column q operands)).toList <:+: (renderBody body).toList := by
  obtain ⟨operands, head, tail, hoperands, rfl⟩ := h
  refine ⟨operands, hoperands, ?_⟩
  have hordered : (renderBody (Body.append head (conditionText column q operands))).toList <:+:
      (renderBody ((Body.append head (conditionText column q operands)).pushText
        (orderText column q))).toList := by
    unfold Body.pushText
    split
    · exact List.infix_rfl
    · rw [renderBody_push, String.toList_append]
      exact (List.prefix_append _ _).isInfix
  rw [renderBody_append, String.toList_append]
  refine List.IsInfix.trans ?_ (hordered.trans (List.prefix_append _ _).isInfix)
  rw [renderBody_append, String.toList_append]
  exact (List.suffix_append _ _).isInfix

/-- A statement is written with the columns of its bean. -/
theorem writtenWith_of_translate {t : Translator} {q : Query} {m : BoundMethod} {s : Statement}
    (h : t.translate q m = .ok s) :
    WrittenWith (t.column (m.subjectFields q.operation)) q m s.body := by
  obtain ⟨condition, head, tail, hcondition, hbody⟩ := (Translator.translate_assembled h).body
  obtain ⟨operands, hoperands, hcondition⟩ := bind_eq_ok.mp hcondition
  refine ⟨operands, head, tail, hoperands, ?_⟩
  have htext : condition = conditionText (t.column (m.subjectFields q.operation)) q operands := by
    unfold conditionText
    split at hcondition
    · cases hcondition
      simp [*]
    · cases hcondition
      simp [*]
  have horder : (if q.operation.selects then t.orderBy q (m.subjectFields q.operation) else "") =
      orderText (t.column (m.subjectFields q.operation)) q := by
    unfold orderText Translator.orderBy
    cases q.operation.selects <;> cases q.orderBy <;> rfl
  rw [hbody, htext, horder]

/-! ## Columns of a run -/

/-- The column of a property alone: the one of its field, or the named one. -/
theorem columnOf_single (naming : Converter) (fields : List BeanField) (f : String) :
    columnOf naming fields ⟨[f]⟩ =
      ((fields.find? (·.name == f)).map (·.column)).getD (naming f) := by
  have hfirst : (fun b : BeanField => some b.name == (⟨[f]⟩ : PropertyPath).first?) =
      fun b => b.name == f := rfl
  have hnested : (⟨[f]⟩ : PropertyPath).isNested = false := rfl
  rw [columnOf, hnested, hfirst]
  cases fields.find? (·.name == f) with
  | none => rfl
  | some b => rfl

/-- The types that a method binds. -/
def BoundMethod.types (m : BoundMethod) : List Descriptor := m.returns :: m.params.map (·.type)

theorem BoundMethod.exists_type_of_mem_subjectFields {m : BoundMethod} {operation : Operation}
    {b : BeanField} (h : b ∈ m.subjectFields operation) : ∃ d ∈ m.types, b ∈ d.beanFields := by
  have hparam : ∀ p ∈ m.params, p.type ∈ m.types := fun p hp => .tail _ (List.mem_map_of_mem hp)
  have hentity : b ∈ m.entityFields → ∃ d ∈ m.types, b ∈ d.beanFields := by
    intro h
    unfold entityFields at h
    split at h
    next p hfind => exact ⟨p.type, hparam p (List.mem_of_find?_eq_some hfind), h⟩
    · exact ⟨m.returns, .head _, h⟩
  cases operation with
  | update =>
    cases hfind : m.plainBean? with
    | none =>
      rw [subjectFields, hfind] at h
      cases h
    | some p =>
      rw [subjectFields, hfind] at h
      exact ⟨p.type, hparam p (List.mem_of_find?_eq_some hfind), h⟩
  | find | get | count | «exists» | page | delete | insert => exact hentity h

namespace Manifest

/-- Whether all beans that the candidates bind map a property to a column, as far as they have
it. -/
def Maps (m : Manifest) (f column : String) : Prop :=
  ∀ k ∈ candidates m.typeTable m.mapper, ∀ derived, m.derive k = .ok derived →
    ∀ d ∈ derived.method.types, ∀ b ∈ d.beanFields, b.name = f → b.column = column

/-- The column of a property for which no declaration gives one. -/
def namedColumn (m : Manifest) (f : String) : String := m.settings.naming.convert (decapitalize f)

end Manifest

/-- **One property, one column for each kind of bean.** Let all beans that the candidates of a
mapper bind agree on the column of a property. Every statement that a run adds is written with the
columns of its bean: the first bean among the parameters, for an update the first that is no
iterable, or else the result. If a condition or a sort key of the statement is on the property, it
has the column agreed upon if that bean has the property, and the named column if it does not. So it
always has the named column, if that is the one agreed upon. -/
theorem column_of_property {m : Manifest} {existing : Option Document} {r : Report}
    {f column : String} (hrun : m.generate existing = .ok r) (hmaps : m.Maps f column) :
    ∃ added, r.document.statements =
        (existing.getD ⟨m.namespaceName, []⟩).statements ++ added ∧
      ∀ s ∈ added, ∃ k ∈ candidates m.typeTable m.mapper, ∃ derived, m.derive k = .ok derived ∧
        s.id = k.method.name ∧
        let fields := derived.method.subjectFields derived.query.operation
        WrittenWith (m.translator.column fields) derived.query derived.method s.body ∧
          (⟨[f]⟩ ∈ derived.query.paths → m.translator.column fields ⟨[f]⟩ =
            if fields.any (·.name == f) then column else m.namedColumn f) := by
  obtain ⟨-, -, hreport⟩ := Manifest.generate_eq_ok.mp hrun
  rw [Manifest.progress_eq_extend] at hreport
  refine ⟨_, by rw [hreport]; rfl, fun s hs => ?_⟩
  obtain ⟨derived, hmem, htranslate⟩ := translate_of_mem_fates hs
  obtain ⟨k, hk, hderive⟩ := List.mem_map.mp hmem
  have hname : derived.method.name = k.method.name := name_of_deriveMethod_ok hderive
  have hid := (Translator.translate_assembled htranslate).id
  refine ⟨k, hk, derived, hderive, hid.trans hname, writtenWith_of_translate htranslate, ?_⟩
  intro hpath
  have hparse := (deriveMethod_eq_ok.mp hderive).1
  let fields := derived.method.subjectFields derived.query.operation
  show columnOf m.settings.naming.convert fields ⟨[f]⟩ = _
  rw [columnOf_single]
  cases hfind : fields.find? (·.name == f) with
  | none =>
    -- the naming is given the property as the name of the method has it, decapitalized
    have hany : fields.any (·.name == f) = false := by
      simpa using List.find?_eq_none.mp hfind
    rw [hany, Manifest.namedColumn, MethodName.decapitalize_of_mem_paths hparse hpath]
    rfl
  | some b =>
    have hb : b ∈ fields := List.mem_of_find?_eq_some hfind
    have hname := List.find?_some hfind
    have hany : fields.any (·.name == f) = true := List.any_eq_true.mpr ⟨b, hb, hname⟩
    obtain ⟨d, hd, hbean⟩ := BoundMethod.exists_type_of_mem_subjectFields hb
    rw [hany]
    exact hmaps k hk derived hderive d hd b hbean (beq_iff_eq.mp hname)

/-! ## A mapper with two columns for a property -/

/-- A user, whose age is declared to have the column `years`. -/
def user : TypeDecl where
  name := "User"
  fields := [{ name := "age", type := .primitive "int", column := some "years" }]
  methods := [
    { name := "getAge", returns := .primitive "int" },
    { name := "setAge", params := [{ name := "age", type := .primitive "int" }] }]

/-- A method with an age as its parameter. -/
def byAge (name : String) (returns : TypeRef) : MethodDecl where
  name := name
  params := [{ name := "age", type := .primitive "int" }]
  returns := returns

/-- A mapper that finds users by their age, and deletes them. -/
def aged : Manifest where
  mapper := "UserMapper"
  settings := { table := some "users", platformTypes := false }
  types := [
    user,
    { name := "UserMapper", kind := .interfaceType
      methods := [byAge "findByAge" (.simple "User"), byAge "deleteByAge" .void] }]

/-- The query for an age. -/
def agedQuery (operation : Operation) : Query :=
  ⟨operation, false, false, some (.condition ⟨⟨["age"]⟩, .equal⟩), none⟩

theorem parse_age {name : String} (operation : Operation)
    (h : name.toList = operation.keyword.toList ++ "ByAge".toList) :
    parse name = .ok (agedQuery operation) := by
  let phrase : Phrase :=
    ⟨operation, false, false, [⟨false, ⟨["Age"], .equal, false⟩, []⟩], []⟩
  have hspellable : phrase.Spellable :=
    ⟨by show ∀ g ∈ [_], _; decide +revert, fun s hs => by cases hs⟩
  have hquery : phrase.toQuery = agedQuery operation := by cases operation <;> decide
  rw [← hquery]
  exact parse_of_toList false hspellable h

/-- The user as statements see it. -/
def userBean : Descriptor := .bean "User" [⟨"age", "years", false⟩]

theorem resolve_user (owner : TypeRef) :
    aged.resolver.resolve owner (.simple "User") = .ok userBean := by
  have hclosure : aged.resolver.table.closure (.simple "User") = [] := by cbv
  have hlineage : aged.resolver.lineage (.simple "User") = [user] := by
    rw [Resolver.lineage, hclosure]
    decide
  have hiterable : aged.resolver.isIterable (.simple "User") = false := by
    rw [Resolver.isIterable, hclosure]
    decide
  have hscalar : aged.resolver.isOpaque "User" = false := by decide
  have hdeclared : aged.resolver.table.contains "User" = true := by decide
  have hfields : aged.resolver.beanFields [user] = [⟨"age", "years", false⟩] := by decide
  rw [TypeRef.simple, resolve_bean hiterable hscalar, Resolver.resolveBean, if_pos hdeclared]
  rw [← TypeRef.simple, hlineage, hfields]
  rfl

/-- A method for an age as statements see it. -/
def boundByAge (name : String) (returns : Descriptor) : BoundMethod :=
  ⟨name, [⟨.scalar "int", "age", "age"⟩], returns, []⟩

theorem bindMethod_byAge {name : String} {type : TypeRef} {returns : Descriptor}
    (h : aged.resolver.resolve (.simple "UserMapper") type = .ok returns) :
    bindMethod aged.resolver (.simple "UserMapper") (byAge name type) =
      .ok (boundByAge name returns) := by
  have hparam : bindParam aged.resolver.naming { name := "age", type := .primitive "int" }
      (.scalar "int") = ⟨.scalar "int", "age", "age"⟩ := by
    decide
  simp only [bindMethod, byAge, h, bindParams, resolve_primitive, hparam]
  rfl

/-- The report of the mapper's run. -/
def agedReport : Report where
  document :=
    { namespaceName := "UserMapper"
      statements := [
        { id := "findByAge", kind := .select, parameterType := some "int"
          resultType := some "User", generated := true
          body := [.text "SELECT years AS age FROM users WHERE years = ", .param "age"] },
        { id := "deleteByAge", kind := .delete, parameterType := some "int", generated := true
          body := [.text "DELETE FROM users WHERE age = ", .param "age"] }] }
  added := ["findByAge", "deleteByAge"]

/-- The derivations of the candidates. -/
theorem derive_aged :
    candidates aged.typeTable aged.mapper =
        [⟨"UserMapper", byAge "findByAge" (.simple "User")⟩,
          ⟨"UserMapper", byAge "deleteByAge" .void⟩] ∧
      aged.derive ⟨"UserMapper", byAge "findByAge" (.simple "User")⟩ =
        .ok ⟨agedQuery .find, boundByAge "findByAge" userBean⟩ ∧
      aged.derive ⟨"UserMapper", byAge "deleteByAge" .void⟩ =
        .ok ⟨agedQuery .delete, boundByAge "deleteByAge" .void⟩ := by
  refine ⟨by cbv, deriveMethod_eq_ok.mpr ⟨?_, ?_⟩, deriveMethod_eq_ok.mpr ⟨?_, ?_⟩⟩
  · exact parse_age .find (by decide)
  · exact bindMethod_byAge (resolve_user _)
  · exact parse_age .delete (by decide)
  · exact bindMethod_byAge (resolve_void _ _)

theorem generate_aged : aged.generate none = .ok agedReport := by
  obtain ⟨hcandidates, hfind, hdelete⟩ := derive_aged
  refine Manifest.generate_eq_ok.mpr ⟨by decide, fun d hd => (by cases hd), ?_⟩
  rw [hcandidates, Manifest.progress, List.map_cons, List.map_cons, List.map_nil, hfind, hdelete]
  decide

theorem maps_aged : aged.Maps "age" "years" := by
  obtain ⟨hcandidates, hfind, hdelete⟩ := derive_aged
  have hfields : ∀ derived ∈ [boundByAge "findByAge" userBean, boundByAge "deleteByAge" .void],
      ∀ d ∈ derived.types, ∀ b ∈ d.beanFields, b.name = "age" → b.column = "years" := by
    decide
  intro k hk derived hderive
  rw [hcandidates] at hk
  rcases List.mem_pair.mp hk with rfl | rfl
  · rw [hfind] at hderive
    cases hderive
    exact hfields _ (.head _)
  · rw [hdelete] at hderive
    cases hderive
    exact hfields _ (.tail _ (.head _))

/-- The age of users has the declared column where they are found and the named one where they are
deleted. -/
theorem column_of_property_aged :
    aged.generate none = .ok agedReport ∧ aged.Maps "age" "years" ∧
      aged.namedColumn "age" = "age" ∧
      ∀ s ∈ agedReport.document.statements, ∃ derived : DerivedMethod,
        let fields := derived.method.subjectFields derived.query.operation
        s.id = derived.method.name ∧
          WrittenWith (aged.translator.column fields) derived.query derived.method s.body ∧
          (⟨["age"]⟩ ∈ derived.query.paths → aged.translator.column fields ⟨["age"]⟩ =
            if fields.any (·.name == "age") then "years" else aged.namedColumn "age") := by
  refine ⟨generate_aged, maps_aged, by decide, fun s hs => ?_⟩
  obtain ⟨added, hadded, hcolumns⟩ := column_of_property generate_aged maps_aged
  rw [hadded] at hs
  obtain ⟨k, -, derived, hderive, hid, hwritten, hcolumn⟩ := hcolumns s hs
  exact ⟨derived, hid.trans (name_of_deriveMethod_ok hderive).symm, hwritten, hcolumn⟩

/-- **A property may have two columns.** The one bean of a mapper maps the property to a column, and
the statement that deletes by the property tests another column. -/
theorem aged_takes_two_columns :
    aged.Maps "age" "years" ∧ aged.generate none = .ok agedReport ∧
      ∃ k ∈ candidates aged.typeTable aged.mapper, ∃ derived, aged.derive k = .ok derived ∧
        ∃ s ∈ agedReport.document.statements, s.id = k.method.name ∧
          s.sql = "DELETE FROM users WHERE age = #{age}" ∧
          ⟨["age"]⟩ ∈ derived.query.paths ∧
          ∀ column : PropertyPath → String, column ⟨["age"]⟩ = "years" →
            ¬WrittenWith column derived.query derived.method s.body := by
  obtain ⟨hcandidates, -, hdelete⟩ := derive_aged
  refine ⟨maps_aged, generate_aged, ⟨"UserMapper", byAge "deleteByAge" .void⟩, ?_, _, hdelete,
    { id := "deleteByAge", kind := .delete, parameterType := some "int", generated := true
      body := [.text "DELETE FROM users WHERE age = ", .param "age"] }, ?_, rfl, ?_, ?_, ?_⟩
  · rw [hcandidates]
    decide
  · decide
  · decide
  · decide
  · intro column hcolumn hwritten
    obtain ⟨operands, hoperands, hinfix⟩ := hwritten.condition_infix
    obtain rfl : [["age"]] = operands := Except.ok.inj hoperands
    have hcondition : conditionText column (agedQuery .delete) [["age"]] =
        [.text (" WHERE " ++ (column ⟨["age"]⟩ ++ " " ++ "=" ++ " ")), .param "age"] := rfl
    rw [hcondition, hcolumn] at hinfix
    exact absurd hinfix (by decide)

end DerivedQuery
