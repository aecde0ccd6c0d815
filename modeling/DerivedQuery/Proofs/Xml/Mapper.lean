import DerivedQuery.Output
import DerivedQuery.Proofs.Xml.Reader

/-!
# Mapper XML carries the document

A document is written as one `mapper` element with an element for each of its statements, and the
fragments of a statement as elements in it (`Document.CarriedBy`). A reader gets all of that back
whatever the strings in the document are, but for the names of bound values: these are written as
they are, so they must not hold an opening angle bracket or an ampersand (`read_toMapperXml`).
-/

namespace DerivedQuery

open DerivedQuery.Xml

/-! ## The elements of a document -/

/-- An attribute, or none where the value is empty. -/
def Xml.attributeIfAny (name value : String) : List (String × String) :=
  if value = "" then [] else [(name, value)]

/-- The attributes of a trimmed body. -/
def TrimRule.attributes (rule : TrimRule) : List (String × String) :=
  attributeIfAny "prefix" rule.opening ++ attributeIfAny "suffix" rule.closing ++
    attributeIfAny "prefixOverrides" ("|".intercalate rule.openingOverrides) ++
    attributeIfAny "suffixOverrides" ("|".intercalate rule.closingOverrides)

/-- The attributes of a repeated body. -/
def LoopRule.attributes (rule : LoopRule) : List (String × String) :=
  attributeIfAny "collection" rule.collection ++ attributeIfAny "item" rule.item ++
    attributeIfAny "open" rule.opening ++ attributeIfAny "separator" rule.separator ++
    attributeIfAny "close" rule.closing

mutual

/-- The part of an element that stands for the fragment. -/
def Fragment.node : Fragment → Node
  | .text text => .data text
  | .param name => .data (r"#{" ++ name ++ r"}")
  | .when test body => .element "if" [("test", test)] (Node.joined (Body.nodes body))
  | .trim rule body => .element "trim" rule.attributes (Node.joined (Body.nodes body))
  | .forEach rule body => .element "foreach" rule.attributes (Node.joined (Body.nodes body))

/-- The parts of an element that stand for the fragments, one for each. -/
def Body.nodes : List Fragment → List Node
  | [] => []
  | f :: fs => f.node :: Body.nodes fs

end

/-- The attributes of a statement. -/
def Statement.attributes (s : Statement) : List (String × String) :=
  [("id", s.id)] ++ s.parameterType.toList.map (("parameterType", ·)) ++
    s.resultType.toList.map (("resultType", ·)) ++
    s.keyProperty.toList.flatMap fun key => [("useGeneratedKeys", "true"), ("keyProperty", key)]

/-- The element of a statement. -/
def Statement.node (s : Statement) : Node :=
  .element s.kind.tag s.attributes (Node.joined (Body.nodes s.body))

/-- Whether a text is only there to make the lines of a document. -/
def IsLayout (text : String) : Prop := ∀ c ∈ text.toList, c = ' ' ∨ c = '\n'

/-- Whether a part is an element. -/
def Xml.Node.isElement : Node → Bool
  | .data _ => false
  | .element _ _ _ => true

/-- Whether a text is XML that has one element for the document, with an element in it for each of
the statements in their order. -/
def Document.CarriedBy (d : Document) (text : String) : Prop :=
  ∃ content,
    Xml.read? text =
        some [.element "mapper" [("namespace", d.namespaceName)] content, .data "\n"] ∧
      content.filter Node.isElement = d.statements.map Statement.node ∧
      ∀ between, .data between ∈ content → IsLayout between

mutual

/-- The names of the bound values in a fragment. -/
def Fragment.boundNames : Fragment → List String
  | .text _ => []
  | .param name => [name]
  | .when _ body | .trim _ body | .forEach _ body => Body.boundNames body

/-- The names of the bound values in a body. -/
def Body.boundNames : List Fragment → List String
  | [] => []
  | f :: fs => f.boundNames ++ Body.boundNames fs

end

/-! ## Start tags -/

namespace Xml

open ReaderState

theorem attr_eq_writeAttributes (name value : String) :
    attr name value = writeAttributes [(name, value)] := by
  simp [writeAttributes]

theorem attrIfAny_eq_writeAttributes (name value : String) :
    attrIfAny name value = writeAttributes (attributeIfAny name value) := by
  unfold attrIfAny attributeIfAny
  by_cases h : value = ""
  · simp [h, writeAttributes]
  · simp [h, writeAttributes]

theorem optionalAttr_eq_writeAttributes (name : String) (value : Option String) :
    optionalAttr name value = writeAttributes (value.toList.map ((name, ·))) := by
  cases value with
  | none => rfl
  | some value => exact attr_eq_writeAttributes name value

/-- Attributes are well named if their names are taken from well named ones in their order. -/
theorem ReaderState.WellNamed.of_sublist {attributes : List (String × String)} (names : List String)
    (h : List.Sublist (attributes.map (·.1)) names) (hnames : ∀ n ∈ names, IsName n)
    (hnodup : names.Nodup) : WellNamed attributes :=
  ⟨fun _ ha => hnames _ (h.subset (List.mem_map_of_mem ha)), hnodup.sublist h⟩

theorem sublist_attributeIfAny (name value : String) :
    List.Sublist ((attributeIfAny name value).map (·.1)) [name] := by
  unfold attributeIfAny
  split
  · exact List.nil_sublist _
  · exact List.Sublist.refl _

theorem sublist_optional (name : String) (value : Option String) :
    List.Sublist ((value.toList.map ((name, ·))).map (·.1)) [name] := by
  cases value with
  | none => exact List.nil_sublist _
  | some value => exact List.Sublist.refl _

end Xml

open ReaderState

theorem TrimRule.wellNamed_attributes (rule : TrimRule) : WellNamed rule.attributes := by
  refine .of_sublist ["prefix", "suffix", "prefixOverrides", "suffixOverrides"] ?_ (by decide)
    (by decide)
  simp only [attributes, List.map_append]
  exact (((sublist_attributeIfAny _ _).append (sublist_attributeIfAny _ _)).append
    (sublist_attributeIfAny _ _)).append (sublist_attributeIfAny _ _)

theorem LoopRule.wellNamed_attributes (rule : LoopRule) : WellNamed rule.attributes := by
  refine .of_sublist ["collection", "item", "open", "separator", "close"] ?_ (by decide)
    (by decide)
  simp only [attributes, List.map_append]
  exact ((((sublist_attributeIfAny _ _).append (sublist_attributeIfAny _ _)).append
    (sublist_attributeIfAny _ _)).append (sublist_attributeIfAny _ _)).append
      (sublist_attributeIfAny _ _)

theorem Statement.wellNamed_attributes (s : Statement) : WellNamed s.attributes := by
  refine .of_sublist ["id", "parameterType", "resultType", "useGeneratedKeys", "keyProperty"] ?_
    (by decide) (by decide)
  have hkey : List.Sublist ((s.keyProperty.toList.flatMap fun key =>
      [("useGeneratedKeys", "true"), ("keyProperty", key)]).map (·.1))
      ["useGeneratedKeys", "keyProperty"] := by
    cases s.keyProperty with
    | none => exact List.nil_sublist _
    | some key => exact List.Sublist.refl _
  simp only [attributes, List.map_append]
  exact (((List.Sublist.refl ["id"]).append (sublist_optional _ _)).append
    (sublist_optional _ _)).append hkey

/-! ## Written elements -/

theorem render_when (test : String) (body : Body) :
    (Fragment.when test body).render =
      "<" ++ "if" ++ writeAttributes [("test", test)] ++ ">" ++ renderBody body ++ "</" ++ "if" ++
        ">" := by
  have hopen : "<if" = "<" ++ "if" := by decide
  have hclose : "</if>" = "</" ++ "if" ++ ">" := by decide
  simp only [Fragment.render, hopen, hclose, attr_eq_writeAttributes, String.append_assoc]

theorem render_trim (rule : TrimRule) (body : Body) :
    (Fragment.trim rule body).render =
      "<" ++ "trim" ++ writeAttributes rule.attributes ++ ">" ++ renderBody body ++
        "</" ++ "trim" ++ ">" := by
  have hopen : "<trim" = "<" ++ "trim" := by decide
  have hclose : "</trim>" = "</" ++ "trim" ++ ">" := by decide
  simp only [Fragment.render, hopen, hclose, attrIfAny_eq_writeAttributes, TrimRule.attributes,
    writeAttributes_append, String.append_assoc]

theorem render_forEach (rule : LoopRule) (body : Body) :
    (Fragment.forEach rule body).render =
      "<" ++ "foreach" ++ writeAttributes rule.attributes ++ ">" ++ renderBody body ++ "</" ++
        "foreach" ++ ">" := by
  have hopen : "<foreach" = "<" ++ "foreach" := by decide
  have hclose : "</foreach>" = "</" ++ "foreach" ++ ">" := by decide
  simp only [Fragment.render, hopen, hclose, attrIfAny_eq_writeAttributes, LoopRule.attributes,
    writeAttributes_append, String.append_assoc]

theorem Statement.render_eq (s : Statement) :
    s.render =
      "<" ++ s.kind.tag ++ writeAttributes s.attributes ++ ">" ++ renderBody s.body ++ "</" ++
        s.kind.tag ++ ">" := by
  unfold render attributes
  cases s.keyProperty with
  | none =>
    simp only [sql, attr_eq_writeAttributes, optionalAttr_eq_writeAttributes,
      writeAttributes_append, Option.toList_none, List.flatMap_nil, List.append_nil,
      String.append_empty, String.append_assoc]
  | some key =>
    have hkey : writeAttributes [("useGeneratedKeys", "true"), ("keyProperty", key)] =
        attr "useGeneratedKeys" "true" ++ attr "keyProperty" key := by
      simp [writeAttributes]
    simp only [sql, hkey, attr_eq_writeAttributes, optionalAttr_eq_writeAttributes,
      writeAttributes_append, Option.toList_some, List.flatMap_cons, List.flatMap_nil,
      List.append_nil, String.append_assoc]

/-! ## Reading a statement -/

section Reading

variable {frame : OpenElement} {outer : List OpenElement}

/-- An element is read with its parts joined, if these are read one after another. -/
theorem run_parts {name inner : String} {attributes : List (String × String)} {parts : List Node}
    (hname : IsName name) (hattributes : WellNamed attributes)
    (hinner : run ⟨.content, { name := name, attributes := attributes }, frame :: outer⟩ inner =
      some ⟨.content, parts.foldl OpenElement.add { name := name, attributes := attributes },
        frame :: outer⟩) :
    run ⟨.content, frame, outer⟩
        ("<" ++ name ++ writeAttributes attributes ++ ">" ++ inner ++ "</" ++ name ++ ">") =
      some ⟨.content, frame.add (.element name attributes (Node.joined parts)), outer⟩ := by
  rw [run_element hname hattributes (OpenElement.toTag_foldl_add _ parts) hinner,
    OpenElement.nodes_foldl_add]
  rfl

/-- Whether a name is read as it is written. -/
def PlainName (name : String) : Prop := '<' ∉ name.toList ∧ '&' ∉ name.toList

instance (name : String) : Decidable (PlainName name) :=
  inferInstanceAs (Decidable ('<' ∉ name.toList ∧ '&' ∉ name.toList))

mutual

/-- A fragment is read as the part that stands for it. -/
theorem run_render (frame : OpenElement) (outer : List OpenElement) (f : Fragment)
    (h : ∀ name ∈ f.boundNames, PlainName name) :
    run ⟨.content, frame, outer⟩ f.render = some ⟨.content, frame.add f.node, outer⟩ := by
  match f with
  | .text text => exact run_escapeText text
  | .param name =>
    have hname : PlainName (r"#{" ++ name ++ r"}") := by
      simpa [PlainName] using h name (.head _)
    exact run_plain hname
  | .when test body =>
    have hattributes : WellNamed [("test", test)] :=
      .of_sublist ["test"] (List.Sublist.refl _) (by decide) (by decide)
    rw [render_when]
    exact run_parts (by decide) hattributes (run_renderBody _ _ body h)
  | .trim rule body =>
    rw [render_trim]
    exact run_parts (by decide) rule.wellNamed_attributes (run_renderBody _ _ body h)
  | .forEach rule body =>
    rw [render_forEach]
    exact run_parts (by decide) rule.wellNamed_attributes (run_renderBody _ _ body h)

/-- The fragments of a body are read one after another. -/
theorem run_renderBody (frame : OpenElement) (outer : List OpenElement) (body : List Fragment)
    (h : ∀ name ∈ Body.boundNames body, PlainName name) :
    run ⟨.content, frame, outer⟩ (renderBody body) =
      some ⟨.content, (Body.nodes body).foldl OpenElement.add frame, outer⟩ := by
  match body with
  | [] => rfl
  | f :: fs =>
    obtain ⟨hf, hfs⟩ := List.forall_mem_append.mp h
    rw [renderBody, run_behind (run_render frame outer f hf), run_renderBody _ outer fs hfs]
    rfl

end

theorem isName_tag (kind : StatementKind) : IsName kind.tag := by
  cases kind <;> decide

theorem Statement.run_render (s : Statement) (h : ∀ name ∈ Body.boundNames s.body, PlainName name) :
    run ⟨.content, frame, outer⟩ s.render = some ⟨.content, frame.add s.node, outer⟩ := by
  rw [s.render_eq]
  exact run_parts (isName_tag _) s.wellNamed_attributes (run_renderBody _ _ s.body h)

/-- The parts of the document's element that stand for the lines of a statement. -/
def Statement.parts (s : Statement) : List Node :=
  [.data (if s.generated then "\n    \n    " else "\n    "), s.node, .data "\n"]

/-- The lines of a statement are read as its element with layout around it. -/
theorem Statement.run_mapperLines (s : Statement)
    (h : ∀ name ∈ Body.boundNames s.body, PlainName name) :
    run ⟨.content, frame, outer⟩ s.mapperLines =
      some ⟨.content, s.parts.foldl OpenElement.add frame, outer⟩ := by
  have hlayout : ∀ (f : OpenElement) (text : String), PlainName text →
      run ⟨.content, f, outer⟩ text = some ⟨.content, f.add (.data text), outer⟩ :=
    fun _ _ htext => run_plain htext
  have hbefore : run ⟨.content, frame, outer⟩
      ("\n" ++ (if s.generated then "    <!-- auto mapper generate -->\n" else "") ++ "    ") =
      some ⟨.content, frame.add (.data (if s.generated then "\n    \n    " else "\n    ")),
        outer⟩ := by
    by_cases hgenerated : s.generated = true
    · have hcomment : "\n" ++ "    <!-- auto mapper generate -->\n" ++ "    " =
          "\n    " ++ (("<!--" ++ " auto mapper generate " ++ "-->") ++ "\n    ") := by decide
      rw [if_pos hgenerated, if_pos hgenerated, hcomment, run_behind (hlayout _ _ (by decide)),
        run_behind (run_comment (by decide)), hlayout _ _ (by decide), OpenElement.add_data_data]
      rfl
    · rw [if_neg hgenerated, if_neg hgenerated]
      exact hlayout frame _ (by decide)
  rw [mapperLines, String.append_assoc, run_behind hbefore, run_behind (s.run_render h),
    hlayout _ _ (by decide)]
  rfl

theorem run_statements (statements : List Statement)
    (h : ∀ s ∈ statements, ∀ name ∈ Body.boundNames s.body, PlainName name) :
    run ⟨.content, frame, outer⟩ (String.join (statements.map Statement.mapperLines)) =
      some ⟨.content, (statements.flatMap Statement.parts).foldl OpenElement.add frame, outer⟩ := by
  induction statements generalizing frame with
  | nil => rfl
  | cons s statements ih =>
    obtain ⟨hs, hrest⟩ := List.forall_mem_cons.mp h
    rw [List.map_cons, String.join_cons, run_behind (s.run_mapperLines hs), ih hrest,
      List.flatMap_cons, List.foldl_append]

end Reading

/-! ## Reading a document -/

namespace Xml.Node

theorem filter_dataIfAny (text : String) : (dataIfAny text).filter isElement = [] := by
  unfold dataIfAny
  split <;> rfl

/-- Joining character data leaves the elements as they are. -/
theorem filter_joinedBehind (text : String) (parts : List Node) :
    (joinedBehind text parts).filter isElement = parts.filter isElement := by
  fun_induction joinedBehind text parts with
  | case1 text => exact filter_dataIfAny text
  | case2 text more rest ih => exact ih
  | case3 text name attributes content rest ih =>
    rw [List.filter_append, filter_dataIfAny, List.nil_append,
      List.filter_cons_of_pos (by rfl), List.filter_cons_of_pos (by rfl), ih]

theorem isLayout_of_dataIfAny {text between : String} (h : IsLayout text)
    (hmem : .data between ∈ dataIfAny text) : IsLayout between := by
  unfold dataIfAny at hmem
  split at hmem
  · cases hmem
  · cases List.mem_singleton.mp hmem
    exact h

/-- Layout in pieces is layout. -/
theorem isLayout_of_joinedBehind {text between : String} {parts : List Node} (htext : IsLayout text)
    (hparts : ∀ more, .data more ∈ parts → IsLayout more)
    (hmem : .data between ∈ joinedBehind text parts) : IsLayout between := by
  fun_induction joinedBehind text parts with
  | case1 text => exact isLayout_of_dataIfAny htext hmem
  | case2 text more rest ih =>
    refine ih ?_ (fun m hm => hparts m (.tail _ hm)) hmem
    intro c hc
    rw [String.toList_append] at hc
    rcases List.mem_append.mp hc with hc | hc
    · exact htext c hc
    · exact hparts more (.head _) c hc
  | case3 text name attributes content rest ih =>
    rcases List.mem_append.mp hmem with hmem | hmem
    · exact isLayout_of_dataIfAny htext hmem
    · rcases List.mem_cons.mp hmem with hmem | hmem
      · cases hmem
      · exact ih (fun c hc => by cases hc) (fun m hm => hparts m (.tail _ hm)) hmem

end Xml.Node

theorem filter_parts (statements : List Statement) :
    (statements.flatMap Statement.parts).filter Node.isElement = statements.map Statement.node := by
  induction statements with
  | nil => rfl
  | cons s statements ih =>
    rw [List.flatMap_cons, List.filter_append, ih]
    rfl

theorem isLayout_of_mem_parts {s : Statement} {between : String}
    (h : .data between ∈ s.parts) : IsLayout between := by
  have hlines : IsLayout "\n    \n    " ∧ IsLayout "\n    " ∧ IsLayout "\n" := by
    simp [IsLayout]
  obtain ⟨hgenerated, hwritten, hend⟩ := hlines
  rcases List.mem_cons.mp h with h | h
  · obtain rfl := Node.data.inj h
    split
    · exact hgenerated
    · exact hwritten
  · rcases List.mem_cons.mp h with h | h
    · cases h
    · obtain rfl := Node.data.inj (List.mem_singleton.mp h)
      exact hend

/-- What is written as mapper XML is read as the document, if the names of its bound values hold
nothing that has to be escaped. -/
theorem Document.read_toMapperXml (d : Document)
    (h : ∀ s ∈ d.statements, ∀ name ∈ Body.boundNames s.body, PlainName name) :
    d.CarriedBy d.toMapperXml := by
  let parts := .data "\n" :: d.statements.flatMap Statement.parts
  have hinner : ∀ frame outer, run ⟨.content, frame, outer⟩
      ("\n" ++ String.join (d.statements.map Statement.mapperLines)) =
        some ⟨.content, parts.foldl OpenElement.add frame, outer⟩ := by
    intro frame outer
    have hline : run ⟨.content, frame, outer⟩ "\n" =
        some ⟨.content, frame.add (.data "\n"), outer⟩ := run_plain (by decide)
    rw [run_behind hline, run_statements d.statements h]
    rfl
  have hattributes : WellNamed [("namespace", d.namespaceName)] :=
    .of_sublist ["namespace"] (List.Sublist.refl _) (by decide) (by decide)
  have hxml : d.toMapperXml =
      "<" ++ "mapper" ++ writeAttributes [("namespace", d.namespaceName)] ++ ">" ++
        ("\n" ++ String.join (d.statements.map Statement.mapperLines)) ++ "</" ++ "mapper" ++ ">" ++
        "\n" := by
    have hopen : "<mapper" = "<" ++ "mapper" := by decide
    have hline : ">\n" = ">" ++ "\n" := by decide
    have hclose : "</mapper>\n" = "</" ++ "mapper" ++ ">" ++ "\n" := by decide
    simp only [toMapperXml, hopen, hline, hclose, attr_eq_writeAttributes, String.append_assoc]
  have hname : IsName "mapper" := by decide
  have hmapper := run_parts hname hattributes (hinner _ [({ name := "" } : OpenElement)])
  have hend : ∀ frame, run ⟨.content, frame, []⟩ "\n" =
      some ⟨.content, frame.add (.data "\n"), []⟩ := fun _ => run_plain (by decide)
  refine ⟨Node.joined parts, ?_, ?_, ?_⟩
  · rw [Xml.read?, hxml, run_behind hmapper, hend]
    rfl
  · rw [Node.joined, Node.filter_joinedBehind]
    exact filter_parts d.statements
  · intro between hbetween
    refine Node.isLayout_of_joinedBehind (fun c hc => by cases hc) ?_ hbetween
    intro more hmore
    rcases List.mem_cons.mp hmore with hmore | hmore
    · obtain rfl := Node.data.inj hmore
      intro c hc
      obtain rfl : c = '\n' := by simpa using hc
      exact .inr rfl
    · obtain ⟨s, -, hs⟩ := List.mem_flatMap.mp hmore
      exact isLayout_of_mem_parts hs

/-- A document with a statement that binds one value, of the given name. -/
def binding (name : String) : Document where
  namespaceName := "Notes & \"Tags\""
  statements := [{
    id := "findByTag"
    kind := .select
    generated := true
    body := [.text "a < ", .when "tag != null" [.param name, .text " && b"]] }]

theorem read_toMapperXml_binding :
    (∀ s ∈ (binding "tag").statements, ∀ name ∈ Body.boundNames s.body, PlainName name) ∧
      (binding "tag").CarriedBy (binding "tag").toMapperXml := by
  have hplain : ∀ s ∈ (binding "tag").statements, ∀ name ∈ Body.boundNames s.body,
      PlainName name := by
    decide
  exact ⟨hplain, Document.read_toMapperXml _ hplain⟩

/-- The name of a bound value is not escaped, unlike the text around it. An opening angle bracket
in it is taken for the start of a tag. -/
theorem not_carriedBy_binding : ¬(binding "a<b").CarriedBy (binding "a<b").toMapperXml := by
  have hnone : (Xml.read? (binding "a<b").toMapperXml).isNone = true := by decide +kernel
  rintro ⟨content, hread, -⟩
  rw [hread] at hnone
  cases hnone

end DerivedQuery
