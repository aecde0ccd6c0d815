import DerivedQuery.Proofs.Statement.Fragments

/-!
# Reading XML

A reader of XML that goes through the text once, character by character, with the elements that are
open on a stack. It knows start and end tags, attributes in double quotes, comments, and the
references `&amp;`, `&lt;` and `&quot;`. Everything else it refuses: an end tag of another element,
two attributes of one name, an opening angle bracket in an attribute, an ampersand that starts no
reference.

What was escaped is read as it was before (`run_escapeText`, `run_escapeAttribute`), and what stands
between the tags of an element becomes the content of the element (`run_element`).
-/

namespace DerivedQuery.Xml

/-- A part of the content of an element. -/
inductive Node
  /-- Character data. -/
  | data (text : String)
  | element (name : String) (attributes : List (String × String)) (content : List Node)
deriving Repr, Inhabited

namespace Node

/-- Character data, if there is any. -/
def dataIfAny (text : String) : List Node := if text = "" then [] else [.data text]

/-- The parts behind some character data. -/
def joinedBehind (text : String) : List Node → List Node
  | [] => dataIfAny text
  | .data more :: rest => joinedBehind (text ++ more) rest
  | .element name attributes content :: rest =>
    dataIfAny text ++ .element name attributes content :: joinedBehind "" rest

/-- The parts one after another, with all character data between two elements joined. -/
def joined (nodes : List Node) : List Node := joinedBehind "" nodes

end Node

/-! ## The reader -/

/-- A start tag as far as it was read. -/
structure Tag where
  name : String
  attributes : List (String × String) := []
deriving Repr, Inhabited

/-- An element that is open, with the content it has so far and the character data behind it. -/
structure OpenElement extends Tag where
  content : List Node := []
  text : String := ""
deriving Repr, Inhabited

namespace OpenElement

/-- All of the content. -/
def nodes (f : OpenElement) : List Node := f.content ++ Node.dataIfAny f.text

/-- The element with one more part. -/
def add (f : OpenElement) : Node → OpenElement
  | .data text => { f with text := f.text ++ text }
  | .element name attributes content =>
    { f with content := f.nodes ++ [.element name attributes content], text := "" }

end OpenElement

/-- The place where a name stands. -/
inductive NamePlace
  | startTag
  | attribute (tag : Tag)
  | endTag
deriving Repr

/-- The place that the reader is at in the text. -/
inductive Mode
  | content
  /-- Behind the angle bracket that opens markup. -/
  | markup
  | name (place : NamePlace) (read : List Char)
  /-- Behind a blank in a start tag. -/
  | blank (tag : Tag)
  /-- Behind the equals sign of an attribute. -/
  | quote (tag : Tag) (name : String)
  | value (tag : Tag) (name : String) (read : List Char)
  /-- Behind the quote that ends a value. -/
  | behindValue (tag : Tag)
  /-- Behind an ampersand in the content or in a value. -/
  | reference (read : List Char)
  | valueReference (tag : Tag) (name : String) (value read : List Char)
  /-- Behind the exclamation mark of a comment and so many dashes. -/
  | commentStart (dashes : Nat)
  /-- In a comment, behind so many dashes. -/
  | comment (dashes : Nat)
deriving Repr

/-- The reader with the innermost open element and those around it, the document outermost. -/
structure ReaderState where
  mode : Mode := .content
  frame : OpenElement := { name := "" }
  outer : List OpenElement := []
deriving Repr

/-- Whether a character can be part of the name of an element or attribute. -/
def isNameChar (c : Char) : Bool := c.isAlphanum || c == '_' || c == '-' || c == '.' || c == ':'

/-- The character that a reference stands for. -/
def referent? (name : List Char) : Option Char :=
  if name = "amp".toList then some '&'
  else if name = "lt".toList then some '<'
  else if name = "quot".toList then some '"'
  else none

namespace ReaderState

/-- The reader back in the content, with one more character of character data. -/
def addChar (r : ReaderState) (c : Char) : ReaderState :=
  { r with mode := .content, frame := r.frame.add (.data (String.singleton c)) }

/-- Opens an element. -/
def openTag (r : ReaderState) (tag : Tag) : ReaderState :=
  ⟨.content, { toTag := tag }, r.frame :: r.outer⟩

/-- Closes the innermost element, if it has the name. -/
def closeTag (r : ReaderState) (name : String) : Option ReaderState :=
  match r.outer with
  | [] => none
  | parent :: outer =>
    if r.frame.name = name then
      some ⟨.content, parent.add (.element name r.frame.attributes r.frame.nodes), outer⟩
    else none

/-- Goes on in a start tag behind a name or a value. -/
def inTag (r : ReaderState) (tag : Tag) (c : Char) : Option ReaderState :=
  if c = ' ' then some { r with mode := .blank tag }
  else if c = '>' then some (r.openTag tag)
  else none

/-- Goes on behind a name. -/
def behindName (r : ReaderState) (name : String) (c : Char) : NamePlace → Option ReaderState
  | .startTag => r.inTag { name := name } c
  | .attribute tag => if c = '=' then some { r with mode := .quote tag name } else none
  | .endTag => if c = '>' then r.closeTag name else none

/-- The reader after one more character, if it can stand there. -/
def step (r : ReaderState) (c : Char) : Option ReaderState :=
  match r.mode with
  | .content =>
    if c = '<' then some { r with mode := .markup }
    else if c = '&' then some { r with mode := .reference [] }
    else some (r.addChar c)
  | .markup =>
    if isNameChar c then some { r with mode := .name .startTag [c] }
    else if c = '/' then some { r with mode := .name .endTag [] }
    else if c = '!' then some { r with mode := .commentStart 0 }
    else none
  | .name place read =>
    if isNameChar c then some { r with mode := .name place (read ++ [c]) }
    else r.behindName (String.ofList read) c place
  | .blank tag =>
    if isNameChar c then some { r with mode := .name (.attribute tag) [c] }
    else r.inTag tag c
  | .quote tag name => if c = '"' then some { r with mode := .value tag name [] } else none
  | .value tag name read =>
    if c = '"' then
      if name ∈ tag.attributes.map (·.1) then none
      else
        let attributes := tag.attributes ++ [(name, String.ofList read)]
        some { r with mode := .behindValue { tag with attributes := attributes } }
    else if c = '<' then none
    else if c = '&' then some { r with mode := .valueReference tag name read [] }
    else some { r with mode := .value tag name (read ++ [c]) }
  | .behindValue tag => r.inTag tag c
  | .reference read =>
    if c = ';' then (referent? read).map r.addChar
    else some { r with mode := .reference (read ++ [c]) }
  | .valueReference tag name value read =>
    if c = ';' then
      (referent? read).map fun d => { r with mode := .value tag name (value ++ [d]) }
    else some { r with mode := .valueReference tag name value (read ++ [c]) }
  | .commentStart dashes =>
    if c = '-' then
      some { r with mode := if dashes = 0 then .commentStart 1 else .comment 0 }
    else none
  | .comment dashes =>
    if dashes = 2 then if c = '>' then some { r with mode := .content } else none
    else some { r with mode := .comment (if c = '-' then dashes + 1 else 0) }

/-- The reader after a text, if it can stand there. -/
def run (r : ReaderState) (text : String) : Option ReaderState := text.toList.foldlM step r

end ReaderState

/-- The content of a document, if all that was opened in it is closed. -/
def read? (text : String) : Option (List Node) :=
  match ReaderState.run {} text with
  | some ⟨.content, frame, []⟩ => some frame.nodes
  | _ => none

/-! ## Content -/

namespace OpenElement

@[simp] theorem add_empty (f : OpenElement) : f.add (.data "") = f := by
  show { f with text := f.text ++ "" } = f
  rw [String.append_empty]

/-- Character data in two pieces is one with the pieces joined. -/
theorem add_data_data (f : OpenElement) (a b : String) :
    (f.add (.data a)).add (.data b) = f.add (.data (a ++ b)) := by
  show { f with text := f.text ++ a ++ b } = { f with text := f.text ++ (a ++ b) }
  rw [String.append_assoc]

@[simp] theorem toTag_add (f : OpenElement) (node : Node) : (f.add node).toTag = f.toTag := by
  cases node <;> rfl

/-- What was added part by part is joined. -/
theorem nodes_foldl_add (f : OpenElement) (parts : List Node) :
    (parts.foldl add f).nodes = f.content ++ Node.joinedBehind f.text parts := by
  induction parts generalizing f with
  | nil => rfl
  | cons node rest ih =>
    rw [List.foldl_cons, ih]
    cases node with
    | data text => rfl
    | element name attributes content => simp [add, nodes, Node.joinedBehind]

theorem toTag_foldl_add (f : OpenElement) (parts : List Node) :
    (parts.foldl add f).toTag = f.toTag := by
  induction parts generalizing f with
  | nil => rfl
  | cons node rest ih => rw [List.foldl_cons, ih, toTag_add]

end OpenElement

/-! ## Reading what was written -/

namespace ReaderState

variable {frame : OpenElement} {outer : List OpenElement}

theorem run_append (r : ReaderState) (a b : String) :
    r.run (a ++ b) = (r.run a).bind (·.run b) := by
  unfold run
  rw [String.toList_append, List.foldlM_append]
  rfl

/-- What is written behind a text is read from the place that the text led to. -/
theorem run_behind {r r' : ReaderState} {text : String} (h : r.run text = some r') (rest : String) :
    r.run (text ++ rest) = r'.run rest := by
  rw [run_append, h, Option.bind_some]

/-- What is written character by character is read so, if the reader takes each character in. -/
theorem foldlM_flatMap (place : List Char → ReaderState) (write : Char → List Char) {cs : List Char}
    (h : ∀ c ∈ cs, ∀ read, (write c).foldlM step (place read) = some (place (read ++ [c])))
    (read : List Char) :
    (cs.flatMap write).foldlM step (place read) = some (place (read ++ cs)) := by
  induction cs generalizing read with
  | nil =>
    rw [List.append_nil]
    rfl
  | cons c cs ih =>
    obtain ⟨hc, hcs⟩ := List.forall_mem_cons.mp h
    rw [List.flatMap_cons, List.foldlM_append, hc]
    show (cs.flatMap write).foldlM step (place (read ++ [c])) = _
    rw [ih hcs, List.append_assoc, List.singleton_append]

/-! ### Character data -/

/-- The place behind some more character data. -/
def behindData (frame : OpenElement) (outer : List OpenElement) (read : List Char) : ReaderState :=
  ⟨.content, frame.add (.data (String.ofList read)), outer⟩

theorem behindData_nil (frame : OpenElement) (outer : List OpenElement) :
    behindData frame outer [] = ⟨.content, frame, outer⟩ := by
  rw [behindData, String.ofList_nil, OpenElement.add_empty]

theorem addChar_behindData (mode : Mode) (read : List Char) (c : Char) :
    addChar ⟨mode, frame.add (.data (String.ofList read)), outer⟩ c =
      behindData frame outer (read ++ [c]) := by
  rw [addChar, OpenElement.add_data_data, String.singleton_eq_ofList, ← String.ofList_append]
  rfl

theorem step_plain {c : Char} (hlt : c ≠ '<') (hamp : c ≠ '&') (read : List Char) :
    step (behindData frame outer read) c = some (behindData frame outer (read ++ [c])) := by
  rw [behindData, step, if_neg hlt, if_neg hamp, addChar_behindData]

theorem foldlM_escapeTextChar (read : List Char) (c : Char) :
    (escapeTextChar c).foldlM step (behindData frame outer read) =
      some (behindData frame outer (read ++ [c])) := by
  unfold escapeTextChar
  split
  next hc =>
    subst hc
    exact congrArg some (addChar_behindData _ read '&')
  next hamp =>
    split
    next hc =>
      subst hc
      exact congrArg some (addChar_behindData _ read '<')
    next hlt => rw [List.foldlM_cons, step_plain hlt hamp]; rfl

/-- Escaped text is read as character data. -/
theorem run_escapeText (text : String) :
    run ⟨.content, frame, outer⟩ (escapeText text) =
      some ⟨.content, frame.add (.data text), outer⟩ := by
  have h := foldlM_flatMap (behindData frame outer) escapeTextChar
    (fun c (_ : c ∈ text.toList) read => foldlM_escapeTextChar read c) []
  rw [behindData_nil, List.nil_append, behindData, String.ofList_toList] at h
  rw [run, escapeText, String.toList_ofList, h]

/-- Text that needs no escaping is read as character data. -/
theorem run_plain {text : String} (h : '<' ∉ text.toList ∧ '&' ∉ text.toList) :
    run ⟨.content, frame, outer⟩ text = some ⟨.content, frame.add (.data text), outer⟩ := by
  have hstep : ∀ c ∈ text.toList, ∀ read,
      [c].foldlM step (behindData frame outer read) =
        some (behindData frame outer (read ++ [c])) := by
    intro c hc read
    rw [List.foldlM_cons, step_plain (fun e => h.1 (e ▸ hc)) (fun e => h.2 (e ▸ hc))]
    rfl
  have hall := foldlM_flatMap (behindData frame outer) (fun c => [c]) hstep []
  rwa [behindData_nil, List.nil_append, behindData, String.ofList_toList,
    List.flatMap_singleton'] at hall

/-! ### Tags -/

theorem foldlM_escapeAttributeChar (tag : Tag) (name : String) (read : List Char) (c : Char) :
    (escapeAttributeChar c).foldlM step ⟨.value tag name read, frame, outer⟩ =
      some ⟨.value tag name (read ++ [c]), frame, outer⟩ := by
  unfold escapeAttributeChar escapeTextChar
  split
  next hc =>
    subst hc
    rfl
  next hquote =>
    split
    next hc =>
      subst hc
      rfl
    next hamp =>
      split
      next hc =>
        subst hc
        rfl
      next hlt => simp [step, hquote, hamp, hlt]

/-- An escaped value is read as it was. -/
theorem run_escapeAttribute (tag : Tag) (name value : String) :
    run ⟨.value tag name [], frame, outer⟩ (escapeAttribute value) =
      some ⟨.value tag name value.toList, frame, outer⟩ := by
  have h := foldlM_flatMap (fun read => ⟨.value tag name read, frame, outer⟩) escapeAttributeChar
    (fun c (_ : c ∈ value.toList) read => foldlM_escapeAttributeChar tag name read c) []
  rw [run, escapeAttribute, String.toList_ofList, h, List.nil_append]

/-- Whether a text is the name of an element or attribute. -/
def IsName (name : String) : Prop := name ≠ "" ∧ ∀ c ∈ name.toList, isNameChar c = true

instance (name : String) : Decidable (IsName name) :=
  decidable_of_iff (name ≠ "" ∧ name.toList.all isNameChar = true)
    (and_congr_right fun _ => List.all_eq_true)

/-- A name is read from its first character on up to its end. -/
theorem run_name {mode : Mode} {place : NamePlace}
    (hfirst : ∀ c, isNameChar c = true →
      step ⟨mode, frame, outer⟩ c = some ⟨.name place [c], frame, outer⟩)
    {name : String} (h : IsName name) :
    run ⟨mode, frame, outer⟩ name = some ⟨.name place name.toList, frame, outer⟩ := by
  obtain ⟨c, cs, hcs⟩ := List.exists_cons_of_ne_nil (mt String.toList_eq_nil_iff.mp h.1)
  obtain ⟨hc, hrest⟩ := List.forall_mem_cons.mp (hcs ▸ h.2)
  have hstep : ∀ d ∈ cs, ∀ read,
      [d].foldlM step ⟨.name place read, frame, outer⟩ =
        some ⟨.name place (read ++ [d]), frame, outer⟩ := by
    intro d hd read
    simp [step, hrest d hd]
  have hall :=
    foldlM_flatMap (fun read => ⟨.name place read, frame, outer⟩) (fun d => [d]) hstep [c]
  rw [List.flatMap_singleton', List.singleton_append] at hall
  rw [run, hcs, List.foldlM_cons, hfirst c hc]
  exact hall

/-- The attributes in their written form. -/
def writeAttributes (attributes : List (String × String)) : String :=
  String.join (attributes.map fun a => attr a.1 a.2)

theorem writeAttributes_append (as bs : List (String × String)) :
    writeAttributes (as ++ bs) = writeAttributes as ++ writeAttributes bs := by
  simp [writeAttributes, String.join_append]

/-- Whether attributes have names, and no two of them the same. -/
structure WellNamed (attributes : List (String × String)) : Prop where
  names : ∀ a ∈ attributes, IsName a.1
  nodup : (attributes.map (·.1)).Nodup

/-- Whether the reader is in a start tag, behind a name or a value. -/
def InStartTag (r : ReaderState) (tag : Tag) : Prop :=
  ∀ c, isNameChar c = false → r.step c = r.inTag tag c

theorem inStartTag_name (name : String) :
    InStartTag ⟨.name .startTag name.toList, frame, outer⟩ { name := name } := by
  intro c hc
  simp [step, hc, behindName]

theorem inStartTag_behindValue (tag : Tag) : InStartTag ⟨.behindValue tag, frame, outer⟩ tag :=
  fun _ _ => rfl

/-- An attribute is read with the value it was written for. -/
theorem run_attr {mode : Mode} {tag : Tag} (htag : InStartTag ⟨mode, frame, outer⟩ tag)
    {name : String} (hname : IsName name) (hnew : name ∉ tag.attributes.map (·.1))
    (value : String) :
    run ⟨mode, frame, outer⟩ (attr name value) =
      some ⟨.behindValue { tag with attributes := tag.attributes ++ [(name, value)] }, frame,
        outer⟩ := by
  have hblank : run ⟨mode, frame, outer⟩ " " = some ⟨.blank tag, frame, outer⟩ := by
    simp [run, htag ' ' (by decide), inTag]
  have hread : run ⟨.blank tag, frame, outer⟩ name =
      some ⟨.name (.attribute tag) name.toList, frame, outer⟩ :=
    run_name (fun c hc => by simp [step, hc]) hname
  have hquote : run ⟨.name (.attribute tag) name.toList, frame, outer⟩ "=\"" =
      some ⟨.value tag name [], frame, outer⟩ := by
    have hequals : isNameChar '=' = false := by decide
    simp [run, step, hequals, behindName]
  have hend : run ⟨.value tag name value.toList, frame, outer⟩ "\"" =
      some ⟨.behindValue { tag with attributes := tag.attributes ++ [(name, value)] }, frame,
        outer⟩ := by
    have hfree : ∀ v, (name, v) ∉ tag.attributes := fun v hv => hnew (List.mem_map_of_mem hv)
    simp [run, step, hfree]
  rw [attr, String.append_assoc, String.append_assoc, String.append_assoc, run_behind hblank,
    run_behind hread, run_behind hquote, run_behind (run_escapeAttribute tag name value), hend]

/-- A start tag is read to its end, with its attributes. -/
theorem run_writeAttributes {mode : Mode} {tag : Tag}
    (htag : InStartTag ⟨mode, frame, outer⟩ tag) (attributes : List (String × String))
    (h : WellNamed (tag.attributes ++ attributes)) :
    run ⟨mode, frame, outer⟩ (writeAttributes attributes ++ ">") =
      some ⟨.content, { name := tag.name, attributes := tag.attributes ++ attributes },
        frame :: outer⟩ := by
  induction attributes generalizing mode tag with
  | nil =>
    rw [List.append_nil]
    show run ⟨mode, frame, outer⟩ ("" ++ ">") = _
    simp [run, htag '>' (by decide), inTag, openTag]
  | cons a attributes ih =>
    have hname : IsName a.1 := h.names a (by simp)
    have hnew : a.1 ∉ tag.attributes.map (·.1) := by
      have hnodup := h.nodup
      rw [List.map_append, List.map_cons] at hnodup
      intro hmem
      exact (List.nodup_append.mp hnodup).2.2 _ hmem _ (.head _) rfl
    have hrest : WellNamed ((tag.attributes ++ [(a.1, a.2)]) ++ attributes) := by
      rwa [List.append_assoc]
    have hwritten : writeAttributes (a :: attributes) ++ ">" =
        attr a.1 a.2 ++ (writeAttributes attributes ++ ">") := by
      rw [writeAttributes, List.map_cons, String.join_cons, String.append_assoc]
      rfl
    rw [hwritten, run_behind (run_attr htag hname hnew a.2),
      ih (inStartTag_behindValue _) hrest, List.append_assoc]
    rfl

/-- An element is read as it was written: its start tag, then what its content is read as, and the
end tag of its name. -/
theorem run_element {name inner : String} {attributes : List (String × String)}
    {child : OpenElement} (hname : IsName name) (hattributes : WellNamed attributes)
    (hchild : child.toTag = { name := name, attributes := attributes })
    (hinner : run ⟨.content, { name := name, attributes := attributes }, frame :: outer⟩ inner =
      some ⟨.content, child, frame :: outer⟩) :
    run ⟨.content, frame, outer⟩
        ("<" ++ name ++ writeAttributes attributes ++ ">" ++ inner ++ "</" ++ name ++ ">") =
      some ⟨.content, frame.add (.element name attributes child.nodes), outer⟩ := by
  have hopen : run ⟨.content, frame, outer⟩ "<" = some ⟨.markup, frame, outer⟩ := by
    simp [run, step]
  have hstart : run ⟨.markup, frame, outer⟩ name =
      some ⟨.name .startTag name.toList, frame, outer⟩ :=
    run_name (fun c hc => by simp [step, hc]) hname
  have htag : run ⟨.name .startTag name.toList, frame, outer⟩ (writeAttributes attributes ++ ">") =
      some ⟨.content, { name := name, attributes := attributes }, frame :: outer⟩ :=
    run_writeAttributes (inStartTag_name name) attributes hattributes
  have hslash : run ⟨.content, child, frame :: outer⟩ "</" =
      some ⟨.name .endTag [], child, frame :: outer⟩ := by
    have hbracket : isNameChar '/' = false := by decide
    simp [run, step, hbracket]
  have hend : run ⟨.name .endTag [], child, frame :: outer⟩ name =
      some ⟨.name .endTag name.toList, child, frame :: outer⟩ :=
    run_name (fun c hc => by simp [step, hc]) hname
  have hclose : run ⟨.name .endTag name.toList, child, frame :: outer⟩ ">" =
      some ⟨.content, frame.add (.element name attributes child.nodes), outer⟩ := by
    have hbracket : isNameChar '>' = false := by decide
    simp [run, step, hbracket, behindName, closeTag, hchild]
  have hgroup : "<" ++ name ++ writeAttributes attributes ++ ">" ++ inner ++ "</" ++ name ++ ">" =
      "<" ++ (name ++ ((writeAttributes attributes ++ ">") ++
        (inner ++ ("</" ++ (name ++ ">"))))) := by
    simp only [String.append_assoc]
  rw [hgroup, run_behind hopen, run_behind hstart, run_behind htag, run_behind hinner,
    run_behind hslash, run_behind hend, hclose]

/-- A comment leaves no trace. -/
theorem run_comment {text : String} (h : '-' ∉ text.toList) :
    run ⟨.content, frame, outer⟩ ("<!--" ++ text ++ "-->") = some ⟨.content, frame, outer⟩ := by
  have hstart : run ⟨.content, frame, outer⟩ "<!--" = some ⟨.comment 0, frame, outer⟩ := by
    have hbang : isNameChar '!' = false := by decide
    simp [run, step, hbang]
  have htext : run ⟨.comment 0, frame, outer⟩ text = some ⟨.comment 0, frame, outer⟩ := by
    have hstep : ∀ cs : List Char, '-' ∉ cs →
        cs.foldlM step ⟨.comment 0, frame, outer⟩ = some ⟨.comment 0, frame, outer⟩ := by
      intro cs hcs
      induction cs with
      | nil => rfl
      | cons c cs ih =>
        have hc : c ≠ '-' := fun e => hcs (by rw [e]; exact .head _)
        rw [List.foldlM_cons, step]
        simp [hc, ih fun hmem => hcs (.tail _ hmem)]
    exact hstep text.toList h
  have hend : run ⟨.comment 0, frame, outer⟩ "-->" = some ⟨.content, frame, outer⟩ := by
    simp [run, step]
  rw [String.append_assoc, run_behind hstart, run_behind htext, hend]

end ReaderState

end DerivedQuery.Xml
