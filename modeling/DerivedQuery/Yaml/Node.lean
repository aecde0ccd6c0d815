import DerivedQuery.Yaml.Layout

/-!
# Nodes

A YAML text stands for a graph of nodes: scalars, sequences and mappings, and references to nodes
with an anchor. `Graph.read?` reads the one document of a text; a text with none or several has no
graph.

A name can be given to several nodes in turn. Anchors are therefore numbered, each by the number of
different names before it, and a reference holds the number that its name has at that place. If a
name is given again, two nodes can come to share a number; the later one then has it.
-/

namespace DerivedQuery.Yaml

/-- What can be said of any node. -/
structure Properties where
  anchor : Option Nat := none
  /-- The type of the node, if it is given. -/
  tag : Option TagBytes := none
deriving DecidableEq, Repr

/-- A node. -/
inductive Node
  | reference (anchor : Nat)
  | scalar (properties : Properties) (form : ScalarForm) (text : String)
  | sequence (properties : Properties) (items : List Node)
  | mapping (properties : Properties) (entries : List (Node × Node))
deriving Repr, Inhabited

/-- The scalar that stands where nothing is written. -/
def Node.empty : Node := .scalar {} .plain ""

/-- The graph of a document. -/
structure Graph where
  root : Node
  /-- The nodes with anchors. -/
  anchored : List (Nat × Node)
  /-- The number of nodes and ends of collections. -/
  size : Nat

mutual

/-- The nodes with anchors in a node, the last one first. -/
def Node.anchored : Node → List (Nat × Node)
  | .reference _ => []
  | .scalar p form text => own p (.scalar p form text)
  | .sequence p items => anchoredInItems items ++ own p (.sequence p items)
  | .mapping p entries => anchoredInEntries entries ++ own p (.mapping p entries)
where
  /-- The node itself, if it has an anchor. -/
  own (p : Properties) (n : Node) : List (Nat × Node) := (p.anchor.map (·, n)).toList

/-- The nodes with anchors in items, the last one first. -/
def anchoredInItems : List Node → List (Nat × Node)
  | [] => []
  | n :: rest => anchoredInItems rest ++ n.anchored

/-- The nodes with anchors in entries, the last one first. -/
def anchoredInEntries : List (Node × Node) → List (Nat × Node)
  | [] => []
  | (key, value) :: rest => anchoredInEntries rest ++ value.anchored ++ key.anchored

end

mutual

/-- The number of nodes and ends of collections in a node. -/
def Node.size : Node → Nat
  | .reference _ | .scalar .. => 1
  | .sequence _ items => sizeOfItems items + 2
  | .mapping _ entries => sizeOfEntries entries + 2

/-- The number of nodes and ends of collections in items. -/
def sizeOfItems : List Node → Nat
  | [] => 0
  | n :: rest => n.size + sizeOfItems rest

/-- The number of nodes and ends of collections in entries. -/
def sizeOfEntries : List (Node × Node) → Nat
  | [] => 0
  | (key, value) :: rest => key.size + value.size + sizeOfEntries rest

end

/-! ## Reading nodes -/

/-- What is left of the tokens, with the numbers of the anchors so far, the latest first. -/
structure Reading where
  rest : List Token
  anchors : List (String × Nat) := []

namespace Reading

/-- The next token. -/
def head? (r : Reading) : Option Token := r.rest.head?

/-- What is left after the next token. -/
def skip (r : Reading) : Reading := { r with rest := r.rest.tail }

/-- The number for one more anchor. -/
def nextAnchor (r : Reading) : Nat := (r.anchors.map (·.1)).eraseDups.length

/-- Gives a name the number for one more anchor. -/
def addAnchor (r : Reading) (name : String) : Reading :=
  { r with anchors := (name, r.nextAnchor) :: r.anchors }

end Reading

/-- The handles with what they stand for when a text does not say so. -/
def usualHandles : List (String × TagBytes) :=
  [("!", tagOfText "!"), ("!!", tagOfText "tag:yaml.org,2002:")]

/-- The tag for a handle and what follows it. -/
def expandTag? (handles : List (String × TagBytes)) (handle : String) (suffix : TagBytes) :
    Option TagBytes :=
  if handle.isEmpty then some suffix else (handles.lookup handle).map (· ++ suffix)

/-- Reads the anchor and the tag of a node, in any order. -/
def readProperties? (handles : List (String × TagBytes)) (r : Reading) :
    Option (Properties × Reading) := do
  match r.rest with
  | .anchor name :: .tag handle suffix :: rest | .tag handle suffix :: .anchor name :: rest =>
    let tag ← expandTag? handles handle suffix
    return ({ anchor := r.nextAnchor, tag }, { r.addAnchor name with rest })
  | .anchor name :: rest => return ({ anchor := r.nextAnchor }, { r.addAnchor name with rest })
  | .tag handle suffix :: rest =>
    return ({ tag := ← expandTag? handles handle suffix }, { r with rest })
  | _ => return ({}, r)

/-- Where a node stands, which decides what kinds of collections it can be. -/
inductive Setting
  /-- Within brackets or braces, where no block can stand. -/
  | flow
  /-- In a block. -/
  | block
  /-- At a key or a value of a block mapping, where a sequence need not be indented. -/
  | field
deriving DecidableEq, Repr

mutual

/-- Reads a node. The number of steps bounds the depth of the reading. -/
def readNode? (handles : List (String × TagBytes)) :
    Nat → Setting → Reading → Option (Node × Reading)
  | 0, _, _ => none
  | steps + 1, setting, r =>
    match r.head? with
    | some (.reference name) => (r.anchors.lookup name).map fun id => (.reference id, r.skip)
    | _ => do
      let (p, r) ← readProperties? handles r
      let empty := if p = {} then none else some (.scalar p .plain "", r)
      match r.head? with
      | some (.scalar form text) => return (.scalar p form text, r.skip)
      | some .flowSequence => do
        let (items, r) ← readFlowItems? handles steps true r.skip
        return (.sequence p items, r)
      | some .flowMapping => do
        let (entries, r) ← readFlowEntries? handles steps true r.skip
        return (.mapping p entries, r)
      | some .dash =>
        if setting = .field then do
          let (items, r) ← readDashes? handles steps r
          return (.sequence p items, r)
        else empty
      | some .blockSequence =>
        if setting = .flow then empty
        else do
          let (items, r) ← readItems? handles steps r.skip
          return (.sequence p items, r)
      | some .blockMapping =>
        if setting = .flow then empty
        else do
          let (entries, r) ← readEntries? handles steps r.skip
          return (.mapping p entries, r)
      | _ => empty

/-- Reads a node, or the empty scalar if one of the given tokens is next. -/
def readNodeBefore? (handles : List (String × TagBytes)) :
    Nat → List Token → Setting → Reading → Option (Node × Reading)
  | 0, _, _, _ => none
  | steps + 1, stops, setting, r =>
    if r.head?.any stops.contains then some (.empty, r) else readNode? handles steps setting r

/-- Reads the items of a block up to its end. -/
def readItems? (handles : List (String × TagBytes)) :
    Nat → Reading → Option (List Node × Reading)
  | 0, _ => none
  | steps + 1, r =>
    match r.head? with
    | some .dash => do
      let (item, r) ← readNodeBefore? handles steps [.dash, .blockEnd] .block r.skip
      let (items, r) ← readItems? handles steps r
      return (item :: items, r)
    | some .blockEnd => some ([], r.skip)
    | _ => none

/-- Reads the items of a sequence that is not indented. -/
def readDashes? (handles : List (String × TagBytes)) :
    Nat → Reading → Option (List Node × Reading)
  | 0, _ => none
  | steps + 1, r =>
    match r.head? with
    | some .dash => do
      let (item, r) ←
        readNodeBefore? handles steps [.dash, .key, .value, .blockEnd] .block r.skip
      let (items, r) ← readDashes? handles steps r
      return (item :: items, r)
    | _ => some ([], r)

/-- Reads the entries of a block up to its end. -/
def readEntries? (handles : List (String × TagBytes)) :
    Nat → Reading → Option (List (Node × Node) × Reading)
  | 0, _ => none
  | steps + 1, r => do
    let stops : List Token := [.key, .value, .blockEnd]
    match r.head? with
    | some .key =>
      let (key, r) ← readNodeBefore? handles steps stops .field r.skip
      let (value, r) ←
        if r.head? = some .value then readNodeBefore? handles steps stops .field r.skip
        else some (.empty, r)
      let (entries, r) ← readEntries? handles steps r
      return ((key, value) :: entries, r)
    | some .blockEnd => return ([], r.skip)
    | _ => none

/-- Reads the items of a sequence in brackets. An item can be an entry, which then is a mapping of
its own. -/
def readFlowItems? (handles : List (String × TagBytes)) :
    Nat → Bool → Reading → Option (List Node × Reading)
  | 0, _, _ => none
  | steps + 1, isFirst, r =>
    if r.head? = some .flowSequenceEnd then some ([], r.skip)
    else do
      let r ← if isFirst then some r else if r.head? = some .comma then some r.skip else none
      match r.head? with
      | some .flowSequenceEnd => return ([], r.skip)
      | some .key =>
        let (key, r) ← readPairKey? handles steps r.skip
        let (value, r) ←
          if r.head? = some .value then
            readNodeBefore? handles steps [.comma, .flowSequenceEnd] .flow r.skip
          else some (.empty, r)
        let (items, r) ← readFlowItems? handles steps false r
        return (.mapping {} [(key, value)] :: items, r)
      | _ =>
        let (item, r) ← readNode? handles steps .flow r
        let (items, r) ← readFlowItems? handles steps false r
        return (item :: items, r)

/-- Reads the key of an entry in brackets. Where it is empty, the token in its place is passed
over. -/
def readPairKey? (handles : List (String × TagBytes)) :
    Nat → Reading → Option (Node × Reading)
  | 0, _ => none
  | steps + 1, r =>
    let stops : List Token := [.value, .comma, .flowSequenceEnd]
    if r.head?.any stops.contains then some (.empty, r.skip) else readNode? handles steps .flow r

/-- Reads the entries of a mapping in braces. A key without a mark has no value. -/
def readFlowEntries? (handles : List (String × TagBytes)) :
    Nat → Bool → Reading → Option (List (Node × Node) × Reading)
  | 0, _, _ => none
  | steps + 1, isFirst, r =>
    if r.head? = some .flowMappingEnd then some ([], r.skip)
    else do
      let r ← if isFirst then some r else if r.head? = some .comma then some r.skip else none
      match r.head? with
      | some .flowMappingEnd => return ([], r.skip)
      | some .key =>
        let (key, r) ←
          readNodeBefore? handles steps [.value, .comma, .flowMappingEnd] .flow r.skip
        let (value, r) ←
          if r.head? = some .value then
            readNodeBefore? handles steps [.comma, .flowMappingEnd] .flow r.skip
          else some (.empty, r)
        let (entries, r) ← readFlowEntries? handles steps false r
        return ((key, value) :: entries, r)
      | _ =>
        let (key, r) ← readNode? handles steps .flow r
        let (entries, r) ← readFlowEntries? handles steps false r
        return ((key, .empty) :: entries, r)

end

/-! ## Documents -/

/-- Whether a version of YAML is known. -/
def isKnownVersion (major minor : Nat) : Bool := major == 1 && (minor == 1 || minor == 2)

/-- Reads the directives in front of a document: the handles they give, and the tokens behind
them. There may be one version and one meaning for each handle. -/
def readDirectives? (hasVersion : Bool) (handles : List (String × TagBytes)) :
    List Token → Option (List (String × TagBytes) × List Token)
  | .version major minor :: rest =>
    if hasVersion || !isKnownVersion major minor then none else readDirectives? true handles rest
  | .handle name expansion :: rest =>
    if (handles.lookup name).isSome then none
    else readDirectives? hasVersion ((name, expansion) :: handles) rest
  | rest => some (handles, rest)

/-- Whether a token is a directive. -/
def Token.isDirective : Token → Bool
  | .version .. | .handle .. => true
  | _ => false

/-- Reads the start of the document: the handles in use and the tokens of its content. Only behind
directives the document has to be marked. -/
def readStart? (tokens : List Token) : Option (List (String × TagBytes) × List Token) := do
  let (handles, rest) ← readDirectives? false [] tokens
  let handles := handles ++ usualHandles
  match rest with
  | [] | .documentEnd :: _ => none
  | .documentStart :: content => return (handles, content)
  | _ => if tokens.head?.any Token.isDirective then none else some (handles, rest)

/-- Whether the tokens of a document start with the end of its content. -/
def isEndOfContent : List Token → Bool
  | [] => true
  | t :: _ => t.isDirective || t == .documentStart || t == .documentEnd

/-- The graph of the only document of a text. -/
def Graph.read? (text : String) : Option Graph := do
  let tokens ← tokens? text
  let (handles, content) ← readStart? tokens
  let (root, r) ←
    if isEndOfContent content then some (Node.empty, { rest := content })
    else readNode? handles (2 * tokens.length + 2) .block { rest := content }
  if r.rest.all (· == .documentEnd) then some ⟨root, root.anchored, root.size⟩ else none

end DerivedQuery.Yaml
