import DerivedQuery.Record.Source
import DerivedQuery.Yaml.Node

/-!
# Records in YAML

The fields of a record are the entries of a mapping; entries of other names are passed over,
whatever they hold. Any scalar can be taken as a text, as it is written. Where nothing is written
there is a list without items or a record without fields. An enumeration is a scalar, or a tag with
an exclamation mark in front at a scalar for null.

Nodes are read down to a number of levels. References are followed, but only so often in all.
-/

namespace DerivedQuery.Record

open DerivedQuery.Yaml

/-- The number of levels of sequences and mappings that are read. -/
def yamlLevels : Nat := 128

/-- The tags of scalars that are not texts. -/
inductive CoreTag
  | null
  | flag
  | integer
  | real
deriving DecidableEq, Repr

namespace CoreTag

/-- All core tags. -/
def all : List CoreTag := [.null, .flag, .integer, .real]

/-- A core tag as it is written in full. -/
def name : CoreTag → String
  | .null => "tag:yaml.org,2002:null"
  | .flag => "tag:yaml.org,2002:bool"
  | .integer => "tag:yaml.org,2002:int"
  | .real => "tag:yaml.org,2002:float"

/-- The core tag with the given bytes. -/
def ofBytes? (bytes : TagBytes) : Option CoreTag := all.find? fun tag => tagOfText tag.name == bytes

end CoreTag

/-- The core tag of a node, if it has one. -/
def coreTag? (p : Properties) : Option CoreTag := p.tag.bind CoreTag.ofBytes?

/-- Whether a tag starts with an exclamation mark. -/
def isLocal (tag : TagBytes) : Bool := (tagOfText "!").isPrefixOf tag

/-- The name in a tag that starts with an exclamation mark, if it is a text. -/
def localTag? (p : Properties) : Option String :=
  p.tag.bind fun tag => if isLocal tag then String.fromUTF8? ⟨tag.tail.toArray⟩ else none

/-! ## References -/

/-- A result that counts down the references that may still be followed. -/
abbrev Counted := StateT Nat Option

/-- The node that a node is or refers to. -/
def follow (g : Graph) (n : Node) : Counted Node := do
  match n with
  | .reference anchor =>
    match ← get with
    | 0 => failure
    | count + 1 =>
      set count
      (g.anchored.lookup anchor).getM
  | n => return n

/-! ## Fragments -/

/-- The content of a value that a plain scalar stands for; a text stands for itself. -/
def contentOfValue? (text : String) : PlainValue → Option Content
  | .null => some .null
  | .flag value => some (.flag value)
  | .natural value => some (.natural value)
  | .number => some .number
  | .wide => none
  | .text => some (.text text)

/-- The content of a scalar. A core tag has to fit the text, and a name behind an exclamation mark
has no content; the mark counts for nothing where no name follows it that is a text. -/
def contentOfScalar? (p : Properties) (form : ScalarForm) (text : String) : Option Content :=
  if (localTag? p).isSome then none
  else
    match coreTag? p with
    | some .null => if nullWords.contains text then some .null else none
    | some .flag => (flag? text).map .flag
    | some .integer => (integerValue? text).bind (contentOfValue? text)
    | some .real => if isReal text then some .number else none
    | none =>
      if p.tag.all isLocal && form = .plain then contentOfValue? text (plainValue text)
      else some (.text text)

/-- The content of a node that is nested no deeper than a number of levels. -/
def contentOfNode (g : Graph) : Nat → Node → Counted Content
  | levels, n => do
    match ← follow g n, levels with
    | .scalar p form text, _ => (contentOfScalar? p form text).getM
    | .sequence p items, levels + 1 =>
      if (localTag? p).isSome then failure
      return .list (← items.mapM (contentOfNode g levels))
    | .mapping p entries, levels + 1 =>
      if (localTag? p).isSome then failure
      return .map (← entries.mapM fun (key, value) => do
        return (← contentOfNode g levels key, ← contentOfNode g levels value))
    | _, _ => failure

/-- The content of a scalar that is taken as it is written. -/
def contentAsWritten (g : Graph) (n : Node) : Counted Content := do
  match ← follow g n with
  | .scalar _ _ text => return .text text
  | _ => failure

/-- The content of a node that is a fragment. The kind of the fragment is taken as it is written. -/
def contentOfFragment (g : Graph) (levels : Nat) (n : Node) : Counted Content := do
  match ← follow g n, levels with
  | .sequence p (kind :: fields), levels + 1 =>
    if (localTag? p).isSome then failure
    return .list ((← contentAsWritten g kind) :: (← fields.mapM (contentOfNode g levels)))
  | .mapping p entries, levels + 1 =>
    if (localTag? p).isSome then failure
    return .map (← entries.mapM fun (key, value) => do
      let key ← contentOfNode g levels key
      -- The kind may be quoted or tagged: only its letters count.
      return (key, ← if key.isTag then contentAsWritten g value else contentOfNode g levels value))
  | _, _ => failure

/-! ## Places -/

/-- A node of a graph with the number of levels that may still be entered. -/
structure YamlPlace where
  levels : Nat
  graph : Graph
  node : Node

/-- Whether nothing is written at a node. -/
def isEmptyNode : Node → Bool
  | .scalar _ form text => form = .plain && text.isEmpty
  | _ => false

namespace YamlPlace

/-- The node that is at the place or that is referred to there. -/
def target (p : YamlPlace) : Counted Node := follow p.graph p.node

/-- The place of another node. -/
def goto (p : YamlPlace) (levels : Nat) (n : Node) : YamlPlace := { p with levels, node := n }

/-- The text of a scalar. -/
def text? (p : YamlPlace) : Counted String := do
  match ← p.target with
  | .scalar _ _ text => return text
  | _ => failure

/-- The truth value of a scalar without quotes, or of a literal one with its tag. -/
def flag? (p : YamlPlace) : Counted Bool := do
  match ← p.target with
  | .scalar q form text =>
    if form = .plain || (form = .literal && coreTag? q = some .flag) then (Yaml.flag? text).getM
    else failure
  | _ => failure

/-- The word of a case: a scalar, or the name in the tag of a scalar for null. -/
def word? (p : YamlPlace) : Counted String := do
  match ← p.target with
  | .scalar q form text =>
    match localTag? q with
    | none => return text
    | some name =>
      if form = .plain && (text.isEmpty || nullWords.contains text) then return name else failure
  | _ => failure

/-- A plain scalar without a tag that is empty or null holds nothing, and so does null with its
tag. -/
def optional? (p : YamlPlace) : Counted (Option YamlPlace) := do
  let n ← p.target
  match n with
  | .scalar q .plain text =>
    if coreTag? q = some .null then if nullWords.contains text then return none else failure
    else if q.tag.isNone && (text.isEmpty || nullWords.contains text) then return none
    else return some (p.goto p.levels n)
  | _ => return some (p.goto p.levels n)

/-- The items of a sequence, one level further in. -/
def items? (p : YamlPlace) : Counted (List YamlPlace) := do
  match p.levels, ← p.target with
  | levels + 1, .sequence _ items => return items.map (p.goto levels)
  | _, n => if isEmptyNode n then return [] else failure

/-- The fields of a record, one level further in. -/
def fields? (names : List String) (p : YamlPlace) : Counted (List (Option YamlPlace)) := do
  match p.levels, ← p.target with
  | levels + 1, .mapping _ entries =>
    let placed ← entries.mapM fun (key, value) => do
      return (names.idxOf? (← (p.goto levels key).text?), p.goto levels value)
    (fillPlaces names.length placed).getM
  | _, n => if isEmptyNode n then (fillPlaces names.length []).getM else failure

/-- The content of a fragment. -/
def content? (p : YamlPlace) : Counted Content := contentOfFragment p.graph p.levels p.node

end YamlPlace

/-- How the nodes of a YAML text are taken. -/
def yamlSource : Source Counted YamlPlace where
  text? := YamlPlace.text?
  flag? := YamlPlace.flag?
  word? := YamlPlace.word?
  optional? := YamlPlace.optional?
  items? := YamlPlace.items?
  fields? := YamlPlace.fields?
  content? := YamlPlace.content?

/-- Reads the whole document of a YAML text. A hundred references may be followed for each node, and
for each end of a collection. -/
def YamlPlace.readBy? {β : Type} (read : YamlPlace → Counted β) (text : String) : Option β := do
  let graph ← Graph.read? text
  (read ⟨yamlLevels, graph, graph.root⟩).run' (100 * graph.size)

end DerivedQuery.Record
