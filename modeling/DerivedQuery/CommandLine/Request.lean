import DerivedQuery.CommandLine.Arguments
import DerivedQuery.Output

/-!
# Requests

What the arguments of the program ask for. Arguments that ask for nothing the program does are no
request.

Mirrors `Cli`, `Commands` and `GenerateOptions`.
-/

namespace DerivedQuery.CommandLine

/-- What to derive the statements of, and how to show them. -/
structure GenerateOptions where
  /-- The path of the manifest. -/
  manifest : String
  /-- The path of a document to extend. -/
  existing : Option String := none
  format : OutputFormat := .json
  pretty : Bool := false
  /-- Whether a method without a statement is an error. -/
  strict : Bool := false
deriving DecidableEq, Repr

/-- What the program can be asked for. -/
inductive Request
  /-- The program's version. -/
  | version
  /-- The statements of a mapper. -/
  | generate (options : GenerateOptions)
  /-- The parts of a method's name, or of the names in the input. -/
  | parse (name : Option String) (pretty : Bool)
  /-- The classification of a type. -/
  | resolve (manifest signature : String) (pretty : Bool)
  /-- The overview. -/
  | overview
  /-- The text on the topic of a name. -/
  | topic (name : String)
deriving DecidableEq, Repr

namespace Request

/-- The paths of the files that are needed to respond. -/
def paths : Request → List String
  | generate options => options.manifest :: options.existing.toList
  | resolve manifest _ _ => [manifest]
  | version | parse _ _ | overview | topic _ => []

/-- Whether the input is needed to respond. -/
def needsInput : Request → Bool
  | parse none _ => true
  | _ => false

end Request

/-! ## Reading arguments -/

/-- The option for a form over several lines. -/
def prettyOption : CommandOption := { name := "pretty", letter := some 'p' }

/-- The options of the command that generates statements. -/
def generateOptions : List CommandOption := [
  { name := "existing", letter := some 'e', hasValue := true },
  { name := "format", letter := some 'f', hasValue := true },
  prettyOption, { name := "strict" }]

/-- A path; an empty text is none. -/
def path? (text : String) : Option String := if text.isEmpty then none else some text

/-- The path that an option gives, if it is given. -/
def optionalPath? : Option String → Option (Option String)
  | none => some none
  | some text => (path? text).map some

/-- The format that an option gives, which is JSON if it is not given. -/
def format? : Option String → Option OutputFormat
  | none => some .json
  | some name => (OutputFormat.ofName name).toOption

namespace Request

/-- The request to generate statements. -/
def generate? (arguments : List String) : Option Request := do
  let a ← Arguments.read? generateOptions arguments
  let [manifest] := a.values | none
  return .generate {
    manifest := ← path? manifest
    existing := ← optionalPath? (a.option? "existing")
    format := ← format? (a.option? "format")
    pretty := a.has "pretty"
    strict := a.has "strict" }

/-- The request to show the parts of names. -/
def parse? (arguments : List String) : Option Request := do
  let a ← Arguments.read? [prettyOption] arguments
  match a.values with
  | [] => return .parse none (a.has "pretty")
  | [name] => return .parse (some name) (a.has "pretty")
  | _ => none

/-- The request to classify a type. -/
def resolve? (arguments : List String) : Option Request := do
  let a ← Arguments.read? [prettyOption] arguments
  let [manifest, signature] := a.values | none
  return .resolve (← path? manifest) signature (a.has "pretty")

/-- The request for the overview. -/
def overview? (arguments : List String) : Option Request := do
  let a ← Arguments.read? [] arguments
  if a.values.isEmpty then some .overview else none

/-- The request for the text on a topic. -/
def topic? (arguments : List String) : Option Request := do
  let a ← Arguments.read? [] arguments
  let [name] := a.values | none
  return .topic name

/-- What the arguments of the program ask for. -/
def ofArguments? : List String → Option Request
  | "generate" :: rest => generate? rest
  | "parse" :: rest => parse? rest
  | "resolve" :: rest => resolve? rest
  | "docs" :: rest => overview? rest
  | "doc" :: rest => topic? rest
  | first :: _ => if first == "--version" || first.startsWith "-V" then some .version else none
  | [] => none

end Request

end DerivedQuery.CommandLine
