import DerivedQuery.CommandLine.Files
import DerivedQuery.CommandLine.Request
import DerivedQuery.CommandLine.Topic
import DerivedQuery.Generation
import DerivedQuery.MethodName.Parser
import DerivedQuery.Query.Serialized
import DerivedQuery.Unicode.Blank

/-!
# Responses

What the program writes in response to a request. A request that fails says why beside the output
and sets the exit code; the notes on methods without a statement appear whether it fails or not.

Mirrors `execute_generate`, `parse_name`, `resolve_type`, `run_generate`, `run_parse`, `print_json`
and `CliError`.
-/

namespace DerivedQuery.CommandLine

open DerivedQuery.MethodName DerivedQuery.Types

/-- Why a request fails. -/
inductive CommandError
  | parse (cause : ParseError)
  | signature (cause : SignatureError)
  | resolve (cause : ResolveError)
  | manifest (cause : ManifestError)
  | document (cause : DocumentError)
  | generate (cause : GenerateError)
  /-- The input cannot be read. -/
  | unreadableInput (cause : ReadFailure)
  | noInput
  /-- Methods have no statement although all have to have one. -/
  | incomplete (missing : Nat)
  | unknownTopic (name : String)
deriving DecidableEq, Repr

/-- The message of a request that fails. -/
def CommandError.message : CommandError → String
  | .parse cause => "Parse error: " ++ cause.message
  | .signature cause => "Invalid type signature: " ++ cause.message
  | .resolve cause => "Resolution error: " ++ cause.message
  | .manifest cause => "Manifest error: " ++ cause.message
  | .document cause => "Document error: " ++ cause.message
  | .generate cause => cause.message
  | .unreadableInput cause => "IO error: " ++ cause.message
  | .noInput => "No input provided. Pass a method name or pipe names to stdin."
  | .incomplete missing => s!"{missing} method(s) produced no statement"
  | .unknownTopic name =>
    s!"Unknown category: '{name}'\nRun 'mapgen docs' to see available categories."

/-! ## Answers -/

/-- The parts of a method's name. -/
structure NameReport where
  name : String
  tokens : List Token
  query : Query
deriving DecidableEq, Repr

/-- The report as it is shown. -/
def NameReport.toJson (r : NameReport) : Json :=
  .ofMembers [
    ("name", .text r.name), ("tokens", .array (r.tokens.map Token.toJson)),
    ("query", r.query.toJson)]

/-- Takes a method's name apart. -/
def describeName (name : String) : Except CommandError NameReport := do
  let query ← (MethodName.parse name).mapError .parse
  let tokens ← (tokenize name).mapError fun e => .parse (.lex e)
  return ⟨name, tokens, query⟩

/-- Classifies a type as the mapper of a manifest sees it. -/
def resolveType (files : Files) (manifest signature : String) : Except CommandError Descriptor := do
  let m ← (readManifest files manifest).mapError .manifest
  let type ← (TypeRef.parse signature).mapError .signature
  (m.resolver.resolve (.simple m.mapper) type).mapError .resolve

/-- Runs a manifest over an existing document, or over a new one. -/
def runManifest (files : Files) (options : GenerateOptions) : Except CommandError Report := do
  let m ← (readManifest files options.manifest).mapError .manifest
  let existing ← options.existing.mapM fun path => (readDocument files path).mapError .document
  (m.generate existing).mapError .generate

/-- The document of a report as a text. All methods have to have a statement if the options ask
for that. -/
def showReport (options : GenerateOptions) (r : Report) : Except CommandError String :=
  if options.strict && !r.isComplete then .error (.incomplete r.missing)
  else .ok (r.document.render options.format options.pretty)

/-- A line for each method without a statement. -/
def notes (r : Report) : List String :=
  r.skipped.map (fun s => s!"skipped {s.name}: " ++ s.reason.message) ++
    r.failed.map (fun f => s!"failed {f.name}: " ++ f.error.message)

/-- The text on the topic of a name. -/
def describeTopic (name : String) : Except CommandError String :=
  match Topic.ofName? name with
  | some topic => .ok topic.text
  | none => .error (.unknownTopic name)

/-- The names in an input, one on each line. Blanks around a name and empty lines do not count. -/
def inputNames (input : String) : List String :=
  ((input.splitOn "\n").map fun line => String.ofList (Unicode.trimWhiteSpace line.toList)).filter
    (!·.isEmpty)

/-! ## Responses -/

/-- What the program writes and how it ends. -/
structure Response where
  /-- What is written as output. -/
  output : String := ""
  /-- What is written beside the output. -/
  messages : String := ""
  exitCode : Nat := 0
deriving DecidableEq, Repr

namespace Response

/-- The response that consists of an output. -/
def ofOutput (output : String) : Response := { output }

/-- The response to a request that fails. -/
def ofError (e : CommandError) : Response := { messages := e.message ++ "\n", exitCode := 1 }

/-- The output, or the response to a request that fails. -/
def ofResult : Except CommandError String → Response
  | .ok output => ofOutput output
  | .error e => ofError e

/-- What is written first and then the response. -/
def after (output messages : String) (r : Response) : Response :=
  { r with output := output ++ r.output, messages := messages ++ r.messages }

/-- The value on lines of its own. -/
def jsonLine (pretty : Bool) (v : Json) : String := v.print pretty ++ "\n"

/-- The parts of names up to the first that cannot be parsed. -/
def ofNames (pretty : Bool) : List String → Response
  | [] => {}
  | name :: rest =>
    match describeName name with
    | .ok r => (ofNames pretty rest).after (jsonLine pretty r.toJson) ""
    | .error e => ofError e

/-- The response to a request to generate statements. -/
def ofGenerate (files : Files) (options : GenerateOptions) : Response :=
  match runManifest files options with
  | .error e => ofError e
  | .ok r =>
    (ofResult ((showReport options r).map (· ++ "\n"))).after ""
      (String.join ((notes r).map (· ++ "\n")))

end Response

/-- What the program is given beside its arguments. -/
structure Surroundings where
  files : Files
  /-- The input, or why it cannot be read; none if it is a terminal. -/
  input : Option (Except ReadFailure String)

/-- The response to a request. -/
def respond (s : Surroundings) : Request → Response
  | .version => .ofOutput "mapgen 0.1.0\n"
  | .generate options => .ofGenerate s.files options
  | .parse (some name) pretty => .ofNames pretty [name]
  | .parse none pretty =>
    match s.input with
    | none => .ofError .noInput
    | some (.error cause) => .ofError (.unreadableInput cause)
    | some (.ok text) => .ofNames pretty (inputNames text)
  | .resolve manifest signature pretty =>
    .ofResult ((resolveType s.files manifest signature).map fun d =>
      Response.jsonLine pretty d.toJson)
  | .overview => .ofOutput overview
  | .topic name => .ofResult (describeTopic name)

end DerivedQuery.CommandLine
