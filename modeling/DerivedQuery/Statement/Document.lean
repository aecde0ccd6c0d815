import DerivedQuery.Files.Failure
import DerivedQuery.Method.Derivation
import DerivedQuery.Statement.Translation

/-!
# Statement documents

A document holds the statements of one mapper, derived or written by hand. A statement is added for
a method only if the ids known so far do not have the method's name; the known ids are kept in an
`IdSnapshot` beside the document.

Mirrors `StatementDocument` with `get`, `ensure_namespace` and `apply`, `IdSnapshot`,
`TranslateOutcome` and `DocumentError`.
-/

namespace DerivedQuery

/-- The statements of a mapper. -/
structure Document where
  /-- The namespace of the mapper. -/
  namespaceName : String
  statements : List Statement := []
deriving DecidableEq, Repr

/-- The ids of statements that are known, each once. -/
structure IdSnapshot where
  ids : List String
deriving DecidableEq, Repr

namespace IdSnapshot

/-- The snapshot without ids. -/
def empty : IdSnapshot := ⟨[]⟩

/-- Whether an id is known. -/
def contains (s : IdSnapshot) (id : String) : Bool := s.ids.contains id

/-- The number of known ids. -/
def size (s : IdSnapshot) : Nat := s.ids.length

/-- The snapshot with an id recorded. -/
def record (s : IdSnapshot) (id : String) : IdSnapshot :=
  if s.contains id then s else ⟨s.ids ++ [id]⟩

/-- The snapshot of ids. -/
def ofList (ids : List String) : IdSnapshot := ids.foldl record empty

end IdSnapshot

/-- What became of a method that was applied to a document. -/
inductive Outcome
  /-- Its statement was added. -/
  | added
  /-- A statement of its id was known. -/
  | alreadyExists
deriving DecidableEq, Repr

namespace Document

/-- The first statement of an id. -/
def find? (d : Document) (id : String) : Option Statement := d.statements.find? (·.id == id)

/-- The ids of the document's statements. -/
def snapshot (d : Document) : IdSnapshot := .ofList (d.statements.map (·.id))

/-- The document and the known ids after a method has been applied. A method whose name is known
changes nothing, and neither does one that no statement can be built for. -/
def apply (d : Document) (known : IdSnapshot) (t : Translator) (derived : DerivedMethod) :
    Except TranslateError (Outcome × Document × IdSnapshot) :=
  if known.contains derived.method.name then .ok (.alreadyExists, d, known)
  else
    match t.translate derived.query derived.method with
    | .error e => .error e
    | .ok s =>
      .ok (.added, { d with statements := d.statements ++ [s] }, known.record derived.method.name)

end Document

/-- Why a document cannot be used. -/
inductive DocumentError
  /-- The text is not that of a document. -/
  | corrupt
  | namespaceMismatch (expected found : String)
  /-- The file cannot be read. -/
  | unreadable (cause : ReadFailure)
deriving DecidableEq, Repr

/-- The message of a document error. What is wrong with a corrupt text is not told. -/
def DocumentError.message : DocumentError → String
  | .corrupt => "statement document is corrupt: "
  | .namespaceMismatch expected found =>
    s!"document namespace `{found}` does not match `{expected}`"
  | .unreadable cause => "failed to read statement document: " ++ cause.message

/-- Fails unless the document is one of the namespace. -/
def Document.ensureNamespace (d : Document) (expected : String) : Except DocumentError Unit :=
  if d.namespaceName = expected then .ok ()
  else .error (.namespaceMismatch expected d.namespaceName)

end DerivedQuery
