import DerivedQuery.Manifest.Basic
import DerivedQuery.Statement.Document

/-!
# Generation

A run derives every candidate method of a manifest's mapper and applies it to a document, an
existing one or a new one. What became of each method is kept in the `Report`; only a mapper that
is not declared or a document of another namespace make the run as a whole fail.

Mirrors `generate`, `GenerationReport`, `FailedMethod` and `GenerateError`; what is logged on the
way is left out, here and in the modules below.
-/

namespace DerivedQuery

open DerivedQuery.Types

/-- A derived method that no statement could be built for. -/
structure FailedMethod where
  name : String
  error : TranslateError
deriving DecidableEq, Repr

/-- The document and what became of each method, in the candidates' order. -/
structure Report where
  document : Document
  /-- The methods whose statement was added. -/
  added : List String := []
  /-- The methods that had a statement. -/
  existing : List String := []
  skipped : List SkippedMethod := []
  failed : List FailedMethod := []
deriving DecidableEq, Repr

namespace Report

/-- The number of methods without a statement. -/
def missing (r : Report) : Nat := r.skipped.length + r.failed.length

/-- Whether every method has a statement. -/
def isComplete (r : Report) : Bool := r.skipped.isEmpty && r.failed.isEmpty

end Report

/-- Why a run fails. -/
inductive GenerateError
  | manifest (cause : ManifestError)
  | document (cause : DocumentError)
deriving DecidableEq, Repr

/-- The message of a run that failed. -/
def GenerateError.message : GenerateError → String
  | .manifest cause => cause.message
  | .document cause => cause.message

/-- A report and the ids that are known at that point of the run. -/
structure Progress where
  report : Report
  known : IdSnapshot
deriving DecidableEq, Repr

/-- The progress after one more method. -/
def Progress.step (t : Translator) (p : Progress) :
    Except SkippedMethod DerivedMethod → Progress
  | .error skipped => { p with report.skipped := p.report.skipped ++ [skipped] }
  | .ok derived =>
    let name := derived.method.name
    match p.report.document.apply p.known t derived with
    | .error e => { p with report.failed := p.report.failed ++ [⟨name, e⟩] }
    | .ok (.alreadyExists, document, known) =>
      ⟨{ p.report with document := document, existing := p.report.existing ++ [name] }, known⟩
    | .ok (.added, document, known) =>
      ⟨{ p.report with document := document, added := p.report.added ++ [name] }, known⟩

namespace Manifest

/-- The translator with the manifest's table and naming. -/
def translator (m : Manifest) : Translator := ⟨m.table, m.settings.naming.convert⟩

/-- The document a run starts from. -/
def startingDocument (m : Manifest) : Option Document → Except DocumentError Document
  | none => .ok ⟨m.namespaceName, []⟩
  | some d => do
    d.ensureNamespace m.namespaceName
    return d

/-- The run over an existing document, or over a new one. -/
def generate (m : Manifest) (existing : Option Document) : Except GenerateError Report :=
  if !m.typeTable.contains m.mapper then .error (.manifest (.unknownMapper m.mapper))
  else
    match m.startingDocument existing with
    | .error cause => .error (.document cause)
    | .ok d =>
      .ok ((deriveMethods m.resolver m.mapper).foldl (Progress.step m.translator)
        ⟨{ document := d }, d.snapshot⟩).report

end Manifest

end DerivedQuery
