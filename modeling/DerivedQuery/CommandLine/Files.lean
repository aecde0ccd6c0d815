import DerivedQuery.Files.Directory
import DerivedQuery.Manifest.Basic
import DerivedQuery.Record.Document
import DerivedQuery.Record.Manifest

/-!
# Manifests and documents in files

The ending of a file's name says in which format the file is written. A manifest's ending is
looked at before the file is read, and a manifest has to have one that is known; a document without
the ending of JSON is read as YAML.

Mirrors the two `from_path`, of a manifest and of a document.
-/

namespace DerivedQuery.CommandLine

/-- The texts of files by their paths. A file that cannot be read has the reason instead. -/
abbrev Files := String → Except ReadFailure String

/-- The files of a directory that holds nothing but the given paths and texts. -/
def Files.ofList (entries : List (String × String)) : Files := (Directory.ofList entries).read

/-- The ending of the file's name in a path: what follows its last dot. A dot at the start of the
name does not count. -/
def ending? (path : String) : Option String :=
  let parts := (path.splitOn "/").filter fun part => !part.isEmpty && part != "."
  match parts.getLast? with
  | none | some ".." => none
  | some name =>
    let reversed := name.toList.reverse
    match reversed.dropWhile (· != '.') with
    | _ :: _ :: _ => some (String.ofList (reversed.takeWhile (· != '.')).reverse)
    | _ => none

/-- The formats a manifest can be written in. -/
inductive FileFormat
  | json
  | yaml
deriving DecidableEq, Repr

/-- The format of the files with an ending. -/
def FileFormat.ofEnding? : String → Option FileFormat
  | "json" => some .json
  | "yaml" | "yml" => some .yaml
  | _ => none

/-- Reads the manifest in a file. -/
def readManifest (files : Files) (path : String) : Except ManifestError Manifest :=
  let ending := (ending? path).getD ""
  match FileFormat.ofEnding? ending, files path with
  | none, _ => .error (.unsupportedFormat ending)
  | some _, .error cause => .error (.unreadable cause)
  | some .json, .ok text => (Manifest.ofJson? text).elim (.error .malformedJson) .ok
  | some .yaml, .ok text => (Manifest.ofYaml? text).elim (.error .malformedYaml) .ok

/-- Reads the document in a file. -/
def readDocument (files : Files) (path : String) : Except DocumentError Document :=
  match files path with
  | .error cause => .error (.unreadable cause)
  | .ok text =>
    let document? := match (ending? path).bind FileFormat.ofEnding? with
      | some .json => Document.ofJson? text
      | _ => Document.ofYaml? text
    document?.elim (.error .corrupt) .ok

end DerivedQuery.CommandLine
