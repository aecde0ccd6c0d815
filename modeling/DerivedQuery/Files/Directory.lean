import DerivedQuery.Files.Failure

/-!
# Paths in a directory

A `Directory` is known by its files, each under the names that lead to it. A path is followed name
by name, and only a directory can be followed further: `a.txt/.` leads nowhere if `a.txt` is a file.
-/

namespace DerivedQuery

/-- The texts of the files in a directory by the names that lead to them. -/
structure Directory where
  files : List (List String × String)
deriving DecidableEq, Repr

namespace Directory

/-- Where a path leads. -/
inductive Place
  | file (text : String)
  /-- The directory that the names lead to. -/
  | inside (names : List String)
  /-- A directory around the whole; nothing is known to be in it. -/
  | outside
deriving DecidableEq, Repr

/-- The greatest size of a name, in bytes. -/
def maxNameSize : Nat := 255

/-- The greatest size of a path, in bytes. -/
def maxPathSize : Nat := 4095

/-- Whether a name in a path stays where it is: a dot, or nothing between two slashes. -/
def isStay (name : String) : Bool := name.isEmpty || name == "."

/-- The directory with the files of the given paths and texts. -/
def ofList (entries : List (String × String)) : Directory :=
  ⟨entries.map fun (path, text) => ((path.splitOn "/").filter (!isStay ·), text)⟩

/-- What has a name within the directory that names lead to. -/
def enter (d : Directory) (names : List String) (name : String) : Except ReadFailure Place :=
  let target := names ++ [name]
  if maxNameSize < name.utf8ByteSize then .error .nameTooLong
  else
    match d.files.lookup target with
    | some text => .ok (.file text)
    | none =>
      if d.files.any fun entry => target.isPrefixOf entry.1 then .ok (.inside target)
      else .error .missing

/-- Where a name leads from a place. Two dots lead to the directory around the place. -/
def step (d : Directory) (place : Place) (name : String) : Except ReadFailure Place :=
  match place with
  | .file _ => .error .notDirectory
  | .inside names =>
    if isStay name then .ok place
    else if name == ".." then .ok (if names.isEmpty then .outside else .inside names.dropLast)
    else d.enter names name
  | .outside =>
    if isStay name || name == ".." then .ok place
    else .error (if maxNameSize < name.utf8ByteSize then .nameTooLong else .missing)

/-- Where a path leads. A slash in front leads out of the directory. -/
def find (d : Directory) (path : String) : Except ReadFailure Place :=
  if path.contains '\x00' then .error .nulInName
  else if path.isEmpty then .error .missing
  else if maxPathSize < path.utf8ByteSize then .error .nameTooLong
  else (path.splitOn "/").foldlM d.step (if path.startsWith "/" then .outside else .inside [])

/-- The text of the file that a path leads to. -/
def read (d : Directory) (path : String) : Except ReadFailure String := do
  match ← d.find path with
  | .file text => return text
  | .inside _ | .outside => throw .isDirectory

end Directory

end DerivedQuery
