import DerivedQuery.CommandLine.Response

/-!
# The program

Reads the files and the input that a request needs, and writes the response.

Mirrors `main`.
-/

namespace DerivedQuery.CommandLine

/-- What an error that the system reports by a number says; some of its numbers are negated. -/
def failureOfCode (code : UInt32) (e : IO.Error) : ReadFailure :=
  match min code (0 - code) with
  | 2 => .missing
  | 13 => .denied
  | 20 => .notDirectory
  | 21 => .isDirectory
  | 36 => .nameTooLong
  | _ => .other (toString e)

/-- The failure that an error means. -/
def failureOf (e : IO.Error) : ReadFailure :=
  match e with
  | .noFileOrDirectory _ code _ | .permissionDenied _ code _ | .inappropriateType _ code _
  | .invalidArgument _ code _ | .resourceExhausted _ code _ => failureOfCode code e
  | _ => .other (toString e)

/-- The text that bytes hold. -/
def textOfBytes (bytes : ByteArray) : Except ReadFailure String :=
  (String.fromUTF8? bytes).elim (.error .notText) .ok

/-- Reads a file. -/
def readFile (path : String) : IO (Except ReadFailure String) := do
  if path.contains '\x00' then return .error .nulInName
  try return textOfBytes (← IO.FS.readBinFile path)
  catch e => return .error (failureOf e)

/-- Reads the input, unless it is a terminal. -/
def readInput : IO (Option (Except ReadFailure String)) := do
  let input ← IO.getStdin
  if ← input.isTty then return none
  let mut bytes := ByteArray.empty
  let mut more := true
  while more do
    let chunk ← input.read 65536
    bytes := bytes ++ chunk
    more := !chunk.isEmpty
  return some (textOfBytes bytes)

/-- Reads what a request needs. -/
def surroundingsOf (request : Request) : IO Surroundings := do
  let texts ← request.paths.mapM fun path => return (path, ← readFile path)
  let input ← if request.needsInput then readInput else pure none
  return { files := fun path => (texts.lookup path).getD (.error .missing), input }

end DerivedQuery.CommandLine

open DerivedQuery.CommandLine

/-- Responds to the arguments. -/
def main (arguments : List String) : IO UInt32 := do
  match Request.ofArguments? arguments with
  | none =>
    IO.eprintln "Usage: mapgen <generate|parse|resolve|docs|doc> [OPTIONS] [ARGUMENTS]"
    return 2
  | some request =>
    let response := respond (← surroundingsOf request) request
    IO.eprint response.messages
    IO.print response.output
    return UInt32.ofNat response.exitCode
