/-!
# Arguments

The arguments of a command are values and options. An option has a long name behind two hyphens and
may have a letter behind one. Letters can be joined behind one hyphen, and the value of an option
can be joined to its name: `--name=value`, `-nvalue` and `-n=value`. Behind `--` every argument is
a value. No option may be given twice.
-/

namespace DerivedQuery.CommandLine

/-- An option of a command. -/
structure CommandOption where
  name : String
  letter : Option Char := none
  /-- Whether a value follows the option. -/
  hasValue : Bool := false
deriving DecidableEq, Repr

/-- Arguments that have been sorted. -/
structure Arguments where
  values : List String := []
  /-- The options that are given, with their values or an empty text. -/
  options : List (String × String) := []
  /-- An option whose value is to follow. -/
  pending : Option String := none
  /-- Whether all arguments to come are values. -/
  onlyValues : Bool := false
deriving DecidableEq, Repr

namespace Arguments

/-- The value that an option has, if it is given. -/
def option? (a : Arguments) (name : String) : Option String := a.options.lookup name

/-- Whether an option is given. -/
def has (a : Arguments) (name : String) : Bool := (a.option? name).isSome

/-- Adds an option, unless it is there. -/
def give? (a : Arguments) (name value : String) : Option Arguments :=
  if a.has name then none
  else some { a with options := a.options ++ [(name, value)], pending := none }

/-- Adds an option by its long name, with what is joined to it. -/
def giveLong? (options : List CommandOption) (a : Arguments) (name : String)
    (value : Option String) : Option Arguments := do
  let option ← options.find? (·.name == name)
  match option.hasValue, value with
  | true, none => return { a with pending := some name }
  | true, some value => a.give? name value
  | false, none => a.give? name ""
  | false, some _ => none

/-- Adds options by their letters. What is behind the letter of an option with a value is the
value. -/
def giveLetters? (options : List CommandOption) (a : Arguments) : List Char → Option Arguments
  | [] => some a
  | letter :: rest => do
    let option ← options.find? (·.letter == some letter)
    if !option.hasValue then giveLetters? options (← a.give? option.name "") rest
    else
      match rest with
      | [] => return { a with pending := some option.name }
      | '=' :: value | value => a.give? option.name (String.ofList value)

/-- Sorts one more argument. -/
def add? (options : List CommandOption) (a : Arguments) (argument : String) : Option Arguments :=
  if a.onlyValues then some { a with values := a.values ++ [argument] }
  else
    match argument.toList with
    | ['-', '-'] => if a.pending.isSome then none else some { a with onlyValues := true }
    | '-' :: '-' :: long =>
      if a.pending.isSome then none
      else
        let name := String.ofList (long.takeWhile (· != '='))
        match long.dropWhile (· != '=') with
        | [] => giveLong? options a name none
        | _ :: value => giveLong? options a name (some (String.ofList value))
    | '-' :: letter :: rest =>
      if a.pending.isSome then none else giveLetters? options a (letter :: rest)
    | _ =>
      -- A lone hyphen is a value like any other.
      match a.pending with
      | some name => a.give? name argument
      | none => some { a with values := a.values ++ [argument] }

/-- Sorts the arguments of a command with the given options. -/
def read? (options : List CommandOption) (arguments : List String) : Option Arguments := do
  let a ← arguments.foldlM (add? options) {}
  if a.pending.isSome then none else some a

end Arguments

end DerivedQuery.CommandLine
