/-!
# Command line arguments

Options have a long name, some a letter as well, and take one value, attached or as the next argument.
No option may be given twice. `--` ends the options; every other argument names an input file.
-/
namespace SqlSchema.CommandLine

inductive ValueOption
  | format
  | output
  | dialect
  | detail
  | title
  | logLevel
deriving DecidableEq, Repr

structure Arguments where
  files : List String
  values : List (ValueOption × String)
  dedup : Bool
deriving DecidableEq, Repr

/-- Why arguments do not lead to a run. -/
inductive Stop
  | usageError
  | version
  | help
deriving DecidableEq, Repr

namespace Arguments

def empty : Arguments := ⟨[], [], false⟩

def value? (a : Arguments) (o : ValueOption) : Option String :=
  (a.values.find? (fun v => v.1 == o)).map (·.2)

/-- Only the output path must not be empty. -/
def setValue (a : Arguments) (o : ValueOption) (value : String) : Except Stop Arguments :=
  if (a.value? o).isSome ∨ (o = .output ∧ value = "") then .error .usageError
  else .ok { a with values := a.values ++ [(o, value)] }

def setDedup (a : Arguments) : Except Stop Arguments :=
  if a.dedup then .error .usageError else .ok { a with dedup := true }

def addFile (a : Arguments) (path : String) : Except Stop Arguments :=
  if path = "" then .error .usageError else .ok { a with files := a.files ++ [path] }

end Arguments

def longOption? (name : String) : Option ValueOption :=
  [("format", .format), ("output", .output), ("dialect", .dialect), ("detail", .detail),
   ("title", .title), ("log-level", .logLevel)].lookup name

def shortOption? (letter : Char) : Option ValueOption :=
  [('f', .format), ('o', .output), ('d', .dialect)].lookup letter

/-- The forms that an argument can have. -/
inductive Argument
  | endOfOptions
  | valued (option : ValueOption) (attached : Option String)
  | dedup
  | stop (reason : Stop)
  | file (path : String)
deriving DecidableEq, Repr

/-- An argument that starts with a dash is an option, but for a lone dash. -/
def looksLikeOption (arg : String) : Bool :=
  match arg.toList with
  | '-' :: _ :: _ => true
  | _ => false

/-- A long option, behind its dashes. -/
def readLong (cs : List Char) : Argument :=
  let name := String.ofList (cs.takeWhile (· != '='))
  let attached := match cs.dropWhile (· != '=') with
    | [] => none
    | _ :: value => some (String.ofList value)
  match longOption? name with
  | some o => .valued o attached
  | none =>
    if attached.isSome then .stop .usageError
    else if name = "dedup" then .dedup
    else if name = "version" then .stop .version
    else if name = "help" then .stop .help
    else .stop .usageError

/-- An option letter and what is attached to it; an equals sign between them is dropped. -/
def readShort (letter : Char) (rest : List Char) : Argument :=
  match shortOption? letter with
  | some o =>
    .valued o (match rest with
      | [] => none
      | '=' :: value => some (String.ofList value)
      | value => some (String.ofList value))
  | none =>
    if letter = 'V' then .stop .version
    else if letter = 'h' then .stop .help
    else .stop .usageError

def readArgument (arg : String) : Argument :=
  match arg.toList with
  | ['-', '-'] => .endOfOptions
  | '-' :: '-' :: cs => readLong cs
  | '-' :: letter :: rest => readShort letter rest
  | _ => .file arg

namespace Arguments

/-- Adds the arguments from left to right, up to the first that is at fault or stops the run. -/
def readFrom (a : Arguments) : List String → Except Stop Arguments
  | [] => .ok a
  | arg :: rest =>
    match readArgument arg with
    | .endOfOptions => rest.foldlM addFile a
    | .dedup => a.setDedup.bind (fun a => readFrom a rest)
    | .stop reason => .error reason
    | .file path => (a.addFile path).bind (fun a => readFrom a rest)
    | .valued o (some value) => (a.setValue o value).bind (fun a => readFrom a rest)
    | .valued o none =>
      match rest with
      | [] => .error .usageError
      | value :: rest =>
        if looksLikeOption value then .error .usageError
        else (a.setValue o value).bind (fun a => readFrom a rest)

def read (args : List String) : Except Stop Arguments := readFrom empty args

end Arguments

end SqlSchema.CommandLine
