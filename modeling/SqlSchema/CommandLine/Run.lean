import SqlSchema.CommandLine.Arguments
import SqlSchema.CommandLine.Host
import SqlSchema.Export.Format
import SqlSchema.Script
/-!
# Running the command line

A run checks its choices before it reads any input, and it writes nothing until the whole output is
known. It ends with 0, with 2 if the schema has no tables, or with 1 after an error.
-/
namespace SqlSchema.CommandLine

/-- What a run is to do, with all choices checked. -/
structure Job where
  files : List String
  format : Format
  dialect : Dialect
  detail : Detail
  dedup : Bool
  title : Option String
  output : Option String
deriving DecidableEq, Repr

inductive Failure
  | invalidFormat (name : String)
  | invalidDialect (name : String)
  | invalidDetail (name : String)
  | unreadableFile (path : String) (cause : FileFault)
  | unreadableInput (cause : FileFault)
  | invalidScript (cause : ReadError)
  | unwritableFile (path : String) (cause : FileFault)
deriving DecidableEq, Repr

namespace Failure

def message : Failure → String
  | invalidFormat name => "Invalid format: " ++ name
  | invalidDialect name => "Invalid dialect: " ++ name
  | invalidDetail name => "Invalid detail level: " ++ name
  | unreadableFile path _ => "Failed to read " ++ path
  | unreadableInput _ => "Failed to read stdin"
  | invalidScript cause => "failed to parse SQL: " ++ cause.message
  | unwritableFile path _ => "Failed to write " ++ path

/-- The fault of a file that lies behind the failure. -/
def cause? : Failure → Option FileFault
  | unreadableFile _ cause => some cause
  | unreadableInput cause => some cause
  | unwritableFile _ cause => some cause
  | _ => none

/-- The failure as it is reported. -/
def report (f : Failure) : String :=
  "Error: " ++ f.message ++ "\n" ++ (match f.cause? with
    | some cause => "\nCaused by:\n    " ++ cause.message ++ "\n"
    | none => "")

end Failure

/-- The value that a name stands for, or the failure to report. -/
def lookupName {α : Type} (ofName? : String → Option α) (failure : String → Failure) (name : String) :
    Except Failure α :=
  match ofName? name with
  | some a => .ok a
  | none => .error (failure name)

namespace Arguments

def formatName (a : Arguments) : String := (a.value? .format).getD "json"

def dialectName (a : Arguments) : String := (a.value? .dialect).getD "generic"

def detailName (a : Arguments) : String := (a.value? .detail).getD "all"

/-- Checks the format, the dialect and the detail level, in this order. -/
def job (a : Arguments) : Except Failure Job := do
  let format ← lookupName Format.ofName? .invalidFormat a.formatName
  let dialect ← lookupName Dialect.ofName? .invalidDialect a.dialectName
  let detail ← lookupName Detail.ofName? .invalidDetail a.detailName
  return ⟨a.files, format, dialect, detail, a.dedup, a.value? .title, a.value? .output⟩

end Arguments

/-- The output of a run, and whether the schema behind it has tables. -/
structure Output where
  text : String
  hasTables : Bool
deriving DecidableEq, Repr

/-- The code of a run that succeeds. -/
def Output.exitCode (o : Output) : Nat := if o.hasTables then 0 else 2

namespace Job

def readOptions (j : Job) : ReadOptions :=
  { ReadOptions.default with dialect := j.dialect, dedup := j.dedup }

/-- The output for an input text. -/
def convert (j : Job) (input : String) : Except Failure Output :=
  match readSchema j.readOptions input with
  | .ok schema => .ok ⟨schema.exportAs j.format ⟨j.detail, j.title⟩, !schema.isEmpty⟩
  | .error e => .error (.invalidScript e)

/-- The texts of input files as one input. -/
def joinInputs (texts : List String) : String := "\n\n".intercalate texts

end Job

section Requests

variable {m : Type → Type} [Monad m] (host : Host m)

/-- The answer to a request; its fault makes the run fail. -/
def request {α : Type} (failure : FileFault → Failure) (answer : m (Except FileFault α)) :
    ExceptT Failure m α :=
  ExceptT.mk (Except.mapError failure <$> answer)

namespace Job

/-- The input of a job: its files joined, or standard input if there are none. -/
def input (j : Job) : ExceptT Failure m String :=
  if j.files.isEmpty then request .unreadableInput host.readInput
  else joinInputs <$> j.files.mapM (fun path => request (.unreadableFile path) (host.readFile path))

/-- Prints the output or writes it to the output file. -/
def deliver (j : Job) (text : String) : ExceptT Failure m Unit :=
  match j.output with
  | none => ExceptT.lift (host.print text)
  | some path => request (.unwritableFile path) (host.writeFile path text)

/-- Reads the input, converts it and delivers the output, and gives the exit code. -/
def perform (j : Job) : ExceptT Failure m Nat := do
  let input ← j.input host
  let output ← ExceptT.mk (pure (j.convert input))
  j.deliver host output.text
  return output.exitCode

end Job

/-- Runs with checked arguments, reports a failure and gives the exit code. -/
def Arguments.perform (a : Arguments) : m Nat := do
  match ← (ExceptT.mk (pure a.job) >>= fun job => job.perform host).run with
  | .ok code => return code
  | .error f =>
    host.printError f.report
    return 1

/-- The line that `--version` prints. -/
def versionLine : String := "sqlerd 0.1.0\n"

/-- Ends without a run. The usage and help texts are short forms of this library's own, not the full texts of
an option parser. -/
def Stop.perform : Stop → m Nat
  | usageError => do host.printError "error: invalid arguments\n"; return 2
  | version => do host.print versionLine; return 0
  | help => do host.print "Usage: sqlerd [OPTIONS] [FILES]...\n"; return 0

/-- Runs the command line and gives the exit code. -/
def command (args : List String) : m Nat :=
  match Arguments.read args with
  | .ok a => a.perform host
  | .error stop => stop.perform host

end Requests

/-- What a run leaves behind. -/
structure Outcome where
  exitCode : Nat
  stdout : String
  stderr : String
  files : FileSystem
deriving DecidableEq, Repr

/-- Runs on a file system and a standard input, in a world that refuses nothing. -/
def run (a : Arguments) (fs : FileSystem) (stdin : Except FileFault String) : Outcome :=
  let (code, left) := (a.perform World.host).run (.start fs stdin fun _ _ => none)
  ⟨code, left.stdout, left.stderr, left.files⟩

end SqlSchema.CommandLine
