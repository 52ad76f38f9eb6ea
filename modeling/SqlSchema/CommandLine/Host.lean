import SqlSchema.CommandLine.Files
/-!
# The host of a run

All that a run does to its surroundings is to ask its host. The program asks the system that it runs on. A
world answers in its place: it has files and a standard input, and keeps what it was asked for.
-/
namespace SqlSchema.CommandLine

/-- What a run can ask for. Reading and writing can fail. -/
structure Host (m : Type → Type) where
  readFile : String → m (Except FileFault String)
  readInput : m (Except FileFault String)
  writeFile : String → String → m (Except FileFault Unit)
  print : String → m Unit
  printError : String → m Unit

inductive Source
  | file (path : String)
  | standardInput
deriving DecidableEq, Repr

inductive Access
  | reading
  | writing
deriving DecidableEq, Repr

/-- The surroundings of a run, and what the run has read and printed so far. -/
structure World where
  files : FileSystem
  input : Except FileFault String
  /-- What is refused at a path whatever is there: for want of a permission, on a full device. -/
  refusal? : Access → String → Option FileFault
  sources : List Source
  stdout : String
  stderr : String

namespace World

/-- The world in front of a run. -/
def start (files : FileSystem) (input : Except FileFault String)
    (refusal? : Access → String → Option FileFault) : World :=
  ⟨files, input, refusal?, [], "", ""⟩

def read (w : World) (path : String) : Except FileFault String :=
  match w.refusal? .reading path with
  | some fault => .error fault
  | none => w.files.read path

def write (w : World) (path text : String) : Except FileFault FileSystem :=
  match w.refusal? .writing path with
  | some fault => .error fault
  | none => w.files.write path text

/-- The world after sources have been asked for. -/
def asked (w : World) (sources : List Source) : World := { w with sources := w.sources ++ sources }

/-- The answer to a request to write, and the world behind it. -/
def store (w : World) (path text : String) : Except FileFault Unit × World :=
  match w.write path text with
  | .ok files => (.ok (), { w with files := files })
  | .error fault => (.error fault, w)

def host : Host (StateM World) where
  readFile path := fun w => (w.read path, w.asked [.file path])
  readInput := fun w => (w.input, w.asked [.standardInput])
  writeFile path text := fun w => w.store path text
  print text := fun w => ((), { w with stdout := w.stdout ++ text })
  printError text := fun w => ((), { w with stderr := w.stderr ++ text })

end World

end SqlSchema.CommandLine
