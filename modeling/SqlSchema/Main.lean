import SqlSchema.CommandLine.Run
/-!
# The command line program

The system that the program runs on as the host of a run.
-/
namespace SqlSchema.CommandLine

def faultOf : IO.Error → FileFault
  | .noFileOrDirectory .. => .notFound
  | .inappropriateType _ code _ => if code = 21 then .isDirectory else .notDirectory
  | e => .other (toString e)

/-- The answer of a request to the system. -/
def answerOf {α : Type} (request : IO α) : IO (Except FileFault α) :=
  return (← request.toBaseIO).mapError faultOf

/-- The text of a file or a stream, read as a whole. -/
def readText (bytes : IO ByteArray) : IO (Except FileFault String) := do
  match ← answerOf bytes with
  | .ok bytes =>
    match String.fromUTF8? bytes with
    | some text => return .ok text
    | none => return .error .notText
  | .error fault => return .error fault

def systemHost : Host IO where
  readFile path := readText (IO.FS.readBinFile path)
  readInput := readText (do (← IO.getStdin).readBinToEnd)
  writeFile path text := answerOf (IO.FS.writeFile path text)
  print text := IO.print text
  printError text := IO.eprint text

end SqlSchema.CommandLine

open SqlSchema.CommandLine in
def main (args : List String) : IO UInt32 :=
  return (← command systemHost args).toUInt32
