/-!
# Files

Files as far as the command line can tell: texts by place, and the directories that lead to them. A
path is followed step by step, so it leads nowhere if a directory on its way is missing. A write that
fails leaves no trace.
-/
namespace SqlSchema.CommandLine

inductive FileFault
  | notFound
  | notDirectory
  | isDirectory
  | notText
  | other (description : String)
deriving DecidableEq, Repr

def FileFault.message : FileFault → String
  | notFound => "No such file or directory (os error 2)"
  | notDirectory => "Not a directory (os error 20)"
  | isDirectory => "Is a directory (os error 21)"
  | notText => "stream did not contain valid UTF-8"
  | other description => description

/-- The steps of a path, between its slashes. -/
def pathSteps (path : String) : List String := (path.toList.splitOn '/').map String.ofList

/-- Where a path starts: at the root, if it has a slash in front, or else in the working directory. -/
def pathStart (path : String) : List String := if path.toList.head? = some '/' then ["/"] else []

/-- Where a step leads from a place. A place is a list of names from the working directory on, behind one
`..` for each directory above it, or from the root on, behind a slash. -/
def enter (place : List String) (step : String) : List String :=
  if step = "" ∨ step = "." ∨ (step = ".." ∧ place = ["/"]) then place
  else if step = ".." ∧ place.getLast?.any (· != "..") then place.dropLast
  else place ++ [step]

/-- Files by their places. A file that is not text has no readable content. -/
structure FileSystem where
  files : List (List String × Option String)
deriving DecidableEq, Repr

namespace FileSystem

/-- The files with the given paths and texts. -/
def ofTexts (texts : List (String × String)) : FileSystem :=
  ⟨texts.map (fun (path, text) => ((pathSteps path).foldl enter (pathStart path), some text))⟩

/-- The root, the working directory, the directories above it and those on the way to a file. -/
def isDirectory (fs : FileSystem) (place : List String) : Bool :=
  place == ["/"] || place.all (· == "..") ||
    fs.files.any (fun f => place.length < f.1.length && place.isPrefixOf f.1)

def file? (fs : FileSystem) (place : List String) : Option (Option String) :=
  (fs.files.find? (fun f => f.1 == place)).map (·.2)

/-- The place that steps lead to. There may be nothing yet at the end of the last step. -/
def follow (fs : FileSystem) (place : List String) : List String → Except FileFault (List String)
  | [] => .ok place
  | step :: steps =>
    if fs.isDirectory place then follow fs (enter place step) steps
    else if (fs.file? place).isSome then .error .notDirectory
    else .error .notFound

/-- The place that a path leads to. -/
def locate (fs : FileSystem) (path : String) : Except FileFault (List String) :=
  fs.follow (pathStart path) (pathSteps path)

def read (fs : FileSystem) (path : String) : Except FileFault String :=
  match fs.locate path with
  | .error fault => .error fault
  | .ok place =>
    if fs.isDirectory place then .error .isDirectory
    else
      match fs.file? place with
      | some (some text) => .ok text
      | some none => .error .notText
      | none => .error .notFound

/-- The place to write to. Slashes at the end of a path name a directory, whatever is there. -/
def target (fs : FileSystem) (path : String) : Except FileFault (List String) :=
  match fs.follow (pathStart path) ((pathSteps path).reverse.dropWhile (· == "")).reverse with
  | .error fault => .error fault
  | .ok place =>
    if (pathSteps path).getLast? = some "" ∨ fs.isDirectory place then .error .isDirectory
    else .ok place

/-- Puts a text in the place of a file, or makes a new one. -/
def put (fs : FileSystem) (place : List String) (text : String) : FileSystem :=
  ⟨(place, some text) :: fs.files.filter (fun f => f.1 != place)⟩

def write (fs : FileSystem) (path text : String) : Except FileFault FileSystem :=
  (fs.target path).map (fs.put · text)

end FileSystem

end SqlSchema.CommandLine
