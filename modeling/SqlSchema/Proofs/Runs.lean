import Mathlib.Data.List.Forall2
import SqlSchema.CommandLine.Run
import SqlSchema.Proofs.WrittenFiles
/-!
# All or nothing

A run of the command line either delivers its whole output to one place or leaves no output at all. What
it reads changes nothing, and it reads nothing before all of its choices are checked.
-/
namespace SqlSchema.CommandLine

/-- The exit code of a command line and the world that it leaves. -/
def World.run (w : World) (args : List String) : Nat × World := (command World.host args).run w

/-- What is said about a choice that names nothing. Of several such choices only the first counts: the
format, then the dialect, then the level of detail. -/
inductive Arguments.InvalidChoice (a : Arguments) : String → Prop
  | format (h : Format.ofName? a.formatName = none) : InvalidChoice a ("Invalid format: " ++ a.formatName)
  | dialect (hformat : (Format.ofName? a.formatName).isSome) (h : Dialect.ofName? a.dialectName = none) :
      InvalidChoice a ("Invalid dialect: " ++ a.dialectName)
  | detail (hformat : (Format.ofName? a.formatName).isSome)
      (hdialect : (Dialect.ofName? a.dialectName).isSome) (h : Detail.ofName? a.detailName = none) :
      InvalidChoice a ("Invalid detail level: " ++ a.detailName)

/-- The input that a world has: the texts of the files with a blank line between neighbours, or standard
input if there are no files. -/
inductive World.IsInput (w : World) : List String → String → Prop
  | standard {text : String} (h : w.input = .ok text) : IsInput w [] text
  | files {paths texts : List String} (hne : paths ≠ [])
      (h : List.Forall₂ (fun path text => w.read path = .ok text) paths texts) :
      IsInput w paths ("\n\n".intercalate texts)

/-- The job that the arguments name. -/
structure Arguments.Names (a : Arguments) (j : Job) : Prop where
  format : Format.ofName? a.formatName = some j.format
  dialect : Dialect.ofName? a.dialectName = some j.dialect
  detail : Detail.ofName? a.detailName = some j.detail
  files : j.files = a.files
  dedup : j.dedup = a.dedup
  title : j.title = a.value? .title
  output : j.output = a.value? .output

namespace Job

/-- The schema that the job makes of its input, and the text of the schema that the job asks for. -/
def Yields (j : Job) (w : World) (schema : Schema) (text : String) : Prop :=
  ∃ input, w.IsInput j.files input ∧
    readSchema { ReadOptions.default with dialect := j.dialect, dedup := j.dedup } input = .ok schema ∧
    text = schema.exportAs j.format ⟨j.detail, j.title⟩

/-- The output file, if there is one, can be written. -/
def CanDeliver (j : Job) (w : World) (text : String) : Prop :=
  ∀ path, j.output = some path → ∃ files, w.write path text = .ok files

/-- The text is all that stands in the output file, and no other file has changed; without an output file,
the text is all that stands on standard output. -/
def Delivers (j : Job) (files : FileSystem) (text : String) (left : World) : Prop :=
  match j.output with
  | none => left.stdout = text ∧ left.files = files
  | some path => left.stdout = "" ∧ files.Replaces path text left.files

/-- How a job ends: it fails and has done nothing but read, or it has delivered its text. -/
inductive Ends (j : Job) (w : World) : Except Failure Nat × World → Prop
  | failed {f : Failure} {sources : List Source}
      (h : ∀ schema text, j.Yields w schema text → ¬j.CanDeliver w text) :
      Ends j w (.error f, w.asked sources)
  | delivered {schema : Schema} {text : String} {left : World} (h : j.Yields w schema text)
      (hleft : j.Delivers w.files text left) : Ends j w (.ok (if schema.isEmpty then 2 else 0), left)

end Job

/-- A run in a world is all or nothing: the exit code tells whether its whole text has gone to one place, or
nothing has been printed and no file has changed. -/
structure Arguments.IsAllOrNothing (a : Arguments) (w : World) (code : Nat) (left : World) : Prop where
  failure : code = 1 → left.stdout = "" ∧ left.files = w.files
  success : code ≠ 1 → ∃ j schema text, a.Names j ∧ j.Yields w schema text ∧
    j.Delivers w.files text left ∧ (code = 2 ↔ schema.tables = []) ∧ (code = 0 ↔ schema.tables ≠ [])
  /-- Nothing but the choices, the input and the output file can make a run fail. -/
  succeeds : ∀ j schema text, a.Names j → j.Yields w schema text → j.CanDeliver w text → code ≠ 1
  /-- A choice that names nothing is reported on one line, and no input has been asked for. -/
  choices : ∀ message, a.InvalidChoice message →
    code = 1 ∧ left = { w with stderr := w.stderr ++ "Error: " ++ message ++ "\n" }

section Choices

variable {a : Arguments}

theorem lookupName_eq_ok {α : Type} {ofName? : String → Option α} {failure : String → Failure}
    {name : String} {value : α} (h : ofName? name = some value) :
    lookupName ofName? failure name = .ok value := by
  rw [lookupName, h]

theorem lookupName_eq_error {α : Type} {ofName? : String → Option α} {failure : String → Failure}
    {name : String} (h : ofName? name = none) :
    lookupName ofName? failure name = .error (failure name) := by
  rw [lookupName, h]

theorem Arguments.job_cases (a : Arguments) :
    (∃ f message, a.job = .error f ∧ f.report = "Error: " ++ message ++ "\n" ∧ a.InvalidChoice message) ∨
      ∃ j, a.job = .ok j ∧ a.Names j := by
  have hreport : ∀ f : Failure, f.cause? = none → f.report = "Error: " ++ f.message ++ "\n" := by
    intro f hcause
    simp [Failure.report, hcause]
  unfold Arguments.job
  cases hformat : Format.ofName? a.formatName with
  | none =>
    rw [lookupName_eq_error hformat]
    exact .inl ⟨_, _, rfl, hreport _ rfl, .format hformat⟩
  | some format =>
    cases hdialect : Dialect.ofName? a.dialectName with
    | none =>
      rw [lookupName_eq_ok hformat, lookupName_eq_error hdialect]
      exact .inl ⟨_, _, rfl, hreport _ rfl, .dialect (by simp [hformat]) hdialect⟩
    | some dialect =>
      cases hdetail : Detail.ofName? a.detailName with
      | none =>
        rw [lookupName_eq_ok hformat, lookupName_eq_ok hdialect, lookupName_eq_error hdetail]
        exact .inl ⟨_, _, rfl, hreport _ rfl, .detail (by simp [hformat]) (by simp [hdialect]) hdetail⟩
      | some detail =>
        rw [lookupName_eq_ok hformat, lookupName_eq_ok hdialect, lookupName_eq_ok hdetail]
        exact .inr ⟨_, rfl, hformat, hdialect, hdetail, rfl, rfl, rfl, rfl⟩

theorem Arguments.InvalidChoice.unique {message message' : String} (h : a.InvalidChoice message)
    (h' : a.InvalidChoice message') : message = message' := by
  cases h <;> cases h' <;> simp_all

theorem Arguments.InvalidChoice.not_names {message : String} (hinvalid : a.InvalidChoice message) (j : Job) :
    ¬a.Names j := by
  intro hj
  cases hinvalid with
  | format h => simp [hj.format] at h
  | dialect _ h => simp [hj.dialect] at h
  | detail _ _ h => simp [hj.detail] at h

theorem Arguments.Names.unique {j k : Job} (hj : a.Names j) (hk : a.Names k) : j = k := by
  have hformat := Option.some.inj (hj.format.symm.trans hk.format)
  have hdialect := Option.some.inj (hj.dialect.symm.trans hk.dialect)
  have hdetail := Option.some.inj (hj.detail.symm.trans hk.detail)
  obtain ⟨-, -, -, hfiles, hdedup, htitle, houtput⟩ := hj
  obtain ⟨-, -, -, hfiles', hdedup', htitle', houtput'⟩ := hk
  cases j
  cases k
  simp_all

end Choices

section Steps

/-- The result of a step, and the world behind it. -/
def execute {α : Type} (step : ExceptT Failure (StateM World) α) (w : World) : Except Failure α × World :=
  step.run.run w

variable {α β : Type} {w w' : World} {step : ExceptT Failure (StateM World) α}

theorem execute_bind_ok {value : α} (h : execute step w = (.ok value, w'))
    (next : α → ExceptT Failure (StateM World) β) :
    execute (step >>= next) w = execute (next value) w' := by
  change (ExceptT.bindCont next (execute step w).1).run (execute step w).2 = _
  rw [h]
  rfl

theorem execute_bind_error {f : Failure} (h : execute step w = (.error f, w'))
    (next : α → ExceptT Failure (StateM World) β) : execute (step >>= next) w = (.error f, w') := by
  change (ExceptT.bindCont next (execute step w).1).run (execute step w).2 = _
  rw [h]
  rfl

theorem execute_pure (answer : Except Failure α) (w : World) :
    execute (ExceptT.mk (pure answer)) w = (answer, w) :=
  rfl

theorem execute_readFile (path : String) (w : World) :
    execute (request (.unreadableFile path) (World.host.readFile path)) w =
      ((w.read path).mapError (.unreadableFile path), w.asked [.file path]) :=
  rfl

theorem execute_readInput (w : World) :
    execute (request .unreadableInput World.host.readInput) w =
      (w.input.mapError .unreadableInput, w.asked [.standardInput]) :=
  rfl

theorem execute_writeFile (path text : String) (w : World) :
    execute (request (.unwritableFile path) (World.host.writeFile path text)) w =
      ((w.store path text).1.mapError (.unwritableFile path), (w.store path text).2) :=
  rfl

@[simp] theorem World.asked_nil (w : World) : w.asked [] = w := by
  simp [World.asked]

@[simp] theorem World.asked_asked (w : World) (first rest : List Source) :
    (w.asked first).asked rest = w.asked (first ++ rest) := by
  simp [World.asked]

theorem execute_readFiles (paths : List String) (w : World) :
    ∃ answer sources,
      execute (paths.mapM fun path => request (.unreadableFile path) (World.host.readFile path)) w =
        (answer, w.asked sources) ∧
      ∀ texts, answer = .ok texts ↔ List.Forall₂ (fun path text => w.read path = .ok text) paths texts := by
  induction paths generalizing w with
  | nil =>
    refine ⟨.ok [], [], by rw [World.asked_nil]; rfl, fun texts => ?_⟩
    simp [eq_comm]
  | cons path paths ih =>
    -- the world behind the first file reads the others as the world in front of it does
    have hfirst := execute_readFile path w
    rw [List.mapM_cons]
    cases hread : w.read path with
    | error fault =>
      rw [hread] at hfirst
      refine ⟨_, _, execute_bind_error hfirst _, fun texts => ?_⟩
      simp [List.forall₂_cons_left_iff, hread]
    | ok text =>
      rw [hread] at hfirst
      obtain ⟨answer, sources, hrest, htexts⟩ := ih (w.asked [.file path])
      rw [World.asked_asked] at hrest
      have hanswer : ∀ texts, answer = .ok texts ↔
          List.Forall₂ (fun path text => w.read path = .ok text) paths texts := htexts
      rw [execute_bind_ok hfirst]
      cases answer with
      | error f =>
        refine ⟨_, _, execute_bind_error hrest _, fun texts => ?_⟩
        simp [List.forall₂_cons_left_iff, ← hanswer]
      | ok rest =>
        refine ⟨.ok (text :: rest), _, execute_bind_ok hrest _, fun texts => ?_⟩
        rw [List.forall₂_cons_left_iff]
        constructor
        · intro h
          obtain rfl : text :: rest = texts := Except.ok.inj h
          exact ⟨text, rest, hread, (hanswer rest).1 rfl, rfl⟩
        · rintro ⟨text', rest', htext, hrest', rfl⟩
          obtain rfl : text = text' := Except.ok.inj (hread.symm.trans htext)
          obtain rfl : rest = rest' := Except.ok.inj ((hanswer rest').2 hrest')
          rfl

theorem World.isInput_iff {w : World} {paths : List String} (hne : paths ≠ []) {text : String} :
    w.IsInput paths text ↔ ∃ texts, List.Forall₂ (fun path text => w.read path = .ok text) paths texts ∧
      "\n\n".intercalate texts = text := by
  constructor
  · intro h
    cases h with
    | standard => exact absurd rfl hne
    | files _ h => exact ⟨_, h, rfl⟩
  · rintro ⟨texts, h, rfl⟩
    exact .files hne h

theorem execute_input (j : Job) (w : World) :
    ∃ answer sources, execute (j.input World.host) w = (answer, w.asked sources) ∧
      ∀ text, answer = .ok text ↔ w.IsInput j.files text := by
  unfold Job.input
  split
  · next hempty =>
    have hfiles : j.files = [] := by simpa using hempty
    refine ⟨_, _, execute_readInput w, fun text => ?_⟩
    rw [hfiles]
    constructor
    · intro h
      apply World.IsInput.standard
      cases hinput : w.input with
      | error fault => simp [hinput, Except.mapError] at h
      | ok read => simpa [hinput, Except.mapError] using h
    · intro h
      cases h with
      | standard h => simp [h, Except.mapError]
      | files hne => exact absurd rfl hne
  · next hempty =>
    have hne : j.files ≠ [] := by simpa using hempty
    obtain ⟨answer, sources, hrun, htexts⟩ := execute_readFiles j.files w
    refine ⟨answer.map Job.joinInputs, sources, ?_, fun text => ?_⟩
    · rw [map_eq_pure_bind]
      cases answer with
      | error f => exact execute_bind_error hrun _
      | ok texts => exact execute_bind_ok hrun _
    · rw [World.isInput_iff hne]
      cases answer with
      | error f => simp [Except.map, ← htexts]
      | ok texts => simp [Except.map, ← htexts, Job.joinInputs]

theorem World.replaces_of_write {w : World} {path text : String} {files : FileSystem}
    (h : w.write path text = .ok files) : w.files.Replaces path text files := by
  unfold World.write at h
  split at h
  · cases h
  · exact FileSystem.replaces_of_write h

theorem World.IsInput.unique {j : Job} {input input' : String} (h : w.IsInput j.files input)
    (h' : w.IsInput j.files input') : input = input' := by
  obtain ⟨answer, -, -, hiff⟩ := execute_input j w
  exact Except.ok.inj (((hiff input).2 h).symm.trans ((hiff input').2 h'))

theorem Job.Yields.unique {j : Job} {schema schema' : Schema} {text text' : String}
    (h : j.Yields w schema text) (h' : j.Yields w schema' text') : schema = schema' ∧ text = text' := by
  obtain ⟨input, hinput, hread, rfl⟩ := h
  obtain ⟨input', hinput', hread', rfl⟩ := h'
  obtain rfl := hinput.unique hinput'
  obtain rfl := Except.ok.inj (hread.symm.trans hread')
  exact ⟨rfl, rfl⟩

/-- A text is delivered, or nothing has happened. -/
theorem execute_deliver (j : Job) {w : World} (hprinted : w.stdout = "") (text : String) :
    (∃ f, execute (j.deliver World.host text) w = (.error f, w) ∧ ¬j.CanDeliver w text) ∨
      ∃ left, execute (j.deliver World.host text) w = (.ok (), left) ∧ j.Delivers w.files text left := by
  unfold Job.deliver Job.Delivers Job.CanDeliver
  cases houtput : j.output with
  | none =>
    refine .inr ⟨{ w with stdout := w.stdout ++ text }, rfl, ?_, rfl⟩
    rw [hprinted, String.empty_append]
  | some path =>
    have hstore := execute_writeFile path text w
    cases hwrite : w.write path text with
    | ok files =>
      rw [World.store, hwrite] at hstore
      exact .inr ⟨_, hstore, hprinted, World.replaces_of_write hwrite⟩
    | error fault =>
      rw [World.store, hwrite] at hstore
      refine .inl ⟨_, hstore, fun hcan => ?_⟩
      obtain ⟨files, hfiles⟩ := hcan path rfl
      rw [hwrite] at hfiles
      cases hfiles

/-- A job fails with nothing done but reading, or delivers its text. -/
theorem ends_execute (j : Job) {w : World} (hprinted : w.stdout = "") :
    j.Ends w (execute (j.perform World.host) w) := by
  obtain ⟨answer, sources, hinput, hiff⟩ := execute_input j w
  unfold Job.perform
  cases answer with
  | error f =>
    rw [execute_bind_error hinput]
    refine .failed fun schema text hyields => ?_
    obtain ⟨input, hinput, -⟩ := hyields
    cases (hiff input).2 hinput
  | ok input =>
    have hread : w.IsInput j.files input := (hiff input).1 rfl
    rw [execute_bind_ok hinput]
    cases hschema : readSchema j.readOptions input with
    | error e =>
      have hconvert : j.convert input = .error (.invalidScript e) := by
        rw [Job.convert, hschema]
      rw [hconvert, execute_bind_error (execute_pure _ _)]
      refine .failed fun schema text hyields => ?_
      obtain ⟨other, hother, hok, -⟩ := hyields
      obtain rfl := hread.unique hother
      exact absurd (hschema.symm.trans hok) (by simp)
    | ok schema =>
      have hconvert : j.convert input =
          .ok ⟨schema.exportAs j.format ⟨j.detail, j.title⟩, !schema.isEmpty⟩ := by
        rw [Job.convert, hschema]
      have hyields : j.Yields w schema (schema.exportAs j.format ⟨j.detail, j.title⟩) :=
        ⟨input, hread, hschema, rfl⟩
      rw [hconvert, execute_bind_ok (execute_pure _ _)]
      have hcode : (if !schema.isEmpty then 0 else 2) = if schema.isEmpty then 2 else 0 := by
        cases schema.isEmpty <;> rfl
      obtain ⟨f, hrun, hcannot⟩ | ⟨left, hrun, hleft⟩ :=
        execute_deliver j (w := w.asked sources) hprinted (schema.exportAs j.format ⟨j.detail, j.title⟩)
      · rw [execute_bind_error hrun]
        refine .failed fun other text hother => ?_
        obtain ⟨-, rfl⟩ := hyields.unique hother
        exact hcannot
      · rw [execute_bind_ok hrun]
        have hends := Job.Ends.delivered hyields hleft
        rwa [← hcode] at hends

end Steps

section Runs

/-- The exit code for the result of a job, and the world behind its report. -/
def conclude : Except Failure Nat × World → Nat × World
  | (.ok code, left) => (code, left)
  | (.error f, left) => (1, { left with stderr := left.stderr ++ f.report })

theorem run_perform (a : Arguments) (w : World) : (a.perform World.host).run w =
    conclude (execute (ExceptT.mk (pure a.job) >>= fun j => j.perform World.host) w) := by
  unfold Arguments.perform execute
  generalize (ExceptT.mk (pure a.job) >>= fun j => j.perform World.host) = step
  rw [StateT.run_bind]
  rcases step.run.run w with ⟨_ | _, left⟩ <;> rfl

theorem run_perform_of_invalidChoice {a : Arguments} {f : Failure} (h : a.job = .error f) (w : World) :
    (a.perform World.host).run w = (1, { w with stderr := w.stderr ++ f.report }) := by
  rw [run_perform, h, execute_bind_error (execute_pure _ w)]
  rfl

theorem run_perform_of_job {a : Arguments} {j : Job} (h : a.job = .ok j) (w : World) :
    (a.perform World.host).run w = conclude (execute (j.perform World.host) w) := by
  rw [run_perform, h, execute_bind_ok (execute_pure _ w)]

theorem exitCode_iff (schema : Schema) :
    ((if schema.isEmpty then 2 else 0) = 2 ↔ schema.tables = []) ∧
      ((if schema.isEmpty then 2 else 0) = 0 ↔ schema.tables ≠ []) := by
  cases htables : schema.tables <;> simp [Schema.isEmpty, htables]

section Ends

variable {a : Arguments} {w : World} (hprinted : w.stdout = "")

include hprinted

theorem isAllOrNothing_of_invalidChoice {message : String} (h : a.InvalidChoice message) :
    a.IsAllOrNothing w 1 { w with stderr := w.stderr ++ "Error: " ++ message ++ "\n" } where
  failure _ := ⟨hprinted, rfl⟩
  success hcode := absurd rfl hcode
  succeeds j _ _ hj := absurd hj (h.not_names j)
  choices message' h' := by
    rw [h'.unique h]
    exact ⟨rfl, rfl⟩

theorem isAllOrNothing_of_ends {j : Job} (hj : a.Names j) {result : Except Failure Nat × World}
    (h : j.Ends w result) : a.IsAllOrNothing w (conclude result).1 (conclude result).2 := by
  have hvalid : ∀ message, ¬a.InvalidChoice message := fun message h => h.not_names j hj
  cases h with
  | failed hfails =>
    refine ⟨fun _ => ⟨hprinted, rfl⟩, fun hcode => absurd rfl hcode, ?_,
      fun message h => absurd h (hvalid message)⟩
    intro k schema text hk hyields hcan
    obtain rfl := hk.unique hj
    exact absurd hcan (hfails schema text hyields)
  | @delivered schema text left hyields hdelivers =>
    have hcode : (if schema.isEmpty then 2 else 0) ≠ 1 := by split <;> decide
    exact ⟨fun h => absurd h hcode,
      fun _ => ⟨j, schema, text, hj, hyields, hdelivers, exitCode_iff schema⟩,
      fun _ _ _ _ _ _ => hcode, fun message h => absurd h (hvalid message)⟩

end Ends

/-- Whatever the files, the standard input and the refusals of the system, a run with arguments that can be
read is all or nothing. -/
theorem World.run_allOrNothing {args : List String} {a : Arguments} (h : Arguments.read args = .ok a)
    (files : FileSystem) (input : Except FileFault String)
    (refusal? : Access → String → Option FileFault) :
    a.IsAllOrNothing (.start files input refusal?) ((World.start files input refusal?).run args).1
      ((World.start files input refusal?).run args).2 := by
  have hrun : (World.start files input refusal?).run args =
      (a.perform World.host).run (World.start files input refusal?) := by
    rw [World.run, command, h]
  rw [hrun]
  obtain ⟨f, message, hjob, hreport, hinvalid⟩ | ⟨j, hjob, hnames⟩ := a.job_cases
  · rw [run_perform_of_invalidChoice hjob, hreport, ← String.append_assoc, ← String.append_assoc]
    exact isAllOrNothing_of_invalidChoice rfl hinvalid
  · rw [run_perform_of_job hjob]
    exact isAllOrNothing_of_ends rfl hnames (ends_execute j rfl)

/-- A command line whose output replaces one of its inputs. -/
def mergeArgs : List String := ["a.sql", "-fsql", "b.sql", "-o", "a.sql"]

def mergeWorld : World :=
  .start (.ofTexts [("a.sql", "CREATE TABLE a (x INT)"), ("b.sql", "; CREATE TABLE b (y INT);")])
    (.error .notText) fun access path =>
      if access = .writing ∧ path = "b.sql" then some (.other "Permission denied (os error 13)") else none

/-- The merged files replace one of the two. With three choices that name nothing, the first is reported,
although no file is there to be read. -/
theorem World.run_allOrNothing_merge :
    (∃ a, Arguments.read mergeArgs = .ok a ∧ (mergeWorld.run mergeArgs).1 = 0 ∧
      ∃ j schema text, a.Names j ∧ j.Yields mergeWorld schema text ∧
        j.Delivers mergeWorld.files text (mergeWorld.run mergeArgs).2 ∧ schema.tables ≠ []) ∧
    ∃ a, Arguments.read ["none.sql", "--detail=some", "-doracle", "-fxml"] = .ok a ∧
      mergeWorld.run ["none.sql", "--detail=some", "-doracle", "-fxml"] =
        (1, { mergeWorld with stderr := "Error: Invalid format: xml\n" }) := by
  constructor
  · have hread : Arguments.read mergeArgs =
        .ok ⟨["a.sql", "b.sql"], [(.format, "sql"), (.output, "a.sql")], false⟩ := by
      decide
    have hcode : (mergeWorld.run mergeArgs).1 = 0 := by decide +kernel
    have hrun := World.run_allOrNothing hread mergeWorld.files mergeWorld.input mergeWorld.refusal?
    obtain ⟨j, schema, text, hj, hyields, hdelivers, -, htables⟩ := hrun.success (by
      change (mergeWorld.run mergeArgs).1 ≠ 1
      rw [hcode]
      decide)
    exact ⟨_, hread, hcode, j, schema, text, hj, hyields, hdelivers, htables.1 hcode⟩
  · have hread : Arguments.read ["none.sql", "--detail=some", "-doracle", "-fxml"] =
        .ok ⟨["none.sql"], [(.detail, "some"), (.dialect, "oracle"), (.format, "xml")], false⟩ := by
      decide
    have hrun := World.run_allOrNothing hread mergeWorld.files mergeWorld.input mergeWorld.refusal?
    obtain ⟨hcode, hleft⟩ := hrun.choices "Invalid format: xml" (.format (by decide))
    exact ⟨_, hread, Prod.ext hcode hleft⟩

end Runs

end SqlSchema.CommandLine
