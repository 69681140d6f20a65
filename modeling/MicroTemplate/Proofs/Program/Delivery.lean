import MicroTemplate.Program.Run
import MicroTemplate.Proofs.Program.Disk

/-!
# All or nothing

A run hands over the whole text or nothing. Everything that can fail comes before the one write that
a run makes: the words of the command line, the variables file, the definitions, the template and
its directives. So a run that fails leaves the disk as it was and shows nothing; a run that goes
well gives the text to one receiver, which is the file that the command line names, and the standard
output if it names none. Lines of the variables file that fail are warned about and do not count.
-/

namespace MicroTemplate.Program

open Calendar CommandLine
open Expression (bind_eq_ok ok_of_mapError mapError_eq_ok_iff)

/-! ## Computers -/

/-- A computer with a disk in memory that need not give all that is on it. -/
structure Computer where
  /-- What the clock shows at the beginning of a stage. -/
  clock : Stage → DateTime
  /-- How many values a list can have at most. -/
  capacity : ℕ
  /-- The path of the home directory. -/
  home : String
  /-- The standard input, if it can be read. -/
  input : Except FileFault ByteArray
  /-- The paths that seem to lead to nothing. -/
  hidden : String → Bool
  /-- Why a path is not opened for reading. -/
  unreadable : String → Option FileFault
  /-- Why a path is not opened for writing. -/
  unwritable : String → Option FileFault

namespace Computer

/-- A computer that gives all that is on its disk. -/
def generous (clock : Stage → DateTime) (capacity : ℕ) (home : String) (input : ByteArray) :
    Computer :=
  ⟨clock, capacity, home, .ok input, fun _ => false, fun _ => none, fun _ => none⟩

variable (c : Computer) (disk : Disk)

/-- Whether a path is seen to lead to something. -/
def pathExists (path : String) : Bool := !c.hidden path && disk.pathExists path

/-- What the file of a path holds. -/
def read (path : String) : Except FileFault ByteArray :=
  (c.unreadable path).elim (disk.read path) .error

/-- The disk with the file of a path holding something else. -/
def write (path : String) (content : ByteArray) : Except FileFault Disk :=
  (c.unwritable path).elim (disk.write path content) .error

/-- The services of a computer. -/
def platform : Platform (StateM Disk) where
  now stage := return c.clock stage
  capacity := c.capacity
  home := return c.home
  pathExists path := return c.pathExists (← get) path
  readFile path := return c.read (← get) path
  readInput := return c.input
  writeFile path text := do
    match c.write (← get) path text.toUTF8 with
    | .ok disk => set disk; return .ok ()
    | .error fault => return .error fault

/-- A computer that gives all is no more than its disk. -/
theorem platform_generous (clock : Stage → DateTime) (capacity : ℕ) (home : String)
    (input : ByteArray) :
    (generous clock capacity home input).platform = .inMemory clock capacity home input := rfl

/-- The engine that a stage begins with. -/
def engine (stage : Stage) : Engine Empty := Program.engine (c.clock stage) c.capacity

/-! ## What a run is to hand over -/

/-- Whether the file of a path can be read as a text. -/
def Gives (path text : String) : Prop := c.read disk path = .ok text.toUTF8

/-- The path of the variables file: that of the command line, or the first of the usual places where
there is something. -/
def variablesFile? : VariablesSource → Option String
  | .skip => none
  | .file path => some path
  | .search => [c.home ++ "/.atplrc", "./.atplrc"].find? (c.pathExists disk)

/-- Whether a run begins with these variables and messages. -/
def Begins (source : VariablesSource) (env : Environment Empty) (messages : String) : Prop :=
  match c.variablesFile? disk source with
  | none => env = .empty ∧ messages = ""
  | some path => ∃ text loaded, c.Gives disk path text ∧
    VariablesFile.load (c.engine .variablesFile) text = .ok loaded ∧
    env = loaded.env ∧ messages = warnings path loaded.reports

/-- Whether a template is what is read from its source. -/
def Supplies : TemplateSource → String → Prop
  | .standardInput, template => c.input = .ok template.toUTF8
  | .file path, template => c.Gives disk path template

/-- Whether a text is handed over to one receiver: it is shown, or it is what a file holds. -/
def Delivers (text : String) : Option String → String → Disk → Prop
  | none, shown, disk' => shown = text ∧ disk' = disk
  | some path, shown, disk' =>
    c.unwritable path = none ∧ shown = "" ∧ disk.Receives path text disk'

end Computer

/-- Whether definitions lead from some variables to others, each seeing what those before it
define. -/
inductive Defines (engine : Engine Empty) :
    Environment Empty → List (String × String) → Environment Empty → Prop where
  /-- Without definitions there is nothing to do. -/
  | nil {env} : Defines engine env [] env
  /-- The first definition binds its name to the value of its expression. -/
  | cons {env name expression value rest next} (h : engine.evaluate env expression = .ok value)
    (hr : Defines engine (env.set name value) rest next) :
    Defines engine env ((name, expression) :: rest) next

/-- A command line leads to a template, with the variables to render it with. -/
structure Prepares (c : Computer) (disk : Disk) (args : Arguments) (env : Environment Empty)
    (template messages : String) : Prop where
  /-- The variables are those of the variables file and, over them, those that are defined. -/
  defined : ∃ start, c.Begins disk args.variablesFile start messages ∧
    Defines (c.engine .definitions) start args.defines env
  /-- The template is what is read. -/
  supplied : c.Supplies disk args.template template

/-- Whether a command line leads to a text. -/
def Renders (c : Computer) (fuel : ℕ) (disk : Disk) (args : Arguments) (text messages : String) :
    Prop :=
  ∃ env template outcome, Prepares c disk args env template messages ∧
    (c.engine .template).render fuel template env = some outcome ∧ outcome.result = .ok text

/-- The ways in which a run with the words of a command line ends. -/
inductive Concludes (c : Computer) (fuel : ℕ) (words : List String) (disk : Disk) :
    Option Report → Disk → Prop where
  /-- The text is handed over. -/
  | delivered {args : Arguments} {text : String} {report : Report} {disk' : Disk}
    (status : report.status = 0) (understood : Arguments.ofWords words = .ok args)
    (renders : Renders c fuel disk args text report.messages)
    (delivers : c.Delivers disk text args.output report.output disk') :
    Concludes c fuel words disk (some report) disk'
  /-- There is no text, or nothing that can receive it. -/
  | failed {report : Report} (status : report.status ≠ 0) (output : report.output = "")
    (cause : ∀ args text messages shown disk', Arguments.ofWords words = .ok args →
      Renders c fuel disk args text messages →
        ¬c.Delivers disk text args.output shown disk') :
    Concludes c fuel words disk (some report) disk
  /-- The render takes more steps. -/
  | unfinished {args : Arguments} {env : Environment Empty} {template messages : String}
    (understood : Arguments.ofWords words = .ok args)
    (prepares : Prepares c disk args env template messages)
    (lasts : (c.engine .template).render fuel template env = none) :
    Concludes c fuel words disk none disk

/-! ## Stages -/

/-- A failure shows in the exit status. -/
theorem Failure.status_ne_zero (failure : Failure) : failure.status ≠ 0 := by
  cases failure <;> exact Nat.succ_ne_zero _

variable (c : Computer) (disk : Disk)

/-- What follows goes on from what was found. -/
theorem run_bind_of_eq {β γ : Type} {x : StateM Disk β} {f : β → StateM Disk γ} {b : β}
    {disk disk' : Disk} (h : x.run disk = (b, disk')) : (x >>= f).run disk = (f b).run disk' := by
  rw [StateT.run_bind, h]
  rfl

theorem run_engineAt (stage : Stage) :
    (engineAt c.platform stage).run disk = (c.engine stage, disk) := rfl

theorem run_variablesPath (source : VariablesSource) :
    (variablesPath c.platform source).run disk = (c.variablesFile? disk source, disk) := by
  cases source with
  | skip => rfl
  | file path => rfl
  | search =>
    cases atHome : c.pathExists disk (c.home ++ "/.atplrc") <;>
      cases here : c.pathExists disk "./.atplrc" <;>
      · simp [variablesPath, Computer.platform, Computer.variablesFile?, atHome, here]
        rfl

theorem run_readText (path : String) :
    (c.platform.readText path).run disk = (c.read disk path >>= textOfBytes, disk) := rfl

theorem run_writeFile_ok {path text : String} {disk' : Disk}
    (h : c.write disk path text.toUTF8 = .ok disk') :
    (c.platform.writeFile path text).run disk = (.ok (), disk') := by
  have got : (get : StateM Disk Disk).run disk = (disk, disk) := rfl
  rw [Computer.platform]
  dsimp only
  rw [run_bind_of_eq got, h]
  rfl

theorem run_writeFile_error {path text : String} {fault : FileFault}
    (h : c.write disk path text.toUTF8 = .error fault) :
    (c.platform.writeFile path text).run disk = (.error fault, disk) := by
  have got : (get : StateM Disk Disk).run disk = (disk, disk) := rfl
  rw [Computer.platform]
  dsimp only
  rw [run_bind_of_eq got, h]
  rfl

/-- The definitions of the command line can be evaluated one after the other, or not. -/
theorem defineAll_eq_ok_iff {engine : Engine Empty} {env next : Environment Empty}
    {defines : List (String × String)} :
    defineAll engine env defines = .ok next ↔ Defines engine env defines next := by
  constructor
  · intro h
    induction defines generalizing env with
    | nil =>
      cases h
      exact .nil
    | cons define rest ih =>
      obtain ⟨value, evaluated, defined⟩ := bind_eq_ok h
      exact .cons (ok_of_mapError evaluated) (ih defined)
  · intro h
    induction h with
    | nil => rfl
    | cons evaluated _ ih =>
      rw [defineAll, evaluated]
      exact ih

/-- Loading the variables changes nothing and finds those that a run begins with, if there are
such. -/
theorem exists_run_loadVariables (source : VariablesSource) :
    ∃ r, (loadVariables c.platform (c.engine .variablesFile) source).run disk = (r, disk) ∧
      ∀ env messages, r = .ok (env, messages) ↔ c.Begins disk source env messages := by
  rw [loadVariables, run_bind_of_eq (run_variablesPath c disk source)]
  cases hp : c.variablesFile? disk source with
  | none =>
    refine ⟨.ok (.empty, ""), rfl, fun env messages => ?_⟩
    rw [Computer.Begins, hp]
    simp [eq_comm]
  | some path =>
    dsimp only
    rw [run_bind_of_eq (run_readText c disk path)]
    cases ht : c.read disk path >>= textOfBytes with
    | error fault =>
      refine ⟨.error (.reading path fault), rfl, fun env messages => ?_⟩
      rw [Computer.Begins, hp]
      refine iff_of_false (by simp) ?_
      rintro ⟨text, _, given, _⟩
      rw [bind_textOfBytes_eq_ok_iff.2 given] at ht
      cases ht
    | ok text =>
      have given_iff (text' : String) : c.Gives disk path text' ↔ text' = text := by
        rw [Computer.Gives, ← bind_textOfBytes_eq_ok_iff, ht, Except.ok.injEq, eq_comm]
      dsimp only
      cases hl : VariablesFile.load (c.engine .variablesFile) text with
      | error reason =>
        refine ⟨.error (.aborted reason), rfl, fun env messages => ?_⟩
        rw [Computer.Begins, hp]
        refine iff_of_false (by simp) ?_
        rintro ⟨text', loaded, given, hl', _⟩
        obtain rfl := (given_iff text').1 given
        cases hl.symm.trans hl'
      | ok loaded =>
        refine ⟨.ok (loaded.env, warnings path loaded.reports), rfl, fun env messages => ?_⟩
        rw [Computer.Begins, hp]
        constructor
        · rintro ⟨⟩
          exact ⟨text, loaded, (given_iff text).2 rfl, hl, rfl, rfl⟩
        · rintro ⟨text', loaded', given, hl', rfl, rfl⟩
          obtain rfl := (given_iff text').1 given
          cases hl.symm.trans hl'
          rfl

/-- Reading the template changes nothing. -/
theorem exists_run_readTemplate (source : TemplateSource) :
    ∃ r, (readTemplate c.platform source).run disk = (r, disk) ∧
      ∀ template, r = .ok template ↔ c.Supplies disk source template := by
  cases source with
  | standardInput =>
    refine ⟨(c.input >>= textOfBytes).mapError .input, rfl, fun template => ?_⟩
    exact (mapError_eq_ok_iff _).trans bind_textOfBytes_eq_ok_iff
  | file path =>
    refine ⟨(c.read disk path >>= textOfBytes).mapError (.reading path), rfl, fun template => ?_⟩
    exact (mapError_eq_ok_iff _).trans bind_textOfBytes_eq_ok_iff

/-- The text is handed over, or nothing can receive it and nothing has changed. -/
theorem exists_run_deliver (text : String) (output : Option String) :
    ∃ r disk', (deliver c.platform text output).run disk = (r, disk') ∧
      (∀ shown, r = .ok shown → c.Delivers disk text output shown disk') ∧
      ∀ failure, r = .error failure →
        disk' = disk ∧ ∀ shown disk'', ¬c.Delivers disk text output shown disk'' := by
  cases output with
  | none =>
    refine ⟨.ok text, disk, rfl, ?_, ?_⟩
    · rintro _ ⟨⟩
      exact ⟨rfl, rfl⟩
    · rintro _ ⟨⟩
  | some path =>
    cases hw : c.write disk path text.toUTF8 with
    | error fault =>
      refine ⟨.error (.writing path fault), disk, ?_, ?_, ?_⟩
      · rw [deliver, run_bind_of_eq (run_writeFile_error c disk hw)]
        rfl
      · rintro _ ⟨⟩
      · refine fun failure _ => ⟨rfl, ?_⟩
        rintro shown disk'' ⟨writable, _, receives⟩
        obtain ⟨written, hw'⟩ := receives.exists_write
        rw [Computer.write, writable, Option.elim_none, hw'] at hw
        cases hw
    | ok disk' =>
      refine ⟨.ok "", disk', ?_, ?_, ?_⟩
      · rw [deliver, run_bind_of_eq (run_writeFile_ok c disk hw)]
        rfl
      · rintro _ ⟨⟩
        rw [Computer.write] at hw
        cases writable : c.unwritable path with
        | none =>
          rw [writable] at hw
          exact ⟨writable, rfl, Disk.receives_of_write hw⟩
        | some fault =>
          rw [writable] at hw
          cases hw
      · rintro _ ⟨⟩

/-! ## The run -/

variable {c disk}

/-- A command line leads to one template and to one environment. -/
theorem Prepares.unique {args : Arguments} {env env' : Environment Empty}
    {template template' messages messages' : String}
    (h : Prepares c disk args env template messages)
    (h' : Prepares c disk args env' template' messages') :
    env = env' ∧ template = template' := by
  obtain ⟨⟨start, begun, defines⟩, supplied⟩ := h
  obtain ⟨⟨start', begun', defines'⟩, supplied'⟩ := h'
  obtain ⟨_, _, begins⟩ := exists_run_loadVariables c disk args.variablesFile
  obtain ⟨_, _, supplies⟩ := exists_run_readTemplate c disk args.template
  cases ((begins start messages).2 begun).symm.trans ((begins start' messages').2 begun')
  cases (defineAll_eq_ok_iff.2 defines).symm.trans (defineAll_eq_ok_iff.2 defines')
  cases ((supplies template).2 supplied).symm.trans ((supplies template').2 supplied')
  exact ⟨rfl, rfl⟩

/-- A command line leads to one text: the result of the render. -/
theorem Prepares.result_eq {fuel : ℕ} {args : Arguments} {env : Environment Empty}
    {template text messages messages' : String} {outcome : Template.Outcome Empty Unit}
    (h : Prepares c disk args env template messages)
    (rendered : (c.engine .template).render fuel template env = some outcome)
    (h' : Renders c fuel disk args text messages') : outcome.result = .ok text := by
  obtain ⟨env', template', outcome', prepares, rendered', result⟩ := h'
  obtain ⟨rfl, rfl⟩ := h.unique prepares
  cases rendered.symm.trans rendered'
  exact result

section

variable {fuel : ℕ} {words : List String} {args : Arguments}
  (understood : Arguments.ofWords words = .ok args)

include understood

/-- Without all that is to be rendered there is no text. -/
theorem Concludes.of_not_prepares
    (h : ∀ env template messages, ¬Prepares c disk args env template messages)
    (warnings : String) (failure : Failure) :
    Concludes c fuel words disk (some (.failed warnings failure)) disk := by
  refine .failed failure.status_ne_zero rfl fun args' text messages shown disk' read renders => ?_
  cases understood.symm.trans read
  obtain ⟨env, template, outcome, prepares, _⟩ := renders
  exact absurd prepares (h env template messages)

end

/-- A run hands over the whole text or nothing. If it goes well, the text that the command line
leads to is with the one receiver that it names; if it fails, nothing is shown and nothing on the
disk has changed, and it fails only if there is no such text or nothing that can receive it. -/
theorem run_all_or_nothing (c : Computer) (fuel : ℕ) (words : List String) (disk : Disk) :
    ∃ result disk', (run c.platform fuel words).run disk = (result, disk') ∧
      Concludes c fuel words disk result disk' := by
  rw [run]
  -- No stage but the last one touches the disk, so all failures before it are at `disk` itself.
  rcases understood : Arguments.ofWords words with fault | args
  · refine ⟨some (.failed "" (.usage fault)), disk, rfl,
      .failed (Failure.usage fault).status_ne_zero rfl ?_⟩
    intro args text messages shown disk' read
    cases understood.symm.trans read
  dsimp only
  rw [perform, run_bind_of_eq (run_engineAt c disk .variablesFile)]
  obtain ⟨r, loads, begins⟩ := exists_run_loadVariables c disk args.variablesFile
  rw [run_bind_of_eq loads]
  rcases r with failure | ⟨start, messages⟩
  · refine ⟨some (.failed "" failure), disk, rfl, .of_not_prepares understood ?_ _ _⟩
    rintro env template messages ⟨⟨start, begun, _⟩, _⟩
    cases (begins start messages).2 begun
  dsimp only
  rw [run_bind_of_eq (run_engineAt c disk .definitions)]
  rcases defined : defineAll (c.engine .definitions) start args.defines with failure | env
  · refine ⟨some (.failed messages failure), disk, rfl, .of_not_prepares understood ?_ _ _⟩
    rintro env template messages' ⟨⟨start', begun, defines⟩, _⟩
    cases (begins start' messages').2 begun
    rw [defineAll_eq_ok_iff.2 defines] at defined
    cases defined
  dsimp only
  obtain ⟨r, reads, supplies⟩ := exists_run_readTemplate c disk args.template
  rw [run_bind_of_eq reads]
  rcases r with failure | template
  · refine ⟨some (.failed messages failure), disk, rfl, .of_not_prepares understood ?_ _ _⟩
    rintro env template messages ⟨_, supplied⟩
    cases (supplies template).2 supplied
  dsimp only
  have prepares : Prepares c disk args env template messages :=
    ⟨⟨start, (begins start messages).1 rfl, defineAll_eq_ok_iff.1 defined⟩,
      (supplies template).1 rfl⟩
  rw [run_bind_of_eq (run_engineAt c disk .template)]
  rcases rendered : (c.engine .template).render fuel template env with _ | outcome
  · exact ⟨none, disk, rfl, .unfinished understood prepares rendered⟩
  dsimp only
  rcases result : outcome.result with error | text
  · refine ⟨some (.failed messages (.ofError .rendering error)), disk, rfl,
      .failed (Failure.ofError .rendering error).status_ne_zero rfl ?_⟩
    intro args' text messages' shown disk' read renders
    cases understood.symm.trans read
    cases result.symm.trans (prepares.result_eq rendered renders)
  dsimp only
  obtain ⟨r, disk', delivers, received, refused⟩ := exists_run_deliver c disk text
    args.output
  rw [run_bind_of_eq delivers]
  rcases r with failure | shown
  · obtain ⟨rfl, unwritable⟩ := refused failure rfl
    refine ⟨some (.failed messages failure), disk', rfl, .failed failure.status_ne_zero rfl ?_⟩
    intro args' text' messages' shown disk'' read renders
    cases understood.symm.trans read
    cases result.symm.trans (prepares.result_eq rendered renders)
    exact unwritable shown disk''
  · exact ⟨some (.succeeded messages shown), disk', rfl, .delivered rfl understood
      ⟨env, template, outcome, prepares, rendered, result⟩ (received shown rfl)⟩

/-- The text can take the place of its template. -/
example (clock : Stage → DateTime) :
    let disk : Disk := ⟨[(["v"], .file "/set y=1".toUTF8), (["t"], .file "a@[=x]".toUTF8)]⟩
    let ended := (run (.inMemory clock 9 "" .empty) 9 ["-fv", "-Dx=y+1", "-ot", "t"]).run disk
    ended.1.map (fun r => (r.status, r.output)) = some (0, "") ∧
      ended.2.read "t" >>= textOfBytes = .ok "a2" := by
  cbv

end MicroTemplate.Program
