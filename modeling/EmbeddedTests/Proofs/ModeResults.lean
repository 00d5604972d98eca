import EmbeddedTests.Proofs.FileCourse
import EmbeddedTests.Proofs.SnippetConsole
import EmbeddedTests.Proofs.WrittenFile

/-!
# One file in different modes

In batch mode, the modes and the logs for a test decide what is shown of it, and its result is the
same in all of them. A log file is part of what modules are looked for in, so this takes a log that
is no source file, and not the tested file itself.
-/
namespace EmbeddedTests

open Text

variable {σ : Type}

/-- What was printed makes no difference to the code of a file and to the evaluators for it. -/
structure Host.Unseeing (host : Host σ) : Prop where
  prepares : ∀ {disk config file w w' u a}, w.Agrees w' →
    host.prepare disk config file w = (a, u) →
      ∃ u', host.prepare disk config file w' = (a, u') ∧ u.Agrees u'
  evaluators : ∀ {disk config file w u ev},
    host.prepare disk config file w = (.ok (.ok ev), u) → ev.Unseeing
  asks : ∀ q v, World.Unseen (host.ask q v)

/-- The log can be opened, and what it has makes no difference to a test of the name, except that
the file's own code may be refused in other words. -/
structure LogTarget.Apart (log : LogTarget) (g : Setting σ) (disk opened : Disk) (name : Text) :
    Prop where
  starts : log.start disk = .ok opened
  locates : ∀ report s,
    g.host.locate (log.onto opened report) name s = g.host.locate disk name s
  reads : ∀ {report s file u}, g.host.locate disk name s = (.ok (some file), u) →
    (log.onto opened report).readTests file g.config.marker = disk.readTests file g.config.marker
  prepares : ∀ {report file w a u}, g.host.prepare disk g.config file w = (a, u) →
    (∀ raised, a ≠ .ok (.error raised)) →
      g.host.prepare (log.onto opened report) g.config file w = (a, u)
  refuses : ∀ {report file w raised u},
    g.host.prepare disk g.config file w = (.ok (.error raised), u) →
      ∃ raised', g.host.prepare (log.onto opened report) g.config file w =
        (.ok (.error raised'), u) ∧ g.host.TellsAlike raised raised' u
  features : ∀ report, g.featuresOn (log.onto opened report) = g.featuresOn disk

/-- The log is no file, or one that can be written, and it is neither the file of the name nor a
source file. -/
def LogTarget.Elsewhere (log : LogTarget) (disk : Disk) (name : Text) : Prop :=
  ∀ path, log = .file path → ∃ p, disk.placeForFile path = .ok p ∧ p.Plain ∧
    disk.place (Path.tidy name) ≠ .ok p

section Elsewhere

variable {disk d' : Disk} {p : Place} {name : Text}

theorem locate_code {host : Host σ} (steady : host.Steady) {s u : Session σ} {file : Text}
    (h : host.locate disk name s = (.ok (some file), u)) :
    disk.isFile file = true ∧ (file = Path.tidy name ∨ endsWith ".py" file = true) := by
  unfold Host.locate at h
  dsimp only at h
  split at h
  · next there =>
    cases h
    exact ⟨there, .inl rfl⟩
  split at h
  · cases h
  split at h
  · cases h
  · next found w searched =>
    split at h
    · next file' kept =>
      cases h
      obtain ⟨rfl, there⟩ := Option.filter_eq_some_iff.mp kept
      exact ⟨there, .inr (steady.code (congrArg Prod.fst searched))⟩
    · cases h

theorem locate_beside {host : Host σ} (steady : host.Steady) (h : Disk.Beside p disk d')
    (plain : p.Plain) (apart : disk.place (Path.tidy name) ≠ .ok p) (s : Session σ) :
    host.locate d' name s = host.locate disk name s := by
  unfold Host.locate
  dsimp only
  rw [h.is_file apart, steady.moduleFile h plain]
  split
  · rfl
  split
  · rfl
  rcases searched : host.moduleFile disk name s.world with ⟨escape | _ | file, w⟩
  · rfl
  · rfl
  · have source := steady.code (congrArg Prod.fst searched)
    have same : d'.isFile file = disk.isFile file := h.is_file (plain.apart source)
    simp only [Option.filter, same]

theorem read_tests_beside {host : Host σ} (steady : host.Steady) (h : Disk.Beside p disk d')
    (plain : p.Plain) (apart : disk.place (Path.tidy name) ≠ .ok p) {s u : Session σ} {file : Text}
    (found : host.locate disk name s = (.ok (some file), u)) (marker : Text) :
    d'.readTests file marker = disk.readTests file marker := by
  obtain ⟨there, named⟩ := locate_code steady found
  have other : disk.place file ≠ .ok p := by
    rcases named with rfl | source
    · exact apart
    · exact plain.apart source
  unfold Disk.readTests Disk.readText
  rw [h.read_of_is_file there other]

theorem log_beside {path : Text} (placed : disk.placeForFile path = .ok p) :
    ∃ opened, (LogTarget.file path).start disk = .ok opened ∧
      ∀ report, Disk.Beside p disk ((LogTarget.file path).onto opened report) := by
  have emptied := Disk.beside_put placed (encodeUtf8 [])
  refine ⟨disk.put p (encodeUtf8 []), ?_, fun report => ?_⟩
  · simp only [LogTarget.start, Disk.write_eq placed]
    rfl
  · have again := emptied.place_for_file placed
    simp only [LogTarget.onto, Disk.write_eq again]
    exact emptied.trans (Disk.beside_put again _)

theorem apart_of_elsewhere {g : Setting σ} (steady : g.host.Steady) {log : LogTarget}
    (elsewhere : log.Elsewhere disk name) : ∃ opened, log.Apart g disk opened name := by
  cases log with
  | console | stream =>
    exact ⟨disk, rfl, fun _ _ => rfl, fun _ => rfl, fun made _ => made, fun made => ⟨_, made, rfl⟩,
      fun _ => rfl⟩
  | file path =>
    obtain ⟨p, placed, plain, apart⟩ := elsewhere path rfl
    obtain ⟨opened, start, beside⟩ := log_beside placed
    refine ⟨opened, start, fun report s => ?_, fun found => ?_, fun made kept => ?_,
      fun made => ?_, fun report => ?_⟩
    · exact locate_beside steady (beside report) plain apart s
    · exact read_tests_beside steady (beside _) plain apart found _
    · exact steady.prepares (beside _) plain made kept
    · exact steady.refuses (beside _) plain made
    · unfold Setting.featuresOn
      rw [steady.hasModule (beside report) plain]

end Elsewhere

def quietOptions : EngineOptions := { verbose := -1, batch := true }

/-- In a quiet batch without a log, the shared variables can be described after each step of the
file's tests, without a trace. -/
def Setting.DescribesRun (g : Setting σ) (disk : Disk) (file buffer : Text) (s : Session σ) :
    Prop :=
  let t : FileTest σ := ⟨g, .console, disk⟩
  ∀ ev w, t.prepared quietOptions file buffer s = (.ok (.ok ev), w) →
    (t.engine ev quietOptions disk).DescribesAlong file (parseBlocks buffer)
      { t.entered quietOptions file buffer s with world := w }

/-- So it is in the file that the name stands for. -/
def Setting.DescribesAlong (g : Setting σ) (disk : Disk) (name : Text) (s : Session σ) : Prop :=
  ∀ file u buffer, g.host.locate disk name s = (.ok (some file), u) →
    disk.readTests file g.config.marker = .ok buffer → g.DescribesRun disk file buffer u

namespace FileTest

variable {g : Setting σ} {disk opened : Disk} {log : LogTarget} {name : Text}
  {options : EngineOptions} {s s' : Session σ}

theorem entered_agrees (m : s.Agrees s') (file buffer : Text) :
    (entered ⟨g, .console, disk⟩ quietOptions file buffer s).Agrees
      (entered ⟨g, log, opened⟩ options file buffer s') := by
  have told : s'.Agrees (if options.verbose > 0 then
      emit ⟨g, log, opened⟩ (Signal.file ++ file ++ "\n") s' else s') := by
    split
    · exact Session.Agrees.emit _ _ s'
    · exact Session.Agrees.refl s'
  exact (m.trans told).log _ _ _

theorem engine_presented (apart : log.Apart g disk opened name) (batch : options.batch = true)
    (demos : options.runDemos = false) (evaluator : Evaluator σ) (report : Text) :
    engine ⟨g, log, opened⟩ evaluator options (log.onto opened report) =
      (engine ⟨g, .console, disk⟩ evaluator quietOptions disk).presented
        options.verbose options.logfile log.sink := by
  obtain ⟨verbose, _, _, logfile⟩ := options
  cases batch
  cases demos
  unfold engine Engine.presented Engine.playedBy
  rw [apart.features]
  rfl

/-- A test of a file comes to what it comes to in a quiet batch. -/
theorem run_blocks_quiet (unseeing : g.host.Unseeing) (apart : log.Apart g disk opened name)
    (batch : options.batch = true) (demos : options.runDemos = false) (m : s.Agrees s')
    {file buffer : Text} (described : g.DescribesRun disk file buffer s) :
    (runBlocks ⟨g, log, opened⟩ options file (parseBlocks buffer) s').1.map Course.result? =
      (runBlocks ⟨g, .console, disk⟩ quietOptions file (parseBlocks buffer) s).1.map
        Course.result? := by
  have entered : (entered ⟨g, .console, disk⟩ quietOptions file buffer s).Agrees
      (entered ⟨g, log, opened⟩ options file buffer s') := entered_agrees m file buffer
  rw [run_blocks_eq, run_blocks_eq]
  -- The file's code is prepared as it is on the disk without the log.
  rcases made : prepared ⟨g, .console, disk⟩ quietOptions file buffer s with ⟨a, w⟩
  obtain ⟨w', made', agrees⟩ := unseeing.prepares entered.world made
  rcases a with escape | raised | evaluator
  · have here : prepared ⟨g, log, opened⟩ options file buffer s' = (.error escape, w') :=
      apart.prepares made' fun _ => by simp
    rw [here]
  · obtain ⟨raised', here, alike⟩ := apart.refuses made'
    have here : prepared ⟨g, log, opened⟩ options file buffer s' = (.ok (.error raised'), w') :=
      here
    have unseen := (unseeing.asks .formatted raised.value agrees).1
    have told (t : FileTest σ) (raised : Raised) (u : Session σ) :
        ((t.reportUnprepared file raised u).1.map fun _ => (.unprepared raised : Course σ)).map
          Course.result? =
        ((t.setting.host.ask .formatted raised.value u.world).1.map fun _ => ()).map fun _ =>
          some { tests := 1 } := by
      rw [report_unprepared_fst]
      rcases (t.setting.host.ask .formatted raised.value u.world).1 with escape | text <;> rfl
    rw [here]
    dsimp only
    rw [told, told]
    dsimp only
    rw [show _ = _ from alike, unseen]
  · have here : prepared ⟨g, log, opened⟩ options file buffer s' = (.ok (.ok evaluator), w') :=
      apart.prepares made' fun _ => by simp
    have blind : evaluator.Unseeing := unseeing.evaluators made
    have run : (ranBy ⟨g, .console, disk⟩ quietOptions file buffer s evaluator w).Agrees
        (ranBy ⟨g, log, opened⟩ options file buffer s' evaluator w') := by
      unfold ranBy diskAt
      rw [engine_presented apart batch demos]
      exact Engine.run_presented blind (entered.within agrees)
        (described _ _ made) _ _ _
    rw [here]
    dsimp only
    rw [run.escape]
    cases left : (ranBy ⟨g, .console, disk⟩ quietOptions file buffer s evaluator w).escape with
    | some escape => rfl
    | none => exact congrArg Except.ok run.result?

theorem run_buffer_result (t : FileTest σ) (options : EngineOptions) (file buffer : Text)
    (s : Session σ) :
    (t.runBuffer options file buffer s).1.map TestOutput.result? =
      (((if buffer = [] then .ok (some {})
        else (t.runBlocks options file (parseBlocks buffer) s).1.map Course.result?).mapError
          TestError.escape).map fun result =>
        (result.getD {}).classify file t.setting.config.failThreshold).map some := by
  rw [run_buffer_output]
  by_cases empty : buffer = []
  · rw [if_pos empty, if_pos empty]
    rfl
  · rw [if_neg empty, if_neg empty]
    rcases (t.runBlocks options file (parseBlocks buffer) s).1 with escape | course <;> rfl

end FileTest

theorem locate_with_report (host : Host σ) (disk : Disk) (name : Text) (s : Session σ)
    (report : Text) :
    host.locate disk name { s with report := report } =
      ((host.locate disk name s).1, { (host.locate disk name s).2 with report := report }) := by
  unfold Host.locate
  dsimp only
  split
  · rfl
  split
  · rfl
  rcases host.moduleFile disk name s.world with ⟨escape | found, w⟩
  · rfl
  · dsimp only
    cases found.filter disk.isFile <;> rfl

/-- The test is run block by block, in batch mode. -/
structure TestRequest.Batched (r : TestRequest) : Prop where
  mode : ∃ mode ∈ [TestMode.normal, .quiet, .verbose], r.mode = mode.name
  batch : (r.batch || r.log.isLog) = true

theorem options_of_batch {mode : TestMode} (h : mode ∈ [TestMode.normal, .quiet, .verbose])
    (logfile : Bool) : ∃ options, EngineOptions.ofMode? mode true logfile = some options ∧
      options.batch = true ∧ options.runDemos = false := by
  simp only [List.mem_cons, List.not_mem_nil, or_false] at h
  rcases h with rfl | rfl | rfl <;> exact ⟨_, rfl, rfl, rfl⟩

theorem announced_eq (t : FileTest σ) (name : Text) (s : Session σ) :
    ∃ report, t.announced name s = { s with report := report } := by
  obtain ⟨g, log, disk⟩ := t
  unfold FileTest.announced FileTest.emit
  cases log with
  | console => exact ⟨s.report, rfl⟩
  | stream | file path => exact ⟨_, rfl⟩

theorem mode_of_batched {r : TestRequest} (batched : r.Batched) :
    ∃ mode ∈ [TestMode.normal, .quiet, .verbose], TestMode.ofName? r.mode = some mode := by
  obtain ⟨mode, listed, named⟩ := batched.mode
  refine ⟨mode, listed, ?_⟩
  rw [named]
  cases mode <;> rfl

theorem output_of_nameless (g : Setting σ) {r : TestRequest} (batched : r.Batched)
    (nameless : r.name.getD [] = []) (disk : Disk) (s : Session σ) :
    (g.test r disk s).output = .error (.usage .missingName) := by
  obtain ⟨mode, listed, known⟩ := mode_of_batched batched
  have refused : r.check = .error .missingName := by
    unfold TestRequest.check
    rw [known, nameless]
    simp only [List.mem_cons, List.not_mem_nil, or_false] at listed
    rcases listed with rfl | rfl | rfl <;> rfl
  simp only [Setting.test, refused]

theorem output_of_named (g : Setting σ) {r : TestRequest} {disk opened : Disk}
    (batched : r.Batched) (named : r.name.getD [] ≠ []) (start : r.log.start disk = .ok opened)
    (s : Session σ) :
    ∃ options report, options.batch = true ∧ options.runDemos = false ∧
      (g.test r disk s).output = (FileTest.runNamed ⟨g, r.log, opened⟩ (r.name.getD [])
        (some options) { s with report := report }).1 := by
  obtain ⟨mode, listed, known⟩ := mode_of_batched batched
  have runs : mode ≠ .explain ∧ mode ≠ .grabDemos := by
    revert listed
    cases mode <;> decide
  have asked : r.check = .ok (mode, r.name.getD []) := by
    obtain ⟨c, rest, filled⟩ := List.exists_cons_of_ne_nil named
    unfold TestRequest.check
    rw [known, filled]
    cases mode with
    | explain => exact absurd rfl runs.1
    | _ => rfl
  obtain ⟨options, made, batch, demos⟩ := options_of_batch listed r.log.isLog
  obtain ⟨report, announced⟩ :=
    announced_eq ⟨g, r.log, opened⟩ (r.name.getD []) { s with report := [] }
  refine ⟨options, report, batch, demos, ?_⟩
  unfold FileTest.announced at announced
  simp only [Setting.test, asked, start, FileTest.run, runs.1, runs.2, if_false, batched.batch,
    made, announced]

/-- In batch mode, neither the mode nor the log makes a difference to the result of a file. -/
theorem test_presented (g : Setting σ) (unseeing : g.host.Unseeing) {r r' : TestRequest}
    {disk opened opened' : Disk} (same : r'.name = r.name) (batched : r.Batched)
    (batched' : r'.Batched) (apart : r.log.Apart g disk opened (r.name.getD []))
    (apart' : r'.log.Apart g disk opened' (r.name.getD [])) {s : Session σ}
    (described : g.DescribesAlong disk (r.name.getD []) s) :
    (g.test r' disk s).output.map TestOutput.result? =
      (g.test r disk s).output.map TestOutput.result? := by
  by_cases nameless : r.name.getD [] = []
  · rw [output_of_nameless g batched nameless, output_of_nameless g batched' (same ▸ nameless)]
  obtain ⟨options, report, batch, demos, output⟩ :=
    output_of_named g batched nameless apart.starts s
  obtain ⟨options', report', batch', demos', output'⟩ :=
    output_of_named g batched' (same ▸ nameless) apart'.starts s
  rw [output, output', same]
  unfold FileTest.runNamed FileTest.diskAt
  rw [apart.locates, apart'.locates, locate_with_report g.host disk _ s report,
    locate_with_report g.host disk _ s report']
  rcases found : g.host.locate disk (r.name.getD []) s with ⟨escape | _ | file, u⟩
  · rfl
  · rfl
  · dsimp only
    rw [apart.reads found, apart'.reads found]
    cases read : disk.readTests file g.config.marker with
    | error e => rfl
    | ok buffer =>
      dsimp only
      rw [FileTest.run_buffer_result, FileTest.run_buffer_result]
      have agrees (report : Text) : u.Agrees { u with report := report } :=
        ⟨.refl _, trivial, rfl, rfl, rfl, rfl, rfl⟩
      have quiet := described file u buffer found read
      rw [FileTest.run_blocks_quiet unseeing apart batch demos (agrees report) quiet,
        FileTest.run_blocks_quiet unseeing apart' batch' demos' (agrees report') quiet]

theorem result_of_batched (g : Setting σ) {r : TestRequest} {disk opened : Disk}
    (batched : r.Batched) (start : r.log.start disk = .ok opened) (s : Session σ) :
    ∃ result : Except TestError RunResult,
      (g.test r disk s).output.map TestOutput.result? = result.map some := by
  by_cases nameless : r.name.getD [] = []
  · exact ⟨.error (.usage .missingName), by rw [output_of_nameless g batched nameless]; rfl⟩
  obtain ⟨options, report, -, -, output⟩ := output_of_named g batched nameless start s
  rw [output]
  unfold FileTest.runNamed
  split
  · next escape _ _ => exact ⟨.error (.escape escape), rfl⟩
  · exact ⟨.ok {}, rfl⟩
  · split
    · next e _ => exact ⟨.error (.file e), rfl⟩
    · next absent => cases absent
    · next given =>
      cases given
      exact ⟨_, FileTest.run_buffer_result _ _ _ _ _⟩

theorem test_elsewhere (g : Setting σ) (unseeing : g.host.Unseeing) (steady : g.host.Steady)
    {r r' : TestRequest} {disk : Disk} (same : r'.name = r.name) (batched : r.Batched)
    (batched' : r'.Batched) (elsewhere : r.log.Elsewhere disk (r.name.getD []))
    (elsewhere' : r'.log.Elsewhere disk (r.name.getD [])) {s : Session σ}
    (described : g.DescribesAlong disk (r.name.getD []) s) :
    ∃ result : Except TestError RunResult,
      (g.test r disk s).output.map TestOutput.result? = result.map some ∧
        (g.test r' disk s).output.map TestOutput.result? = result.map some := by
  obtain ⟨opened, apart⟩ := apart_of_elsewhere steady elsewhere
  obtain ⟨opened', apart'⟩ := apart_of_elsewhere steady elsewhere'
  obtain ⟨result, given⟩ := result_of_batched g batched apart.starts s
  have equal := test_presented g unseeing same batched batched' apart apart' described
  exact ⟨result, given, equal.trans given⟩

namespace Snippet

theorem host_with_unseeing {ev : Evaluator σ} (unseeing : ev.Unseeing) :
    (hostWith ev).Unseeing where
  prepares {disk config file w w' u a} agrees made := by
    cases made
    exact ⟨w', rfl, agrees⟩
  evaluators {disk config file w u ev} made := by
    cases made
    exact unseeing
  asks q v w w' agrees := by
    obtain ⟨u, asked, after⟩ := unseeing.asks q v agrees rfl
    have here : (hostWith ev).ask q v w' = ((ev.ask q v w).1, u) := asked
    rw [here]
    exact ⟨rfl, after⟩

theorem host_unseeing : host.Unseeing where
  prepares agrees made := (prepare_unseen _ _ _).answers agrees made
  evaluators made := prepared_evaluator made ▸ unseeing _
  asks := ask_unseen

end Snippet

/-- How much is shown of a run, and where, decides what is shown and nothing else, as long as the
shared variables that are shown can be described: the engines take the same steps. Each shows what
its reports and shared variables make of its options, in any case. So the results of a file in the
modes and with the logs for batch mode are the same. -/
theorem presentation_changes_no_outcome (script : Script) (config : Config) (library : Library)
    (pause : (earlier : List Text) → Attempt Unit) :
    (∀ (options : EngineOptions) (verbose : Int) (logfile : Bool) (features : FeatureQuery)
        (sink sink' : Sink) (file : Text) (blocks : List Block) (s : Session Script.Calls),
      let e : Engine Script.Calls :=
        ⟨Script.evaluator script, options, config, features, sink, library, pause⟩
      let e' : Engine Script.Calls :=
        ⟨Script.evaluator script, { options with verbose := verbose, logfile := logfile }, config,
          features, sink', library, pause⟩
      let r := e.run file blocks s
      let r' := e'.run file blocks s
      (e.DescribesAlong file blocks s → r.SameOutcome r') ∧
        (∃ shown, e.RunShows blocks r shown ∧ e.Adds shown s r.last) ∧
        (∃ shown, e'.RunShows blocks r' shown ∧ e'.Adds shown s r'.last) ∧
        (options.verbose < 0 → options.logfile = false → e.Adds [] s r.last)) ∧
    (∀ (features : Option FeatureQuery) (disk : Disk) (r r' : TestRequest), r'.name = r.name →
      r.Batched → r'.Batched → r.log.Elsewhere disk (r.name.getD []) →
      r'.log.Elsewhere disk (r.name.getD []) →
      (∀ s, let g : Setting Script.Calls :=
          ⟨Snippet.hostWith (Script.evaluator script), config, features, library, pause⟩
        g.DescribesAlong disk (r.name.getD []) s → ∃ result : Except TestError RunResult,
          (g.test r disk s).output.map TestOutput.result? = result.map some ∧
            (g.test r' disk s).output.map TestOutput.result? = result.map some) ∧
      (∀ s, let g : Setting Snippet.Machine := ⟨Snippet.host, config, features, library, pause⟩
        g.DescribesAlong disk (r.name.getD []) s → ∃ result : Except TestError RunResult,
          (g.test r disk s).output.map TestOutput.result? = result.map some ∧
            (g.test r' disk s).output.map TestOutput.result? = result.map some)) := by
  have unseeing := Script.unseeing script
  have silent := script_silent script
  refine ⟨?_, ?_⟩
  · intro options verbose logfile features sink sink' file blocks s e e' r r'
    have shows : ∃ shown, e.RunShows blocks r shown ∧ e.Adds shown s r.last :=
      Engine.run_adds silent file blocks s
    refine ⟨fun described => ?_, shows, Engine.run_adds silent file blocks s, ?_⟩
    · have here := Engine.run_presented (e := e) unseeing (Session.Agrees.refl s) described
        options.verbose options.logfile sink
      have there := Engine.run_presented (e := e) unseeing (Session.Agrees.refl s) described
        verbose logfile sink'
      exact here.same_outcome.symm.trans there.same_outcome
    · intro quiet apart
      obtain ⟨shown, told, added⟩ := shows
      rwa [Engine.run_shows_nothing quiet apart told] at added
  · intro features disk r r' same batched batched' elsewhere elsewhere'
    constructor
    · intro s g described
      exact test_elsewhere g (Snippet.host_with_unseeing unseeing)
        (Snippet.host_with_steady _) same batched batched' elsewhere elsewhere' described
    · intro s g described
      exact test_elsewhere g Snippet.host_unseeing Snippet.host_steady same batched batched'
        elsewhere elsewhere' described

theorem Script.describes {script : Script} {s : Session Script.Calls}
    (plain : ∀ entry ∈ s.shared, (Script.render entry.2.written).toOption.isSome = true) :
    (Script.evaluator script).Describes s := by
  intro entry member w _
  have found := plain entry member
  cases written : Script.render entry.2.written with
  | error escape =>
    rw [written] at found
    cases found
  | ok t => exact ⟨t, w, congrArg (·, w) written, .refl w⟩

/-- Sets `x` to a number that is too long to be written, and fails to compare it. -/
def longNumber : Script := fun code =>
  if code = "grow".toList then { sets := [("x", .int (.ofNat (Nat.pow 10 Value.digitLimit)))] }
  else if code = "assert x == 0".toList then { error := some (.builtin "AssertionError" []) }
  else {}

/-- A shared variable that is set up, and a failed test, which a log shows together. -/
theorem result_with_log_beside :
    let disk : Disk := { files := [(["t".toList], encodeUtf8 "#!shared x\n#!assert x == 0")] }
    let logged : TestRequest := { name := some "t", mode := "quiet", log := .file "t.log" }
    let batch : TestRequest := { name := some "t", mode := "verbose", batch := true }
    let g : Setting Script.Calls := { host := Snippet.hostWith longNumber.evaluator, config := {} }
    let s : Session Script.Calls := { world := { state := [] } }
    logged.Batched ∧ batch.Batched ∧ logged.log.Elsewhere disk "t" ∧ g.DescribesAlong disk "t" s ∧
      ∃ result : Except TestError RunResult,
        (g.test logged disk s).output.map TestOutput.result? = result.map some ∧
          (g.test batch disk s).output.map TestOutput.result? = result.map some := by
  intro disk logged batch g s
  have quiet : logged.Batched := ⟨⟨.quiet, by decide, rfl⟩, rfl⟩
  have verbose : batch.Batched := ⟨⟨.verbose, by decide, rfl⟩, rfl⟩
  have beside : logged.log.Elsewhere disk "t" := by
    rintro path ⟨⟩
    have plain : Place.Plain ["t.log".toList] := by
      rintro name ⟨⟩
      decide
    exact ⟨_, by decide, plain, by decide⟩
  have unlogged : batch.log.Elsewhere disk "t" := nofun
  have described : g.DescribesAlong disk "t" s := by
    intro file u buffer found read
    have located : g.host.locate disk "t" s = (.ok (some "t".toList), s) := rfl
    rw [located] at found
    cases found
    have tests : disk.readTests "t" "#!" = .ok "shared x\nassert x == 0" := by decide +kernel
    have same := Except.ok.inj (tests.symm.trans read)
    subst same
    intro ev w made
    cases made
    let e : Engine Script.Calls :=
      ⟨longNumber.evaluator, quietOptions, {}, g.featuresOn disk, .console, {}, fun _ => .ok ()⟩
    let entered : Session Script.Calls :=
      { world := { state := [] }
        journal := [⟨.info, .runner, "running 2 block(s) from t"⟩] }
    have run : e.DescribesAlong "t" (parseBlocks "shared x\nassert x == 0") entered := by
      intro step member
      refine Script.describes fun entry listed => ?_
      have plain : ((e.unshown.run "t" (parseBlocks "shared x\nassert x == 0") entered).done.all
          fun step => step.2.shared.all fun entry =>
            (Script.render entry.2.written).toOption.isSome) = true := by decide +kernel
      exact List.all_eq_true.mp (List.all_eq_true.mp plain step member) entry listed
    exact run
  have agree := (presentation_changes_no_outcome longNumber {} {} fun _ => .ok ()).2 none disk
    logged batch rfl quiet verbose beside unlogged
  exact ⟨quiet, verbose, beside, described, agree.1 s described⟩

/-- Shows, as the text of a failed test asks, a number that is too long to be written. -/
theorem long_number_leaves_run_that_is_shown :
    let blocks := parseBlocks "shared x\n  grow\nassert x == 0"
    let run (verbose : Int) := Engine.run (σ := Script.Calls)
      ⟨longNumber.evaluator, { verbose := verbose, batch := true }, {}, .listed [], .console, {},
        fun _ => .ok ()⟩ [] blocks { world := { state := [] } }
    (run (-1)).result?.isSome = true ∧ (run 0).escape.isSome = true ∧
      ¬ (run (-1)).SameOutcome (run 0) := by
  intro blocks run
  have quiet : (run (-1)).escape.isSome = false := by decide +kernel
  have loud : (run 0).escape.isSome = true := by decide +kernel
  refine ⟨by decide +kernel, loud, fun same => ?_⟩
  rw [same.escape, quiet] at loud
  cases loud

end EmbeddedTests
