import EmbeddedTests.Proofs.Decoding
import EmbeddedTests.Proofs.Tally
import EmbeddedTests.Runner
import EmbeddedTests.Snippet.Host

/-!
# What testing one file comes to

`Takes` has one constructor for each way in which the tests of a file go once its buffer has been
read, so a fact about outputs is a case split on it. A readable file is always found and read.
-/
namespace EmbeddedTests

open Text

variable {σ : Type}

namespace FileTest

variable {t : FileTest σ} {options : EngineOptions} {file buffer : Text} {s : Session σ}

def entered (t : FileTest σ) (options : EngineOptions) (file buffer : Text) (s : Session σ) :
    Session σ :=
  (if options.verbose > 0 then t.emit (Signal.file ++ file ++ "\n") s else s).log .info .runner
    ("running " ++ ofNat (parseBlocks buffer).length ++ " block(s) from " ++ file)

def prepared (t : FileTest σ) (options : EngineOptions) (file buffer : Text) (s : Session σ) :
    Attempt (Except Raised (Evaluator σ)) × World σ :=
  t.setting.host.prepare (t.diskAt (t.entered options file buffer s)) t.setting.config file
    (t.entered options file buffer s).world

def ranBy (t : FileTest σ) (options : EngineOptions) (file buffer : Text) (s : Session σ)
    (evaluator : Evaluator σ) (w : World σ) : Engine.Steps σ :=
  (t.engine evaluator options (t.diskAt (t.entered options file buffer s))).run file
    (parseBlocks buffer) { t.entered options file buffer s with world := w }

/-- How the tests of a file go, and by what they are left. -/
inductive Takes (t : FileTest σ) (options : EngineOptions) (file buffer : Text) (s : Session σ) :
    Attempt (Course σ) → Prop where
  | untested (empty : buffer = []) : Takes t options file buffer s (.ok .untested)
  | prepareLeft {escape w} (marked : buffer ≠ [])
      (left : t.prepared options file buffer s = (.error escape, w)) :
      Takes t options file buffer s (.error escape)
  | unprepared {raised w text} (marked : buffer ≠ [])
      (failed : t.prepared options file buffer s = (.ok (.error raised), w))
      (told : (t.setting.host.ask .formatted raised.value w).1 = .ok text) :
      Takes t options file buffer s (.ok (.unprepared raised))
  | untold {raised w escape} (marked : buffer ≠ [])
      (failed : t.prepared options file buffer s = (.ok (.error raised), w))
      (left : (t.setting.host.ask .formatted raised.value w).1 = .error escape) :
      Takes t options file buffer s (.error escape)
  | runLeft {evaluator w escape} (marked : buffer ≠ [])
      (ready : t.prepared options file buffer s = (.ok (.ok evaluator), w))
      (left : (t.ranBy options file buffer s evaluator w).escape = some escape) :
      Takes t options file buffer s (.error escape)
  | ran {evaluator w} (marked : buffer ≠ [])
      (ready : t.prepared options file buffer s = (.ok (.ok evaluator), w))
      (whole : (t.ranBy options file buffer s evaluator w).escape = none) :
      Takes t options file buffer s (.ok (.ran (t.ranBy options file buffer s evaluator w)))

/-- What is given back for a course. -/
def outputOf (t : FileTest σ) (file : Text) (course : Course σ) : TestOutput σ :=
  .tested file course ((course.result?.getD {}).classify file t.setting.config.failThreshold)

theorem run_blocks_eq (t : FileTest σ) (options : EngineOptions) (file buffer : Text)
    (s : Session σ) :
    t.runBlocks options file (parseBlocks buffer) s =
      match t.prepared options file buffer s with
      | (.error escape, w) => (.error escape, { t.entered options file buffer s with world := w })
      | (.ok (.error raised), w) =>
        let (told, u) :=
          t.reportUnprepared file raised { t.entered options file buffer s with world := w }
        (told.map fun _ => .unprepared raised, u)
      | (.ok (.ok evaluator), w) =>
        let steps := t.ranBy options file buffer s evaluator w
        (steps.escape.elim (.ok (.ran steps)) .error, steps.last) := rfl

theorem report_unprepared_fst (t : FileTest σ) (file : Text) (raised : Raised) (s : Session σ) :
    (t.reportUnprepared file raised s).1 =
      (t.setting.host.ask .formatted raised.value s.world).1.map fun _ => () := by
  unfold reportUnprepared
  rcases t.setting.host.ask .formatted raised.value s.world with ⟨escape | text, w⟩ <;> rfl

theorem takes_of_run_blocks (t : FileTest σ) (options : EngineOptions) {file buffer : Text}
    (s : Session σ) (marked : buffer ≠ []) :
    t.Takes options file buffer s (t.runBlocks options file (parseBlocks buffer) s).1 := by
  rw [run_blocks_eq]
  rcases made : t.prepared options file buffer s with ⟨escape | raised | evaluator, w⟩
  · exact .prepareLeft marked made
  · have told := t.report_unprepared_fst file raised
      { t.entered options file buffer s with world := w }
    dsimp only at told ⊢
    rw [told]
    cases asked : (t.setting.host.ask .formatted raised.value w).1 with
    | error escape => exact .untold marked made asked
    | ok text => exact .unprepared marked made asked
  · cases left : (t.ranBy options file buffer s evaluator w).escape with
    | some escape => simpa [left] using Takes.runLeft marked made left
    | none => simpa [left] using Takes.ran marked made left

theorem run_buffer_output (t : FileTest σ) (options : EngineOptions) (file buffer : Text)
    (s : Session σ) : (t.runBuffer options file buffer s).1 =
      ((if buffer = [] then .ok .untested
        else (t.runBlocks options file (parseBlocks buffer) s).1).map (t.outputOf file)).mapError
          .escape := by
  unfold runBuffer
  by_cases empty : buffer = []
  · rw [if_pos empty, empty]
    rfl
  · have marked : buffer.isEmpty = false := by simpa using empty
    simp only [marked, empty, Bool.false_eq_true, if_false]
    rcases t.runBlocks options file (parseBlocks buffer) s with ⟨escape | course, u⟩ <;> rfl

theorem run_buffer_takes (t : FileTest σ) (options : EngineOptions) (file buffer : Text)
    (s : Session σ) :
    ∃ course, t.Takes options file buffer s course ∧
      (t.runBuffer options file buffer s).1 = (course.map (t.outputOf file)).mapError .escape := by
  refine ⟨_, ?_, t.run_buffer_output options file buffer s⟩
  split
  · exact .untested ‹_›
  · exact takes_of_run_blocks t options s ‹_›

end FileTest

theorem Snippet.prepared_evaluator {disk : Disk} {config : Config} {file : Text}
    {w u : World Snippet.Machine} {ev : Evaluator Snippet.Machine}
    (made : Snippet.prepare disk config file w = (.ok (.ok ev), u)) :
    ev = Snippet.evaluator file := by
  unfold Snippet.prepare at made
  split at made
  · rcases ran : Snippet.runForTests disk file w with ⟨escape | raised | done, w'⟩
    all_goals
      rw [ran] at made
      have answer := congrArg Prod.fst made
    · cases answer
    · cases answer
    · exact (Except.ok.inj (Except.ok.inj answer)).symm
  · exact (Except.ok.inj (Except.ok.inj (congrArg Prod.fst made))).symm

theorem options_of_mode {mode : TestMode} (h : mode ≠ .explain) (batch logfile : Bool) :
    ∃ options, EngineOptions.ofMode? mode batch logfile = some options ∧ options.batch = batch := by
  cases mode with
  | explain => exact absurd rfl h
  | _ => exact ⟨_, rfl, rfl⟩

theorem read_text_of_read {disk : Disk} {path : Text} {bytes : Bytes}
    (opened : disk.read path = .ok bytes) (decode : Bytes → Except Utf8Error Text) :
    disk.readText path decode =
      (do return unifyLineEnds (← (decode bytes).mapError .undecodable)) := by
  unfold Disk.readText
  rw [opened]
  rfl

theorem read_of_read_text {disk : Disk} {path text : Text} {decode : Bytes → Except Utf8Error Text}
    (h : disk.readText path decode = .ok text) :
    ∃ bytes t, disk.read path = .ok bytes ∧ decode bytes = .ok t ∧ text = unifyLineEnds t := by
  cases opened : disk.read path with
  | error fault =>
    unfold Disk.readText at h
    rw [opened] at h
    cases h
  | ok bytes =>
    rw [read_text_of_read opened] at h
    cases decoded : decode bytes with
    | error fault =>
      rw [decoded] at h
      cases h
    | ok t =>
      rw [decoded] at h
      cases h
      exact ⟨bytes, t, rfl, decoded, rfl⟩

theorem is_file_iff {disk : Disk} {path : Text} :
    disk.isFile path = true ↔ ∃ bytes, disk.read path = .ok bytes := by
  unfold Disk.read Disk.isFile Disk.find?
  cases placed : disk.place path with
  | error fault => simp [bind, Except.bind]
  | ok place => rcases entry : disk.entry? place with _ | _ | _ <;> simp [entry, bind, Except.bind]

/-- A file that can be decoded at once can be read in pieces. -/
theorem read_tests_of_read_text {disk : Disk} {path text : Text} (marker : Text)
    (h : disk.readText path decodeUtf8 = .ok text) :
    disk.readTests path marker = .ok (extractTests marker (feedLines text)) := by
  obtain ⟨bytes, t, opened, decoded, rfl⟩ := read_of_read_text h
  unfold Disk.readTests
  rw [read_text_of_read opened, decode_in_pieces_of_decode_utf8 decoded]
  rfl

theorem read_here_ne_ok (disk : Disk) (bytes : Bytes) : disk.read "." ≠ .ok bytes := by
  have start : disk.place "." = disk.walk disk.current ["."] := rfl
  intro h
  unfold Disk.read at h
  rw [start] at h
  rcases entry : disk.entry? disk.current with _ | _ | _
  case some.directory =>
    have here : disk.walk disk.current ["."] = .ok disk.current := by
      simp [Disk.walk, entry, Disk.follow, Path.isIdle]
    rw [here] at h
    simp [entry, bind, Except.bind] at h
  all_goals simp [Disk.walk, entry, bind, Except.bind] at h

theorem ne_nil_of_read_text {disk : Disk} {file text : Text}
    (h : disk.readText (Path.tidy file) decodeUtf8 = .ok text) : file ≠ [] := by
  rintro rfl
  obtain ⟨bytes, t, opened, -⟩ := read_of_read_text h
  exact read_here_ne_ok disk bytes opened

namespace FileTest

/-- A log names the file that it is about. -/
def announced (t : FileTest σ) (name : Text) (s : Session σ) : Session σ :=
  if t.log.isLog then t.emit (Signal.file ++ "processing " ++ name ++ "\n") s else s

end FileTest

/-- A request for a run of a file that is found is met by running the file's buffer. -/
theorem test_of_found (g : Setting σ) {r : TestRequest} (disk : Disk) {opened : Disk}
    {s u : Session σ} {mode : TestMode} {name file : Text} (asked : r.check = .ok (mode, name))
    (explains : mode ≠ .explain) (collects : mode ≠ .grabDemos)
    (start : r.log.start disk = .ok opened)
    (found : let t : FileTest σ := ⟨g, r.log, opened⟩
      let entry := t.announced name { s with report := [] }
      g.host.locate (t.diskAt entry) name entry = (.ok (some file), u)) :
    let t : FileTest σ := ⟨g, r.log, opened⟩
    ∃ options : EngineOptions, options.batch = (r.batch || r.log.isLog) ∧
      (g.test r disk s).output =
        match (t.diskAt u).readTests file g.config.marker with
        | .error e => .error (.file e)
        | .ok buffer => (t.runBuffer options file buffer u).1 := by
  intro t
  obtain ⟨options, made, batch⟩ :=
    options_of_mode explains (r.batch || r.log.isLog) r.log.isLog
  refine ⟨options, batch, ?_⟩
  unfold FileTest.announced at found
  simp only [Setting.test, asked, start, FileTest.run, explains, collects, if_false, made,
    FileTest.runNamed, found]
  split <;> rename_i read
  · simp only [t, read]
  · cases read
  · cases read
    rename_i read
    simp only [t, read]

theorem test_of_readable {g : Setting σ} {disk : Disk} {file text : Text} {mode : TestMode}
    (readable : disk.readText (Path.tidy file) decodeUtf8 = .ok text)
    (explains : mode ≠ .explain) (collects : mode ≠ .grabDemos) (s : Session σ) :
    ∃ options : EngineOptions, options.batch = true ∧
      (g.test { name := some file, mode := mode.name, batch := true } disk s).output =
        (FileTest.runBuffer ⟨g, .console, disk⟩ options (Path.tidy file)
          (extractTests g.config.marker (feedLines text)) { s with report := [] }).1 := by
  let r : TestRequest := { name := some file, mode := mode.name, batch := true }
  obtain ⟨c, rest, filled⟩ := List.exists_cons_of_ne_nil (ne_nil_of_read_text readable)
  have asked : r.check = .ok (mode, file) := by
    subst filled
    cases mode with
    | explain => exact absurd rfl explains
    | _ => rfl
  obtain ⟨bytes, t, read, -⟩ := read_of_read_text readable
  have found : g.host.locate disk file { s with report := [] } =
      (.ok (some (Path.tidy file)), { s with report := [] }) := by
    simp [Host.locate, is_file_iff.mpr ⟨bytes, read⟩]
  obtain ⟨options, batch, output⟩ := test_of_found g disk asked explains collects rfl
    found
  refine ⟨options, batch, output.trans ?_⟩
  have buffer := read_tests_of_read_text g.config.marker readable
  change (match disk.readTests (Path.tidy file) g.config.marker with
    | .error e => _
    | .ok buffer => _) = _
  rw [buffer]

end EmbeddedTests
