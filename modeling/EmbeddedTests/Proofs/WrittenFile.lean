import EmbeddedTests.Proofs.Cuts
import EmbeddedTests.Proofs.Lines
import EmbeddedTests.Snippet.Host

/-!
# Writing one file

Writing a file changes what stands in its place and nothing else: every other path leads to what it
led to before. As modules are looked for in source files only, a file of another kind makes no
difference to what is found and to what code is run.
-/
namespace EmbeddedTests

open Text

def Host.TellsAlike {σ : Type} (host : Host σ) (r r' : Raised) (w : World σ) : Prop :=
  (host.ask .formatted r'.value w).1.map (fun _ => ()) =
    (host.ask .formatted r.value w).1.map fun _ => ()

namespace Disk

/-- The disks differ in nothing but a file at the place. -/
structure Beside (p : Place) (d d' : Disk) : Prop where
  current : d'.current = d.current
  entries : ∀ q ≠ p, d'.entry? q = d.entry? q
  before : d.entry? p ≠ some .directory
  after : d'.entry? p ≠ some .directory

namespace Beside

variable {p : Place} {d d' d'' : Disk}

theorem symm (h : Beside p d d') : Beside p d' d :=
  ⟨h.current.symm, fun q apart => (h.entries q apart).symm, h.after, h.before⟩

theorem trans (h : Beside p d d') (k : Beside p d' d'') : Beside p d d'' :=
  ⟨k.current.trans h.current, fun q apart => (k.entries q apart).trans (h.entries q apart),
    h.before, k.after⟩

theorem directory (h : Beside p d d') {q : Place} (here : d.entry? q = some .directory) :
    d'.entry? q = some .directory := by
  have apart : q ≠ p := fun same => h.before (same ▸ here)
  rw [h.entries q apart, here]

theorem walk (h : Beside p d d') {start q : Place} {parts : List Text}
    (walked : d.walk start parts = .ok q) : d'.walk start parts = .ok q := by
  induction parts generalizing start with
  | nil => exact walked
  | cons part later ih =>
    unfold Disk.walk at walked ⊢
    cases here : d.entry? start with
    | none => simp [here] at walked
    | some entry =>
      cases entry with
      | file bytes => simp [here] at walked
      | directory =>
        simp only [here] at walked
        simp only [h.directory here]
        exact ih walked

theorem place (h : Beside p d d') {path : Text} {q : Place} (placed : d.place path = .ok q) :
    d'.place path = .ok q := by
  unfold Disk.place at placed ⊢
  split at placed
  · cases placed
  · next named =>
    rw [if_neg named, h.current]
    exact h.walk placed

theorem unplaced (h : Beside p d d') {path : Text} {fault : DiskFault}
    (lost : d.place path = .error fault) : ∃ fault', d'.place path = .error fault' := by
  cases placed : d'.place path with
  | ok q =>
    have back := h.symm.place placed
    rw [lost] at back
    cases back
  | error fault' => exact ⟨fault', rfl⟩

theorem find (h : Beside p d d') {path : Text} (apart : d.place path ≠ .ok p) :
    d'.find? path = d.find? path := by
  unfold find?
  cases placed : d.place path with
  | ok q =>
    have other : q ≠ p := fun same => apart (same ▸ placed)
    rw [h.place placed]
    exact h.entries q other
  | error fault =>
    obtain ⟨fault', lost⟩ := h.unplaced placed
    rw [lost]

theorem is_file (h : Beside p d d') {path : Text} (apart : d.place path ≠ .ok p) :
    d'.isFile path = d.isFile path := by
  unfold Disk.isFile
  rw [h.find apart]

theorem is_directory (h : Beside p d d') (path : Text) :
    d'.isDirectory path = d.isDirectory path := by
  unfold Disk.isDirectory
  by_cases here : d.place path = .ok p
  · have before : (d.find? path == some .directory) = false := by
      simpa [find?, here] using h.before
    have after : (d'.find? path == some .directory) = false := by
      simpa [find?, h.place here] using h.after
    rw [before, after]
  · rw [h.find here]

theorem read (h : Beside p d d') {path : Text} {q : Place} (placed : d.place path = .ok q)
    (apart : q ≠ p) : d'.read path = d.read path := by
  unfold Disk.read
  simp only [placed, h.place placed, h.entries q apart, bind, Except.bind]

theorem read_of_is_file (h : Beside p d d') {path : Text} (file : d.isFile path = true)
    (apart : d.place path ≠ .ok p) : d'.read path = d.read path := by
  cases placed : d.place path with
  | error fault => simp [Disk.isFile, find?, placed] at file
  | ok q => exact h.read placed fun same => apart (same ▸ placed)

end Beside

theorem is_directory_at_of_entry {d : Disk} {q : Place} (h : d.entry? q = some .directory) :
    d.isDirectoryAt q = true := by
  unfold entry? at h
  split at h
  · cases h
  · split at h
    · assumption
    · cases h

def Reached (d : Disk) (q : Place) : Prop := ∀ r, r <+: q → r ≠ q → d.isDirectoryAt r = true

theorem reached_follow {d : Disk} {start : Place} (reached : d.Reached start)
    (here : d.isDirectoryAt start = true) (part : Text) : d.Reached (follow start part) := by
  unfold follow
  split
  · exact reached
  split
  · intro r above other
    refine reached r (above.trans (List.dropLast_prefix start)) ?_
    rintro rfl
    have short := above.length_le
    cases r with
    | nil => exact other rfl
    | cons name later =>
      rw [List.length_dropLast, List.length_cons] at short
      omega
  · intro r above other
    rcases List.prefix_concat_iff.mp above with rfl | above
    · exact absurd rfl other
    · by_cases same : r = start
      · exact same ▸ here
      · exact reached r above same

theorem reached_walk {d : Disk} {start q : Place} {parts : List Text} (reached : d.Reached start)
    (walked : d.walk start parts = .ok q) : d.Reached q := by
  induction parts generalizing start with
  | nil =>
    cases walked
    exact reached
  | cons part later ih =>
    unfold walk at walked
    split at walked
    · cases walked
    · cases walked
    · next here => exact ih (reached_follow reached (is_directory_at_of_entry here) part) walked

theorem reached_start (d : Disk) (path : Text) :
    d.Reached (if Path.isAbsolute path then [] else d.current) := by
  intro r above other
  split at above
  · rw [if_pos ‹_›] at other
    exact absurd (List.prefix_nil.mp above) other
  · unfold isDirectoryAt
    simp [List.isPrefixOf_iff_prefix.mpr above]

variable {d d' : Disk} {p : Place} {path : Text}

theorem place_for_file_eq_ok_iff : d.placeForFile path = .ok p ↔
    (path ≠ [] ∧ dropEnd (· == '/') path = path) ∧
      d.walk (if Path.isAbsolute path then [] else d.current)
        (Path.parts (dropEnd (· == '/') path)) = .ok p ∧ d.entry? p ≠ some .directory := by
  unfold placeForFile
  dsimp only
  generalize d.walk _ (Path.parts (dropEnd (· == '/') path)) = walked
  by_cases nameless : path = []
  · simp [nameless]
  by_cases bare : dropEnd (· == '/') path = path
  · rcases walked with fault | q
    · simp [nameless, bind, Except.bind]
    · by_cases taken : d.entry? q = some .directory
      · have there : q = p → d.entry? p = some .directory := fun same => same ▸ taken
        simpa [nameless, bare, taken, bind, Except.bind] using there
      · have free : q = p → d.entry? p ≠ some .directory := fun same => same ▸ taken
        simpa [nameless, bare, taken, bind, Except.bind] using free
  · rcases walked with fault | q <;> simp [nameless, bare, bind, Except.bind]

theorem Beside.place_for_file (h : Beside p d d') (placed : d.placeForFile path = .ok p) :
    d'.placeForFile path = .ok p := by
  obtain ⟨named, walked, -⟩ := place_for_file_eq_ok_iff.mp placed
  rw [← h.current] at walked
  exact place_for_file_eq_ok_iff.mpr ⟨named, h.walk walked, h.after⟩

theorem find_put_of_ne {files : List (Place × Bytes)} {p q : Place} (h : q ≠ p) (bytes : Bytes) :
    (files.map fun file => if file.1 = p then (p, bytes) else file).find? (·.1 == q) =
      files.find? (·.1 == q) := by
  induction files with
  | nil => rfl
  | cons file rest ih =>
    rw [List.map_cons, List.find?_cons, List.find?_cons, ih]
    by_cases here : file.1 = p
    · have other : ¬ (p == q) = true := by simpa using Ne.symm h
      simp [here, other]
    · simp [here]

theorem entry_put_of_ne (reached : d.Reached p) {q : Place} (h : q ≠ p) (bytes : Bytes) :
    Disk.entry? (d.put p bytes) q = d.entry? q := by
  have directories : (d.put p bytes).isDirectoryAt q = d.isDirectoryAt q := by
    unfold put
    split
    · unfold isDirectoryAt
      dsimp only
      rw [List.any_map]
      congr 2
      funext file
      by_cases here : file.1 = p <;> simp [here]
    · by_cases above : q <+: p
      · have before := reached q above h
        simp only [isDirectoryAt, List.any_append] at before ⊢
        simp only [← Bool.or_assoc, before, Bool.true_or]
      · have none : q.isPrefixOf p = false := by
          simpa [← Bool.not_eq_true, List.isPrefixOf_iff_prefix] using above
        simp [isDirectoryAt, none]
  have files : (d.put p bytes).files.find? (·.1 == q) = d.files.find? (·.1 == q) := by
    unfold put
    split
    · exact find_put_of_ne h bytes
    · have other : (p == q) = false := by simpa using Ne.symm h
      simp [List.find?_append, other]
  unfold entry?
  rw [files, directories]

theorem entry_put_self (d : Disk) (p : Place) (bytes : Bytes) :
    Disk.entry? (d.put p bytes) p ≠ some .directory := by
  have there : ((d.put p bytes).files.find? (·.1 == p)).isSome = true := by
    unfold put
    split
    next here =>
      rw [List.find?_isSome]
      obtain ⟨file, member, same⟩ := List.any_eq_true.mp here
      have moved : file.1 = p := by simpa using same
      exact ⟨(p, bytes), List.mem_map.mpr ⟨file, member, if_pos moved⟩, by simp⟩
    · simp [List.find?_append]
  obtain ⟨file, found⟩ := Option.isSome_iff_exists.mp there
  unfold entry?
  rw [found]
  exact nofun

theorem beside_put (placed : d.placeForFile path = .ok p) (bytes : Bytes) :
    Beside p d (d.put p bytes) := by
  obtain ⟨-, walked, free⟩ := place_for_file_eq_ok_iff.mp placed
  have reached := reached_walk (reached_start d path) walked
  refine ⟨?_, fun q apart => entry_put_of_ne reached apart bytes, free, entry_put_self d p bytes⟩
  unfold put
  split <;> rfl

theorem write_eq (placed : d.placeForFile path = .ok p) (t : Text) :
    d.write path t = .ok (d.put p (encodeUtf8 t)) := by
  unfold write
  rw [placed]
  rfl

end Disk

namespace Text

theorem ends_with_iff {back t : Text} : endsWith back t = true ↔ back <:+ t := by
  unfold endsWith
  rw [starts_with_iff, List.reverse_prefix]

theorem split_on_append_last {sep : Char} {t : Text} (inside : sep ∉ t) (front : Text) :
    ∃ pieces last, splitOn sep (front ++ t) = pieces ++ [last ++ t] := by
  induction front with
  | nil =>
    have none : ∀ c ∈ t, (c == sep) = false := by
      intro c member
      have other : c ≠ sep := fun same => inside (same ▸ member)
      simpa using other
    refine ⟨[], [], ?_⟩
    have whole := split_on_append none (show splitOn sep [] = [] :: [] from rfl)
    simpa using whole
  | cons c rest ih =>
    obtain ⟨pieces, last, split⟩ := ih
    by_cases here : c = sep
    · refine ⟨[] :: pieces, last, ?_⟩
      rw [here, List.cons_append, split_on_cons_self, split]
      rfl
    · cases pieces with
      | nil => exact ⟨[], c :: last, split_on_cons_of_ne here split⟩
      | cons piece pieces => exact ⟨(c :: piece) :: pieces, last, split_on_cons_of_ne here split⟩

end Text

namespace Disk

variable {d d' : Disk} {p : Place} {path : Text}

theorem walk_last {start q : Place} {parts : List Text} {last : Text}
    (named : Path.isIdle last = false) (down : last ≠ "..".toList)
    (walked : d.walk start (parts ++ [last]) = .ok q) : q.getLast? = some last := by
  induction parts generalizing start with
  | nil =>
    rw [List.nil_append, Disk.walk] at walked
    split at walked
    · cases walked
    · cases walked
    · simp only [follow, named, Bool.false_eq_true, down, if_false] at walked
      cases walked
      exact List.getLast?_concat
  | cons part later ih =>
    rw [List.cons_append] at walked
    unfold Disk.walk at walked
    split at walked
    · cases walked
    · cases walked
    · exact ih walked

theorem place_source {q : Place} (placed : d.place path = .ok q)
    (source : endsWith ".py" path = true) :
    ∃ name, q.getLast? = some name ∧ endsWith ".py" name = true := by
  obtain ⟨front, rfl⟩ := ends_with_iff.mp source
  have whole : '/' ∉ (".py" : Text) := by decide
  obtain ⟨parts, last, split⟩ := split_on_append_last whole front
  have named : Path.isIdle (last ++ (".py" : Text)) = false := by
    unfold Path.isIdle
    cases last <;> simp
  have down : last ++ (".py" : Text) ≠ "..".toList := by
    intro same
    have ends := congrArg List.getLast? same
    simp at ends
  refine ⟨last ++ (".py" : Text), ?_, ends_with_iff.mpr (List.suffix_append _ _)⟩
  unfold Disk.place at placed
  split at placed
  · cases placed
  · unfold Path.parts at placed
    rw [split] at placed
    exact walk_last named down placed

end Disk

def Place.Plain (p : Place) : Prop := ∀ name ∈ p.getLast?, endsWith ".py" name = false

theorem Place.Plain.apart {d : Disk} {p : Place} (plain : p.Plain) {path : Text}
    (source : endsWith ".py" path = true) : d.place path ≠ .ok p := by
  intro placed
  obtain ⟨name, last, ends⟩ := Disk.place_source placed source
  rw [plain name last] at ends
  cases ends

namespace Snippet

open Disk

def Found.code? : Found → Option Text
  | .package path _ | .file path => some path
  | .directory _ => none

theorem join_source (directory : Text) {path : Text} (source : endsWith ".py" path = true) :
    endsWith ".py" (Path.join directory path) = true := by
  rw [ends_with_iff] at source ⊢
  unfold Path.join
  split
  · exact source
  split
  · exact source.trans (List.suffix_append _ _)
  · exact (source.trans (List.suffix_cons _ _)).trans (List.suffix_append _ _)

theorem find_code {disk : Disk} {directory name file : Text} {found : Found}
    (h : find? disk directory name = some found) (code : found.code? = some file) :
    disk.isFile file = true ∧ endsWith ".py" file = true := by
  unfold find? at h
  dsimp only at h
  split at h
  · next first =>
    cases h
    cases code
    simp only [Bool.and_eq_true] at first
    exact ⟨first.2, join_source _ (by decide)⟩
  split at h
  · next alone =>
    cases h
    cases code
    exact ⟨alone, ends_with_iff.mpr (List.suffix_append _ _)⟩
  split at h
  · cases h
    cases code
  · cases h

section

variable {d d' : Disk} {p : EmbeddedTests.Place} (h : Beside p d d') (plain : p.Plain)

include h plain

theorem find_beside (directory name : Text) :
    find? d' directory name = find? d directory name := by
  unfold find?
  dsimp only
  rw [h.is_file (plain.apart (join_source _ (by decide))),
    h.is_file (plain.apart (ends_with_iff.mpr (List.suffix_append _ _))), h.is_directory]

theorem has_module_beside : hasModule d' = hasModule d := by
  funext name
  unfold hasModule
  rw [h.current, find_beside h plain]

theorem run_module_beside {path : Text} (file : d.isFile path = true)
    (source : endsWith ".py" path = true) (names : Bindings) (w : World Machine) :
    runModule d' path names w = runModule d path names w := by
  unfold runModule readModule
  rw [h.read_of_is_file file (plain.apart source)]

/-- Where a file cannot be reached, it is refused on both disks. -/
theorem run_module_beside_or {path : Text} (source : endsWith ".py" path = true) (names : Bindings)
    (w : World Machine) :
    runModule d' path names w = runModule d path names w ∨ ∃ raised raised' u,
      runModule d path names w = (.ok (.error raised), u) ∧
        runModule d' path names w = (.ok (.error raised'), u) ∧
          host.TellsAlike raised raised' u := by
  cases placed : d.place path with
  | ok q =>
    refine .inl ?_
    have apart : q ≠ p := fun same => plain.apart source (same ▸ placed)
    unfold runModule readModule
    rw [h.read placed apart]
  | error fault =>
    obtain ⟨fault', lost⟩ := h.unplaced placed
    refine .inr ⟨.builtin fault.kind (fault.report path), .builtin fault'.kind (fault'.report path),
      { w with base := names }, ?_, ?_, rfl⟩
    · simp [runModule, readModule, Disk.read, placed, bind, Except.bind]
    · simp [runModule, readModule, Disk.read, lost, bind, Except.bind]

theorem run_outer_beside {directory name : Text} {found : Found}
    (there : find? d directory name = some found) (whole console : Text) :
    runOuter d' whole found console = runOuter d whole found console := by
  unfold runOuter
  cases found with
  | directory inner => rfl
  | package file inner | file file =>
    obtain ⟨file, source⟩ := find_code there rfl
    dsimp only
    rw [run_module_beside h plain file source]

theorem search_beside (directory before console : Text) (names : List Text) :
    search d' directory before console names = search d directory before console names := by
  induction names generalizing directory before console with
  | nil => rfl
  | cons first later ih =>
    cases later with
    | nil =>
      unfold search
      rw [find_beside h plain]
    | cons next rest =>
      unfold search
      rw [find_beside h plain]
      cases there : find? d directory first with
      | none => rfl
      | some found =>
        dsimp only
        rw [run_outer_beside h plain there]
        simp only [ih]

theorem module_file_beside {σ : Type} (name : Text) (w : World σ) :
    moduleFile d' name w = moduleFile d name w := by
  unfold moduleFile
  rw [h.current]
  simp only [search_beside h plain]

end

theorem search_code {disk : Disk} {directory before console file : Text} {names : List Text}
    (h : (search disk directory before console names).1 = .ok (some file)) :
    disk.isFile file = true ∧ endsWith ".py" file = true := by
  induction names generalizing directory before console with
  | nil => cases h
  | cons first later ih =>
    cases later with
    | nil =>
      unfold search at h
      split at h
      · next there =>
        cases h
        exact find_code there rfl
      · next there =>
        cases h
        exact find_code there rfl
      all_goals cases h
    | cons next rest =>
      unfold search at h
      dsimp only at h
      split at h
      · cases h
      split at h
      · cases h
      · split at h <;> cases h
      · cases h
      · exact ih h

theorem module_file_code {σ : Type} {disk : Disk} {name file : Text} {w : World σ}
    (h : (moduleFile disk name w).1 = .ok (some file)) :
    disk.isFile file = true ∧ endsWith ".py" file = true := by
  unfold moduleFile at h
  dsimp only at h
  split at h
  · cases h
  · exact search_code h

end Snippet

/-- Writing a file that is no source file makes no difference to the host, except that it may refuse
a file in other words. -/
structure Host.Steady {σ : Type} (host : Host σ) : Prop where
  hasModule : ∀ {p d d'}, Disk.Beside p d d' → p.Plain → host.hasModule d' = host.hasModule d
  moduleFile : ∀ {p d d' name w}, Disk.Beside p d d' → p.Plain →
    host.moduleFile d' name w = host.moduleFile d name w
  code : ∀ {d name w file}, (host.moduleFile d name w).1 = .ok (some file) →
    endsWith ".py" file = true
  prepares : ∀ {p d d' config file w a u}, Disk.Beside p d d' → p.Plain →
    host.prepare d config file w = (a, u) → (∀ raised, a ≠ .ok (.error raised)) →
      host.prepare d' config file w = (a, u)
  refuses : ∀ {p d d' config file w raised u}, Disk.Beside p d d' → p.Plain →
    host.prepare d config file w = (.ok (.error raised), u) →
      ∃ raised', host.prepare d' config file w = (.ok (.error raised'), u) ∧
        host.TellsAlike raised raised' u

namespace Snippet

theorem host_with_steady {σ : Type} (ev : Evaluator σ) : (hostWith ev).Steady where
  hasModule h plain := has_module_beside h plain
  moduleFile h plain := module_file_beside h plain _ _
  code found := (module_file_code found).2
  prepares _ _ made _ := made
  refuses _ _ made := ⟨_, made, rfl⟩

theorem prepare_beside_or {p : EmbeddedTests.Place} {d d' : Disk} (h : Disk.Beside p d d')
    (plain : p.Plain) (config : Config) (file : Text) (w : World Machine) :
    prepare d' config file w = prepare d config file w ∨ ∃ raised raised' u,
      prepare d config file w = (.ok (.error raised), u) ∧
        prepare d' config file w = (.ok (.error raised'), u) ∧
          host.TellsAlike raised raised' u := by
  by_cases own : config.importModule = true ∧ isSource file = true
  · have absolute : endsWith ".py" (d.absolute file) = true := join_source _ own.2
    have there : d'.absolute file = d.absolute file := by
      rw [Disk.absolute, h.current, Disk.absolute]
    unfold prepare runForTests
    simp only [own.1, own.2, Bool.and_self, if_true, there]
    rcases run_module_beside_or h plain absolute (moduleNames (testName file) (d.absolute file) none)
      w with same | ⟨raised, raised', u, here, there, alike⟩
    · rw [same]
      exact .inl rfl
    · rw [here, there]
      exact .inr ⟨raised, raised', u, rfl, rfl, alike⟩
  · have plainly : (config.importModule && isSource file) = false := by
      simpa using own
    simp only [prepare, plainly]
    exact .inl rfl

theorem host_steady : host.Steady where
  hasModule h plain := has_module_beside h plain
  moduleFile h plain := module_file_beside h plain _ _
  code found := (module_file_code found).2
  prepares h plain made kept := by
    rcases prepare_beside_or h plain _ _ _ with same | ⟨raised, raised', u, here, -, -⟩
    · exact same.trans made
    · have both := made.symm.trans here
      cases both
      exact absurd rfl (kept raised)
  refuses h plain made := by
    rcases prepare_beside_or h plain _ _ _ with same | ⟨raised, raised', u, here, there, alike⟩
    · exact ⟨_, same.trans made, rfl⟩
    · have both := made.symm.trans here
      cases both
      exact ⟨raised', there, alike⟩

end Snippet

end EmbeddedTests
