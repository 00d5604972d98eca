import EmbeddedTests.Proofs.Declarations
import EmbeddedTests.Proofs.FunctionReading
import EmbeddedTests.Proofs.SharedVariables
import EmbeddedTests.Snippet.Evaluator

/-!
# Shared variables as parameters

The code of every block is compiled in a function that has the shared variables as parameters, so a
declaration settles whether any later block compiles at all. It accepts every list of identifiers.
That is not enough for parameters: keywords are identifiers for it, the name of the table can be
declared, and names that differ as written can be the same name. Where the names can be parameters,
they refuse only code that declares one of them global.
-/
namespace EmbeddedTests.Snippet

open Text

/-- The code compiles as that of a block with the shared variables. -/
def Compiles (code : Text) (names : List Text) : Prop := ∃ body, readBlock code names = .ok body

instance (code : Text) (names : List Text) : Decidable (Compiles code names) :=
  match read : readBlock code names with
  | .ok body => .isTrue ⟨body, read⟩
  | .error _ => .isFalse fun ⟨_, compiled⟩ => nomatch read.symm.trans compiled

/-- The names can be parameters of the function around a block. -/
structure AreParameters (names : List Text) : Prop where
  apart : ((stateName :: names).map composed).Nodup
  plain : ∀ n ∈ stateName :: names, isKeyword n = false
  assignable : debugName ∉ (stateName :: names).map composed

def globalsOfFirst : List Stmt → List Text
  | .define _ _ _ body :: _ => declaredIn body
  | _ => []

/-- The names that the code of a block declares global. -/
def globalsOf (code : Text) : List Text :=
  match compileStatements (blockSource code []) with
  | .ok ss => globalsOfFirst ss
  | .error _ => []

section

variable {n : Nat} {t code : Text} {names : List Text} {ss body more : List Stmt}

theorem compile_statements_ok_iff : compileStatements t = .ok ss ↔
    readStatements t = .ok ss ∧ (∃ u, checkAll {} ss = .ok u) ∧ faultIn? false ss = none := by
  unfold compileStatements
  cases read : readStatements t with
  | error e => simp [bind, Except.bind]
  | ok all =>
    cases checked : checkAll {} all with
    | error e =>
      simp only [bind, Except.bind, checked, reduceCtorEq, false_iff, not_and]
      rintro ⟨⟩ ⟨u, fine⟩
      rw [checked] at fine
      cases fine
    | ok u =>
      cases fault : faultIn? false all with
      | some e =>
        simp only [bind, Except.bind, checked, fault, reduceCtorEq, false_iff, not_and]
        rintro ⟨⟩ -
        simp [fault]
      | none =>
        simp only [bind, Except.bind, checked, fault, pure, Except.pure]
        constructor
        · rintro ⟨⟩
          exact ⟨rfl, ⟨u, checked⟩, fault⟩
        · exact fun found => found.1

theorem compiles_iff_compile_statements :
    Compiles code names ↔ ∃ ss, compileStatements (blockSource code names) = .ok ss := by
  unfold Compiles readBlock
  cases compileStatements (blockSource code names) <;> simp [Except.map]

theorem read_statements_ok_iff : readStatements t = .ok ss ↔
    ∃ r, (Parse.statements (Parse.fuelFor (tokens t)) >>= fun ss =>
      Parse.finish >>= fun _ => pure ss).run (tokens t) = .ok (ss, r) := by
  unfold readStatements Parse.of
  dsimp only
  cases (Parse.statements (Parse.fuelFor (tokens t)) >>= fun ss =>
    Parse.finish >>= fun _ => pure ss).run (tokens t) with
  | error e => simp [Except.map]
  | ok found =>
    obtain ⟨all, rest⟩ := found
    simp [Except.map]

def fuelBelow (code : Text) (names : List Text) : Nat :=
  16 * (headTokens (stateName :: names) ++ tokensBelow code).length + 62

theorem name_tokens_length (n : Text) (names : List Text) :
    (nameTokens (n :: names)).length = 2 * names.length + 1 := by
  induction names generalizing n with
  | nil => rfl
  | cons m more ih =>
    rw [nameTokens, List.length_cons, List.length_cons, ih, List.length_cons]
    omega

theorem length_lt_fuel_below : names.length < fuelBelow code names := by
  simp only [fuelBelow, headTokens, List.length_append, List.length_cons, name_tokens_length]
  omega

theorem fuel_below_le : fuelBelow code [] ≤ fuelBelow code names := by
  simp only [fuelBelow, headTokens, List.length_append, List.length_cons, name_tokens_length,
    List.length_nil]
  omega

theorem read_statements_block_source_iff (named : ∀ x ∈ names, isIdentifier x = true) :
    readStatements (blockSource code names) = .ok ss ↔
      (∀ x ∈ stateName :: names, isKeyword x = false) ∧ ∃ body more,
        ReadsBelow (fuelBelow code names) code body more ∧
          ss = functionWith (stateName :: names) body more := by
  have enough : (stateName :: names).length ≤ fuelBelow code names := length_lt_fuel_below
  rw [read_statements_ok_iff, tokens_block_source code named]
  exact reads_function (by simp) enough

/-- The body of a function with the parameters, and what follows it, are in order. -/
structure InOrder (names : List Text) (body more : List Stmt) : Prop where
  checked : ∃ u, checkAll { parameters := names.map composed } body = .ok u
  faultless : faultIn? true body = none
  checkedLater : ∃ u, checkAll { bound := [blockFunction] } more = .ok u
  faultlessLater : faultIn? false more = none

theorem check_all_function_with_iff :
    (∃ u, checkAll {} (functionWith names body more) = .ok u) ↔
      (names.map composed).Nodup ∧
        (∃ u, checkAll { parameters := names.map composed } body = .ok u) ∧
          ∃ u, checkAll { bound := [blockFunction] } more = .ok u := by
  have given : (names.map fun n => Parameter.required (composed n)).map Parameter.name =
      names.map composed := by simp [Function.comp_def, Parameter.name]
  have unused : ((names.map fun n => Parameter.required (composed n)).map
      (Parameter.uses false)).flatten = [] := by simp [Function.comp_def, Parameter.uses]
  simp only [functionWith, checkAll, Stmt.check, given, unused]
  cases start : checkParameters 1 (names.map composed) with
  | error e =>
    have twice : ¬(names.map composed).Nodup := fun nodup => by
      rw [check_parameters_ok_iff.mpr ⟨nodup, rfl⟩] at start
      cases start
    simp [bind, Except.bind, twice]
  | ok inner =>
    obtain ⟨nodup, rfl⟩ := check_parameters_ok_iff.mp start
    cases checked : checkAll { parameters := names.map composed } body with
    | error e => simp [bind, Except.bind, checked]
    | ok u => simp [bind, Except.bind, pure, Except.pure, checked, nodup, Usage.bind, Usage.use]

theorem fault_function_with_iff :
    faultIn? false (functionWith names body more) = none ↔
      debugName ∉ names.map composed ∧ faultIn? true body = none ∧ faultIn? false more = none := by
  have given : (names.map fun n => Parameter.required (composed n)).map Parameter.name =
      names.map composed := by simp [Function.comp_def, Parameter.name]
  simp only [functionWith, faultIn?, Stmt.fault?, given, Option.or_eq_none_iff]
  split <;> simp_all

theorem compile_statements_block_source_iff (named : ∀ x ∈ names, isIdentifier x = true) :
    compileStatements (blockSource code names) = .ok ss ↔
      AreParameters names ∧ ∃ body more, ReadsBelow (fuelBelow code names) code body more ∧
        InOrder (stateName :: names) body more ∧
          ss = functionWith (stateName :: names) body more := by
  rw [compile_statements_ok_iff, read_statements_block_source_iff named]
  constructor
  · rintro ⟨⟨plain, body, more, read, rfl⟩, checked, faultless⟩
    obtain ⟨apart, checked, checkedLater⟩ := check_all_function_with_iff.mp checked
    obtain ⟨assignable, faultless, faultlessLater⟩ := fault_function_with_iff.mp faultless
    exact ⟨⟨apart, plain, assignable⟩, body, more, read,
      ⟨checked, faultless, checkedLater, faultlessLater⟩, rfl⟩
  · rintro ⟨fit, body, more, read, order, rfl⟩
    exact ⟨⟨fit.plain, body, more, read, rfl⟩,
      check_all_function_with_iff.mpr ⟨fit.apart, order.checked, order.checkedLater⟩,
      fault_function_with_iff.mpr ⟨fit.assignable, order.faultless, order.faultlessLater⟩⟩

theorem compiles_iff (named : ∀ x ∈ names, isIdentifier x = true) :
    Compiles code names ↔ AreParameters names ∧ ∃ body more,
      ReadsBelow (fuelBelow code names) code body more ∧
        InOrder (stateName :: names) body more := by
  rw [compiles_iff_compile_statements]
  simp only [compile_statements_block_source_iff named]
  constructor
  · rintro ⟨ss, fit, body, more, read, order, -⟩
    exact ⟨fit, body, more, read, order⟩
  · rintro ⟨fit, body, more, read, order⟩
    exact ⟨_, fit, body, more, read, order, rfl⟩

end

section

variable {n : Nat} {code : Text} {names : List Text} {body more body' more' : List Stmt}

theorem ReadsBelow.unique (h : ReadsBelow n code body more) (h' : ReadsBelow n code body' more') :
    body' = body ∧ more' = more := by
  obtain ⟨ts, rest, r, inside, later, -⟩ := h
  obtain ⟨ts', rest', r', inside', later', -⟩ := h'
  rw [inside] at inside'
  cases inside'
  rw [later] at later'
  cases later'
  exact ⟨rfl, rfl⟩

theorem InOrder.with_more_iff {given : List Text} (h : InOrder given body more) :
    InOrder (given ++ names) body more ↔ ∀ n ∈ names, composed n ∉ declaredIn body := by
  obtain ⟨u, checked⟩ := h.checked
  have whole : ({ parameters := (given ++ names).map composed } : Usage) =
      ({ parameters := given.map composed } : Usage).withMore (names.map composed) := by
    simp [Usage.withMore]
  have follows := check_all_follows (names.map composed) { parameters := given.map composed } body
    u checked
  rw [← whole] at follows
  have mapped : (∀ n ∈ names.map composed, n ∉ declaredIn body) ↔
      ∀ n ∈ names, composed n ∉ declaredIn body := List.forall_mem_map
  rw [← mapped]
  rcases follows.2 with ⟨apart, again⟩ | ⟨⟨n, given, listed⟩, e, refused⟩
  · exact ⟨fun _ => apart, fun _ => ⟨⟨_, again⟩, h.faultless, h.checkedLater, h.faultlessLater⟩⟩
  · constructor
    · rintro ⟨⟨v, fine⟩, -⟩
      rw [refused] at fine
      cases fine
    · exact fun apart => absurd listed (apart n given)

theorem compiles_with_names_iff (named : ∀ x ∈ names, isIdentifier x = true)
    (fit : AreParameters names) (alone : Compiles code []) :
    Compiles code names ↔ ∀ n ∈ names, composed n ∉ globalsOf code := by
  have none : ∀ x ∈ ([] : List Text), isIdentifier x = true := List.forall_mem_nil _
  obtain ⟨fit', body, more, read, order⟩ := (compiles_iff none).mp alone
  have compiled := (compile_statements_block_source_iff none).mpr ⟨fit', body, more, read, order, rfl⟩
  have globals : globalsOf code = declaredIn body := by
    unfold globalsOf
    rw [compiled]
    rfl
  have wider : fuelBelow code [] ≤ fuelBelow code names := fuel_below_le
  have read := read.mono wider
  rw [compiles_iff named, globals, ← order.with_more_iff, List.singleton_append]
  constructor
  · rintro ⟨-, body', more', again, order'⟩
    obtain ⟨rfl, rfl⟩ := read.unique again
    exact order'
  · exact fun order' => ⟨fit, body, more, read, order'⟩

end

theorem compiles_pass : Compiles "pass" [] ∧ globalsOf "pass" = [] := by decide +kernel

theorem exists_compiles_iff {names : List Text} (named : ∀ x ∈ names, isIdentifier x = true) :
    (∃ code, Compiles code names) ↔ AreParameters names := by
  obtain ⟨alone, none⟩ := compiles_pass
  constructor
  · rintro ⟨code, compiled⟩
    exact ((compiles_iff named).mp compiled).1
  · exact fun fit => ⟨_, (compiles_with_names_iff named fit alone).mpr fun n _ =>
      none ▸ List.not_mem_nil⟩

/-- The names of an accepted declaration are identifiers. They can stand in a list of parameters as
they are written, apart from each other and no keywords, exactly if the declaration names neither
the table nor a keyword. Code compiles with them only if they can be parameters as they are told
apart. If they can, all code that compiles without them compiles with them, except for code that
declares one of them global. -/
theorem accepted_names_can_be_used_iff {names : List Text} {s : Shared}
    (h : Shared.reset names = .ok s) :
    (∀ n ∈ stateName :: Bindings.names s, isIdentifier n = true) ∧
      (((stateName :: Bindings.names s).Nodup ∧
          ∀ n ∈ stateName :: Bindings.names s, isKeyword n = false) ↔
        stateName ∉ names ∧ ∀ n ∈ names, isKeyword n = false) ∧
      ((∃ code, Compiles code (Bindings.names s)) ↔ AreParameters (Bindings.names s)) ∧
      (AreParameters (Bindings.names s) → ∀ code, Compiles code [] →
        (Compiles code (Bindings.names s) ↔ ∀ n ∈ names, composed n ∉ globalsOf code)) := by
  obtain ⟨all, rfl⟩ := Shared.reset_eq_ok h
  rw [Shared.names_declared, ← distinct_eq_erase_dups]
  have named : ∀ n ∈ distinct names, isIdentifier n = true := by
    intro n listed
    exact List.all_eq_true.mp all n (mem_distinct.mp listed)
  have table : isIdentifier stateName = true ∧ isKeyword stateName = false := by decide
  refine ⟨List.forall_mem_cons.mpr ⟨table.1, named⟩, ?apart, exists_compiles_iff named, ?used⟩
  case apart =>
    rw [List.nodup_cons, List.forall_mem_cons]
    simp [nodup_distinct, table]
  case used =>
    intro fit code alone
    simpa using compiles_with_names_iff named fit alone

theorem a_and_b_can_be_used :
    Shared.reset ["a", "b"] = .ok [("a", .none), ("b", .none)] ∧
      ∀ code, Compiles code [] → (Compiles code ["a", "b"] ↔
        ∀ n ∈ ["a".toList, "b".toList], composed n ∉ globalsOf code) := by
  have accepted : Shared.reset ["a", "b"] = .ok [("a", .none), ("b", .none)] := by rfl
  have fit : AreParameters ["a", "b"] := ⟨by decide, by decide, by decide⟩
  exact ⟨accepted, (accepted_names_can_be_used_iff accepted).2.2.2 fit⟩

/-- A keyword is accepted, and no code compiles with it. -/
theorem keyword_stops_every_block :
    Shared.reset ["class"] = .ok [("class", .none)] ∧ Compiles "pass" [] ∧
      ∀ code, ¬Compiles code ["class"] := by
  have accepted : Shared.reset ["class"] = .ok [("class", .none)] := by rfl
  have named : ∀ x ∈ ["class".toList], isIdentifier x = true := by decide
  refine ⟨accepted, compiles_pass.1, fun code compiled => ?_⟩
  have fit := (exists_compiles_iff named).mp ⟨code, compiled⟩
  exact absurd (fit.plain "class" (by simp)) (by decide)

/-- Names that differ as they are written can be the same name. -/
example : ¬AreParameters ["fi", "\ufb01"] := fun fit => absurd fit.apart (by decide +kernel)

end EmbeddedTests.Snippet
