import EmbeddedTests.Proofs.FunctionTokens
import EmbeddedTests.Proofs.Readers

/-!
# Reading the function around a block

The function is read exactly if no parameter is a keyword and what stands below its first line is
read. The parameters do not count for that: they only add to the fuel.
-/
namespace EmbeddedTests.Snippet

open Text

namespace Parse

section

variable {n line : Nat} {name t : Text} {names : List Text} {ts below : List Token}

theorem run_identifier (h : isKeyword name = false) :
    identifier.run (⟨.name name, line⟩ :: ts) = .ok (composed name, ts) := by
  simp [identifier, h]
  rfl

theorem run_identifier_keyword (h : isKeyword name = true) :
    identifier.run (⟨.name name, line⟩ :: ts) = .error (misplaced (⟨.name name, line⟩ :: ts)) := by
  simp [identifier, h]
  rfl

theorem parameters_name (h : isKeyword name = false) (equals : isSymbol ['='] ts = false) :
    (parameters (n + 1) false).run (⟨.name name, line⟩ :: ts) =
      (takes [','] >>= fun more => if more = true then
          parameters n false >>= fun ps => pure (.required (composed name) :: ps)
        else symbol [')'] >>= fun _ => pure [.required (composed name)]).run ts := by
  simp only [parameters]
  rw [run_bind_of_ok (run_takes _ _), if_neg (by simp [isSymbol])]
  simp only [isSymbol, Bool.false_eq_true, if_false]
  rw [run_bind_of_ok (run_identifier h), run_bind_of_ok (run_takes _ _), equals]
  simp

theorem parameters_comma (h : isKeyword name = false) :
    (parameters (n + 1) false).run (⟨.name name, line⟩ :: ⟨.symbol [','], line⟩ :: ts) =
      (parameters n false >>= fun ps => pure (.required (composed name) :: ps)).run ts := by
  rw [parameters_name h rfl, run_bind_of_ok (run_takes _ _)]
  rfl

theorem parameters_close (h : isKeyword name = false) :
    (parameters (n + 1) false).run (⟨.name name, line⟩ :: ⟨.symbol [')'], line⟩ :: ts) =
      .ok ([.required (composed name)], ts) := by
  rw [parameters_name h rfl, run_bind_of_ok (run_takes _ _)]
  rfl

theorem parameters_keyword (h : isKeyword name = true) {r : List Parameter × List Token} :
    (parameters n false).run (⟨.name name, line⟩ :: ts) ≠ .ok r := by
  intro read
  cases n with
  | zero => cases read
  | succ n =>
    simp only [parameters] at read
    rw [run_bind_of_ok (run_takes _ _), if_neg (by simp [isSymbol])] at read
    simp only [isSymbol, Bool.false_eq_true, if_false] at read
    obtain ⟨_, _, named, -⟩ := run_bind_eq_ok.mp read
    rw [run_identifier_keyword h] at named
    cases named

theorem parameters_names (some : names ≠ []) (plain : ∀ x ∈ names, isKeyword x = false)
    (enough : names.length ≤ n) :
    (parameters n false).run (nameTokens names ++ ⟨.symbol [')'], 1⟩ :: ts) =
      .ok (names.map fun x => .required (composed x), ts) := by
  induction names generalizing n with
  | nil => contradiction
  | cons x more ih =>
    obtain ⟨n, rfl⟩ := Nat.exists_eq_succ_of_ne_zero (Nat.ne_zero_of_lt enough)
    have here := plain x List.mem_cons_self
    cases more with
    | nil =>
      exact parameters_close here
    | cons y more =>
      have later := ih (by simp) (fun z member => plain z (List.mem_cons_of_mem x member))
        (Nat.le_of_succ_le_succ enough)
      simp only [nameTokens, List.cons_append]
      rw [parameters_comma here, run_bind_of_ok later]
      rfl

theorem plain_of_parameters {r : List Parameter × List Token}
    (h : (parameters n false).run (nameTokens names ++ ⟨.symbol [')'], 1⟩ :: ts) = .ok r) :
    ∀ x ∈ names, isKeyword x = false := by
  induction names generalizing n r with
  | nil => exact List.forall_mem_nil _
  | cons x more ih =>
    have here : isKeyword x = false := by
      by_contra keyword
      have keyword : isKeyword x = true := by simpa using keyword
      cases more with
      | nil => exact parameters_keyword keyword h
      | cons y more => exact parameters_keyword keyword h
    cases more with
    | nil => simpa using here
    | cons y more =>
      obtain _ | n := n
      · cases h
      simp only [nameTokens, List.cons_append] at h
      rw [parameters_comma here] at h
      obtain ⟨ps, rest, later, -⟩ := run_bind_eq_ok.mp h
      exact List.forall_mem_cons.mpr ⟨here, ih later⟩

theorem statement_function :
    (statement (n + 1)).run (headTokens names ++ below) =
      (parameters n false >>= fun ps => demand [':'] >>= fun _ =>
        block n "function definition" 1 >>= fun body =>
          pure [.define 1 blockFunction ps body]).run
        (nameTokens names ++
          ⟨.symbol [')'], 1⟩ :: ⟨.symbol [':'], 1⟩ :: ⟨.lineEnd, 1⟩ :: below) := by
  have function : isKeyword blockFunction = false := by decide
  have same : composed blockFunction = blockFunction := by decide
  have other {w : Text} {ts : List Token} (apart : ("def".toList == w) = false) :=
    run_takes_word_other apart 1 ts
  have opens {ts : List Token} : (demand ['(']).run (⟨.symbol ['('], 1⟩ :: ts) =
      .ok ((), ts) := rfl
  simp only [statement, headTokens, List.cons_append]
  rw [run_bind_of_ok (run_here _ _), run_bind_of_ok (other (by decide)), if_neg (by decide),
    run_bind_of_ok (other (by decide)), if_neg (by decide), run_bind_of_ok (other (by decide)),
    if_neg (by decide), run_bind_of_ok (run_takes_word_same _ _ _), if_pos rfl,
    run_bind_of_ok (run_identifier function), run_bind_of_ok opens, same]
  simp

theorem statements_function :
    (statements (n + 2)).run (headTokens names ++ below) =
      (statement (n + 1) >>= fun ss => statements (n + 1) >>= fun more => pure (ss ++ more)).run
        (headTokens names ++ below) := by
  simp only [statements]
  rfl

end

end Parse

def functionWith (names : List Text) (body more : List Stmt) : List Stmt :=
  .define 1 blockFunction (names.map fun n => .required (composed n)) body :: more

def ReadsBelow (n : Nat) (code : Text) (body more : List Stmt) : Prop :=
  ∃ ts rest r, (Parse.block n "function definition" 1).run (⟨.lineEnd, 1⟩ :: tokensBelow code) =
      .ok (body, ts) ∧
    (Parse.statements (n + 1)).run ts = .ok (more, rest) ∧ Parse.finish.run rest = .ok r

section

variable {n m : Nat} {code : Text} {body more ss : List Stmt} {names : List Text}

theorem ReadsBelow.mono (h : ReadsBelow n code body more) (le : n ≤ m) :
    ReadsBelow m code body more := by
  obtain ⟨ts, rest, r, inside, later, ended⟩ := h
  exact ⟨ts, rest, r, ((Parse.StatementsRead.of_le le).block _ _ _ inside).2,
    ((Parse.StatementsRead.of_le (Nat.succ_le_succ le)).statements later).2, ended⟩

theorem reads_function (some : names ≠ []) (enough : names.length ≤ n) :
    (∃ r, (Parse.statements (n + 2) >>= fun ss => Parse.finish >>= fun _ => pure ss).run
        (headTokens names ++ tokensBelow code) = .ok (ss, r)) ↔
      (∀ x ∈ names, isKeyword x = false) ∧
        ∃ body more, ReadsBelow n code body more ∧ ss = functionWith names body more := by
  constructor
  · rintro ⟨r, read⟩
    obtain ⟨all, rest, function, ended⟩ := Parse.run_bind_eq_ok.mp read
    obtain ⟨_, _, finished, same⟩ := Parse.run_bind_eq_ok.mp ended
    cases same
    rw [Parse.statements_function] at function
    obtain ⟨first, ts, head, others⟩ := Parse.run_bind_eq_ok.mp function
    obtain ⟨more, _, later, same⟩ := Parse.run_bind_eq_ok.mp others
    cases same
    rw [Parse.statement_function] at head
    obtain ⟨ps, _, given, below⟩ := Parse.run_bind_eq_ok.mp head
    have plain := Parse.plain_of_parameters given
    rw [Parse.parameters_names some plain enough] at given
    cases given
    obtain ⟨_, _, colon, below⟩ := Parse.run_bind_eq_ok.mp below
    cases colon
    obtain ⟨body, _, inside, same⟩ := Parse.run_bind_eq_ok.mp below
    cases same
    exact ⟨plain, body, more, ⟨_, _, _, inside, later, finished⟩, rfl⟩
  · rintro ⟨plain, body, more, ⟨ts, rest, r, inside, later, finished⟩, rfl⟩
    have head : (Parse.statement (n + 1)).run (headTokens names ++ tokensBelow code) =
        .ok ([.define 1 blockFunction (names.map fun x => .required (composed x)) body], ts) := by
      rw [Parse.statement_function, Parse.run_bind_of_ok
        (Parse.parameters_names some plain enough)]
      exact Parse.run_bind_eq_ok.mpr ⟨_, _, rfl, Parse.run_bind_eq_ok.mpr ⟨_, _, inside, rfl⟩⟩
    have all : (Parse.statements (n + 2)).run (headTokens names ++ tokensBelow code) =
        .ok (functionWith names body more, rest) := by
      rw [Parse.statements_function, Parse.run_bind_of_ok head, Parse.run_bind_of_ok later]
      rfl
    refine ⟨r.2, ?_⟩
    rw [Parse.run_bind_of_ok all, Parse.run_bind_of_ok finished]
    rfl

end

end EmbeddedTests.Snippet
