import EmbeddedTests.Proofs.CodeTokens
import EmbeddedTests.Proofs.SharedParameters
import EmbeddedTests.Proofs.WriteBack

/-!
# What a block's function is read as

Whatever the code of a block is, the lines around it keep their meaning: if the function is read at
all, its body is one `try`, which has the code as its block and the lines that write back as its
last clause. Code cannot end that block early, take the clause for one of its own or put another
beside it.
-/
namespace EmbeddedTests.Snippet

open Text

namespace Lexer

theorem exists_with_line_feeds (t : Text) :
    ∃ front, ∀ rest, withLineFeeds (t ++ '\n' :: rest) = front ++ '\n' :: withLineFeeds rest := by
  fun_induction withLineFeeds t with
  | case1 t ih =>
    obtain ⟨front, same⟩ := ih
    refine ⟨'\n' :: front, fun rest => ?_⟩
    rw [List.cons_append, List.cons_append, withLineFeeds, same, List.cons_append]
  | case2 t other ih =>
    cases t with
    | nil => exact ⟨[], fun rest => rfl⟩
    | cons c t =>
      obtain ⟨front, same⟩ := ih
      refine ⟨'\n' :: front, fun rest => ?_⟩
      rw [List.cons_append, withLineFeeds, same, List.cons_append]
      rintro _ ⟨⟩
      exact other _ rfl
  | case3 c t other ret ih =>
    obtain ⟨front, same⟩ := ih
    refine ⟨c :: front, fun rest => ?_⟩
    have step := @with_line_feeds_append [c] (t ++ '\n' :: rest) (by simpa using Ne.symm ret)
    rw [List.cons_append, ← List.singleton_append, step, same]
    rfl
  | case4 => exact ⟨[], fun rest => rfl⟩

theorem scanned_try (t : Text) : scanned true { line := 2 } (openingLine ++ '\n' :: t) =
    ⟨.indent, 2⟩ :: ⟨.name "try", 2⟩ :: ⟨.symbol [':'], 2⟩ :: ⟨.lineEnd, 2⟩ ::
      scanned true { line := 3, margins := [clauseMargin] } t := by
  have cut : openingLine ++ '\n' :: t =
      ' ' :: ' ' :: ' ' :: ' ' :: ("try".toList ++ ':' :: '\n' :: t) := rfl
  have margin {rest : Text} : marginFrom {} (' ' :: ' ' :: ' ' :: ' ' :: 't' :: rest) =
      (clauseMargin, 't' :: rest) := rfl
  have smaller : measure false ("try".toList ++ ':' :: '\n' :: t) <
      measure true (openingLine ++ '\n' :: t) := by
    refine measure_lt_start ?_
    simp only [cut, List.length_cons]
    omega
  have entered : enterMargin { line := 2 } clauseMargin =
      .ok ({ line := 2, margins := [clauseMargin] }, [⟨.indent, 2⟩]) := rfl
  have word : "try".toList ++ ':' :: '\n' :: t = 't' :: 'r' :: 'y' :: ':' :: '\n' :: t := rfl
  rw [scanned, cut, word, scan_start_entered margin entered (by decide) (by decide)]
  rw [← word, ← cut, scan_eq_scanned smaller, scanned_name ':' (by decide) (by decide),
    scanned_colon rfl]
  rfl

end Lexer

/-- The code of a block leads to the clause that writes back. -/
theorem exists_tokens_below (code : Text) : ∃ ts, tokensBelow code =
    ⟨.indent, 2⟩ :: ⟨.name "try", 2⟩ :: ⟨.symbol [':'], 2⟩ :: ⟨.lineEnd, 2⟩ :: ts ∧ Leads 0 ts := by
  obtain ⟨front, cut⟩ := Lexer.exists_with_line_feeds
    (indent bodyMargin (if allBlank code then "pass" else code))
  have deep := deep_code (if allBlank code then "pass" else code)
  have none : Lexer.withLineFeeds [] = [] := rfl
  have clause : Lexer.withLineFeeds writeBack = writeBack := by
    have plain := @Lexer.with_line_feeds_append writeBack [] (by decide)
    rwa [none, List.append_nil] at plain
  have opening := @Lexer.with_line_feeds_append (openingLine ++ ['\n'])
    (indent bodyMargin (if allBlank code then "pass" else code) ++ '\n' :: writeBack) (by decide)
  rw [cut [], none] at deep
  have whole : Lexer.withLineFeeds (belowHeading code) =
      openingLine ++ '\n' :: ((front ++ ['\n']) ++ writeBack) := by
    rw [cut, clause] at opening
    simpa [belowHeading] using opening
  refine ⟨_, ?_, Lexer.leads_code 3 deep List.getLast?_concat⟩
  rw [tokensBelow, whole, Lexer.scanned_try]

namespace Parse

section

variable {n line : Nat} {ts mid rest : List Token} {ss : List Stmt}

theorem statement_try {a b : Nat} (read : (statement (n + 1)).run
      (⟨.name "try", a⟩ :: ⟨.symbol [':'], b⟩ :: ts) = .ok (ss, rest)) :
    ∃ body mid handled later orElse last atEnd,
      (block n (statementOf "try") a).run ts = .ok (body, mid) ∧
        (handlers n).run mid = .ok (handled, later) ∧
        (if handled.isEmpty = true then pure [] else alternative n "else").run later =
          .ok (orElse, last) ∧
        (alternative n "finally").run last = .ok (atEnd, rest) ∧
        ss = [.tryElse body handled orElse atEnd] := by
  have other {w : Text} {ts : List Token} (apart : ("try".toList == w) = false) :=
    run_takes_word_other apart a ts
  have colon {ts : List Token} : (demand [':']).run (⟨.symbol [':'], b⟩ :: ts) =
      .ok ((), ts) := rfl
  simp only [statement] at read
  rw [run_bind_of_ok (run_here _ _), run_bind_of_ok (other (by decide)), if_neg (by decide),
    run_bind_of_ok (other (by decide)), if_neg (by decide),
    run_bind_of_ok (run_takes_word_same _ _ _), if_pos rfl, run_bind_of_ok colon] at read
  obtain ⟨body, mid, block, read⟩ := run_bind_eq_ok.mp read
  obtain ⟨handled, later, handlers, read⟩ := run_bind_eq_ok.mp read
  have clauses {q : Parse (List Stmt)} (read : (q >>= fun orElse => atWord "finally" >>= fun found =>
      if (handled.isEmpty && !found) = true then
        complain "expected 'except' or 'finally' block" >>= fun _ : Unit =>
          alternative n "finally" >>= fun atEnd => pure [.tryElse body handled orElse atEnd]
      else alternative n "finally" >>= fun atEnd =>
        pure [.tryElse body handled orElse atEnd]).run later = .ok (ss, rest)) :
      ∃ orElse last atEnd, q.run later = .ok (orElse, last) ∧
        (alternative n "finally").run last = .ok (atEnd, rest) ∧
          ss = [.tryElse body handled orElse atEnd] := by
    obtain ⟨orElse, last, otherwise, read⟩ := run_bind_eq_ok.mp read
    obtain ⟨found, _, ⟨⟩, read⟩ := run_bind_eq_ok.mp read
    split at read
    · cases read
    · obtain ⟨atEnd, _, clause, ⟨⟩⟩ := run_bind_eq_ok.mp read
      exact ⟨orElse, last, atEnd, otherwise, clause, rfl⟩
  refine ⟨body, mid, handled, later, ?_⟩
  split at read
  · rename_i none
    obtain ⟨orElse, last, atEnd, found⟩ := clauses read
    exact ⟨orElse, last, atEnd, block, handlers, if_pos none ▸ found⟩
  · rename_i some
    obtain ⟨orElse, last, atEnd, found⟩ := clauses read
    exact ⟨orElse, last, atEnd, block, handlers, if_neg some ▸ found⟩

theorem block_ends {a start : Nat} {owner : Text} (leads : Leads 0 ts)
    (sound : ∀ t ∈ rest, isFault t = false)
    (read : (block n owner start).run (⟨.lineEnd, a⟩ :: ts) = .ok (ss, rest)) :
    ∃ line, rest = closingTokens line := by
  obtain _ | n := n
  · cases read
  rcases block_cases read with ⟨_, _, inner, _, mid, _, whole, first, others, -⟩ | ⟨inline, -⟩
  · obtain ⟨-, rfl⟩ := List.cons.inj whole
    have readers := StatementsRead.refl n
    have closes := (readers.statements others).1
    exact leads.after_indent.ends_of_closes (closes.after (readers.statement.takes first)) sound
  · cases inline

theorem handlers_closing (enough : n ≠ 0) :
    (handlers n).run (closingTokens line) = .ok ([], closingTokens line) := by
  obtain ⟨n, rfl⟩ := Nat.exists_eq_succ_of_ne_zero enough
  rfl

theorem alternative_closing (read : (alternative n "finally").run (closingTokens line) =
      .ok (ss, rest)) : ss = writingBack ∧ rest = [⟨.dedent, line + 4⟩, ⟨.finish, line + 4⟩] := by
  have known : (alternative 30 "finally").run (closingTokens line) =
      .ok (writingBack, [⟨.dedent, line + 4⟩, ⟨.finish, line + 4⟩]) := rfl
  have read := ((StatementsRead.of_le (Nat.le_max_left n 30)).alternative _ _ read).2
  have known := ((StatementsRead.of_le (Nat.le_max_right n 30)).alternative _ _ known).2
  rw [known] at read
  cases read
  exact ⟨rfl, rfl⟩

end

end Parse

open Parse in
/-- The body of the function around a block is the code with the lines that write back, and nothing
follows the function. -/
theorem ReadsBelow.shape {n : Nat} {code : Text} {body more : List Stmt}
    (h : ReadsBelow n code body more) : (∃ snippet, body = wrapped snippet) ∧ more = [] := by
  obtain ⟨ts, rest, r, inside, later, ended⟩ := h
  obtain ⟨below, whole, leads⟩ := exists_tokens_below code
  rw [whole] at inside
  obtain _ | n := n
  · cases inside
  rcases block_cases inside with ⟨_, _, _, _, mid, _, same, tried, others, rfl⟩ | ⟨inline, -⟩
  case inr => cases inline
  cases same
  obtain _ | n := n
  · cases tried
  have sound := sound_of_finish ((StatementsRead.refl _).statements later).1 ended
  have sound := ((StatementsRead.refl _).statements others).1.sound sound
  obtain ⟨snippet, _, handled, _, orElse, last, atEnd, block, caught, otherwise, clause, rfl⟩ :=
    statement_try tried
  obtain _ | n := n
  · cases block
  have between : Takes (if handled.isEmpty = true then pure [] else alternative (n + 1) "else") := by
    split
    · exact .pure _
    · exact ((StatementsRead.refl _).alternative _).takes
  have sound := (((StatementsRead.refl _).alternative _).takes clause).sound sound
  have sound := (between otherwise).sound sound
  have sound := ((StatementsRead.refl _).handlers.takes caught).sound sound
  obtain ⟨line, rfl⟩ := block_ends leads sound block
  rw [handlers_closing (Nat.succ_ne_zero n)] at caught
  cases caught
  cases otherwise
  obtain ⟨rfl, rfl⟩ := alternative_closing clause
  have dedent : (statements (n + 2)).run [⟨.dedent, line + 4⟩, ⟨.finish, line + 4⟩] =
      .ok ([], [⟨.finish, line + 4⟩]) := rfl
  rw [dedent] at others
  cases others
  have finished : (statements (n + 4)).run [⟨.finish, line + 4⟩] =
      .ok ([], [⟨.finish, line + 4⟩]) := rfl
  rw [finished] at later
  cases later
  exact ⟨⟨snippet, rfl⟩, rfl⟩

end EmbeddedTests.Snippet
