import EmbeddedTests.Proofs.ReadingExtent

/-!
# What readers read

With some fuel a reader takes only what readers can take, and with more it reads the same. Each
reader does so with one step more if the readers that it calls do, so all of them do, from no fuel
up.
-/
namespace EmbeddedTests.Snippet.Parse

/-- What the first reads from the tokens, it may take, and the second reads in the same way. -/
def ReadsAt {α : Type} (ts : List Token) (p q : Parse α) : Prop :=
  ∀ ⦃a rest⦄, p.run ts = .ok (a, rest) → Consumes ts rest ∧ q.run ts = .ok (a, rest)

def Reads {α : Type} (p q : Parse α) : Prop := ∀ ts, ReadsAt ts p q

section

variable {α β : Type} {p p' q q' : Parse α} {f g : α → Parse β}

namespace ReadsAt

variable {ts mid : List Token}

theorem of_error {e : CodeError} (h : p.run ts = .error e) : ReadsAt ts p q := by
  intro a rest read
  rw [h] at read
  cases read

theorem set {f g : PUnit → Parse β} (taken : Consumes ts mid) (h : ReadsAt mid (f ⟨⟩) (g ⟨⟩)) :
    ReadsAt ts (set mid >>= f) (set mid >>= g) := by
  intro a rest read
  obtain ⟨after, same⟩ := h read
  exact ⟨taken.trans after, same⟩

theorem at_symbol {f g : Bool → Parse β} {t : Text}
    (h : ReadsAt ts (f (isSymbol t ts)) (g (isSymbol t ts))) :
    ReadsAt ts (atSymbol t >>= f) (atSymbol t >>= g) := h

theorem skip {f g : Unit → Parse β} (taken : Consumes ts ts.tail)
    (h : ReadsAt ts.tail (f ()) (g ())) : ReadsAt ts (skip >>= f) (skip >>= g) := set taken h

end ReadsAt

namespace Reads

theorem takes (h : Reads p q) : Takes p := fun ts _ _ read => (h ts read).1

theorem of_takes (h : Takes p) : Reads p p := fun _ _ _ read => ⟨h read, read⟩

theorem pure (a : α) : Reads (pure a) (pure a) := of_takes (.pure a)

theorem bind (h : Reads p q) (k : ∀ a, Reads (f a) (g a)) : Reads (p >>= f) (q >>= g) := by
  intro ts b rest read
  obtain ⟨a, mid, first, later⟩ := run_bind_eq_ok.mp read
  obtain ⟨taken, first'⟩ := h ts first
  obtain ⟨after, later'⟩ := k a mid later
  exact ⟨taken.trans after, run_bind_eq_ok.mpr ⟨a, mid, first', later'⟩⟩

theorem map {f : α → β} (h : Reads p q) :
    Reads (p >>= fun a => Pure.pure (f a)) (q >>= fun a => Pure.pure (f a)) :=
  h.bind fun a => pure (f a)

theorem later {p : Parse α} (h : Takes p) (k : ∀ a, Reads (f a) (g a)) :
    Reads (p >>= f) (p >>= g) :=
  (of_takes h).bind k

theorem choice {c : Parse Bool} (h : Takes c) (yes : Reads p p') (no : Reads q q') :
    Reads (c >>= fun found => if found = true then p else q)
      (c >>= fun found => if found = true then p' else q') := by
  refine later h fun found => ?_
  split
  · exact yes
  · exact no

theorem get {f g : List Token → Parse β} (h : ∀ ts, ReadsAt ts (f ts) (g ts)) :
    Reads (get >>= f) (get >>= g) := h

theorem of_error {e : List Token → CodeError} (h : ∀ ts, p.run ts = .error (e ts)) : Reads p q :=
  fun ts => .of_error (h ts)

theorem unexpected : Reads unexpected q := of_error fun _ => rfl

theorem throw {e : CodeError} : Reads (throw e) q := of_error fun _ => rfl

end Reads

end

/-- The readers of expressions with two amounts of fuel. -/
structure ExprsRead (n m : Nat) : Prop where
  expr : Reads (expr n) (expr m)
  disjunction : Reads (disjunction n) (disjunction m)
  disjuncts : ∀ e, Reads (disjuncts n e) (disjuncts m e)
  conjunction : Reads (conjunction n) (conjunction m)
  conjuncts : ∀ e, Reads (conjuncts n e) (conjuncts m e)
  inversion : Reads (inversion n) (inversion m)
  comparison : ∀ op, Reads (comparison n op) (comparison m op)
  sum : Reads (sum n) (sum m)
  summands : ∀ e, Reads (summands n e) (summands m e)
  product : Reads (product n) (product m)
  factors : ∀ e, Reads (factors n e) (factors m e)
  factor : Reads (factor n) (factor m)
  trailers : ∀ e, Reads (trailers n e) (trailers m e)
  closing : ∀ start close, Reads (closing n start close) (closing m start close)
  arguments : ∀ named, Reads (arguments n named) (arguments m named)
  atom : Reads (atom n) (atom m)
  items : ∀ close, Reads (items n close) (items m close)
  exprs : Reads (exprs n) (exprs m)
  moreExprs : Reads (moreExprs n) (moreExprs m)

section

variable {n m : Nat}

theorem ExprsRead.of_none : ExprsRead 0 m where
  expr := .unexpected
  disjunction := .unexpected
  disjuncts _ := .unexpected
  conjunction := .unexpected
  conjuncts _ := .unexpected
  inversion := .unexpected
  comparison _ := .unexpected
  sum := .unexpected
  summands _ := .unexpected
  product := .unexpected
  factors _ := .unexpected
  factor := .unexpected
  trailers _ := .unexpected
  closing _ _ := .unexpected
  arguments _ := .unexpected
  atom := .unexpected
  items _ := .unexpected
  exprs := .unexpected
  moreExprs := .unexpected

theorem closing_reads (start : List Token) (close : Text) :
    Reads (closing (n + 1) start close) (closing (m + 1) start close) := by
  simp only [closing]
  refine .choice (.takes _) (.pure _) (.get fun rest => ?_)
  cases (expr n).run rest with
  | error e => exact Reads.unexpected rest
  | ok after =>
    dsimp only
    split
    · exact Reads.throw rest
    · exact Reads.unexpected rest

variable (h : ExprsRead n m)
include h

theorem expr_reads : Reads (expr (n + 1)) (expr (m + 1)) := by
  simp only [expr]
  exact .choice (.takes_word (by decide)) (.later (.demand _) fun _ => h.expr.map) h.disjunction

theorem disjunction_reads : Reads (disjunction (n + 1)) (disjunction (m + 1)) := by
  simp only [disjunction]
  exact h.conjunction.bind h.disjuncts

theorem disjuncts_reads (e : Expr) : Reads (disjuncts (n + 1) e) (disjuncts (m + 1) e) := by
  simp only [disjuncts]
  exact .choice (.takes_word (by decide)) (h.conjunction.bind fun right => h.disjuncts _) (.pure _)

theorem conjunction_reads : Reads (conjunction (n + 1)) (conjunction (m + 1)) := by
  simp only [conjunction]
  exact h.inversion.bind h.conjuncts

theorem conjuncts_reads (e : Expr) : Reads (conjuncts (n + 1) e) (conjuncts (m + 1) e) := by
  simp only [conjuncts]
  exact .choice (.takes_word (by decide)) (h.inversion.bind fun right => h.conjuncts _) (.pure _)

theorem inversion_reads : Reads (inversion (n + 1)) (inversion (m + 1)) := by
  simp only [inversion]
  refine .choice (.takes_word (by decide)) h.inversion.map (h.sum.bind fun first =>
    .later .compare_op fun op => ?_)
  split
  · exact .pure _
  · exact (h.comparison _).map

theorem comparison_reads (op : CompareOp) :
    Reads (comparison (n + 1) op) (comparison (m + 1) op) := by
  simp only [comparison]
  refine h.sum.bind fun e => .later .compare_op fun next => ?_
  split
  · exact .pure _
  · exact (h.comparison _).map

theorem sum_reads : Reads (sum (n + 1)) (sum (m + 1)) := by
  simp only [sum]
  exact h.product.bind h.summands

theorem summands_reads (e : Expr) : Reads (summands (n + 1) e) (summands (m + 1) e) := by
  simp only [summands]
  refine .later .additive fun op => ?_
  split
  · exact .pure _
  · exact h.product.bind fun right => h.summands _

theorem product_reads : Reads (product (n + 1)) (product (m + 1)) := by
  simp only [product]
  exact h.factor.bind h.factors

theorem factors_reads (e : Expr) : Reads (factors (n + 1) e) (factors (m + 1) e) := by
  simp only [factors]
  refine .later .multiplicative fun op => ?_
  split
  · exact .pure _
  · exact h.factor.bind fun right => h.factors _

theorem factor_reads : Reads (factor (n + 1)) (factor (m + 1)) := by
  simp only [factor]
  exact .choice (.takes _) h.factor.map (h.atom.bind h.trailers)

theorem trailers_reads (e : Expr) : Reads (trailers (n + 1) e) (trailers (m + 1) e) := by
  simp only [trailers]
  refine .choice (.takes _) ?call (.choice (.takes _) ?item (.choice (.takes _) ?dotted (.pure _)))
  case call => exact (h.arguments _).bind fun given => h.trailers _
  case item => exact h.exprs.bind fun key => .later (.symbol _) fun _ => h.trailers _
  case dotted => exact .later .identifier fun name => h.trailers _

theorem arguments_reads (named : Bool) :
    Reads (arguments (n + 1) named) (arguments (m + 1) named) := by
  simp only [arguments]
  refine .choice (.takes _) (.pure _) (.later .argument_name fun name => .later .get fun start =>
    h.expr.bind fun e => ?_)
  split
  · split
    · exact .of_error fun _ => rfl
    · exact .choice (.takes _) (h.arguments _).map (h.closing _ _).map
  · exact .choice (.takes _) (h.arguments _).map (h.closing _ _).map

theorem atom_reads : Reads (atom (n + 1)) (atom (m + 1)) := by
  simp only [atom]
  refine .get fun ts => ?_
  have literal {line : Nat} {x : Lexeme} {ts : List Token} (plain : isPlain ⟨x, line⟩ = true) :
      Consumes (⟨x, line⟩ :: ts) ts := .plain plain (.nothing ts)
  split
  case h_1 => exact .set (literal rfl) (Reads.pure _ _)
  case h_2 => exact .set (consumes_join_literals _) (Reads.pure _ _)
  case h_3 =>
    have constant {word : Text} {line : Nat} {ts : List Token} (known : word ≠ "finally") :
        Consumes (⟨.name word, line⟩ :: ts) ts := literal (by simpa [isPlain] using known)
    repeat' split
    · exact .set (constant (by simp [*])) (Reads.pure _ _)
    · exact .set (constant (by simp [*])) (Reads.pure _ _)
    · exact .set (constant (by simp [*])) (Reads.pure _ _)
    · exact Reads.map (.of_takes .identifier) _
  case h_4 =>
    refine .set (literal rfl) (Reads.choice (.takes _) (.pure _) (.later .get fun start =>
      h.expr.bind fun e => .choice (.takes _) (h.items _).map (h.closing _ _).map) _)
  case h_5 => exact .set (literal rfl) ((h.items _).map _)
  case h_6 => exact Reads.unexpected _

theorem items_reads (close : Text) : Reads (items (n + 1) close) (items (m + 1) close) := by
  simp only [items]
  exact .choice (.takes _) (.pure _) (.later .get fun start => h.expr.bind fun e =>
    .choice (.takes _) (h.items _).map (h.closing _ _).map)

theorem exprs_reads : Reads (exprs (n + 1)) (exprs (m + 1)) := by
  simp only [exprs]
  exact h.expr.bind fun e => .choice (.takes _) h.moreExprs.map (.pure _)

theorem more_exprs_reads : Reads (moreExprs (n + 1)) (moreExprs (m + 1)) := by
  simp only [moreExprs]
  refine .later .at_line_end fun line => .later (.at_symbol _) fun equals => .later (.at_symbol _)
    fun colon => .later (.at_symbol _) fun item => ?_
  split
  · exact .pure _
  · exact h.expr.bind fun e => .choice (.takes _) h.moreExprs.map (.pure _)

theorem ExprsRead.step : ExprsRead (n + 1) (m + 1) where
  expr := expr_reads h
  disjunction := disjunction_reads h
  disjuncts := disjuncts_reads h
  conjunction := conjunction_reads h
  conjuncts := conjuncts_reads h
  inversion := inversion_reads h
  comparison := comparison_reads h
  sum := sum_reads h
  summands := summands_reads h
  product := product_reads h
  factors := factors_reads h
  factor := factor_reads h
  trailers := trailers_reads h
  closing := closing_reads
  arguments := arguments_reads h
  atom := atom_reads h
  items := items_reads h
  exprs := exprs_reads h
  moreExprs := more_exprs_reads h

end

theorem ExprsRead.of_le {n m : Nat} (h : n ≤ m) : ExprsRead n m := by
  induction n generalizing m with
  | zero => exact .of_none
  | succ n ih =>
    obtain ⟨m, rfl⟩ := Nat.exists_eq_succ_of_ne_zero (Nat.ne_zero_of_lt h)
    exact (ih (Nat.le_of_succ_le_succ h)).step

section

variable {n m : Nat} (h : n ≤ m)
include h

theorem identifiers_reads : Reads (identifiers n) (identifiers m) := by
  induction n generalizing m with
  | zero => exact .unexpected
  | succ n ih =>
    obtain ⟨m, rfl⟩ := Nat.exists_eq_succ_of_ne_zero (Nat.ne_zero_of_lt h)
    have rest := ih (Nat.le_of_succ_le_succ h)
    simp only [identifiers]
    exact .later .identifier fun name => .choice (.takes _) rest.map (.pure _)

theorem parameters_reads (optional : Bool) :
    Reads (parameters n optional) (parameters m optional) := by
  induction n generalizing m optional with
  | zero => exact .unexpected
  | succ n ih =>
    obtain ⟨m, rfl⟩ := Nat.exists_eq_succ_of_ne_zero (Nat.ne_zero_of_lt h)
    have h := Nat.le_of_succ_le_succ h
    have default := (ExprsRead.of_le h).expr
    simp only [parameters]
    refine .choice (.takes _) (.pure _) (.later .identifier fun name =>
      .choice (.takes _) ?given ?plain)
    case given =>
      exact default.bind fun e => .choice (.takes _) (ih h _).map
        (.later (.symbol _) fun _ => .pure _)
    case plain =>
      split
      · exact .of_error fun _ => rfl
      · exact .choice (.takes _) (ih h _).map (.later (.symbol _) fun _ => .pure _)

theorem assignment_reads : Reads (assignment n) (assignment m) := by
  have exprs := (ExprsRead.of_le h).exprs
  simp only [assignment]
  refine exprs.bind fun target ts => .at_symbol ?_
  cases equals : isSymbol ['='] ts with
  | false => exact Reads.pure _ ts
  | true =>
    have taken := consumes_of_is_symbol equals
    rw [if_neg (by simp)]
    split
    · exact .skip taken (exprs.map _)
    · exact .skip taken (exprs.map _)
    · exact Reads.unexpected ts

theorem simple_reads : Reads (simple n) (simple m) := by
  have expr := (ExprsRead.of_le h).expr
  have exprs := (ExprsRead.of_le h).exprs
  have names := identifiers_reads h
  simp only [simple]
  refine .later .here fun line => .choice (.takes_word (by decide)) (.pure _)
    (.choice (.takes_word (by decide)) ?returned (.choice (.takes_word (by decide)) names.map
    (.choice (.takes_word (by decide)) names.map (.choice (.takes_word (by decide)) ?asserted
    (.choice (.takes_word (by decide)) expr.map (.choice (.takes_word (by decide)) names.map
    (assignment_reads h)))))))
  case returned =>
    refine .later .at_line_end fun lineEnd => .later (.at_symbol _) fun semicolon => ?_
    split
    · exact .pure _
    · exact exprs.map
  case asserted => exact expr.bind fun e => .choice (.takes _) expr.map (.pure _)

theorem simples_reads : Reads (simples n) (simples m) := by
  induction n generalizing m with
  | zero => exact .unexpected
  | succ n ih =>
    obtain ⟨m, rfl⟩ := Nat.exists_eq_succ_of_ne_zero (Nat.ne_zero_of_lt h)
    have h := Nat.le_of_succ_le_succ h
    simp only [simples]
    refine (simple_reads h).bind fun s => .later (.takes _) fun more => .get fun ts => ?_
    split
    · exact .set (.plain rfl (.nothing _)) (Reads.pure _ _)
    · exact Reads.pure _ _
    · split
      · exact (ih h).map _
      · exact Reads.unexpected _

end

/-- Up to the end of a block: the dedent that closes it, or the end of the text. -/
inductive Closes (ts rest : List Token) : Prop
  | dedent (line : Nat) (inside : Consumes ts (⟨.dedent, line⟩ :: rest))
  | ended (inside : Consumes ts rest) (ended : isOver rest = true)

theorem Closes.after {ts mid rest : List Token} (h : Consumes ts mid) (closes : Closes mid rest) :
    Closes ts rest := by
  cases closes with
  | dedent line inside => exact .dedent line (h.trans inside)
  | ended inside ended => exact .ended (h.trans inside) ended

theorem Closes.sound {ts rest : List Token} (closes : Closes ts rest)
    (left : ∀ t ∈ rest, isFault t = false) : ∀ t ∈ ts, isFault t = false := by
  cases closes with
  | dedent line inside => exact inside.sound (List.forall_mem_cons.mpr ⟨rfl, left⟩)
  | ended inside _ => exact inside.sound left

theorem Closes.block {a b : Nat} {ts rest : List Token} (h : Closes ts rest) :
    Consumes (⟨.lineEnd, a⟩ :: ⟨.indent, b⟩ :: ts) rest := by
  cases h with
  | dedent line inside => exact .block inside (.nothing rest)
  | ended inside ended => exact .lastBlock inside ended

/-- The readers of statements with two amounts of fuel. -/
structure StatementsRead (n m : Nat) : Prop where
  statements : ∀ {ts ss rest}, (statements n).run ts = .ok (ss, rest) →
    Closes ts rest ∧ (statements m).run ts = .ok (ss, rest)
  block : ∀ owner start, Reads (block n owner start) (block m owner start)
  statement : Reads (statement n) (statement m)
  conditional : ∀ word start, Reads (conditional n word start) (conditional m word start)
  alternative : ∀ word, Reads (alternative n word) (alternative m word)
  handlers : Reads (handlers n) (handlers m)

theorem block_cases {n start : Nat} {owner : Text} {ts rest : List Token} {ss : List Stmt}
    (read : (block (n + 1) owner start).run ts = .ok (ss, rest)) :
    (∃ a b below first mid more, ts = ⟨.lineEnd, a⟩ :: ⟨.indent, b⟩ :: below ∧
        (statement n).run below = .ok (first, mid) ∧
        (statements n).run mid = .ok (more, rest) ∧ ss = first ++ more) ∨
      isLineEnd ts = false ∧ (simples n).run ts = .ok (ss, rest) := by
  simp only [block] at read
  obtain ⟨_, _, ⟨⟩, read⟩ := run_bind_eq_ok.mp read
  split at read
  case h_1 =>
    obtain ⟨_, _, ⟨⟩, read⟩ := run_bind_eq_ok.mp read
    obtain ⟨first, mid, one, read⟩ := run_bind_eq_ok.mp read
    obtain ⟨more, _, later, ⟨⟩⟩ := run_bind_eq_ok.mp read
    exact .inl ⟨_, _, _, first, mid, more, rfl, one, later, rfl⟩
  case h_2 =>
    obtain ⟨_, _, ⟨⟩, read⟩ := run_bind_eq_ok.mp read
    split at read <;> cases read
  case h_3 other =>
    refine .inr ⟨?_, read⟩
    unfold isLineEnd
    split
    · exact absurd rfl (other _ _)
    · rfl

theorem opens_block_of_block {n start : Nat} {owner : Text} {ts rest : List Token} {ss : List Stmt}
    (read : (block n owner start).run ts = .ok (ss, rest)) : opensBlock ts = true := by
  cases n with
  | zero => cases read
  | succ n =>
    rcases block_cases read with ⟨_, _, _, _, _, _, rfl, -⟩ | ⟨inline, -⟩
    · rfl
    · unfold opensBlock
      split
      · rfl
      · cases inline
      · rfl

section

variable {n m : Nat}

theorem StatementsRead.of_none : StatementsRead 0 m where
  statements read := nomatch read
  block _ _ := .unexpected
  statement := .unexpected
  conditional _ _ := .unexpected
  alternative _ := .unexpected
  handlers := .unexpected

variable (h : StatementsRead n m) (le : n ≤ m)

include h

theorem statements_after {ts rest : List Token} {ss : List Stmt}
    (read : (Parse.statement n >>= fun first => Parse.statements n >>= fun more =>
      pure (first ++ more)).run ts = .ok (ss, rest)) :
    Closes ts rest ∧ (Parse.statement m >>= fun first => Parse.statements m >>= fun more =>
      pure (first ++ more)).run ts = .ok (ss, rest) := by
  obtain ⟨first, mid, one, read⟩ := run_bind_eq_ok.mp read
  obtain ⟨more, _, later, ⟨⟩⟩ := run_bind_eq_ok.mp read
  obtain ⟨taken, one'⟩ := h.statement ts one
  obtain ⟨closes, later'⟩ := h.statements later
  refine ⟨closes.after taken, run_bind_eq_ok.mpr ⟨_, _, one', ?_⟩⟩
  exact run_bind_eq_ok.mpr ⟨_, _, later', rfl⟩

theorem statements_reads {ts rest : List Token} {ss : List Stmt}
    (read : (statements (n + 1)).run ts = .ok (ss, rest)) :
    Closes ts rest ∧ (statements (m + 1)).run ts = .ok (ss, rest) := by
  revert read
  simp only [statements]
  rw [run_get_bind, run_get_bind]
  split
  · rintro ⟨⟩
    exact ⟨.ended (.nothing _) rfl, rfl⟩
  · rintro ⟨⟩
    exact ⟨.dedent _ (.nothing _), rfl⟩
  · rintro ⟨⟩
    exact ⟨.ended (.nothing _) rfl, rfl⟩
  · exact statements_after h

include le

theorem block_reads (owner : Text) (start : Nat) :
    Reads (block (n + 1) owner start) (block (m + 1) owner start) := by
  simp only [block]
  refine .get fun ts => ?_
  split
  · intro ss rest read
    obtain ⟨closes, same⟩ := statements_after h read
    exact ⟨closes.block, same⟩
  · intro ss rest read
    obtain ⟨_, _, ⟨⟩, read⟩ := run_bind_eq_ok.mp read
    split at read <;> cases read
  · exact simples_reads le _

theorem statement_reads : Reads (statement (n + 1)) (statement (m + 1)) := by
  have exprs := (ExprsRead.of_le le).exprs
  simp only [statement]
  refine .later .here fun start => .choice (.takes_word (by decide)) ?condition
    (.choice (.takes_word (by decide)) ?loop (.choice (.takes_word (by decide)) ?attempt
    (.choice (.takes_word (by decide)) ?function (.choice (.takes_word (by decide)) ?kind
    (simples_reads le)))))
  case condition => exact (h.conditional _ _).map
  case loop =>
    exact .later .identifier fun name => .later (.word (by decide)) fun _ => exprs.bind fun items =>
      .later .colon fun _ => (h.block _ _).map
  case attempt =>
    refine .later (.demand _) fun _ => (h.block _ _).bind fun body => h.handlers.bind fun handled =>
      ?_
    split
    · refine .later (.pure _) fun orElse => .later (.at_word _) fun found => ?_
      split
      · exact .of_error fun _ => rfl
      · exact (h.alternative _).map
    · refine (h.alternative _).bind fun orElse => .later (.at_word _) fun found => ?_
      split
      · exact .of_error fun _ => rfl
      · exact (h.alternative _).map
  case function =>
    exact .later .identifier fun name => .later (.demand _) fun _ => (parameters_reads le _).bind
      fun ps => .later (.demand _) fun _ => (h.block _ _).map
  case kind =>
    refine .later .identifier fun name => .choice (.takes _) ?_ ?_
    · exact ((ExprsRead.of_le le).arguments _).bind fun above => .later .colon fun _ =>
        (h.block _ _).map
    · exact .later (.pure _) fun above => .later .colon fun _ => (h.block _ _).map

theorem conditional_reads (word : Text) (start : Nat) :
    Reads (conditional (n + 1) word start) (conditional (m + 1) word start) := by
  have condition := (ExprsRead.of_le le).expr
  simp only [conditional]
  exact condition.bind fun e => .later .colon fun _ => (h.block _ _).bind fun body =>
    .later .here fun next => .choice (.takes_word (by decide)) (h.conditional _ _).map
      (h.alternative _).map

omit le

theorem alternative_reads (word : Text) :
    Reads (alternative (n + 1) word) (alternative (m + 1) word) := by
  simp only [alternative]
  refine .later .here fun start => ?_
  by_cases last : word = "finally"
  · subst last
    intro ts ss rest read
    obtain ⟨found, mid, taken, read⟩ := run_bind_eq_ok.mp read
    rw [run_bind_of_ok taken]
    rw [run_takes_word] at taken
    cases taken
    cases present : isWord "finally" ts with
    | true =>
      rw [present] at read
      obtain ⟨_, below, colon, read⟩ := run_bind_eq_ok.mp read
      obtain ⟨taken, same⟩ := h.block _ _ _ read
      refine ⟨?_, run_bind_eq_ok.mpr ⟨_, _, colon, same⟩⟩
      obtain ⟨a, here⟩ := eq_of_is_word present
      obtain ⟨b, colon⟩ := demand_eq_ok colon
      rw [if_pos rfl] at colon
      rw [here, colon]
      exact .clause (opens_block_of_block read) taken
    | false =>
      rw [present] at read
      exact Reads.pure _ ts read
  · exact .choice (.takes_word last) (.later (.demand _) fun _ => h.block _ _) (.pure _)

include le

theorem handlers_reads : Reads (handlers (n + 1)) (handlers (m + 1)) := by
  have type := (ExprsRead.of_le le).expr
  simp only [handlers]
  refine .later .here fun start => .choice (.takes_word (by decide)) (.later (.at_symbol _)
    fun colon => .later .at_line_end fun line => ?_) (.pure _)
  split
  · exact .later .colon fun _ => (h.block _ _).bind fun body => h.handlers.map
  · exact type.bind fun e => .later .colon fun _ => (h.block _ _).bind fun body => h.handlers.map

theorem StatementsRead.step : StatementsRead (n + 1) (m + 1) where
  statements := statements_reads h
  block := block_reads h le
  statement := statement_reads h le
  conditional := conditional_reads h le
  alternative := alternative_reads h
  handlers := handlers_reads h le

end

/-- More fuel reads the same statements. -/
theorem StatementsRead.of_le {n m : Nat} (h : n ≤ m) : StatementsRead n m := by
  induction n generalizing m with
  | zero => exact .of_none
  | succ n ih =>
    obtain ⟨m, rfl⟩ := Nat.exists_eq_succ_of_ne_zero (Nat.ne_zero_of_lt h)
    have h := Nat.le_of_succ_le_succ h
    exact (ih h).step h

theorem StatementsRead.refl (n : Nat) : StatementsRead n n := .of_le (Nat.le_refl n)

/-- The whole of a text is read only if it has no fault. -/
theorem sound_of_finish {ts rest : List Token} {r : Unit × List Token} (closes : Closes ts rest)
    (finished : finish.run rest = .ok r) : ∀ t ∈ ts, isFault t = false := by
  refine closes.sound ?_
  unfold finish at finished
  obtain ⟨_, _, ⟨⟩, finished⟩ := run_bind_eq_ok.mp finished
  split at finished
  · exact List.forall_mem_nil _
  · exact List.forall_mem_singleton.mpr rfl
  · cases finished

end EmbeddedTests.Snippet.Parse
