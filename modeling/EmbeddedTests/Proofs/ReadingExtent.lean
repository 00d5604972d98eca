import EmbeddedTests.Snippet.Reader

/-!
# What readers take

A reader takes words, signs and ends of lines, and blocks only as a whole: with an indent it takes
the dedent that closes the block, unless the text ends inside. It takes the word that opens the last
clause of a `try` only in front of a block, and it never takes a fault of the text.
-/
namespace EmbeddedTests.Snippet.Parse

section

variable {α β : Type} {p : Parse α} {f : α → Parse β} {ts : List Token}

theorem run_bind_eq_ok {r : β × List Token} :
    (p >>= f).run ts = .ok r ↔ ∃ a rest, p.run ts = .ok (a, rest) ∧ (f a).run rest = .ok r := by
  rw [StateT.run_bind]
  cases p.run ts with
  | error e => simp [bind, Except.bind]
  | ok found =>
    obtain ⟨a, rest⟩ := found
    constructor
    · exact fun later => ⟨a, rest, rfl, later⟩
    · rintro ⟨_, _, ⟨⟩, later⟩
      exact later

theorem run_bind_of_ok {a : α} {rest : List Token}
    (h : p.run ts = .ok (a, rest)) : (p >>= f).run ts = (f a).run rest := by
  rw [StateT.run_bind, h]
  rfl

theorem run_get_bind {f : List Token → Parse β} : (get >>= f).run ts = (f ts).run ts := rfl

end

theorem run_takes (t : Text) (ts : List Token) :
    (takes t).run ts = .ok (isSymbol t ts, if isSymbol t ts then ts.tail else ts) := by
  cases h : isSymbol t ts <;> simp [takes, atSymbol, skip, h] <;> rfl

theorem run_takes_word (t : Text) (ts : List Token) :
    (takesWord t).run ts = .ok (isWord t ts, if isWord t ts then ts.tail else ts) := by
  cases h : isWord t ts <;> simp [takesWord, atWord, skip, h] <;> rfl

theorem run_here (t : Token) (ts : List Token) : here.run (t :: ts) = .ok (t.line, t :: ts) := rfl

theorem run_takes_word_same (w : Text) (line : Nat) (ts : List Token) :
    (takesWord w).run (⟨.name w, line⟩ :: ts) = .ok (true, ts) := by
  rw [run_takes_word, isWord, beq_self_eq_true]
  rfl

theorem run_takes_word_other {v w : Text} (apart : (v == w) = false) (line : Nat)
    (ts : List Token) :
    (takesWord w).run (⟨.name v, line⟩ :: ts) = .ok (false, ⟨.name v, line⟩ :: ts) := by
  rw [run_takes_word, isWord, apart]
  rfl

/-- What can stand anywhere in a statement. The word for the last clause of a `try` cannot. -/
def isPlain (t : Token) : Bool :=
  match t.lexeme with
  | .name n => n != "finally".toList
  | .int _ | .str _ | .symbol _ | .lineEnd => true
  | _ => false

def isFault (t : Token) : Bool :=
  match t.lexeme with
  | .fault _ | .stuck .. => true
  | _ => false

def isOver : List Token → Bool
  | [] | ⟨.finish, _⟩ :: _ => true
  | _ => false

def opensBlock : List Token → Bool
  | ⟨.lineEnd, _⟩ :: ⟨.indent, _⟩ :: _ => true
  | ⟨.lineEnd, _⟩ :: _ => false
  | _ => true

/-- The second tokens are left when as much of the first as readers can take at once is taken. -/
inductive Consumes : List Token → List Token → Prop
  | nothing (ts : List Token) : Consumes ts ts
  | plain {t : Token} {ts rest : List Token} (word : isPlain t = true) (later : Consumes ts rest) :
    Consumes (t :: ts) rest
  | block {a b c : Nat} {ts mid rest : List Token} (inside : Consumes ts (⟨.dedent, c⟩ :: mid))
    (later : Consumes mid rest) : Consumes (⟨.lineEnd, a⟩ :: ⟨.indent, b⟩ :: ts) rest
  | lastBlock {a b : Nat} {ts rest : List Token} (inside : Consumes ts rest)
    (ended : isOver rest = true) : Consumes (⟨.lineEnd, a⟩ :: ⟨.indent, b⟩ :: ts) rest
  | clause {a b : Nat} {ts rest : List Token} (opens : opensBlock ts = true)
    (later : Consumes ts rest) : Consumes (⟨.name "finally", a⟩ :: ⟨.symbol [':'], b⟩ :: ts) rest

theorem sound_of_is_plain {t : Token} (plain : isPlain t = true) : isFault t = false := by
  obtain ⟨lexeme, line⟩ := t
  cases lexeme <;> simp_all [isPlain, isFault]

namespace Consumes

variable {ts mid rest : List Token}

theorem eq_of_is_over (ended : isOver ts = true) (h : Consumes ts rest) : ts = rest := by
  cases h with
  | nothing => rfl
  | @plain t _ _ word =>
    obtain ⟨lexeme, line⟩ := t
    cases lexeme <;> simp_all [isPlain, isOver]
  | block => cases ended
  | lastBlock => cases ended
  | clause => cases ended

theorem trans (h : Consumes ts mid) (h' : Consumes mid rest) : Consumes ts rest := by
  induction h with
  | nothing => exact h'
  | plain word _ ih => exact .plain word (ih h')
  | block inside _ _ ih => exact .block inside (ih h')
  | lastBlock inside ended ih =>
    obtain rfl := eq_of_is_over ended h'
    exact .lastBlock inside ended
  | clause opens _ ih => exact .clause opens (ih h')

theorem sound (h : Consumes ts rest) (left : ∀ t ∈ rest, isFault t = false) :
    ∀ t ∈ ts, isFault t = false := by
  induction h with
  | nothing => exact left
  | plain word _ ih => exact List.forall_mem_cons.mpr ⟨sound_of_is_plain word, ih left⟩
  | block _ _ inner outer =>
    have inside := inner (List.forall_mem_cons.mpr ⟨rfl, outer left⟩)
    exact List.forall_mem_cons.mpr ⟨rfl, List.forall_mem_cons.mpr ⟨rfl, inside⟩⟩
  | lastBlock _ _ ih =>
    exact List.forall_mem_cons.mpr ⟨rfl, List.forall_mem_cons.mpr ⟨rfl, ih left⟩⟩
  | clause _ _ ih => exact List.forall_mem_cons.mpr ⟨rfl, List.forall_mem_cons.mpr ⟨rfl, ih left⟩⟩

end Consumes

/-- What is left is what the reader cannot take. -/
def Takes {α : Type} (p : Parse α) : Prop :=
  ∀ ⦃ts a rest⦄, p.run ts = .ok (a, rest) → Consumes ts rest

namespace Takes

section

variable {α β : Type} {p q : Parse α} {f : α → Parse β} {g : α → β}

theorem pure (a : α) : Takes (pure a) := by
  rintro ts _ _ ⟨⟩
  exact .nothing ts

theorem bind (h : Takes p) (k : ∀ a, Takes (f a)) : Takes (p >>= f) := by
  intro ts b rest read
  obtain ⟨a, mid, first, later⟩ := run_bind_eq_ok.mp read
  exact (h first).trans (k a later)

theorem map (h : Takes p) : Takes (p >>= fun a => Pure.pure (g a)) := h.bind fun a => .pure (g a)

theorem choice {c : Parse Bool} (h : Takes c) (yes : Takes p) (no : Takes q) :
    Takes (c >>= fun found => if found = true then p else q) := by
  refine h.bind fun found => ?_
  split
  · exact yes
  · exact no

theorem of_error {e : List Token → CodeError} (h : ∀ ts, p.run ts = .error (e ts)) : Takes p := by
  intro ts a rest read
  rw [h] at read
  cases read

theorem unexpected : Takes (unexpected : Parse α) := of_error fun _ => rfl

theorem complain {message : Text} : Takes (complain message : Parse α) := of_error fun _ => rfl

end

theorem get : Takes (get : Parse (List Token)) := by
  rintro ts _ _ ⟨⟩
  exact .nothing ts

theorem here : Takes here := get.map

theorem at_symbol (t : Text) : Takes (atSymbol t) := get.map

theorem at_word (t : Text) : Takes (atWord t) := get.map

theorem at_line_end : Takes atLineEnd := get.map

end Takes

theorem eq_of_is_symbol {t : Text} {ts : List Token} (h : isSymbol t ts = true) :
    ∃ line, ts = ⟨.symbol t, line⟩ :: ts.tail := by
  unfold isSymbol at h
  split at h
  · obtain rfl := eq_of_beq h
    exact ⟨_, rfl⟩
  · cases h

theorem eq_of_is_word {t : Text} {ts : List Token} (h : isWord t ts = true) :
    ∃ line, ts = ⟨.name t, line⟩ :: ts.tail := by
  unfold isWord at h
  split at h
  · obtain rfl := eq_of_beq h
    exact ⟨_, rfl⟩
  · cases h

theorem consumes_of_is_symbol {t : Text} {ts : List Token} (h : isSymbol t ts = true) :
    Consumes ts ts.tail := by
  obtain ⟨line, whole⟩ := eq_of_is_symbol h
  rw [whole]
  exact .plain rfl (.nothing _)

theorem consumes_of_is_word {t : Text} {ts : List Token} (plain : t ≠ "finally")
    (h : isWord t ts = true) : Consumes ts ts.tail := by
  obtain ⟨line, whole⟩ := eq_of_is_word h
  rw [whole]
  exact .plain (by simpa [isPlain] using plain) (.nothing _)

theorem demand_eq_ok {t : Text} {ts rest : List Token} {u : Unit}
    (read : (demand t).run ts = .ok (u, rest)) : ∃ line, ts = ⟨.symbol t, line⟩ :: rest := by
  unfold demand at read
  obtain ⟨found, mid, taken, read⟩ := run_bind_eq_ok.mp read
  rw [run_takes] at taken
  cases taken
  cases present : isSymbol t ts with
  | true =>
    rw [present] at read
    cases read
    exact eq_of_is_symbol present
  | false =>
    rw [present] at read
    obtain ⟨_, _, ⟨⟩, read⟩ := run_bind_eq_ok.mp read
    split at read <;> cases read

theorem is_plain_of_not_keyword {name : Text} {line : Nat} (plain : ¬isKeyword name = true) :
    isPlain ⟨.name name, line⟩ = true := by
  simp only [isPlain, bne_iff_ne]
  rintro rfl
  exact plain (by decide)

namespace Takes

theorem takes (t : Text) : Takes (takes t) := by
  intro ts found rest read
  rw [run_takes] at read
  cases read
  split
  · exact consumes_of_is_symbol ‹_›
  · exact .nothing ts

theorem takes_word {t : Text} (plain : t ≠ "finally") : Takes (takesWord t) := by
  intro ts found rest read
  rw [run_takes_word] at read
  cases read
  split
  · exact consumes_of_is_word plain ‹_›
  · exact .nothing ts

theorem guard {α : Type} {c : Parse Bool} {p : Parse α} (h : Takes c) (no : Takes p) (a : α) :
    Takes (c >>= fun found => if (!found) = true then p else Pure.pure a) := by
  refine h.bind fun found => ?_
  split
  · exact no
  · exact .pure a

theorem symbol (t : Text) : Takes (symbol t) := (takes t).guard .unexpected ()

theorem word {t : Text} (plain : t ≠ "finally") : Takes (word t) :=
  (takes_word plain).guard .unexpected ()

theorem demand (t : Text) : Takes (demand t) := by
  refine (takes t).guard (get.bind fun ts => ?_) ()
  split
  · exact .unexpected
  · exact .unexpected
  · exact .complain

theorem colon : Takes colon := at_line_end.choice (demand _) (symbol _)

theorem identifier : Takes identifier := by
  intro ts name rest read
  unfold Parse.identifier at read
  obtain ⟨_, _, ⟨⟩, read⟩ := run_bind_eq_ok.mp read
  split at read
  · split at read
    · cases read
    · rename_i plain
      cases read
      exact .plain (is_plain_of_not_keyword plain) (.nothing _)
  · cases read

end Takes

theorem consumes_compare_sign {ts rest : List Token} {op : CompareOp}
    (h : compareSign? ts = some (op, rest)) : Consumes ts rest := by
  have word (n : Text) {line : Nat} {ts : List Token} (plain : n ≠ "finally") :
      Consumes (⟨.name n, line⟩ :: ts) ts := .plain (by simpa [isPlain] using plain) (.nothing ts)
  unfold compareSign? at h
  split at h
  · have taken {line : Nat} {s : Text} {ts : List Token} : Consumes (⟨.symbol s, line⟩ :: ts) ts :=
      .plain rfl (.nothing ts)
    repeat' split at h
    all_goals first | (cases h; exact taken) | cases h
  · split at h
    · rename_i same
      cases h
      exact word _ (by rw [same]; decide)
    · split at h
      · rename_i same
        subst same
        split at h
        · rename_i next
          cases h
          exact (word "is" (by decide)).trans (consumes_of_is_word (t := "not") (by decide) next)
        · cases h
          exact word "is" (by decide)
      · split at h
        · rename_i both
          obtain ⟨same, next⟩ := Bool.and_eq_true_iff.mp both
          cases h
          exact (word _ (by rw [of_decide_eq_true same]; decide)).trans
            (consumes_of_is_word (by decide) next)
        · cases h
  · cases h

theorem consumes_join_literals (ts : List Token) : Consumes ts (joinLiterals ts).2 := by
  fun_induction joinLiterals ts with
  | case1 t line rest more rest' same ih =>
    rw [same] at ih
    exact .plain rfl ih
  | case2 ts => exact .nothing ts

namespace Takes

theorem compare_op : Takes compareOp? := by
  intro ts a rest read
  unfold compareOp? at read
  obtain ⟨_, _, ⟨⟩, read⟩ := run_bind_eq_ok.mp read
  split at read
  · cases read
    exact .nothing _
  · cases read
    exact consumes_compare_sign ‹_›

theorem additive : Takes additive? := by
  refine (takes _).choice (.pure _) ((takes _).choice (.pure _) (.pure _))

theorem multiplicative : Takes multiplicative? := by
  refine (takes _).choice (.pure _) ((takes _).choice (.pure _) ((takes _).choice (.pure _)
    ((takes _).choice (.pure _) (.pure _))))

theorem argument_name : Takes argumentName? := by
  intro ts a rest read
  unfold argumentName? at read
  obtain ⟨_, _, ⟨⟩, read⟩ := run_bind_eq_ok.mp read
  split at read
  · split at read
    · cases read
      exact .nothing _
    · rename_i plain
      cases read
      exact .plain (is_plain_of_not_keyword plain) (.plain rfl (.nothing _))
  · cases read
    exact .nothing _

end Takes

end EmbeddedTests.Snippet.Parse
