import EmbeddedTests.Snippet.Syntax
import EmbeddedTests.Text.Identifier
import EmbeddedTests.Text.Quoted
/-!
The tokens of a snippet. The margins of lines count: a wider margin gives an indent, a narrower one
gives a dedent for each level that it closes. Line ends between brackets do not count.

Reading stops at the first fault, which is the last token then.
-/
namespace EmbeddedTests.Snippet

def neverClosed (bracket : Char) (line : Nat) : CodeError :=
  { message := '\'' :: bracket :: "' was never closed", line := line }

inductive Lexeme where
  | name (t : Text)
  | int (n : Nat)
  | str (t : Text)
  | symbol (t : Text)
  | lineEnd | indent | dedent | finish
  /-- A fault that takes precedence over errors before it. -/
  | fault (e : CodeError)
  /-- A fault that counts only where nothing before it is wrong, with the bracket that is open. -/
  | stuck (e : CodeError) (bracket : Option (Char × Nat))
  deriving DecidableEq, Repr

structure Token where
  lexeme : Lexeme
  line : Nat
  deriving DecidableEq, Repr

namespace Lexer

def withLineFeeds : Text → Text
  | '\r' :: '\n' :: rest => '\n' :: withLineFeeds rest
  | '\r' :: rest => '\n' :: withLineFeeds rest
  | c :: rest => c :: withLineFeeds rest
  | [] => []

/-- The columns that a margin reaches: with tab stops at every eighth column, and at every one. -/
structure Columns where
  wide : Nat := 0
  narrow : Nat := 0
  deriving DecidableEq, Repr

def marginFrom (c : Columns) : Text → Columns × Text
  | ' ' :: rest => marginFrom ⟨c.wide + 1, c.narrow + 1⟩ rest
  | '\t' :: rest => marginFrom ⟨(c.wide / 8 + 1) * 8, c.narrow + 1⟩ rest
  | '\x0c' :: rest => marginFrom {} rest
  | rest => (c, rest)

structure State where
  line : Nat := 1
  /-- Brackets that are open, each with its line, the innermost first. -/
  brackets : List (Char × Nat) := []
  /-- Margins of the blocks around, the innermost first. -/
  margins : List Columns := []

namespace State

def margin (s : State) : Columns := s.margins.headD {}

def token (s : State) (l : Lexeme) : Token := ⟨l, s.line⟩

def fault (s : State) (message : Text) : List Token :=
  [s.token (.fault { message := message, line := s.line })]

/-- A fault at which reading cannot go on. -/
def stuck (s : State) (e : CodeError) : List Token := [s.token (.stuck e s.brackets.head?)]

def stuckAt (s : State) (message : Text) : List Token :=
  s.stuck { message := message, line := s.line }

def nextLine (s : State) : State := { s with line := s.line + 1 }

end State

def mixedMargins (s : State) : CodeError :=
  { kind := "TabError", message := "inconsistent use of tabs and spaces in indentation"
    line := s.line }

/-- The margins that are not wider than the new one, and how many were. -/
def unwind (c : Columns) : List Columns → List Columns × Nat
  | [] => ([], 0)
  | m :: rest =>
    if c.wide < m.wide then
      let (kept, closed) := unwind c rest
      (kept, closed + 1)
    else (m :: rest, 0)

def enterMargin (s : State) (c : Columns) : Except CodeError (State × List Token) :=
  let top := s.margin
  if c.wide = top.wide then
    if c.narrow = top.narrow then .ok (s, []) else .error (mixedMargins s)
  else if top.wide < c.wide then
    if top.narrow < c.narrow then
      .ok ({ s with margins := c :: s.margins }, [s.token .indent])
    else .error (mixedMargins s)
  else
    let (kept, closed) := unwind c s.margins
    let s := { s with margins := kept }
    if c.wide ≠ s.margin.wide then
      .error (.indentation "unindent does not match any outer indentation level" s.line)
    else if c.narrow ≠ s.margin.narrow then .error (mixedMargins s)
    else .ok (s, List.replicate closed (s.token .dedent))

def isDigit (c : Char) : Bool := '0' ≤ c && c ≤ '9'

def startsName (c : Char) : Bool :=
  ('a' ≤ c && c ≤ 'z') || ('A' ≤ c && c ≤ 'Z') || c == '_' || 128 ≤ c.toNat

def continuesName (c : Char) : Bool := startsName c || isDigit c

def codePoint (c : Char) : Text := "U+" ++ (Text.hexDigits 4 c.toNat).map Char.toUpper

def invalidCharacter (c : Char) : Text :=
  if Text.isPrintable c then "invalid character '" ++ c :: "' (" ++ codePoint c ++ ")"
  else "invalid non-printable character " ++ codePoint c

/-- The first character that cannot stand in a name where it does. -/
def firstInvalid? : Text → Text → Option Char
  | _, [] => none
  | before, c :: rest =>
    let part := before ++ [c]
    if Text.isIdentifier part then firstInvalid? part rest else some c

def leadingZeros : Text :=
  "leading zeros in decimal integer literals are not permitted; "
    ++ "use an 0o prefix for octal integers"

/-- The value of decimal digits, which underscores may separate. -/
def number (digits : Text) : Nat :=
  digits.foldl (fun n d => if d = '_' then n else 10 * n + (d.toNat - '0'.toNat)) 0

def areSeparated : Text → Bool
  | ['_'] => false
  | '_' :: '_' :: _ => false
  | _ :: rest => areSeparated rest
  | [] => true

def digitLimit : Nat := 4300

/-- A name right behind a number, or behind its point, cannot be read. -/
def meetsName : Text → Bool
  | '.' :: c :: _ | c :: _ => startsName c
  | [] => false

def numberFault? (digits after : Text) : Option Text :=
  let count := (digits.filter (· ≠ '_')).length
  if meetsName after || !areSeparated digits then some "invalid decimal literal"
  else if digits.head? = some '0' && number digits ≠ 0 then some leadingZeros
  else if digitLimit < count then
    some ("Exceeds the limit (" ++ Text.ofNat digitLimit ++ " digits) for integer string "
      ++ "conversion: value has " ++ Text.ofNat count ++ " digits; use "
      ++ "sys.set_int_max_str_digits() to increase the limit - Consider hexadecimal for huge "
      ++ "integer literals to avoid decimal conversion limits.")
  else none

def hexValue? (c : Char) : Option Nat :=
  if isDigit c then some (c.toNat - '0'.toNat)
  else if 'a' ≤ c && c ≤ 'f' then some (c.toNat - 'a'.toNat + 10)
  else if 'A' ≤ c && c ≤ 'F' then some (c.toNat - 'A'.toNat + 10)
  else none

def hexCharacter? (digits : Text) : Option Char := do
  let values ← digits.mapM hexValue?
  let code := values.foldl (fun n v => 16 * n + v) 0
  if code.isValidChar then some (Char.ofNat code) else none

def isOctal (c : Char) : Bool := '0' ≤ c && c ≤ '7'

/-- What an escape stands for, from the character after the backslash on, and what follows it. The
language has no names of characters and no octal numbers; an unknown escape stands for itself. -/
def escape? : Text → Option (Text × Text)
  | [] => none
  | '\n' :: rest => some ([], rest)
  | c :: rest =>
    match [('n', '\n'), ('t', '\t'), ('r', '\r'), ('\\', '\\'), ('\'', '\''), ('"', '"'),
      ('a', '\x07'), ('b', '\x08'), ('f', '\x0c'), ('v', '\x0b')].lookup c,
      [('x', 2), ('u', 4), ('U', 8)].lookup c with
    | some meaning, _ => some ([meaning], rest)
    | none, some width =>
      let digits := rest.take width
      if digits.length = width then
        (hexCharacter? digits).map fun h => ([h], rest.drop width)
      else none
    | none, none =>
      if isOctal c then
        if c = '0' && !isOctal (rest.headD ' ') then some (['\x00'], rest) else none
      else if c = 'N' then none
      else some (['\\', c], rest)

def meaning? : Nat → Text → Option Text
  | 0, _ | _, [] => some []
  | fuel + 1, '\\' :: rest => do
    let (first, rest) ← escape? rest
    return first ++ (← meaning? fuel rest)
  | fuel + 1, c :: rest => (meaning? fuel rest).map (c :: ·)

/-- The inside of a literal in single marks and what follows it; a line cannot end inside, except
after a backslash. -/
def shortLiteral? (mark : Char) : Text → Option (Text × Text)
  | [] => none
  | '\\' :: c :: rest => (shortLiteral? mark rest).map fun (t, r) => ('\\' :: c :: t, r)
  | c :: rest =>
    if c = mark then some ([], rest)
    else if c = '\n' then none
    else (shortLiteral? mark rest).map fun (t, r) => (c :: t, r)

def longLiteral? (mark : Char) : Text → Option (Text × Text)
  | [] => none
  | '\\' :: c :: rest => (longLiteral? mark rest).map fun (t, r) => ('\\' :: c :: t, r)
  | c :: rest =>
    if [c] ++ rest.take 2 = [mark, mark, mark] then some ([], rest.drop 2)
    else (longLiteral? mark rest).map fun (t, r) => (c :: t, r)

def lineFeeds (t : Text) : Nat := t.count '\n'

def inside? (mark : Char) (t : Text) : Except Text (Text × Text) :=
  if t.take 2 = [mark, mark] then
    (longLiteral? mark (t.drop 2)).elim (.error "unterminated triple-quoted string literal") .ok
  else (shortLiteral? mark t).elim (.error "unterminated string literal") .ok

def literal? (mark : Char) (t : Text) : Except Text (Text × Text × Text) := do
  let (inside, rest) ← inside? mark t
  match meaning? inside.length inside with
  | some meaning => return (inside, meaning, rest)
  | none => .error "unknown escape in a string literal"

def symbols : List Text :=
  ["**=", "//=", ">>=", "<<=", "...", "==", "!=", "<=", ">=", "//", "**", "<<", ">>", "->", ":=",
    "+=", "-=", "*=", "/=", "%=", "&=", "|=", "^=", "@=", "<>"]

/-- The longest symbol at the start; every other character is one by itself. -/
def symbolAt (c : Char) (rest : Text) : Text :=
  (symbols.find? fun s => Text.startsWith s (c :: rest)).getD [c]

def closerOf : Char → Option Char
  | '(' => some ')'
  | '[' => some ']'
  | '\x7b' => some '\x7d'
  | _ => none

def mismatch (closer opener : Char) (line : Option Nat) : Text :=
  let place : Text := match line with
    | none => []
    | some n => " on line " ++ Text.ofNat n
  "closing parenthesis '" ++ closer :: "' does not match opening parenthesis '"
    ++ opener :: "'" ++ place

def enterSymbol (s : State) (symbol : Text) : Except Text State :=
  match symbol with
  | [c] =>
    if (closerOf c).isSome then .ok { s with brackets := (c, s.line) :: s.brackets }
    else if c ∈ [')', ']', '\x7d'] then
      match s.brackets with
      | [] => .error ("unmatched '" ++ c :: "'")
      | (opener, line) :: outer =>
        if closerOf opener = some c then .ok { s with brackets := outer }
        else .error (mismatch c opener (if line = s.line then none else some line))
    else .ok s
  | _ => .ok s

/-- The tokens at the end of the text; they stand on its last line. -/
def atEnd (s : State) : List Token :=
  match s.brackets with
  | (bracket, line) :: _ => s.stuck (neverClosed bracket line)
  | [] => s.margins.map (fun _ => s.token .dedent) ++ [s.token .finish]

/-- The tokens of a text; `fresh` says that a line starts here. -/
def scan : Nat → Bool → State → Text → List Token
  | 0, _, s, _ => atEnd s
  | fuel + 1, true, s, t =>
    let (columns, rest) := marginFrom {} t
    match rest with
    | [] => atEnd { s with line := s.line - 1 }
    | '\n' :: rest => scan fuel true s.nextLine rest
    | '#' :: rest => scan fuel true s.nextLine (Text.laterLines rest)
    | rest =>
      match enterMargin s columns with
      | .error e => s.stuck e
      | .ok (s, tokens) => tokens ++ scan fuel false s rest
  | fuel + 1, false, s, t =>
    match t.dropWhile fun c => c == ' ' || c == '\t' || c == '\x0c' with
    | [] => if s.brackets.isEmpty then s.token .lineEnd :: atEnd s else atEnd s
    | '#' :: rest => scan fuel false s (rest.dropWhile (· ≠ '\n'))
    | '\n' :: rest =>
      if s.brackets.isEmpty then s.token .lineEnd :: scan fuel true s.nextLine rest
      else scan fuel false s.nextLine rest
    | '\\' :: '\n' :: rest =>
      if rest.isEmpty then s.nextLine.stuckAt "unexpected EOF while parsing"
      else scan fuel false s.nextLine rest
    | '\\' :: _ => s.stuckAt "unexpected character after line continuation character"
    | c :: rest =>
      if c = '\'' || c = '"' then
        match literal? c rest with
        | .error message =>
          let last := s.line + (if rest.take 2 = [c, c] then lineFeeds rest.dropLast else 0)
          let place : Text := " (detected at line " ++ Text.ofNat last ++ ")"
          s.fault (message ++ place)
        | .ok (inside, meaning, after) =>
          let s' := { s with line := s.line + lineFeeds inside }
          s.token (.str meaning) :: scan fuel false s' after
      else if isDigit c then
        let digits := c :: rest.takeWhile fun d => isDigit d || d == '_'
        let after := rest.drop (digits.length - 1)
        match numberFault? digits after with
        | some message => s.fault message
        | none => s.token (.int (number digits)) :: scan fuel false s after
      else if startsName c then
        let name := c :: rest.takeWhile continuesName
        match if Text.isIdentifier name then none else firstInvalid? [] name with
        | some bad => s.fault (invalidCharacter bad)
        | none => s.token (.name name) :: scan fuel false s (rest.drop (name.length - 1))
      else if !Text.isPrintable c then s.fault (invalidCharacter c)
      else
        let symbol := symbolAt c rest
        match enterSymbol s symbol with
        | .error message => s.fault message
        | .ok s' => s.token (.symbol symbol) :: scan fuel false s' (rest.drop (symbol.length - 1))

end Lexer

def tokens (t : Text) : List Token :=
  let t := Lexer.withLineFeeds t
  Lexer.scan (2 * t.length + 2) true {} t

end EmbeddedTests.Snippet
