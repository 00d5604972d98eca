import EmbeddedTests.Pattern
import EmbeddedTests.Text.CharacterNames
import EmbeddedTests.Text.Identifier
/-!
Reading the text of a pattern. The reader goes over the text once, a character or an escape of two
characters at a time; every step uses up some of the text, so the length of the text bounds the
depth of the reading.
-/
namespace EmbeddedTests.Pattern

open Text

/-- Least and greatest length of a match; no greatest length is `none`. -/
structure Width where
  least : Nat
  most : Option Nat
  deriving DecidableEq, Repr

namespace Width

def plus (a b : Width) : Width :=
  ⟨a.least + b.least, do return (← a.most) + (← b.most)⟩

def join (a b : Width) : Width :=
  ⟨min a.least b.least, do return max (← a.most) (← b.most)⟩

def times (a : Width) (least : Nat) (most : Option Nat) : Width :=
  ⟨a.least * least,
    if a.most = some 0 then some 0 else do return (← a.most) * (← most)⟩

end Width

structure ReaderState where
  characters : CharacterNames
  source : Text
  rest : Text
  offset : Nat := 0
  mode : Mode := {}
  /-- The widths of the groups, from the first on; an open group has none yet. -/
  groups : List (Option Width) := []
  names : List (Text × Nat) := []
  /-- Inside a lookbehind, the number of groups before it. -/
  lookbehind : Option Nat := none
  /-- Groups that conditions ask for, each with the first place that does. -/
  asked : List (Nat × Nat) := []
  /-- A fault that counts only if there is no other. -/
  late : Option PatternFault := none

abbrev Reader := StateT ReaderState (Except PatternError)

namespace Reader

def failAt {α : Type} (fault : PatternFault) (back : Nat := 0) : Reader α := do
  let s ← get
  throw ⟨fault, s.source, some (s.offset - back)⟩

def peek : Reader (Option Text) := do
  match (← get).rest with
  | [] => return none
  | '\\' :: c :: _ => return some ['\\', c]
  | c :: _ => return some [c]

def checkNext : Reader Unit := do
  let s ← get
  if s.rest = ['\\'] then throw ⟨.trailingBackslash, s.source, some (s.source.length - 1)⟩

def next : Reader (Option Text) := do
  match ← peek with
  | none => return none
  | some token =>
    modify fun s => { s with rest := s.rest.drop token.length, offset := s.offset + token.length }
    checkNext
    return some token

def accept (c : Char) : Reader Bool := do
  if (← peek) = some [c] then
    let _ ← next
    return true
  else return false

def nextWhile (p : Char → Bool) : Nat → Reader Text
  | 0 => return []
  | n + 1 => do
    match ← peek with
    | some [c] =>
      if p c then
        let _ ← next
        return c :: (← nextWhile p n)
      else return []
    | _ => return []

def remaining : Reader Nat := return (← get).rest.length

def nameUpTo (close : Char) (missing : PatternFault) : Nat → Text → Reader Text
  | 0, _ => failAt missing
  | n + 1, name => do
    match ← next with
    | none => if name.isEmpty then failAt missing else failAt (.openName close) name.length
    | some token =>
      if token = [close] then
        if name.isEmpty then failAt missing 1 else return name
      else nameUpTo close missing n (name ++ token)

def nextName (close : Char) (missing : PatternFault) : Reader Text := do
  nameUpTo close missing ((← remaining) + 1) []

def isOctal (c : Char) : Bool := '0' ≤ c && c ≤ '7'

def isHex (c : Char) : Bool := c.isDigit || ('a' ≤ c && c ≤ 'f') || ('A' ≤ c && c ≤ 'F')

def digitOf (c : Char) : Nat :=
  if c.isDigit then c.toNat - 48 else if 'a' ≤ c then c.toNat - 87 else c.toNat - 55

def valueIn (base : Nat) (digits : Text) : Nat :=
  digits.foldl (fun n c => base * n + digitOf c) 0

/-- The character with the code point, if there is one; nothing matches another code point. -/
def point (mode : Mode) (n : Nat) : Pattern :=
  .chars { items := [.range n n], ignoreCase := mode.ignoreCase, ascii := mode.ascii }

def single (mode : Mode) (c : Char) : Pattern := point mode c.toNat

def classOf? : Char → Option ClassItem
  | 'd' => some (.digit true) | 'D' => some (.digit false)
  | 's' => some (.space true) | 'S' => some (.space false)
  | 'w' => some (.word true) | 'W' => some (.word false)
  | _ => none

def controlOf? : Char → Option Char
  | 'a' => some '\x07' | 'b' => some '\x08' | 'f' => some '\x0c' | 'n' => some '\n'
  | 'r' => some '\r' | 't' => some '\t' | 'v' => some '\x0b' | '\\' => some '\\'
  | _ => none

def hexEscape (escape : Text) (width : Nat) : Reader Nat := do
  let digits ← nextWhile isHex width
  let escape := escape ++ digits
  if digits.length ≠ width then failAt (.shortEscape escape) escape.length
  else
    let n := valueIn 16 digits
    if n > 0x10ffff then failAt (.badEscape escape) escape.length
    else return n

def namedEscape : Reader Nat := do
  if !(← accept '\x7b') then failAt .noBrace
  else
    let name ← nextName '\x7d' .noCharName
    match (← get).characters name with
    | some c => return c.toNat
    | none => failAt (.unknownCharName name) (name.length + 4)

def octalEscape (escape : Text) : Reader Nat := do
  let escape := escape ++ (← nextWhile isOctal 2)
  let n := valueIn 8 (escape.drop 1)
  if n > 0o377 then failAt (.bigOctal escape) escape.length else return n

/-- A letter that has no meaning after a backslash is a fault; another character is itself. -/
def plainEscape (escape : Text) (c : Char) : Reader Nat :=
  if c.isAlpha then failAt (.badEscape escape) escape.length else return c.toNat

def setMember (token : Text) : Reader ClassItem := do
  let one (n : Nat) : ClassItem := .range n n
  match token with
  | ['\\', c] =>
    match controlOf? c, classOf? c with
    | some control, _ => return one control.toNat
    | none, some item => return item
    | none, none =>
      if c = 'x' then return one (← hexEscape token 2)
      else if c = 'u' then return one (← hexEscape token 4)
      else if c = 'U' then return one (← hexEscape token 8)
      else if c = 'N' then return one (← namedEscape)
      else if isOctal c then return one (← octalEscape token)
      else if c.isDigit then failAt (.badEscape token) token.length
      else return one (← plainEscape token c)
  | c :: _ => return one c.toNat
  | [] => return one 0

/-- The members of a set up to the closing bracket; `start` is where the set starts. -/
def setMembers (start : Nat) : Nat → List ClassItem → Reader (List ClassItem)
  | 0, _ => failAt .openSet
  | n + 1, items => do
    let unended : Reader (List ClassItem) := do failAt .openSet ((← get).offset - start)
    match ← next with
    | none => unended
    | some token =>
      if token = "]" && !items.isEmpty then return items
      else
        let first ← setMember token
        if ← accept '-' then
          match ← next with
          | none => unended
          | some last =>
            if last = "]" then return items ++ [first, .range '-'.toNat '-'.toNat]
            else
              let second ← setMember last
              let bad : Reader (List ClassItem) :=
                failAt (.badRange token last) (token.length + 1 + last.length)
              match first, second with
              | .range a a', .range b b' =>
                if a = a' && b = b' && a ≤ b then setMembers start n (items ++ [.range a b])
                else bad
              | _, _ => bad
        else setMembers start n (items ++ [first])

def readSet (mode : Mode) : Reader Pattern := do
  let start := (← get).offset - 1
  let negated ← accept '^'
  let items ← setMembers start ((← remaining) + 1) []
  return .chars
    { negated := negated, items := items, ignoreCase := mode.ignoreCase, ascii := mode.ascii }

/-- Is the group closed, so that its text can be asked for? -/
def isClosed (s : ReaderState) (index : Nat) : Bool :=
  index != 0 && ((s.groups[index - 1]?).join).isSome

def checkLookbehind (index : Nat) : Reader Unit := do
  let s ← get
  match s.lookbehind with
  | none => return
  | some bound =>
    if !isClosed s index then failAt .groupStillOpen
    else if index > bound then failAt .groupInLookbehind

def sameAs (mode : Mode) (index : Nat) : Pattern := .again index mode.ignoreCase mode.ascii

def numberEscape (mode : Mode) (token : Text) : Reader Pattern := do
  let more ← nextWhile Char.isDigit 1
  let escape := token ++ more
  let third ←
    if escape.length = 3 && (escape.drop 1).all isOctal then nextWhile isOctal 1 else pure []
  if !third.isEmpty then
    let escape := escape ++ third
    let n := valueIn 8 (escape.drop 1)
    if n > 0o377 then failAt (.bigOctal escape) escape.length else return point mode n
  else
    let index := valueIn 10 (escape.drop 1)
    let s ← get
    if index ≤ s.groups.length then
      if !isClosed s index then failAt .groupStillOpen escape.length
      else
        checkLookbehind index
        return sameAs mode index
    else failAt (.noSuchGroup index) (escape.length - 1)

def readEscape (mode : Mode) (token : Text) (c : Char) : Reader Pattern := do
  let one (n : Nat) : Pattern := point mode n
  match c with
  | 'A' => return .edge .textStart
  | 'Z' => return .edge .absoluteEnd
  | 'b' => return .edge (.word true mode.ascii)
  | 'B' => return .edge (.word false mode.ascii)
  | _ =>
    match classOf? c, controlOf? c with
    | some item, _ => return .chars { items := [item], ascii := mode.ascii }
    | none, some control => return one control.toNat
    | none, none =>
      if c = 'x' then return one (← hexEscape token 2)
      else if c = 'u' then return one (← hexEscape token 4)
      else if c = 'U' then return one (← hexEscape token 8)
      else if c = 'N' then return one (← namedEscape)
      else if c = '0' then
        let escape := token ++ (← nextWhile isOctal 2)
        return one (valueIn 8 (escape.drop 1))
      else if c.isDigit then numberEscape mode token
      else return one (← plainEscape token c)

/-- What a repetition can follow. -/
inductive Footing where
  | plain | anchor | repetition
  deriving DecidableEq

structure Item where
  pattern : Pattern
  footing : Footing := .plain

def Item.ofPattern : Pattern → Item
  | .edge e => ⟨.edge e, .anchor⟩
  | p => ⟨p, .plain⟩

def joined (items : List Item) : Pattern :=
  items.foldr (fun item rest => match rest with
    | .empty => item.pattern
    | rest => .seq item.pattern rest) .empty

/-- The numbers of a repetition in braces. Without a closing brace it is no repetition. -/
def readBounds : Reader (Option (Nat × Option Nat × Bool)) := do
  let low ← nextWhile Char.isDigit (← remaining)
  let comma ← accept ','
  let high ← if comma then nextWhile Char.isDigit (← remaining) else pure low
  if !(← accept '\x7d') then return none
  else
    let least := valueIn 10 low
    let most := if high.isEmpty then none else some (valueIn 10 high)
    let limit := 4294967295
    if least ≥ limit || most.any (· ≥ limit) then
      throw ⟨.repeatTooLarge, [], none⟩
    else return some (least, most, most.any (· < least))

/-- Puts a repetition on the last item. `start` is where its text starts. -/
def repeatLast (start : Nat) (least : Nat) (most : Option Nat) (items : List Item) :
    Reader (List Item) := do
  let here := (← get).offset
  match items.getLast? with
  | none => failAt .nothingToRepeat (here - start)
  | some last =>
    match last.footing with
    | .anchor => failAt .nothingToRepeat (here - start)
    | .repetition => failAt .repeatedTwice (here - start)
    | .plain =>
      let lazy ← accept '?'
      let possessive ← if lazy then pure false else accept '+'
      let manner : Manner := if lazy then .lazy else if possessive then .possessive else .greedy
      return items.dropLast ++ [⟨.repeated last.pattern least most manner, .repetition⟩]

structure Flags where
  ignoreCase : Bool := false
  multiline : Bool := false
  dotAll : Bool := false
  ascii : Bool := false
  unicode : Bool := false
  verbose : Bool := false
  deriving DecidableEq

def Flags.add? (f : Flags) : Char → Option Flags
  | 'i' => some { f with ignoreCase := true }
  | 'm' => some { f with multiline := true }
  | 's' => some { f with dotAll := true }
  | 'a' => some { f with ascii := true }
  | 'u' => some { f with unicode := true }
  | 'x' => some { f with verbose := true }
  | _ => none

def isFlag (c : Char) : Bool := c ∈ ['i', 'm', 's', 'a', 'u', 'x', 'L']

def turnOn (m : Mode) (f : Flags) : Mode where
  ignoreCase := m.ignoreCase || f.ignoreCase
  multiline := m.multiline || f.multiline
  dotAll := m.dotAll || f.dotAll
  ascii := f.ascii || (m.ascii && !f.unicode)
  verbose := m.verbose || f.verbose

def turnOff (m : Mode) (f : Flags) : Mode where
  ignoreCase := m.ignoreCase && !f.ignoreCase
  multiline := m.multiline && !f.multiline
  dotAll := m.dotAll && !f.dotAll
  ascii := m.ascii
  verbose := m.verbose && !f.verbose

def flagFault (token : Text) (other : PatternFault) : PatternFault :=
  match token with
  | [c] => if alphanumeric.contains c && !isDigit c then .unknownFlag else other
  | _ => other

def flagsOn (c : Char) : Nat → Flags → Reader (Flags × Char)
  | 0, _ => failAt .flagsUnended
  | n + 1, flags => do
    if c = 'L' then failAt .localeFlag
    else
      let flags := (flags.add? c).getD flags
      if flags.ascii && flags.unicode then failAt .clashingFlags
      else
        match ← next with
        | none => failAt .flagsUnended
        | some token =>
          match token with
          | [d] =>
            if d ∈ [')', '-', ':'] then return (flags, d)
            else if isFlag d then flagsOn d n flags
            else failAt (flagFault token .flagsUnended) 1
          | _ => failAt (flagFault token .flagsUnended) token.length

def flagsOff (c : Char) : Nat → Flags → Reader Flags
  | 0, _ => failAt .noColon
  | n + 1, flags => do
    if c ∈ ['a', 'u', 'L'] then failAt .fixedFlagOff
    else
      let flags := (flags.add? c).getD flags
      match ← next with
      | none => failAt .noColon
      | some token =>
        match token with
        | [d] =>
          if d = ':' then return flags
          else if isFlag d then flagsOff d n flags
          else failAt (flagFault token .noColon) 1
        | _ => failAt (flagFault token .noColon) token.length

def readFlags (c : Char) : Reader (Except Flags (Flags × Flags)) := do
  let bound := (← remaining) + 1
  let (on, ending) ← if c = '-' then pure ({}, '-') else flagsOn c bound {}
  if ending = ')' then return .error on
  else if ending = ':' then return .ok (on, {})
  else
    match ← next with
    | none => failAt .noFlag
    | some token =>
      match token with
      | [d] =>
        if !isFlag d then failAt (flagFault token .noFlag) 1
        else
          let off ← flagsOff d bound {}
          let both := (on.ignoreCase && off.ignoreCase) || (on.multiline && off.multiline)
            || (on.dotAll && off.dotAll) || (on.verbose && off.verbose)
          if both then failAt .flagOnAndOff 1 else return .ok (on, off)
      | _ => failAt (flagFault token .noFlag) token.length

def checkName (name : Text) (back : Nat) : Reader Unit := do
  if !isIdentifier name then failAt (.badGroupName name) (name.length + back)

def openGroup (name : Option Text) : Reader Nat := do
  let s ← get
  let index := s.groups.length + 1
  match name with
  | none => set { s with groups := s.groups ++ [none] }
  | some name =>
    match s.names.find? (·.1 = name) with
    | some (_, former) => failAt (.takenGroupName name index former) (name.length + 1)
    | none => set { s with groups := s.groups ++ [none], names := s.names ++ [(name, index)] }
  return index

def widthOf (groups : List (Option Width)) : Pattern → Width
  | .empty | .edge _ | .ahead .. | .behind .. => ⟨0, some 0⟩
  | .chars _ => ⟨1, some 1⟩
  | .again index .. => ((groups[index - 1]?).join).getD ⟨0, some 0⟩
  | .seq a b => (widthOf groups a).plus (widthOf groups b)
  | .either a b => (widthOf groups a).join (widthOf groups b)
  | .repeated body least most _ => (widthOf groups body).times least most
  | .group _ body | .once body => widthOf groups body
  | .given _ yes no => (widthOf groups yes).join (widthOf groups no)

def closeGroup (index : Nat) (body : Pattern) : Reader Unit :=
  modify fun s => { s with groups := s.groups.set (index - 1) (some (widthOf s.groups body)) }

/-- Skips a comment; `start` is where its parenthesis stands. -/
def skipComment (start : Nat) : Nat → Reader Unit
  | 0 => failAt .openComment
  | n + 1 => do
    match ← next with
    | none => failAt .openComment ((← get).offset - start)
    | some token => if token = ")" then return else skipComment start n

def skipLine : Nat → Reader Unit
  | 0 => return
  | n + 1 => do
    match ← next with
    | none => return
    | some token => if token = "\n" then return else skipLine n

def checkWidth (width : Width) : Reader Unit := do
  if width.least > 4294967295 then modify fun s => { s with late := s.late <|> some .longLookbehind }
  else if width.most ≠ some width.least then
    modify fun s => { s with late := s.late <|> some .variableLookbehind }

def closing (start : Nat) : Reader Unit := do
  if !(← accept ')') then failAt .openGroup ((← get).offset - start)

def askedGroup : Reader Nat := do
  let name ← nextName ')' .noGroupName
  if isIdentifier name then
    match (← get).names.find? (·.1 = name) with
    | some (_, index) => return index
    | none => failAt (.unknownGroupName name) (name.length + 1)
  else
    match readInt? name with
    | some (.ofNat index) =>
      if index = 0 then failAt .badGroupNumber (name.length + 1)
      else
        let place := (← get).offset - name.length - 1
        modify fun s =>
          if s.asked.any (·.1 = index) then s else { s with asked := s.asked ++ [(index, place)] }
        return index
    | _ => failAt (.badGroupName name) (name.length + 1)

def namedGroup (mode : Mode) : Reader Pattern := do
  let name ← nextName ')' .noGroupName
  checkName name 1
  match (← get).names.find? (·.1 = name) with
  | none => failAt (.unknownGroupName name) (name.length + 1)
  | some (_, index) =>
    if !isClosed (← get) index then failAt .groupStillOpen (name.length + 1)
    else
      checkLookbehind index
      return sameAs mode index

/-- What an opening parenthesis starts, read as far as its contents. -/
inductive Opening where
  | capture (name : Option Text)
  | plain (mode : Mode)
  | once
  | lookAhead (holds : Bool)
  | lookBehind (holds : Bool)
  | condition
  | item (p : Pattern)
  | comment
  | flags (on : Flags)

def readOpening (mode : Mode) (start : Nat) : Reader Opening := do
  if !(← accept '?') then return .capture none
  else
    match ← next with
    | none => failAt .unexpectedEnd
    | some token =>
      let unknown : Reader Opening :=
        failAt (.unknownExtension ("?" ++ token)) (token.length + 1)
      match token with
      | ['P'] =>
        if ← accept '<' then
          let name ← nextName '>' .noGroupName
          checkName name 1
          return .capture (some name)
        else if ← accept '=' then return .item (← namedGroup mode)
        else
          match ← next with
          | none => failAt .unexpectedEnd
          | some token => failAt (.unknownExtension ("?P" ++ token)) (token.length + 2)
      | [':'] => return .plain mode
      | ['#'] =>
        skipComment start ((← remaining) + 1)
        return .comment
      | ['='] => return .lookAhead true
      | ['!'] => return .lookAhead false
      | ['<'] =>
        match ← next with
        | none => failAt .unexpectedEnd
        | some ['='] => return .lookBehind true
        | some ['!'] => return .lookBehind false
        | some token => failAt (.unknownExtension ("?<" ++ token)) (token.length + 2)
      | ['('] => return .condition
      | ['>'] => return .once
      | [c] =>
        if isFlag c || c = '-' then
          match ← readFlags c with
          | .error on => return .flags on
          | .ok (on, off) => return .plain (turnOff (turnOn mode on) off)
        else unknown
      | _ => unknown

def isVerboseSpace (token : Text) : Bool :=
  token ∈ [[' '], ['\t'], ['\n'], ['\r'], ['\x0b'], ['\x0c']]

mutual

def branches (fuel : Nat) (mode : Mode) (top first : Bool) : Reader Pattern :=
  match fuel with
  | 0 => failAt .unexpectedEnd
  | fuel + 1 => do
    let one ← items fuel mode (top && first) []
    if ← accept '|' then
      let whole := (← get).mode
      let mode := if top then whole else mode
      return .either (joined one) (← branches fuel mode top false)
    else return joined one

def items (fuel : Nat) (mode : Mode) (top : Bool) (soFar : List Item) : Reader (List Item) :=
  match fuel with
  | 0 => failAt .unexpectedEnd
  | fuel + 1 => do
    let next? ← peek
    if next? = none || next? = some "|" || next? = some ")" then return soFar
    else
      let start := (← get).offset
      let token := (← next).getD []
      let add (p : Pattern) : Reader (List Item) :=
        items fuel mode top (soFar ++ [Item.ofPattern p])
      if mode.verbose && isVerboseSpace token then items fuel mode top soFar
      else if mode.verbose && token = "#" then
        skipLine ((← remaining) + 1)
        items fuel mode top soFar
      else
        match token with
        | ['\\', c] => add (← readEscape mode token c)
        | ['['] => add (← readSet mode)
        | ['.'] =>
          let left : List ClassItem := if mode.dotAll then [] else [.range 10 10]
          add (.chars { negated := true, items := left })
        | ['^'] => add (.edge (if mode.multiline then .lineStart else .textStart))
        | ['$'] => add (.edge (if mode.multiline then .lineEnd else .textEnd))
        | ['?'] => items fuel mode top (← repeatLast start 0 (some 1) soFar)
        | ['*'] => items fuel mode top (← repeatLast start 0 none soFar)
        | ['+'] => items fuel mode top (← repeatLast start 1 none soFar)
        | ['\x7b'] =>
          if (← peek) = some ['\x7d'] then add (single mode '\x7b')
          else
            let before ← get
            match ← readBounds with
            | none =>
              set before
              add (single mode '\x7b')
            | some (least, most, crossed) =>
              if crossed then failAt .leastAboveMost ((← get).offset - start - 1)
              else items fuel mode top (← repeatLast start least most soFar)
        | ['('] =>
          match ← readOpening mode start with
          | .item p => add p
          | .comment => items fuel mode top soFar
          | .flags on =>
            if !top || !soFar.isEmpty then failAt .lateFlags ((← get).offset - start)
            else
              modify fun s => { s with mode := turnOn s.mode on }
              items fuel (← get).mode top soFar
          | opening =>
            let p ← contents fuel mode opening start
            items fuel mode top (soFar ++ [⟨p, .plain⟩])
        | c :: _ => add (single mode c)
        | [] => return soFar

def contents (fuel : Nat) (mode : Mode) (opening : Opening) (start : Nat) : Reader Pattern :=
  match fuel with
  | 0 => failAt .unexpectedEnd
  | fuel + 1 => do
    match opening with
    | .capture name =>
      let index ← openGroup name
      let body ← branches fuel mode false false
      closing start
      closeGroup index body
      return .group index body
    | .plain mode =>
      let body ← branches fuel mode false false
      closing start
      return body
    | .once =>
      let body ← branches fuel mode false false
      closing start
      return .once body
    | .lookAhead holds =>
      let body ← branches fuel mode false false
      closing start
      return .ahead holds body
    | .lookBehind holds =>
      let outer := (← get).lookbehind
      if outer.isNone then modify fun s => { s with lookbehind := some s.groups.length }
      let body ← branches fuel mode false false
      modify fun s => { s with lookbehind := outer }
      closing start
      let width := widthOf (← get).groups body
      checkWidth width
      return .behind holds width.least body
    | .condition =>
      let index ← askedGroup
      checkLookbehind index
      let yes ← items fuel mode false []
      if ← accept '|' then
        let no ← items fuel mode false []
        if (← peek) = some "|" then failAt .tooManyBranches
        else
          closing start
          return .given index (joined yes) (joined no)
      else
        closing start
        return .given index (joined yes) .empty
    | _ => failAt .unexpectedEnd

end

def whole : Reader Pattern := do
  checkNext
  let s ← get
  let p ← branches (3 * s.source.length + 3) s.mode true true
  let s ← get
  if !s.rest.isEmpty then failAt .strayClose
  else
    match s.asked.find? (·.1 > s.groups.length), s.late with
    | some (index, place), _ => throw ⟨.noSuchGroup index, s.source, some place⟩
    | none, some fault => throw ⟨fault, s.source, none⟩
    | none, none => return p

end Reader

def parse (characters : CharacterNames) (source : Text) : Except PatternError Pattern :=
  (Reader.whole.run { characters := characters, source := source, rest := source }).map (·.1)

end EmbeddedTests.Pattern
