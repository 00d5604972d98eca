import EmbeddedTests.Text.Numeral
import EmbeddedTests.Text.Quoted
/-!
Templates with replacement fields in braces. One name has a value, which is a text; a field may
take a part of it, convert it, and format it with a fill, an alignment, a width and a precision.
Doubled braces are text. What texts have as attributes is not described here: it is a parameter.
-/
namespace EmbeddedTests.Text

inductive TemplateErrorKind where
  | value | index | key | attribute | type
  /-- It is not said here what becomes of the template. -/
  | unknown
  deriving DecidableEq, Repr

def TemplateErrorKind.className? : TemplateErrorKind → Option Text
  | .value => some "ValueError"
  | .index => some "IndexError"
  | .key => some "KeyError"
  | .attribute => some "AttributeError"
  | .type => some "TypeError"
  | .unknown => none

/-- What is wrong with a template, or with what it asks for. -/
inductive TemplateError where
  | loneOpen
  | loneClose
  | openInName
  | unclosedField
  | unclosedFormat
  | noConversion
  | noColon
  | unknownConversion (c : Char)
  | tooDeep
  | tooManyDigits
  | noPosition (index : Nat)
  | unknownName (name : Text)
  | emptyAttribute
  | unclosedIndex
  | badFollower
  | noAttribute (name : Text)
  | indexTooLarge
  | badIndex
  | twoSeparators
  | noPrecision
  | badFormat (format : Text)
  | badSeparator (separator type : Char)
  | badType (type : Char)
  | spaceSign
  | sign
  | negativeZero
  | alternate
  | numericAlign
  /-- What comes of an attribute. -/
  | other (kind : TemplateErrorKind) (message : Text)
  deriving DecidableEq, Repr

namespace TemplateError

def kind : TemplateError → TemplateErrorKind
  | noPosition _ | indexTooLarge => .index
  | unknownName _ => .key
  | noAttribute _ => .attribute
  | badIndex => .type
  | other kind _ => kind
  | _ => .value

/-- A character in quotes, by its code point unless it is a visible one of ASCII. -/
def shown (c : Char) (bound : Nat) : Text :=
  if 32 < c.toNat && c.toNat < bound then [c] else "\\x" ++ Nat.toDigits 16 c.toNat

def message : TemplateError → Text
  | loneOpen => "Single '\x7b' encountered in format string"
  | loneClose => "Single '\x7d' encountered in format string"
  | openInName => "unexpected '\x7b' in field name"
  | unclosedField => "expected '\x7d' before end of string"
  | unclosedFormat => "unmatched '\x7b' in format spec"
  | noConversion => "end of string while looking for conversion specifier"
  | noColon => "expected ':' after conversion specifier"
  | unknownConversion c => "Unknown conversion specifier " ++ shown c 127
  | tooDeep => "Max string recursion exceeded"
  | tooManyDigits => "Too many decimal digits in format string"
  | noPosition index =>
    "Replacement index " ++ ofNat index ++ " out of range for positional args tuple"
  | unknownName name => quoted name
  | emptyAttribute => "Empty attribute in format string"
  | unclosedIndex => "Missing ']' in format string"
  | badFollower => "Only '.' or '[' may follow ']' in format field specifier"
  | noAttribute name => "'str' object has no attribute '" ++ name ++ "'"
  | indexTooLarge => "string index out of range"
  | badIndex => "string indices must be integers, not 'str'"
  | twoSeparators => "Cannot specify both ',' and '_'."
  | noPrecision => "Format specifier missing precision"
  | badFormat format => "Invalid format specifier '" ++ format ++ "' for object of type 'str'"
  | badSeparator separator type =>
    "Cannot specify '" ++ [separator] ++ "' with '" ++ shown type 128 ++ "'."
  | badType type => "Unknown format code '" ++ shown type 128 ++ "' for object of type 'str'"
  | spaceSign => "Space not allowed in string format specifier"
  | sign => "Sign not allowed in string format specifier"
  | negativeZero => "Negative zero coercion (z) not allowed in string format specifier"
  | alternate => "Alternate form (#) not allowed in string format specifier"
  | numericAlign => "'=' alignment not allowed in string format specifier"
  | other _ message => message

end TemplateError

abbrev Taken := Option Char → Except TemplateError (Text → Except TemplateError Text)

/-- What a text has under an attribute, with the attributes and indices that follow in the name of
the field. -/
abbrev TextAttributes := (value path : Text) → Except TemplateError Taken

namespace Template

def numberBound : Nat := 0x8000000000000000

/-- Decimal digits at the start; a number that reaches the bound is refused. -/
def number (t : Text) : Except TemplateError (Option Nat × Text) :=
  let ds := t.takeWhile isDecimal
  let n := ds.foldl (fun n c => 10 * n + (digitValue? c).getD 0) 0
  if ds.isEmpty then .ok (none, t)
  else if n ≥ numberBound then .error .tooManyDigits
  else .ok (some n, t.dropWhile isDecimal)

def isAlign (c : Char) : Bool := c == '<' || c == '>' || c == '=' || c == '^'

def optional (p : Char → Bool) : Text → Option Char × Text
  | [] => (none, [])
  | c :: rest => if p c then (some c, rest) else (none, c :: rest)

structure Format where
  fill : Char := ' '
  align : Char := '<'
  sign : Option Char := none
  coerces : Bool := false
  alternates : Bool := false
  width : Option Nat := none
  precision : Option Nat := none
  type : Char := 's'

def readAlign : Text → (Option Char × Option Char) × Text
  | [] => ((none, none), [])
  | [c] => if isAlign c then ((none, some c), []) else ((none, none), [c])
  | c :: d :: rest =>
    if isAlign d then ((some c, some d), rest)
    else if isAlign c then ((none, some c), d :: rest)
    else ((none, none), c :: d :: rest)

def readSeparator (t : Text) : Except TemplateError (Option Char × Text) :=
  match t with
  | ',' :: '_' :: _ => .error .twoSeparators
  | '_' :: ',' :: _ => .error .twoSeparators
  | ',' :: rest => .ok (some ',', rest)
  | '_' :: rest => .ok (some '_', rest)
  | _ => .ok (none, t)

def readPrecision (t : Text) : Except TemplateError (Option Nat × Text) := do
  match t with
  | '.' :: rest =>
    match ← number rest with
    | (none, _) => throw .noPrecision
    | (some n, rest) => return (some n, rest)
  | _ => return (none, t)

def takesSeparator (separator type : Char) : Bool :=
  type ∈ ['d', 'e', 'f', 'g', 'E', 'G', '%', 'F', '\x00']
    || (separator == '_' && type ∈ ['b', 'o', 'x', 'X'])

def readFormat (t : Text) : Except TemplateError Format := do
  let ((fill, align), rest) := readAlign t
  let (sign, rest) := optional (fun c => c == ' ' || c == '+' || c == '-') rest
  let (coerces, rest) := optional (· == 'z') rest
  let (alternates, rest) := optional (· == '#') rest
  let (zeroFill, rest) := if fill.isNone then optional (· == '0') rest else (none, rest)
  let (width, rest) ← number rest
  let (separator, rest) ← readSeparator rest
  let (precision, rest) ← readPrecision rest
  if rest.length > 1 then throw (.badFormat t)
  let type := rest.headD 's'
  match separator with
  | some c => if !takesSeparator c type then throw (.badSeparator c type)
  | none => pure ()
  return {
    fill := fill.getD (if zeroFill.isSome then '0' else ' '), align := align.getD '<', sign := sign,
    coerces := coerces.isSome, alternates := alternates.isSome, width := width,
    precision := precision, type := type }

def Format.apply (f : Format) (t : Text) : Except TemplateError Text :=
  if f.type ≠ 's' then .error (.badType f.type)
  else if f.sign = some ' ' then .error .spaceSign
  else if f.sign.isSome then .error .sign
  else if f.coerces then .error .negativeZero
  else if f.alternates then .error .alternate
  else if f.align = '=' then .error .numericAlign
  else
    let t := match f.precision with
      | some n => t.take n
      | none => t
    let room := f.width.getD 0 - t.length
    let left := if f.align = '>' then room else if f.align = '^' then room / 2 else 0
    .ok (List.replicate left f.fill ++ t ++ List.replicate (room - left) f.fill)

def format (spec t : Text) : Except TemplateError Text := do
  if spec.isEmpty then return t
  else (← readFormat spec).apply t

/-- A quoted text with ASCII characters only. -/
def asciiQuoted (t : Text) : Text :=
  ((quoted t).map fun c => if c.toNat < 0x80 then [c] else hexEscape c).flatten

def convert (t : Text) : Option Char → Except TemplateError Text
  | none | some 's' => .ok t
  | some 'r' => .ok (quoted t)
  | some 'a' => .ok (asciiQuoted t)
  | some c => .error (.unknownConversion c)

def ofText (t : Text) : Taken := fun conversion =>
  (convert t conversion).map fun t spec => format spec t

def isPart (c : Char) : Bool := c == '.' || c == '['

def attributeName (path : Text) : Text := path.takeWhile (!isPart ·)

/-- The parts of a value that the rest of a field name asks for; `steps` bounds their number. -/
def takeParts (attributes : TextAttributes) (value : Text) : Nat → Text → Except TemplateError Taken
  | _, [] => .ok (ofText value)
  | 0, _ => .ok (ofText value)
  | _ + 1, '.' :: path =>
    if (attributeName path).isEmpty then .error .emptyAttribute else attributes value path
  | steps + 1, '[' :: rest =>
    match cutAt? ']' rest with
    | none => .error .unclosedIndex
    | some (index, rest) => do
      if index.isEmpty then throw .emptyAttribute
      let i? ← if index.all isDecimal then number index else pure (none, [])
      match i? with
      | (none, _) => throw .badIndex
      | (some i, _) =>
        match value[i]? with
        | none => throw .indexTooLarge
        | some c => takeParts attributes [c] steps rest
  | _ + 1, _ => .error .badFollower

def fieldValue (attributes : TextAttributes) (name value field : Text) :
    Except TemplateError Taken := do
  let first := field.takeWhile (!isPart ·)
  let rest := field.dropWhile (!isPart ·)
  if first.isEmpty then throw (.noPosition 0)
  if first.all isDecimal then
    match ← number first with
    | (some n, _) => throw (.noPosition n)
    | (none, _) => throw (.noPosition 0)
  if first ≠ name then throw (.unknownName first)
  takeParts attributes value (rest.length + 1) rest

structure Field where
  name : Text
  conversion : Option Char := none
  format : Text := []

def readName : Bool → Text → Except TemplateError (Text × Option Char × Text)
  | _, [] => .ok ([], none, [])
  | true, c :: rest => do
    let (name, mark, rest) ← readName (c != ']') rest
    return (c :: name, mark, rest)
  | false, c :: rest =>
    if c = '\x7b' then .error .openInName
    else if c = '\x7d' || c = ':' || c = '!' then .ok ([], some c, rest)
    else do
      let (name, mark, rest) ← readName (c == '[') rest
      return (c :: name, mark, rest)

def readSpec : Nat → Text → Except TemplateError (Text × Text)
  | _, [] => .error .unclosedFormat
  | depth, c :: rest => do
    if c = '\x7d' && depth = 1 then return ([], rest)
    else
      let depth := if c = '\x7b' then depth + 1 else if c = '\x7d' then depth - 1 else depth
      let (spec, rest) ← readSpec depth rest
      return (c :: spec, rest)

def readField (t : Text) : Except TemplateError (Field × Text) := do
  let (name, mark, rest) ← readName false t
  match mark with
  | some '\x7d' => return ({ name := name }, rest)
  | some ':' =>
    let (spec, rest) ← readSpec 1 rest
    return ({ name := name, format := spec }, rest)
  | some _ =>
    match rest with
    | [] => throw .noConversion
    | [_] => throw .unclosedFormat
    | c :: '\x7d' :: rest => return ({ name := name, conversion := some c }, rest)
    | c :: ':' :: rest =>
      let (spec, rest) ← readSpec 1 rest
      return ({ name := name, conversion := some c, format := spec }, rest)
    | _ => throw .noColon
  | none => throw .unclosedField

/-- Renders a template. `depth` bounds how deep templates of formats are nested, `fuel` the number
of characters. -/
def renderWith (attributes : TextAttributes) (name value : Text) :
    Nat → Nat → Text → Except TemplateError Text
  | 0, _, _ => .error .tooDeep
  | _, _, [] => .ok []
  | _, 0, _ => .ok []
  | depth + 1, fuel + 1, c :: rest => do
    if c = '\x7b' then
      match rest with
      | [] => throw .loneOpen
      | '\x7b' :: rest => return '\x7b' :: (← renderWith attributes name value (depth + 1) fuel rest)
      | _ =>
        let (field, rest) ← readField rest
        let taken ← fieldValue attributes name value field.name
        let formatted ← taken field.conversion
        let spec ←
          if '\x7b' ∈ field.format then renderWith attributes name value depth fuel field.format
          else pure field.format
        let part ← formatted spec
        return part ++ (← renderWith attributes name value (depth + 1) fuel rest)
    else if c = '\x7d' then
      match rest with
      | '\x7d' :: rest => return '\x7d' :: (← renderWith attributes name value (depth + 1) fuel rest)
      | _ => throw .loneClose
    else return c :: (← renderWith attributes name value (depth + 1) fuel rest)

def render (attributes : TextAttributes) (name value template : Text) : Except TemplateError Text :=
  renderWith attributes name value 2 (template.length + 1) template

def attributeNames : List String := [
  "__add__", "__class__", "__contains__", "__delattr__", "__dir__", "__doc__", "__eq__",
  "__format__", "__ge__", "__getattribute__", "__getitem__", "__getnewargs__", "__getstate__",
  "__gt__", "__hash__", "__init__", "__init_subclass__", "__iter__", "__le__", "__len__",
  "__lt__", "__mod__", "__mul__", "__ne__", "__new__", "__reduce__", "__reduce_ex__", "__repr__",
  "__rmod__", "__rmul__", "__setattr__", "__sizeof__", "__str__", "__subclasshook__",
  "capitalize", "casefold", "center", "count", "encode", "endswith", "expandtabs", "find",
  "format", "format_map", "index", "isalnum", "isalpha", "isascii", "isdecimal", "isdigit",
  "isidentifier", "islower", "isnumeric", "isprintable", "isspace", "istitle", "isupper", "join",
  "ljust", "lower", "lstrip", "maketrans", "partition", "removeprefix", "removesuffix", "replace",
  "rfind", "rindex", "rjust", "rpartition", "rsplit", "rstrip", "split", "splitlines",
  "startswith", "strip", "swapcase", "title", "translate", "upper", "zfill"]

/-- An attribute that a text does not have is an error; of the others, it is not said what they
give. -/
def namedAttributes : TextAttributes := fun _ path =>
  let name := attributeName path
  if String.ofList name ∈ attributeNames then
    .error (.other .unknown ("attribute '" ++ name ++ "' of a text"))
  else .error (.noAttribute name)

end Template
end EmbeddedTests.Text
