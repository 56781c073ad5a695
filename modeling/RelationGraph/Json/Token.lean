import RelationGraph.Json.Value

set_option autoImplicit false

namespace RelationGraph.Json

inductive Token where
  | openObject
  | closeObject
  | openArray
  | closeArray
  | colon
  | comma
  | null
  | bool (value : Bool)
  | number (value : Number)
  | string (value : String)
  /-- A number or string that is well formed and denotes nothing, as it stands in the text. -/
  | unreadable (text : List Char)

namespace Token

def isText : Token → Bool
  | .string _ => true
  | .unreadable ('"' :: _) => true
  | _ => false

/-! ### Writing -/

def hexDigit (n : Nat) : Char := Nat.digitChar (n % 16)

/-- A character inside quotes: quote, backslash and controls are escaped, all else stands for
itself. -/
def escape (c : Char) : List Char :=
  if c = '"' then ['\\', '"']
  else if c = '\\' then ['\\', '\\']
  else if c = '\x08' then ['\\', 'b']
  else if c = '\x0c' then ['\\', 'f']
  else if c = '\n' then ['\\', 'n']
  else if c = '\r' then ['\\', 'r']
  else if c = '\t' then ['\\', 't']
  else if c.toNat < 0x20 then ['\\', 'u', '0', '0', hexDigit (c.toNat / 16), hexDigit c.toNat]
  else [c]

def quote (text : String) : List Char := '"' :: text.toList.flatMap escape ++ ['"']

/-- A number in digits: integers plainly, doubles with a point or an exponent. -/
def numberChars : Number → List Char
  | .int n => if n < 0 then '-' :: Nat.toDigits 10 n.natAbs else Nat.toDigits 10 n.natAbs
  | .float x => x.chars

def chars : Token → List Char
  | .openObject => ['\x7b']
  | .closeObject => ['\x7d']
  | .openArray => ['[']
  | .closeArray => [']']
  | .colon => [':']
  | .comma => [',']
  | .null => ['n', 'u', 'l', 'l']
  | .bool true => ['t', 'r', 'u', 'e']
  | .bool false => ['f', 'a', 'l', 's', 'e']
  | .number n => numberChars n
  | .string s => quote s
  | .unreadable text => text

/-! ### Strings -/

/-- A piece of a string literal: a character, or a 16-bit unit written as an escape. -/
inductive Piece where
  /-- A character that stands for itself or has a one-letter escape. -/
  | char (c : Char)
  | unit (n : Nat)

def hexValue? (c : Char) : Option Nat :=
  if '0' ≤ c ∧ c ≤ '9' then some (c.toNat - '0'.toNat)
  else if 'a' ≤ c ∧ c ≤ 'f' then some (c.toNat - 'a'.toNat + 10)
  else if 'A' ≤ c ∧ c ≤ 'F' then some (c.toNat - 'A'.toNat + 10)
  else none

def unitValue? (a b c d : Char) : Option Nat := do
  return (((← hexValue? a) * 16 + (← hexValue? b)) * 16 + (← hexValue? c)) * 16 + (← hexValue? d)

def unescape? (c : Char) : Option Char :=
  if c = '"' ∨ c = '\\' ∨ c = '/' then some c
  else if c = 'b' then some '\x08'
  else if c = 'f' then some '\x0c'
  else if c = 'n' then some '\n'
  else if c = 'r' then some '\r'
  else if c = 't' then some '\t'
  else none

/-- Reads a string literal from behind its opening quote to behind its closing one. -/
def readPieces : List Char → Option (List Piece × List Char)
  | [] => none
  | c :: rest =>
    if c = '"' then some ([], rest)
    else if c = '\\' then
      match rest with
      | 'u' :: a :: b :: c :: d :: rest =>
        match unitValue? a b c d, readPieces rest with
        | some n, some (pieces, rest) => some (.unit n :: pieces, rest)
        | _, _ => none
      | letter :: rest =>
        match unescape? letter, readPieces rest with
        | some c, some (pieces, rest) => some (.char c :: pieces, rest)
        | _, _ => none
      | [] => none
    else if c.toNat < 0x20 then none
    else
      match readPieces rest with
      | some (pieces, rest) => some (.char c :: pieces, rest)
      | none => none

def isLeading (n : Nat) : Bool := 0xD800 ≤ n && n < 0xDC00

def isTrailing (n : Nat) : Bool := 0xDC00 ≤ n && n < 0xE000

/-- The characters of a literal; a half without its other half denotes none. -/
def joinPieces : List Piece → Option (List Char)
  | [] => some []
  | .char c :: rest => (joinPieces rest).map (c :: ·)
  | [.unit n] => if isLeading n || isTrailing n then none else some [Char.ofNat n]
  | .unit n :: .char c :: rest =>
    if isLeading n || isTrailing n then none
    else (joinPieces rest).map (Char.ofNat n :: c :: ·)
  | .unit n :: .unit m :: rest =>
    if isLeading n then
      if isTrailing m then
        (joinPieces rest).map (Char.ofNat ((n - 0xD800) * 0x400 + (m - 0xDC00) + 0x10000) :: ·)
      else none
    else if isTrailing n then none
    else (joinPieces (.unit m :: rest)).map (Char.ofNat n :: ·)

/-! ### Numbers -/

structure NumberLiteral where
  negative : Bool
  whole : List Char
  fraction : Option (List Char)
  /-- Whether the exponent is negative, and its digits. -/
  exponent : Option (Bool × List Char)

/-- Splits off the leading digits, of which there has to be one. -/
def readDigits (chars : List Char) : Option (List Char × List Char) :=
  if (chars.takeWhile Char.isDigit).isEmpty then none
  else some (chars.takeWhile Char.isDigit, chars.dropWhile Char.isDigit)

def readFraction : List Char → Option (Option (List Char) × List Char)
  | '.' :: rest => (readDigits rest).map fun (digits, rest) => (some digits, rest)
  | rest => some (none, rest)

def readExponent : List Char → Option (Option (Bool × List Char) × List Char)
  | [] => some (none, [])
  | c :: rest =>
    if c = 'e' ∨ c = 'E' then
      match rest with
      | '-' :: rest => (readDigits rest).map fun (digits, rest) => (some (true, digits), rest)
      | '+' :: rest => (readDigits rest).map fun (digits, rest) => (some (false, digits), rest)
      | rest => (readDigits rest).map fun (digits, rest) => (some (false, digits), rest)
    else some (none, c :: rest)

/-- Reads a number literal. A zero before the point stands alone. -/
def readNumber (chars : List Char) : Option (NumberLiteral × List Char) := do
  let (negative, unsigned) := match chars with
    | '-' :: rest => (true, rest)
    | rest => (false, rest)
  let (whole, rest) ← readDigits unsigned
  guard (whole.head? ≠ some '0' ∨ whole.length = 1)
  let (fraction, rest) ← readFraction rest
  let (exponent, rest) ← readExponent rest
  return (⟨negative, whole, fraction, exponent⟩, rest)

def digitValue (c : Char) : Nat := c.toNat - '0'.toNat

/-- Appends digits to a significand as long as it stays below `2 ^ 64`; also the digits left over.
-/
def appendDigits : Nat → List Char → Nat × List Char
  | significand, [] => (significand, [])
  | significand, digit :: rest =>
    if significand * 10 + digitValue digit < 0x10000000000000000 then
      appendDigits (significand * 10 + digitValue digit) rest
    else (significand, digit :: rest)

/-- The value of a number literal. Without point and exponent it is an exact integer where 64 bits
hold it, the negative zero apart. All else is a double, made from the leading digits that 64 bits
hold. -/
def NumberLiteral.value? (literal : NumberLiteral) : Option Number :=
  let (significand, dropped) := appendDigits 0 literal.whole
  match literal.fraction, literal.exponent with
  | none, none =>
    if dropped ≠ [] then
      (Binary64.ofDecimal? literal.negative significand dropped.length).map .float
    else if literal.negative = false then some (.int significand)
    else if 0 < significand ∧ significand ≤ 0x8000000000000000 then some (.int (-significand))
    else (Binary64.ofDecimal? true significand 0).map .float
  | fraction, exponent =>
    let digits := fraction.getD []
    let (significand, unread) := appendDigits significand digits
    let shift : Int := match exponent with
      | none => 0
      | some (true, power) => -((appendAll 0 power : Nat) : Int)
      | some (false, power) => (appendAll 0 power : Nat)
    let power := (dropped.length : Int) - ((digits.length - unread.length : Nat) : Int) + shift
    (Binary64.ofDecimal? literal.negative significand power).map .float
where
  /-- The value of a digit sequence of any length, read on from `n`. -/
  appendAll (n : Nat) (digits : List Char) : Nat :=
    digits.foldl (fun n digit => n * 10 + digitValue digit) n

/-! ### Cutting a text into tokens -/

/-- The characters of `chars` before its tail `rest`. -/
def lexeme (chars rest : List Char) : List Char := chars.take (chars.length - rest.length)

def readWord (word : List Char) (token : Token) (chars : List Char) :
    Option (Token × List Char) :=
  if word.isPrefixOf chars then some (token, chars.drop word.length) else none

/-- Reads the token at the head of a text that starts with no blank. -/
def read (chars : List Char) : Option (Token × List Char) :=
  match chars with
  | [] => none
  | c :: rest =>
    if c = '\x7b' then some (.openObject, rest)
    else if c = '\x7d' then some (.closeObject, rest)
    else if c = '[' then some (.openArray, rest)
    else if c = ']' then some (.closeArray, rest)
    else if c = ':' then some (.colon, rest)
    else if c = ',' then some (.comma, rest)
    else if c = 'n' then readWord ['n', 'u', 'l', 'l'] .null chars
    else if c = 't' then readWord ['t', 'r', 'u', 'e'] (.bool true) chars
    else if c = 'f' then readWord ['f', 'a', 'l', 's', 'e'] (.bool false) chars
    else if c = '"' then
      match readPieces rest with
      | some (pieces, rest) =>
        match joinPieces pieces with
        | some text => some (.string (String.ofList text), rest)
        | none => some (.unreadable (lexeme chars rest), rest)
      | none => none
    else
      match readNumber chars with
      | some (literal, rest) =>
        match literal.value? with
        | some n => some (.number n, rest)
        | none => some (.unreadable (lexeme chars rest), rest)
      | none => none

def isBlank (c : Char) : Bool := c = ' ' || c = '\n' || c = '\t' || c = '\r'

/-- Cuts a text into at most `count` tokens and blanks. -/
def readUpTo : Nat → List Char → Option (List Token)
  | _, [] => some []
  | 0, _ :: _ => none
  | count + 1, c :: rest =>
    if isBlank c then readUpTo count rest
    else
      match read (c :: rest) with
      | some (token, rest) => (readUpTo count rest).map (token :: ·)
      | none => none

/-- Cuts a text into tokens. Each takes a character, so no more can follow than characters are left.
-/
def readAll (chars : List Char) : Option (List Token) := readUpTo chars.length chars

end Token

end RelationGraph.Json
