import AgentRelay.Json.Error
import AgentRelay.Json.Value

/-! The lexical part of reading JSON: blanks, words, strings, numbers, and skipping a value that
nobody asked for. Every reader returns what remains. -/
namespace AgentRelay.Json

def isBlank (c : Char) : Bool := c = ' ' || c = '\n' || c = '\t' || c = '\r'

def skipBlanks (s : List Char) : List Char := s.dropWhile isBlank

/-- Reads the rest of a word whose first letter has been seen. -/
def readWord (word s : List Char) : Except Failure (List Char) :=
  match word, s with
  | [], s => .ok s
  | _ :: _, [] => .error ⟨.endOfValue, [], 0⟩
  | w :: word, c :: s => if c = w then readWord word s else .error ⟨.expectedIdent, c :: s, 1⟩

/-! ### Strings -/

def hexQuad (a b c d : Char) : Option Nat := Text.hexNumber? [a, b, c, d]

/-- Four bytes are taken for the digits of an escape before they are looked at. -/
def escapeFailure (s : List Char) : Failure :=
  if byteCount s < 4 then ⟨.endOfString, [], 0⟩ else ⟨.invalidEscape, s, 4⟩

def shortEscape? : Char → Option Char
  | '"' => some '"'
  | '\\' => some '\\'
  | '/' => some '/'
  | 'b' => some '\x08'
  | 'f' => some '\x0c'
  | 'n' => some '\n'
  | 'r' => some '\r'
  | 't' => some '\t'
  | _ => none

def isHighSurrogate (n : Nat) : Bool := 0xD800 ≤ n && n ≤ 0xDBFF
def isLowSurrogate (n : Nat) : Bool := 0xDC00 ≤ n && n ≤ 0xDFFF

/-- The character of a surrogate pair. -/
def pairedChar (high low : Nat) : Char :=
  Char.ofNat ((high - 0xD800) * 0x400 + (low - 0xDC00) + 0x10000)

/-- What is wrong when no low half follows a high one. -/
def unpairedFailure : List Char → Failure
  | [] => ⟨.endOfString, [], 0⟩
  | '\\' :: [] => ⟨.endOfString, [], 0⟩
  | '\\' :: 'u' :: s =>
    match s with
    | a :: b :: c :: d :: rest =>
      if (hexQuad a b c d).isSome then ⟨.loneSurrogate, rest, 0⟩ else escapeFailure s
    | _ => escapeFailure s
  | '\\' :: s => ⟨.unexpectedEndOfEscape, s, 1⟩
  | s => ⟨.unexpectedEndOfEscape, s, 1⟩

/-- Reads a string after its opening quote; `done` holds the characters so far, last first. -/
def readString (done : List Char) : List Char → Except Failure (String × List Char)
  | [] => .error ⟨.endOfString, [], 0⟩
  | '"' :: rest => .ok (String.ofList done.reverse, rest)
  | '\\' :: [] => .error ⟨.endOfString, [], 0⟩
  | '\\' :: 'u' :: a :: b :: c :: d :: rest =>
    match hexQuad a b c d with
    | none => .error (escapeFailure (a :: b :: c :: d :: rest))
    | some n =>
      if isLowSurrogate n then .error ⟨.loneSurrogate, rest, 0⟩
      else if isHighSurrogate n then
        match rest with
        | '\\' :: 'u' :: e :: f :: g :: h :: rest' =>
          match hexQuad e f g h with
          | none => .error (unpairedFailure rest)
          | some m =>
            if isLowSurrogate m then readString (pairedChar n m :: done) rest'
            else .error (unpairedFailure rest)
        | _ => .error (unpairedFailure rest)
      else readString (Char.ofNat n :: done) rest
  | '\\' :: c :: rest =>
    match shortEscape? c with
    | some e => readString (e :: done) rest
    | none => .error (if c = 'u' then escapeFailure rest else ⟨.invalidEscape, c :: rest, 1⟩)
  | c :: rest =>
    if c.toNat < 0x20 then .error ⟨.controlCharacter, rest, 0⟩ else readString (c :: done) rest

/-- Passes over a string after its opening quote; surrogates need not pair up. -/
def skipString : List Char → Except Failure (List Char)
  | [] => .error ⟨.endOfString, [], 0⟩
  | '"' :: rest => .ok rest
  | '\\' :: [] => .error ⟨.endOfString, [], 0⟩
  | '\\' :: 'u' :: a :: b :: c :: d :: rest =>
    if (hexQuad a b c d).isSome then skipString rest
    else .error (escapeFailure (a :: b :: c :: d :: rest))
  | '\\' :: c :: rest =>
    if (shortEscape? c).isSome then skipString rest
    else .error (if c = 'u' then escapeFailure rest else ⟨.invalidEscape, c :: rest, 1⟩)
  | c :: rest =>
    if c.toNat < 0x20 then .error ⟨.controlCharacter, c :: rest, 0⟩ else skipString rest

/-! ### Numbers

A number without fraction and exponent that fits a word is an integer. For the others the leading
digits make a significand of 64 bits, the digits left over only move the decimal point, and the
double is that significand times or divided by a power of ten. -/

def digitValue (c : Char) : Nat := c.toNat - '0'.toNat

/-- Appends digits to a significand while it stays below `limit`, and returns those left over. -/
def appendDigits (limit : Nat) (m : Nat) : List Char → Nat × List Char
  | [] => (m, [])
  | c :: rest =>
    if m * 10 + digitValue c < limit then appendDigits limit (m * 10 + digitValue c) rest
    else (m, c :: rest)

/-- `significand · 10 ^ exponent` in steps of at most `10 ^ 308`; `none` when it overflows. -/
def scaleFloat (x : Float) (exponent : Int) : Option Float :=
  if h : exponent.natAbs ≤ 308 then
    let power := Float.ofScientific 1 false exponent.natAbs
    if 0 ≤ exponent then
      if (x * power).isInf then none else some (x * power)
    else some (x / power)
  else if x == 0 then some x
  else if 0 ≤ exponent then none
  else scaleFloat (x / Float.ofScientific 1 false 308) (exponent + 308)
termination_by exponent.natAbs
decreasing_by omega

def signed (positive : Bool) (x : Float) : Float := if positive then x else -x

def floatNumber (positive : Bool) (m : Nat) (exponent : Int) (rest : List Char) :
    Except Failure (Number × List Char) :=
  match scaleFloat (UInt64.ofNat m).toFloat exponent with
  | some x => .ok (.float (signed positive x), rest)
  | none => .error ⟨.numberOutOfRange, rest, 0⟩

def isNegative : List Char → Bool × List Char
  | '+' :: rest => (false, rest)
  | '-' :: rest => (true, rest)
  | rest => (false, rest)

/-- Reads an exponent after its letter. One that does not fit a 32-bit word makes the number zero or
too large. -/
def readExponent (positive : Bool) (m : Nat) (start : Int) (s : List Char) :
    Except Failure (Number × List Char) :=
  let (negative, s) := isNegative s
  let digits := s.takeWhile Char.isDigit
  let rest := s.dropWhile Char.isDigit
  match digits, rest with
  | [], [] => .error ⟨.endOfValue, [], 0⟩
  | [], rest => .error ⟨.invalidNumber, rest, 1⟩
  | digits, rest =>
    match appendDigits 0x80000000 0 digits with
    | (e, []) => floatNumber positive m (if negative then start - e else start + e) rest
    | (_, surplus) =>
      if m ≠ 0 ∧ ¬negative then .error ⟨.numberOutOfRange, surplus.drop 1 ++ rest, 0⟩
      else .ok (.float (signed positive 0), rest)

/-- Reads a fraction after its point. -/
def readFraction (positive : Bool) (m : Nat) (start : Int) (s : List Char) :
    Except Failure (Number × List Char) :=
  let digits := s.takeWhile Char.isDigit
  let rest := s.dropWhile Char.isDigit
  match digits, rest with
  | [], [] => .error ⟨.endOfValue, [], 0⟩
  | [], rest => .error ⟨.invalidNumber, rest, 1⟩
  | digits, rest =>
    let (m, surplus) := appendDigits 0x10000000000000000 m digits
    let exponent := start - (digits.length - surplus.length : Nat)
    match rest with
    | 'e' :: rest => readExponent positive m exponent rest
    | 'E' :: rest => readExponent positive m exponent rest
    | rest => floatNumber positive m exponent rest

/-- A whole number; a negative one below the range, and the negative zero, are doubles. -/
def wholeNumber (positive : Bool) (m : Nat) (h : m < 0x10000000000000000) : Number :=
  if positive then .integer m ⟨by omega, by omega⟩
  else if hm : 0 < m ∧ m ≤ 0x8000000000000000 then .integer (-m) ⟨by omega, by omega⟩
  else .float (-(UInt64.ofNat m).toFloat)

/-- What follows the integer digits. -/
def readNumberEnd (positive : Bool) (m : Nat) (surplus : Nat) (s : List Char) :
    Except Failure (Number × List Char) :=
  match s with
  | '.' :: rest => readFraction positive m surplus rest
  | 'e' :: rest => readExponent positive m surplus rest
  | 'E' :: rest => readExponent positive m surplus rest
  | rest =>
    if h : surplus = 0 ∧ m < 0x10000000000000000 then .ok (wholeNumber positive m h.2, rest)
    else floatNumber positive m surplus rest

/-- Reads a number after its sign. -/
def readNumber (positive : Bool) : List Char → Except Failure (Number × List Char)
  | [] => .error ⟨.endOfValue, [], 0⟩
  | '0' :: rest =>
    if (rest.takeWhile Char.isDigit).isEmpty then readNumberEnd positive 0 0 rest
    else .error ⟨.invalidNumber, rest, 1⟩
  | c :: rest =>
    if c.isDigit then
      let s := c :: rest
      let (m, surplus) := appendDigits 0x10000000000000000 0 (s.takeWhile Char.isDigit)
      readNumberEnd positive m surplus.length (s.dropWhile Char.isDigit)
    else .error ⟨.invalidNumber, c :: rest, 1⟩

/-- Passes over a number after its sign, whatever its size. -/
def skipNumber (s : List Char) : Except Failure (List Char) :=
  let failAt (s : List Char) : Failure := ⟨.invalidNumber, s, if s.isEmpty then 0 else 1⟩
  let exponent (s : List Char) : Except Failure (List Char) :=
    let s := (isNegative s).2
    if (s.takeWhile Char.isDigit).isEmpty then .error (failAt s)
    else .ok (s.dropWhile Char.isDigit)
  let afterFraction (s : List Char) : Except Failure (List Char) :=
    match s with
    | 'e' :: s => exponent s
    | 'E' :: s => exponent s
    | s => .ok s
  let afterInteger (s : List Char) : Except Failure (List Char) :=
    match s with
    | '.' :: s =>
      if (s.takeWhile Char.isDigit).isEmpty then .error (failAt s)
      else afterFraction (s.dropWhile Char.isDigit)
    | s => afterFraction s
  match s with
  | '0' :: rest =>
    if (rest.takeWhile Char.isDigit).isEmpty then afterInteger rest else .error (failAt rest)
  | s =>
    if (s.takeWhile Char.isDigit).isEmpty then .error (failAt s)
    else afterInteger (s.dropWhile Char.isDigit)

/-! ### Values that nobody asked for -/

inductive Bracket where
  | list
  | object
deriving DecidableEq

/-- Passes over one value of the outermost level with any nesting inside. `opened` are the brackets
around the place, innermost first; `value` tells whether a value is due, otherwise one has just
ended. Every step passes a character, so `steps` above the length of the text are enough. -/
def skipFrom : (steps : Nat) → (value : Bool) → (opened : List Bracket) → List Char →
    Except Failure (List Char)
  | 0, _, _, s => .error ⟨.endOfValue, s, 0⟩
  | steps + 1, true, opened, s =>
    match skipBlanks s with
    | [] => .error ⟨.endOfValue, [], 0⟩
    | 'n' :: s => do skipFrom steps false opened (← readWord ['u', 'l', 'l'] s)
    | 't' :: s => do skipFrom steps false opened (← readWord ['r', 'u', 'e'] s)
    | 'f' :: s => do skipFrom steps false opened (← readWord ['a', 'l', 's', 'e'] s)
    | '-' :: s => do skipFrom steps false opened (← skipNumber s)
    | '"' :: s => do skipFrom steps false opened (← skipString s)
    | '[' :: s =>
      match skipBlanks s with
      | [] => .error ⟨.endOfList, [], 0⟩
      | ']' :: s => skipFrom steps false opened s
      | s => skipFrom steps true (.list :: opened) s
    | '\x7b' :: s =>
      match skipBlanks s with
      | [] => .error ⟨.endOfObject, [], 0⟩
      | '\x7d' :: s => skipFrom steps false opened s
      | s => do skipFrom steps true (.object :: opened) (← skipName s)
    | s =>
      if (s.takeWhile Char.isDigit).isEmpty then .error ⟨.expectedValue, s, 1⟩
      else do skipFrom steps false opened (← skipNumber s)
  | _ + 1, false, [], s => .ok s
  | steps + 1, false, .list :: opened, s =>
    match skipBlanks s with
    | [] => .error ⟨.endOfList, [], 0⟩
    | ',' :: s => skipFrom steps true (.list :: opened) s
    | ']' :: s => skipFrom steps false opened s
    | s => .error ⟨.expectedListCommaOrEnd, s, 1⟩
  | steps + 1, false, .object :: opened, s =>
    match skipBlanks s with
    | [] => .error ⟨.endOfObject, [], 0⟩
    | ',' :: s => do skipFrom steps true (.object :: opened) (← skipName (skipBlanks s))
    | '\x7d' :: s => skipFrom steps false opened s
    | s => .error ⟨.expectedObjectCommaOrEnd, s, 1⟩
where
  /-- Passes over the name of a member and its colon. -/
  skipName : List Char → Except Failure (List Char)
    | [] => .error ⟨.endOfObject, [], 0⟩
    | '"' :: s => do
      match skipBlanks (← skipString s) with
      | [] => .error ⟨.endOfObject, [], 0⟩
      | ':' :: s => .ok s
      | s => .error ⟨.expectedColon, s, 1⟩
    | s => .error ⟨.keyNotString, s, 1⟩

def skipValue (s : List Char) : Except Failure (List Char) :=
  skipFrom (2 * s.length + 2) true [] s

end AgentRelay.Json
