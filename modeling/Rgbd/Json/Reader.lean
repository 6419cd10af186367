import Rgbd.Json.Value

/-!
Reading JSON text.

The grammar is RFC 8259's. Numbers follow the kinds of `Json`: the digits of a literal are
gathered into a 64-bit significand (digits that would overflow it are dropped and only
counted into the exponent), and a float is that significand rounded to binary64 and then
multiplied or divided once by the binary64 nearest to a power of ten. A literal whose
value overflows to infinity is refused; `-0` is the float negative zero.

A text that is not JSON is refused with the first problem met reading it from the left,
and the point where it was met, a byte offset into the UTF-8 text. Most problems are met at
a character and name the point just past that character's first byte, or the end of the
text when no character is left. A number out of range names the point after the last
digit read, a control character or a lone surrogate escape the point after it, and a
`\u` escape without four hex digits the point four bytes after the `u`. The message
gives the point as a line and a column, the column counted in bytes.

Every reading function takes fuel bounded by the input length, so reading is total.
-/

namespace Rgbd.Json

/-- What is wrong with a text that is not JSON. -/
inductive Problem where
  | endInList
  | endInObject
  | endInString
  | endInValue
  | expectedColon
  | expectedListCommaOrEnd
  | expectedObjectCommaOrEnd
  | expectedIdent
  | expectedValue
  | invalidEscape
  | invalidNumber
  | numberOutOfRange
  | controlCharacter
  | keyNotString
  | loneSurrogate
  | trailingComma
  | trailingCharacters
  | unfinishedHexEscape
  | tooDeep
  deriving Repr, DecidableEq

def Problem.text : Problem → String
  | .endInList => "EOF while parsing a list"
  | .endInObject => "EOF while parsing an object"
  | .endInString => "EOF while parsing a string"
  | .endInValue => "EOF while parsing a value"
  | .expectedColon => "expected `:`"
  | .expectedListCommaOrEnd => "expected `,` or `]`"
  | .expectedObjectCommaOrEnd => "expected `,` or `\x7d`"
  | .expectedIdent => "expected ident"
  | .expectedValue => "expected value"
  | .invalidEscape => "invalid escape"
  | .invalidNumber => "invalid number"
  | .numberOutOfRange => "number out of range"
  | .controlCharacter => "control character (\\u0000-\\u001F) found while parsing a string"
  | .keyNotString => "key must be a string"
  | .loneSurrogate => "lone leading surrogate in hex escape"
  | .trailingComma => "trailing comma"
  | .trailingCharacters => "trailing characters"
  | .unfinishedHexEscape => "unexpected end of hex escape"
  | .tooDeep => "recursion limit exceeded"

/-- Why a text is not JSON: the problem, and the point where it was met, given as the
number of bytes of the text after that point. -/
structure ReadError where
  problem : Problem
  after : Nat
  deriving Repr, DecidableEq

def byteLength (cs : List Char) : Nat := cs.foldl (fun n c => n + c.utf8Size) 0

/-- Fails with a problem met at the first of the characters `cs` left to read: the point
is just past that character's first byte, or the end of the text when none is left. -/
def failAt {α : Type} (p : Problem) (cs : List Char) : Except ReadError α :=
  .error ⟨p, byteLength cs - 1⟩

def failBefore {α : Type} (p : Problem) (cs : List Char) : Except ReadError α :=
  .error ⟨p, byteLength cs⟩

/-- Fails on a `\u` escape whose four hex digits should start `cs`: four bytes that are
not all hex digits are a bad escape, and fewer than four bytes an unfinished string. -/
def badHexEscape {α : Type} (cs : List Char) : Except ReadError α :=
  if byteLength cs < 4 then .error ⟨.endInString, 0⟩
  else .error ⟨.invalidEscape, byteLength cs - 4⟩

/-- The line and column of the point `offset` bytes into `text`: lines count from 1, and
the column is the number of bytes from the start of the point's line to the point. -/
def position (text : String) (offset : Nat) : Nat × Nat :=
  let step := fun (state : Nat × Nat × Nat) (c : Char) =>
    let (pos, line, start) := state
    if pos < offset ∧ c = '\n' then (pos + 1, line + 1, pos + 1)
    else (pos + c.utf8Size, line, start)
  let (_, line, start) := text.toList.foldl step (0, 1, 0)
  (line, offset - start)

def ReadError.message (text : String) (e : ReadError) : String :=
  let (line, column) := position text (text.utf8ByteSize - e.after)
  e.problem.text ++ " at line " ++ toString line ++ " column " ++ toString column

def significandLimit : Nat := Nat.pow 2 64 - 1

def exponentLimit : Nat := Nat.pow 2 31 - 1

def skipBlank : List Char → List Char
  | c :: rest => if c = ' ' ∨ c = '\t' ∨ c = '\n' ∨ c = '\r' then skipBlank rest else c :: rest
  | [] => []

def digitValue (c : Char) : Nat := c.toNat - 48

def powerOfTen (n : Nat) : Float := Float.ofScientific 1 false n

/-- Scales a rounded significand by `10 ^ exponent`, one power-of-ten operation at a
time; an exponent beyond `±308` first divides by `1e308` until the rest is in range.
`none` when the value overflows. -/
def scaleByTen (f : Float) (exponent : Int) : Nat → Option Float
  | 0 => some f
  | fuel + 1 =>
    if exponent.natAbs ≤ 308 then
      if 0 ≤ exponent then
        let g := f * powerOfTen exponent.toNat
        if g.isInf then none else some g
      else some (f / powerOfTen exponent.natAbs)
    else if f == 0 then some f
    else if 0 ≤ exponent then none
    else scaleByTen (f / powerOfTen 308) (exponent + 308) fuel

def floatOfParts (negative : Bool) (significand : Nat) (exponent : Int) : Option Float :=
  (scaleByTen (Float.ofNat significand) exponent 8).map fun f => if negative then -f else f

/-- Gathers digits into a significand while it stays within 64 bits. Returns the
significand, how many digits were taken, whether a digit was dropped, and the rest. -/
def gatherDigits (significand : Nat) (taken : Nat) : List Char → Nat × Nat × Bool × List Char
  | c :: rest =>
    if c.isDigit then
      let next := significand * 10 + digitValue c
      if next > significandLimit then (significand, taken, true, c :: rest)
      else gatherDigits next (taken + 1) rest
    else (significand, taken, false, c :: rest)
  | [] => (significand, taken, false, [])

def spanDigits (cs : List Char) : List Char × List Char :=
  (cs.takeWhile Char.isDigit, cs.dropWhile Char.isDigit)

/-- Reads exponent digits into `value` while it stays within 31 bits. Returns the value
and the rest, or `none` and the rest after the digit that took it past 31 bits. -/
def exponentDigits (value : Nat) : List Char → Option Nat × List Char
  | c :: rest =>
    if c.isDigit then
      let next := value * 10 + digitValue c
      if next > exponentLimit then (none, rest) else exponentDigits next rest
    else (some value, c :: rest)
  | [] => (some value, [])

/-- The exponent literal after `e`: its sign, its value if within 31 bits, and the rest
after the digits read. -/
def readExponent (cs : List Char) : Except ReadError (Bool × Option Nat × List Char) :=
  let (positive, cs) := match cs with
    | '+' :: rest => (true, rest)
    | '-' :: rest => (false, rest)
    | _ => (true, cs)
  match cs with
  | c :: rest =>
    if c.isDigit then
      let (value, rest) := exponentDigits (digitValue c) rest
      .ok (positive, value, rest)
    else failAt .invalidNumber (c :: rest)
  | [] => failBefore .endInValue []

def saturate (n : Int) : Int := max (-(Int.pow 2 31)) (min (Int.pow 2 31 - 1) n)

def finishFloat (negative : Bool) (significand : Nat) (exponent : Int) :
    List Char → Except ReadError (Json × List Char)
  | c :: rest =>
    if c = 'e' ∨ c = 'E' then
      match readExponent rest with
      | .error e => .error e
      | .ok (positive, some e, rest') =>
        let total := saturate (if positive then exponent + e else exponent - e)
        match floatOfParts negative significand total with
        | some f => .ok (.float f, rest')
        | none => failBefore .numberOutOfRange rest'
      | .ok (positive, none, rest') =>
        if significand ≠ 0 ∧ positive then failBefore .numberOutOfRange rest'
        else .ok (.float (if negative then -0.0 else 0.0), rest'.dropWhile Char.isDigit)
    else
      match floatOfParts negative significand exponent with
      | some f => .ok (.float f, c :: rest)
      | none => failBefore .numberOutOfRange (c :: rest)
  | [] =>
    match floatOfParts negative significand exponent with
    | some f => .ok (.float f, [])
    | none => failBefore .numberOutOfRange []

def readFraction (negative : Bool) (significand : Nat) (exponent : Int) (cs : List Char) :
    Except ReadError (Json × List Char) :=
  let (significand', taken, dropped, rest) := gatherDigits significand 0 cs
  if taken = 0 ∧ ¬ dropped then
    match rest with
    | [] => failAt .endInValue []
    | _ => failAt .invalidNumber rest
  else
    let rest := if dropped then (spanDigits rest).2 else rest
    finishFloat negative significand' (exponent - taken) rest

def readNumber (negative : Bool) (cs : List Char) : Except ReadError (Json × List Char) :=
  match cs with
  | '0' :: rest =>
    match rest with
    | c :: _ => if c.isDigit then failAt .invalidNumber rest else readNumberTail negative 0 0 rest
    | [] => readNumberTail negative 0 0 rest
  | c :: _ =>
    if c.isDigit then
      let (significand, _, dropped, rest) := gatherDigits 0 0 cs
      if dropped then
        let (extra, rest) := spanDigits rest
        match rest with
        | '.' :: more => readFraction negative significand extra.length more
        | _ => finishFloat negative significand extra.length rest
      else readNumberTail negative significand 0 rest
    else failAt .invalidNumber cs
  | [] => failBefore .endInValue []
where
  readNumberTail (negative : Bool) (significand : Nat) (exponent : Int) :
      List Char → Except ReadError (Json × List Char)
    | '.' :: rest => readFraction negative significand exponent rest
    | c :: rest =>
      if c = 'e' ∨ c = 'E' then finishFloat negative significand exponent (c :: rest)
      else .ok (integer negative significand, c :: rest)
    | [] => .ok (integer negative significand, [])
  integer (negative : Bool) (significand : Nat) : Json :=
    if ¬ negative then .nat significand
    else if significand = 0 then .float (-0.0)
    else if significand ≤ Nat.pow 2 63 then .int (-(significand : Int))
    else .float (-(Float.ofNat significand))

def hexValue (c : Char) : Option Nat :=
  if c.isDigit then some (c.toNat - 48)
  else if 'a' ≤ c ∧ c ≤ 'f' then some (c.toNat - 87)
  else if 'A' ≤ c ∧ c ≤ 'F' then some (c.toNat - 55)
  else none

def hexCode (a b c d : Char) : Option Nat := do
  let a ← hexValue a
  let b ← hexValue b
  let c ← hexValue c
  let d ← hexValue d
  some (((a * 16 + b) * 16 + c) * 16 + d)

def isLeadingSurrogate (code : Nat) : Bool := 0xD800 ≤ code && code < 0xDC00

def isTrailingSurrogate (code : Nat) : Bool := 0xDC00 ≤ code && code < 0xE000

def ofSurrogates (high low : Nat) : Char :=
  Char.ofNat (0x10000 + (high - 0xD800) * 0x400 + (low - 0xDC00))

/-- Reads the body of a string literal after its opening quote. A `\u` escape of a
leading surrogate must be followed by the escape of a trailing one. -/
def readString (acc : String) : List Char → Except ReadError (String × List Char)
  | [] => failBefore .endInString []
  | '"' :: rest => .ok (acc, rest)
  | '\\' :: 'u' :: a :: b :: c :: d :: rest =>
    match hexCode a b c d with
    | none => badHexEscape (a :: b :: c :: d :: rest)
    | some code =>
      if isTrailingSurrogate code then failBefore .loneSurrogate rest
      else if isLeadingSurrogate code then
        match rest with
        | '\\' :: 'u' :: e :: f :: g :: h :: more =>
          match hexCode e f g h with
          | none => badHexEscape (e :: f :: g :: h :: more)
          | some low =>
            if isTrailingSurrogate low then readString (acc.push (ofSurrogates code low)) more
            else failBefore .loneSurrogate more
        | '\\' :: 'u' :: more => badHexEscape more
        | '\\' :: c :: more => failAt .unfinishedHexEscape (c :: more)
        | [] | ['\\'] => failBefore .endInString []
        | c :: more => failAt .unfinishedHexEscape (c :: more)
      else readString (acc.push (Char.ofNat code)) rest
  | '\\' :: 'u' :: rest => badHexEscape rest
  | '\\' :: c :: rest =>
    match c with
    | '"' => readString (acc.push '"') rest
    | '\\' => readString (acc.push '\\') rest
    | '/' => readString (acc.push '/') rest
    | 'b' => readString (acc.push '\x08') rest
    | 'f' => readString (acc.push '\x0c') rest
    | 'n' => readString (acc.push '\n') rest
    | 'r' => readString (acc.push '\r') rest
    | 't' => readString (acc.push '\t') rest
    | _ => failAt .invalidEscape (c :: rest)
  | ['\\'] => failBefore .endInString []
  | c :: rest =>
    if c.toNat < 32 then failBefore .controlCharacter rest else readString (acc.push c) rest

def readLetters : List Char → List Char → Except ReadError (List Char)
  | [], cs => .ok cs
  | _ :: _, [] => failBefore .endInValue []
  | w :: ws, c :: rest =>
    if c = w then readLetters ws rest else failAt .expectedIdent (c :: rest)

mutual
/-- Reads one value after optional blanks; `room` is how many more arrays and objects
may be opened around it. -/
def readValue : Nat → Nat → List Char → Except ReadError (Json × List Char)
  | 0, _, cs => failAt .tooDeep cs
  | fuel + 1, room, cs =>
    match skipBlank cs with
    | [] => failAt .endInValue []
    | '"' :: rest => (readString "" rest).map fun (s, rest) => (.str s, rest)
    | '[' :: rest =>
      if room ≤ 1 then failAt .tooDeep ('[' :: rest) else
      match skipBlank rest with
      | [] => failAt .endInList []
      | ']' :: rest => .ok (.arr [], rest)
      | rest => readItems fuel (room - 1) [] rest
    | '\x7b' :: rest =>
      if room ≤ 1 then failAt .tooDeep ('\x7b' :: rest) else
      match skipBlank rest with
      | [] => failAt .endInObject []
      | '\x7d' :: rest => .ok (.obj [], rest)
      | rest => readMembers fuel (room - 1) [] rest
    | 'n' :: rest => (readLetters ['u', 'l', 'l'] rest).map fun rest => (.null, rest)
    | 't' :: rest => (readLetters ['r', 'u', 'e'] rest).map fun rest => (.bool true, rest)
    | 'f' :: rest => (readLetters ['a', 'l', 's', 'e'] rest).map fun rest => (.bool false, rest)
    | '-' :: rest => readNumber true rest
    | c :: rest =>
      if c.isDigit then readNumber false (c :: rest) else failAt .expectedValue (c :: rest)

/-- Reads array items from the first one on, up to the closing bracket; `acc` holds the
items so far, reversed. -/
def readItems : Nat → Nat → List Json → List Char → Except ReadError (Json × List Char)
  | 0, _, _, cs => failAt .tooDeep cs
  | fuel + 1, room, acc, cs =>
    match readValue fuel room cs with
    | .error e => .error e
    | .ok (v, rest) =>
      match skipBlank rest with
      | ']' :: rest => .ok (.arr (v :: acc).reverse, rest)
      | ',' :: rest =>
        match skipBlank rest with
        | [] => failAt .endInValue []
        | ']' :: more => failAt .trailingComma (']' :: more)
        | rest => readItems fuel room (v :: acc) rest
      | [] => failAt .endInList []
      | c :: more => failAt .expectedListCommaOrEnd (c :: more)

/-- Reads object members from a key on, its blanks skipped, up to the closing brace;
`acc` holds the members so far, reversed. -/
def readMembers : Nat → Nat → List (String × Json) → List Char →
    Except ReadError (Json × List Char)
  | 0, _, _, cs => failAt .tooDeep cs
  | fuel + 1, room, acc, cs =>
    match cs with
    | '"' :: rest =>
      match readString "" rest with
      | .error e => .error e
      | .ok (key, rest) =>
        match skipBlank rest with
        | ':' :: rest =>
          match readValue fuel room rest with
          | .error e => .error e
          | .ok (v, rest) =>
            match skipBlank rest with
            | '\x7d' :: rest => .ok (.obj ((key, v) :: acc).reverse, rest)
            | ',' :: rest => readMembers fuel room ((key, v) :: acc) (skipBlank rest)
            | [] => failAt .endInObject []
            | c :: more => failAt .expectedObjectCommaOrEnd (c :: more)
        | [] => failAt .endInObject []
        | c :: more => failAt .expectedColon (c :: more)
    | '\x7d' :: more => failAt .trailingComma ('\x7d' :: more)
    | [] => failAt .endInValue []
    | c :: more => failAt .keyNotString (c :: more)
end

def maxDepth : Nat := 128

def parse (text : String) : Except ReadError Json :=
  let cs := text.toList
  match readValue (2 * cs.length + 2) maxDepth cs with
  | .error e => .error e
  | .ok (v, rest) =>
    match skipBlank rest with
    | [] => .ok v
    | rest => failAt .trailingCharacters rest

end Rgbd.Json
