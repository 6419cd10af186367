import Rgbd.Json.Reader

/-!
Reading JSON text against the shape of a record.

A record decoder reading text reads in full only what it knows. A record is an object
whose members named by the record are read against their own shapes, with their keys
checked as strings, while every other member's value is only checked to be well-formed:
its numbers are not converted, so no range applies; its `\u` escapes need four hex digits
but surrogates need not pair; and its arrays and objects may nest to any depth. Those
members are left out of the value read. A record may also be given as an array, whose items
are read against the fields in order. Anything else is read as a plain value.

Every function takes fuel bounded by the input length, so reading is total.
-/

namespace Rgbd.Json

/-- What a text is read as. -/
inductive Shape where
  | value
  | record (fields : List (String × Shape))

def skipDigits (cs : List Char) : List Char := cs.dropWhile Char.isDigit

def skipExponent (cs : List Char) : Except ReadError (List Char) :=
  let cs := match cs with
    | '+' :: rest => rest
    | '-' :: rest => rest
    | _ => cs
  match cs with
  | c :: rest => if c.isDigit then .ok (skipDigits rest) else failAt .invalidNumber (c :: rest)
  | [] => failBefore .endInValue []

/-- Skips what may follow the integer part of a number: a fraction of at least one
digit, then an exponent part. -/
def skipNumberTail : List Char → Except ReadError (List Char)
  | '.' :: rest =>
    match rest with
    | c :: more =>
      if c.isDigit then
        match skipDigits more with
        | e :: tail => if e = 'e' ∨ e = 'E' then skipExponent tail else .ok (e :: tail)
        | [] => .ok []
      else failAt .invalidNumber rest
    | [] => failAt .endInValue []
  | e :: rest => if e = 'e' ∨ e = 'E' then skipExponent rest else .ok (e :: rest)
  | [] => .ok []

/-- Skips a number after its optional minus sign: one `0` or digits not starting with
`0`, then the tail. -/
def skipNumber : List Char → Except ReadError (List Char)
  | '0' :: rest =>
    match rest with
    | c :: _ => if c.isDigit then failAt .invalidNumber rest else skipNumberTail rest
    | [] => .ok []
  | c :: rest =>
    if c.isDigit then skipNumberTail (skipDigits rest) else failAt .invalidNumber (c :: rest)
  | [] => failBefore .endInValue []

/-- Skips the body of a string after its opening quote: escapes must be well-formed and
control characters are refused, but surrogate escapes need not pair. -/
def skipString : List Char → Except ReadError (List Char)
  | [] => failBefore .endInString []
  | '"' :: rest => .ok rest
  | '\\' :: 'u' :: a :: b :: c :: d :: rest =>
    if (hexCode a b c d).isSome then skipString rest else badHexEscape (a :: b :: c :: d :: rest)
  | '\\' :: 'u' :: rest => badHexEscape rest
  | '\\' :: c :: rest =>
    if ['"', '\\', '/', 'b', 'f', 'n', 'r', 't'].contains c then skipString rest
    else failAt .invalidEscape (c :: rest)
  | ['\\'] => failBefore .endInString []
  | c :: rest => if c.toNat < 32 then failBefore .controlCharacter rest else skipString rest

mutual
def skipValue : Nat → List Char → Except ReadError (List Char)
  | 0, cs => failAt .tooDeep cs
  | fuel + 1, cs =>
    match skipBlank cs with
    | [] => failAt .endInValue []
    | '"' :: rest => skipString rest
    | '[' :: rest =>
      match skipBlank rest with
      | [] => failAt .endInList []
      | ']' :: rest => .ok rest
      | rest => skipItems fuel rest
    | '\x7b' :: rest =>
      match skipBlank rest with
      | [] => failAt .endInObject []
      | '\x7d' :: rest => .ok rest
      | rest => skipMembers fuel rest
    | 'n' :: rest => readLetters ['u', 'l', 'l'] rest
    | 't' :: rest => readLetters ['r', 'u', 'e'] rest
    | 'f' :: rest => readLetters ['a', 'l', 's', 'e'] rest
    | '-' :: rest => skipNumber rest
    | c :: rest => if c.isDigit then skipNumber (c :: rest) else failAt .expectedValue (c :: rest)

def skipItems : Nat → List Char → Except ReadError (List Char)
  | 0, cs => failAt .tooDeep cs
  | fuel + 1, cs =>
    match skipValue fuel cs with
    | .error e => .error e
    | .ok rest =>
      match skipBlank rest with
      | ',' :: rest => skipItems fuel rest
      | ']' :: rest => .ok rest
      | [] => failAt .endInList []
      | c :: more => failAt .expectedListCommaOrEnd (c :: more)

def skipMembers : Nat → List Char → Except ReadError (List Char)
  | 0, cs => failAt .tooDeep cs
  | fuel + 1, cs =>
    match skipBlank cs with
    | '"' :: rest =>
      match skipString rest with
      | .error e => .error e
      | .ok rest =>
        match skipBlank rest with
        | ':' :: rest =>
          match skipValue fuel rest with
          | .error e => .error e
          | .ok rest =>
            match skipBlank rest with
            | ',' :: rest => skipMembers fuel rest
            | '\x7d' :: rest => .ok rest
            | [] => failAt .endInObject []
            | c :: more => failAt .expectedObjectCommaOrEnd (c :: more)
        | [] => failAt .endInObject []
        | c :: more => failAt .expectedColon (c :: more)
    | [] => failAt .endInValue []
    | c :: more => failAt .keyNotString (c :: more)
end

/-- The shape of the field at a position of a record; items past the fields are plain
values. -/
def fieldShape (fields : List (String × Shape)) (i : Nat) : Shape :=
  (fields[i]?.map (·.2)).getD .value

mutual
/-- Reads one value of a shape after optional blanks; `room` is how many more arrays and
objects may be opened around it. -/
def readShaped : Nat → Nat → Shape → List Char → Except ReadError (Json × List Char)
  | 0, _, _, cs => failAt .tooDeep cs
  | fuel + 1, room, .value, cs => readValue fuel room cs
  | fuel + 1, room, .record fields, cs =>
    match skipBlank cs with
    | '[' :: rest =>
      if room ≤ 1 then failAt .tooDeep ('[' :: rest) else
      match skipBlank rest with
      | [] => failAt .endInList []
      | ']' :: rest => .ok (.arr [], rest)
      | rest => readShapedItems fuel (room - 1) fields [] rest
    | '\x7b' :: rest =>
      if room ≤ 1 then failAt .tooDeep ('\x7b' :: rest) else
      match skipBlank rest with
      | [] => failAt .endInObject []
      | '\x7d' :: rest => .ok (.obj [], rest)
      | rest => readShapedMembers fuel (room - 1) fields [] rest
    | cs => readValue fuel room cs

/-- Reads the items of a record given as an array, each against the field at its
position; `acc` holds the items so far, reversed. -/
def readShapedItems : Nat → Nat → List (String × Shape) → List Json → List Char →
    Except ReadError (Json × List Char)
  | 0, _, _, _, cs => failAt .tooDeep cs
  | fuel + 1, room, fields, acc, cs =>
    match readShaped fuel room (fieldShape fields acc.length) cs with
    | .error e => .error e
    | .ok (v, rest) =>
      match skipBlank rest with
      | ']' :: rest => .ok (.arr (v :: acc).reverse, rest)
      | ',' :: rest =>
        match skipBlank rest with
        | [] => failAt .endInValue []
        | ']' :: more => failAt .trailingComma (']' :: more)
        | rest => readShapedItems fuel room fields (v :: acc) rest
      | [] => failAt .endInList []
      | c :: more => failAt .expectedListCommaOrEnd (c :: more)

/-- Reads the members of a record given as an object, from a key on, its blanks skipped:
members naming a field are read against its shape and kept, the others skipped; `acc`
holds the kept members so far, reversed. -/
def readShapedMembers : Nat → Nat → List (String × Shape) → List (String × Json) →
    List Char → Except ReadError (Json × List Char)
  | 0, _, _, _, cs => failAt .tooDeep cs
  | fuel + 1, room, fields, acc, cs =>
    match cs with
    | '"' :: rest =>
      match readString "" rest with
      | .error e => .error e
      | .ok (key, rest) =>
        match skipBlank rest with
        | ':' :: rest =>
          let member : Except ReadError (Option Json × List Char) :=
            match fields.lookup key with
            | some shape => (readShaped fuel room shape rest).map fun (v, r) => (some v, r)
            | none => (skipValue fuel rest).map fun r => (none, r)
          match member with
          | .error e => .error e
          | .ok (v, rest) =>
            let acc := match v with
              | some v => (key, v) :: acc
              | none => acc
            match skipBlank rest with
            | '\x7d' :: rest => .ok (.obj acc.reverse, rest)
            | ',' :: rest => readShapedMembers fuel room fields acc (skipBlank rest)
            | [] => failAt .endInObject []
            | c :: more => failAt .expectedObjectCommaOrEnd (c :: more)
        | [] => failAt .endInObject []
        | c :: more => failAt .expectedColon (c :: more)
    | '\x7d' :: more => failAt .trailingComma ('\x7d' :: more)
    | [] => failAt .endInValue []
    | c :: more => failAt .keyNotString (c :: more)
end

def parseShaped (shape : Shape) (text : String) : Except ReadError Json :=
  let cs := text.toList
  match readShaped (2 * cs.length + 2) maxDepth shape cs with
  | .error e => .error e
  | .ok (v, rest) =>
    match skipBlank rest with
    | [] => .ok v
    | rest => failAt .trailingCharacters rest

end Rgbd.Json
