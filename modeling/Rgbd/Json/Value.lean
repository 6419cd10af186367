import Rgbd.Decimal.Layout

/-!
JSON values and their text.

A number keeps the kind its text had: a literal without fraction or exponent is a
natural number when it is not negative and fits 64 bits, a negative integer when it fits
64 signed bits, and otherwise, like every literal with a fraction or exponent, a binary64
float. Settings files are checked against these kinds, so `2` and `2.0` differ.

Objects keep their members in text order; readers that want a map pick the rule
(`Json.lookup` takes the last member of a name).
-/

namespace Rgbd

/-- A JSON value. -/
inductive Json where
  | null
  | bool (b : Bool)
  | nat (n : Nat)
  | int (n : Int)
  | float (x : Float)
  | str (s : String)
  | arr (items : List Json)
  | obj (members : List (String × Json))
  deriving Inhabited

namespace Json

/-- The value of the last member named `key`, as a map built from the members in order
would hold it. -/
def lookup (members : List (String × Json)) (key : String) : Option Json :=
  members.foldl (fun found m => if m.1 = key then some m.2 else found) none

def get? (v : Json) (key : String) : Option Json :=
  match v with
  | .obj members => lookup members key
  | _ => none

/-- Numbers are written in their shortest form that reads back, positionally while the
value is in `[1e-5, 1e16)`, and otherwise with a lower-case `e` and a signed exponent
(`1e+16`, `1.25e-7`). -/
def numberLayout : Decimal.Layout := ⟨16, -5, "e", true⟩

def hex4 (n : Nat) : String :=
  let digit := fun (d : Nat) => if d < 10 then Char.ofNat (48 + d) else Char.ofNat (87 + d)
  String.ofList [digit (n / 4096 % 16), digit (n / 256 % 16), digit (n / 16 % 16), digit (n % 16)]

/-- A string literal: quote and backslash escaped, control characters as short escapes
where JSON has one and as `\u00XX` otherwise; everything else as it is. -/
def quote (s : String) : String :=
  let body := s.foldl (fun acc c =>
    match c with
    | '"' => acc ++ "\\\""
    | '\\' => acc ++ "\\\\"
    | '\n' => acc ++ "\\n"
    | '\r' => acc ++ "\\r"
    | '\t' => acc ++ "\\t"
    | '\x08' => acc ++ "\\b"
    | '\x0c' => acc ++ "\\f"
    | c => if c.toNat < 32 then acc ++ "\\u" ++ hex4 c.toNat else acc.push c) ""
  "\"" ++ body ++ "\""

def floatText (x : Float) : String :=
  (numberLayout.float x).getD "null"

mutual
def writeTo (acc : String) : Json → String
  | .null => acc ++ "null"
  | .bool b => acc ++ (if b then "true" else "false")
  | .nat n => acc ++ toString n
  | .int n => acc ++ toString n
  | .float x => acc ++ floatText x
  | .str s => acc ++ quote s
  | .arr items => writeItems (acc.push '[') true items
  | .obj members => writeMembers (acc.push '\x7b') true members

def writeItems (acc : String) (first : Bool) : List Json → String
  | [] => acc.push ']'
  | v :: rest =>
    writeItems (writeTo (if first then acc else acc.push ',') v) false rest

def writeMembers (acc : String) (first : Bool) : List (String × Json) → String
  | [] => acc.push '\x7d'
  | (k, v) :: rest =>
    writeMembers (writeTo ((if first then acc else acc.push ',') ++ quote k ++ ":") v) false rest
end

def render (v : Json) : String := writeTo "" v

end Json

end Rgbd
