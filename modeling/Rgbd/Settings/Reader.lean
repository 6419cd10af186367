import Rgbd.Settings.Basic
import Rgbd.Json.Shape
import Rgbd.Optics.Intrinsics
import Rgbd.Text.Quote

/-!
Reading settings from JSON.

A record is read from an object or from an array. Object members name fields; members
that name no field are skipped, and fields without a member keep their defaults. Array
items fill the fields in declaration order, and missing items leave defaults. Formats are
read from their name or from an object with the name as its only key and `null` as its
value. Numbers convert as follows: any number reads as a binary64 or binary32 value
(rounded to nearest), and only integers from 0 to 2^32 - 1 read as 32-bit words.

Members are visited in one of two orders. A JSON value already held in memory is an
unordered map, so its members are visited sorted by key with the last of equal keys
kept; a settings text is read in document order, and naming a field twice is an error.
The first member that fails decides the error.
-/

namespace Rgbd.Settings

/-- What a JSON value turned out to be, as decoding errors describe it. -/
inductive Unexpected where
  | null
  | bool (b : Bool)
  | unsigned (n : Nat)
  | signed (n : Int)
  | float (x : Float)
  | string (s : String)
  | sequence
  | map

namespace Unexpected

def text : Unexpected → String
  | null => "null"
  | bool b => "boolean " ++ "`" ++ toString b ++ "`"
  | unsigned n => "integer " ++ "`" ++ toString n ++ "`"
  | signed n => "integer " ++ "`" ++ toString n ++ "`"
  | float x => "floating point " ++ "`" ++ Json.floatText x ++ "`"
  | string s => "string " ++ Text.quoted s
  | sequence => "sequence"
  | map => "map"

end Unexpected

def unexpected : Json → Unexpected
  | .null => .null
  | .bool b => .bool b
  | .nat n => .unsigned n
  | .int n => .signed n
  | .float x => .float x
  | .str s => .string s
  | .arr _ => .sequence
  | .obj _ => .map

/-- Why settings could not be read. -/
inductive DecodeError where
  | invalidType (found : Unexpected) (expected : String)
  | invalidValue (found : Unexpected) (expected : String)
  | invalidLength (length : Nat) (expected : String)
  | unknownVariant (name : String) (variants : List String)
  | duplicateField (name : String)
  | malformed (e : Json.ReadError)

def oneOf : List String → String
  | [] => "nothing"
  | [a] => "`" ++ a ++ "`"
  | [a, b] => "`" ++ a ++ "` or `" ++ b ++ "`"
  | names => "one of " ++ ", ".intercalate (names.map fun n => "`" ++ n ++ "`")

def DecodeError.message : DecodeError → String
  | .invalidType found expected => "invalid type: " ++ found.text ++ ", expected " ++ expected
  | .invalidValue found expected => "invalid value: " ++ found.text ++ ", expected " ++ expected
  | .invalidLength n expected => "invalid length " ++ toString n ++ ", expected " ++ expected
  | .unknownVariant name [] => "unknown variant " ++ "`" ++ name ++ "`, there are no variants"
  | .unknownVariant name variants =>
    "unknown variant " ++ "`" ++ name ++ "`, expected " ++ oneOf variants
  | .duplicateField name => "duplicate field " ++ "`" ++ name ++ "`"
  | .malformed _ => "invalid JSON"

abbrev Decode := Except DecodeError

abbrev Strict := Bool

def insertMember (m : String × Json) : List (String × Json) → List (String × Json)
  | [] => [m]
  | n :: rest =>
    if m.1 < n.1 then m :: n :: rest
    else if m.1 = n.1 then m :: rest
    else n :: insertMember m rest

def mapMembers (members : List (String × Json)) : List (String × Json) :=
  members.foldl (fun acc m => insertMember m acc) []

mutual
/-- The value a JSON text stands for when objects are maps: at every depth, members sorted
by key with the last of equal keys kept. -/
def canonical : Json → Json
  | .arr items => .arr (canonicalItems items)
  | .obj members => .obj (mapMembers (canonicalMembers members))
  | v => v

def canonicalItems : List Json → List Json
  | [] => []
  | v :: rest => canonical v :: canonicalItems rest

def canonicalMembers : List (String × Json) → List (String × Json)
  | [] => []
  | (k, v) :: rest => (k, canonical v) :: canonicalMembers rest
end

def visitOrder (strict : Strict) (members : List (String × Json)) : List (String × Json) :=
  if strict then members else mapMembers members

def readBool : Json → Decode Bool
  | .bool b => pure b
  | v => throw (.invalidType (unexpected v) "a boolean")

def readWord : Json → Decode Nat
  | .nat n =>
    if n < Nat.pow 2 32 then pure n else throw (.invalidValue (.unsigned n) "u32")
  | .int n =>
    if 0 ≤ n ∧ n < Int.pow 2 32 then pure n.toNat else throw (.invalidValue (.signed n) "u32")
  | v => throw (.invalidType (unexpected v) "u32")

def readFloat : Json → Decode Float
  | .nat n => pure n.toUInt64.toFloat
  | .int n => pure (if n < 0 then -n.natAbs.toUInt64.toFloat else n.toNat.toUInt64.toFloat)
  | .float x => pure x
  | v => throw (.invalidType (unexpected v) "f64")

def readFloat32 : Json → Decode Float32
  | .nat n => pure (Float32.ofWord n)
  | .int n => pure (if n < 0 then -Float32.ofWord n.natAbs else Float32.ofWord n.toNat)
  | .float x => pure x.toFloat32
  | v => throw (.invalidType (unexpected v) "f32")

def readString : Json → Decode String
  | .str s => pure s
  | v => throw (.invalidType (unexpected v) "a string")

def readOption {α : Type} (read : Json → Decode α) : Json → Decode (Option α)
  | .null => pure none
  | v => some <$> read v

/-- A variant without data, named by a string or by the only key of an object whose
value is `null`. -/
def readUnitVariant {α : Type} (strict : Strict) (names : List String)
    (ofName? : String → Option α) : Json → Decode α
  | .str s =>
    match ofName? s with
    | some a => pure a
    | none => throw (.unknownVariant s names)
  | .obj members =>
    match visitOrder strict members with
    | [(s, v)] =>
      match ofName? s with
      | none => throw (.unknownVariant s names)
      | some a =>
        match v with
        | .null => pure a
        | v => throw (.invalidType (unexpected v) "unit")
    | _ => throw (.invalidValue .map "map with a single key")
  | v => throw (.invalidType (unexpected v) "string or map")

def readFormat (strict : Strict) : Json → Decode PixelFormat :=
  readUnitVariant strict (PixelFormat.all.map PixelFormat.name) PixelFormat.ofName?

/-- A field of a record of type `α`: its name, what its value is read as from text, and
how a value updates it. -/
structure Field (α : Type) where
  name : String
  shape : Json.Shape
  update : Json → α → Decode α

def recordShape {α : Type} (fields : List (Field α)) : Json.Shape :=
  .record (fields.map fun f => (f.name, f.shape))

/-- Applies object members to a record, in visiting order. `seen` holds the names of
the fields already given. -/
def applyMembers {α : Type} (strict : Strict) (fields : List (Field α)) :
    List String → α → List (String × Json) → Decode α
  | _, r, [] => pure r
  | seen, r, (k, v) :: rest =>
    match fields.find? (·.name == k) with
    | none => applyMembers strict fields seen r rest
    | some f =>
      if strict && seen.contains k then throw (.duplicateField k)
      else do
        let r ← f.update v r
        applyMembers strict fields (k :: seen) r rest

def applyItems {α : Type} : List (Field α) → α → List Json → Decode α
  | f :: fields, r, v :: items => do applyItems fields (← f.update v r) items
  | _, r, _ => pure r

def readRecord {α : Type} (strict : Strict) (name : String) (fields : List (Field α))
    (defaults : α) : Json → Decode α
  | .obj members => applyMembers strict fields [] defaults (visitOrder strict members)
  | .arr items => do
    let r ← applyItems fields defaults items
    if items.length ≤ fields.length then pure r
    else throw (.invalidLength items.length "fewer elements in array")
  | v => throw (.invalidType (unexpected v) ("struct " ++ name))

def streamFields (strict : Strict) : List (Field StreamSettings) :=
  [ ⟨"enabled", .value, fun v s => return { s with enabled := ← readBool v }⟩,
    ⟨"width", .value, fun v s => return { s with width := ← readWord v }⟩,
    ⟨"height", .value, fun v s => return { s with height := ← readWord v }⟩,
    ⟨"fps", .value, fun v s => return { s with fps := ← readWord v }⟩,
    ⟨"format", .value,
      fun v s => return { s with format := ← readOption (readFormat strict) v }⟩ ]

def readStream (strict : Strict) : Json → Decode StreamSettings :=
  readRecord strict "StreamSettings" (streamFields strict) {}

def streamShape : Json.Shape := recordShape (streamFields true)

def filterFields : List (Field FilterSettings) :=
  [ ⟨"depth_to_disparity", .value,
      fun v f => return { f with depthToDisparity := ← readBool v }⟩,
    ⟨"spatial", .value, fun v f => return { f with spatial := ← readBool v }⟩,
    ⟨"temporal", .value, fun v f => return { f with temporal := ← readBool v }⟩,
    ⟨"disparity_to_depth", .value,
      fun v f => return { f with disparityToDepth := ← readBool v }⟩ ]

def readFilters (strict : Strict) : Json → Decode FilterSettings :=
  readRecord strict "FilterSettings" filterFields {}

def settingsFields (strict : Strict) : List (Field Settings) :=
  [ ⟨"depth", streamShape, fun v s => return { s with depth := ← readStream strict v }⟩,
    ⟨"infra1", streamShape, fun v s => return { s with infra1 := ← readStream strict v }⟩,
    ⟨"infra2", streamShape, fun v s => return { s with infra2 := ← readStream strict v }⟩,
    ⟨"color", streamShape, fun v s => return { s with color := ← readStream strict v }⟩,
    ⟨"fisheye", streamShape, fun v s => return { s with fisheye := ← readStream strict v }⟩,
    ⟨"gyro", streamShape, fun v s => return { s with gyro := ← readStream strict v }⟩,
    ⟨"accel", streamShape, fun v s => return { s with accel := ← readStream strict v }⟩,
    ⟨"align_depth", .value, fun v s => return { s with alignDepth := ← readBool v }⟩,
    ⟨"pointcloud", .value, fun v s => return { s with pointcloud := ← readBool v }⟩,
    ⟨"sync_frames", .value, fun v s => return { s with syncFrames := ← readBool v }⟩,
    ⟨"host_time", .value, fun v s => return { s with hostTime := ← readBool v }⟩,
    ⟨"watchdog_timeout_secs", .value,
      fun v s => return { s with watchdogTimeoutSecs := ← readFloat v }⟩,
    ⟨"serial_no", .value, fun v s => return { s with serialNo := ← readOption readString v }⟩,
    ⟨"filters", recordShape filterFields,
      fun v s => return { s with filters := ← readFilters strict v }⟩,
    ⟨"output_depth_unit", .value,
      fun v s => return { s with outputDepthUnit := ← readFloat32 v }⟩ ]

def ofJson (v : Json) : Decode Settings :=
  readRecord false "Settings" (settingsFields false) {} v

/-- Settings from the text of a settings file. Members that name no field are only
checked to be well-formed. -/
def read (text : String) : Decode Settings :=
  match Json.parseShaped (recordShape (settingsFields true)) text with
  | .error e => throw (.malformed e)
  | .ok v => readRecord true "Settings" (settingsFields true) {} v

end Rgbd.Settings
