import AgentRelay.Json.Value
import AgentRelay.Text.Utf8
import AgentRelay.Wire.Key

/-! Messages as sequences of keyed fields. A schema lists the fields of a message; a field knows how
to write its part of a message and how to take one occurrence into it. Values equal to the default
are not written; of several occurrences of a scalar the last one stays, and those of a submessage
are merged. A message can also be seen as a JSON object with a member for every field. -/
namespace AgentRelay.Wire

/-! ### Scalars -/

/-- A value that is not a message. -/
structure Scalar (α : Type) where
  layout : WireType
  isDefault : α → Bool
  write : α → Bytes
  read : Bytes → Except Cause (α × Bytes)
  toJson : α → Json.Value
  ofJson? : Json.Value → Option α

/-- The bytes counted by the number in front of them. -/
def readDelimited (bytes : Bytes) : Except Cause (Bytes × Bytes) := do
  let (n, rest) ← readVarint bytes
  if rest.length < n then throw .underflow
  return (rest.take n, rest.drop n)

def writeDelimited (content : Bytes) : Bytes := writeVarint content.length ++ content

def Scalar.string : Scalar String where
  layout := .lengthDelimited
  isDefault s := s.isEmpty
  write s := writeDelimited (Text.utf8Bytes s)
  read bytes := do
    let (content, rest) ← readDelimited bytes
    match Text.ofUtf8? content with
    | some s => return (s, rest)
    | none => throw .notUtf8
  toJson s := .string s
  ofJson? := Json.Value.string?

def Scalar.int64 : Scalar Int64 where
  layout := .varint
  isDefault n := n == 0
  write n := writeVarint n.toUInt64.toNat
  read bytes := do
    let (n, rest) ← readVarint bytes
    return ((UInt64.ofNat n).toInt64, rest)
  toJson n := .number (.ofInt64 n)
  ofJson? := Json.Value.int64?

/-- Widened with its sign when written; only the low half is taken when read. -/
def Scalar.int32 : Scalar Int32 where
  layout := .varint
  isDefault n := n == 0
  write n := writeVarint n.toInt64.toUInt64.toNat
  read bytes := do
    let (n, rest) ← readVarint bytes
    return ((UInt32.ofNat n).toInt32, rest)
  toJson n := .number (.ofInt64 n.toInt64)
  ofJson? v := v.int64?.map Int64.toInt32

/-! ### Fields and schemas -/

structure Field (σ : Type) where
  number : Nat
  name : String
  write : σ → Bytes
  read : (depth : Nat) → WireType → σ → Bytes → Except Error (σ × Bytes)
  toJson : σ → Json.Value
  takeJson? : σ → Json.Value → Option σ

/-- The name in errors, where a reserved word is marked. -/
def Field.spelled {σ : Type} (field : Field σ) : String :=
  if field.name = "type" then "r#type" else field.name

structure Schema (σ : Type) where
  name : String
  empty : σ
  fields : List (Field σ)

/-- Messages and groups may nest this deep. -/
def maxDepth : Nat := 100

def failWith {α : Type} (cause : Cause) : Except Error α := .error ⟨[], cause⟩

def expectLayout (actual expected : WireType) : Except Error Unit :=
  if actual = expected then .ok () else failWith (.unexpectedWireType actual expected)

namespace Schema

variable {σ : Type}

def encode (schema : Schema σ) (v : σ) : Bytes := schema.fields.flatMap (·.write v)

/-- Takes one key and its value into the message. -/
def readField (schema : Schema σ) (depth : Nat) (v : σ) (bytes : Bytes) :
    Except Error (σ × Bytes) := do
  let (key, bytes) ← (readKey bytes).mapError (⟨[], ·⟩)
  match schema.fields.find? (·.number = key.field) with
  | some field =>
    (field.read depth key.layout v bytes).mapError (·.inside schema.name field.spelled)
  | none => return (v, ← (skipField depth key bytes).mapError (⟨[], ·⟩))

/-- Takes fields into the message while more than `limit` bytes remain. A field takes at least one
byte, so `steps` above the number of bytes are enough. -/
def readUntil (schema : Schema σ) (depth limit : Nat) :
    (steps : Nat) → σ → Bytes → Except Error (σ × Bytes)
  | 0, v, bytes => .ok (v, bytes)
  | steps + 1, v, bytes =>
    if bytes.length ≤ limit then .ok (v, bytes)
    else do
      let (v, bytes) ← schema.readField depth v bytes
      schema.readUntil depth limit steps v bytes

def decode (schema : Schema σ) (bytes : Bytes) : Except Error σ :=
  (schema.readUntil maxDepth 0 bytes.length schema.empty bytes).map (·.1)

/-- Takes a message of a counted length into `v`. Its fields may read past the length, which is then
an error. -/
def readNested (schema : Schema σ) : (depth : Nat) → WireType → σ → Bytes →
    Except Error (σ × Bytes)
  | depth, layout, v, bytes => do
    expectLayout layout .lengthDelimited
    match depth with
    | 0 => failWith .tooDeep
    | depth + 1 =>
      let (n, bytes) ← (readVarint bytes).mapError (⟨[], ·⟩)
      if bytes.length < n then failWith .underflow
      let limit := bytes.length - n
      let (v, rest) ← schema.readUntil depth limit bytes.length v bytes
      if rest.length ≠ limit then failWith .lengthExceeded
      return (v, rest)

def toJson (schema : Schema σ) (v : σ) : Json.Value :=
  .object (schema.fields.map fun field => (field.name, field.toJson v))

/-- A member that is missing or null leaves its field at the default. -/
def ofJson? (schema : Schema σ) (json : Json.Value) : Option σ :=
  schema.fields.foldlM (fun v field => match json.member? field.name with
    | none => some v
    | some .null => some v
    | some member => field.takeJson? v member) schema.empty

end Schema

namespace Field

variable {σ α : Type}

def keyed (number : Nat) (layout : WireType) (value : Bytes) : Bytes :=
  Key.write ⟨number, layout⟩ ++ value

def single (number : Nat) (name : String) (scalar : Scalar α) (get : σ → α) (set : σ → α → σ) :
    Field σ where
  number := number
  name := name
  write v :=
    if scalar.isDefault (get v) then [] else keyed number scalar.layout (scalar.write (get v))
  read _ layout v bytes := do
    expectLayout layout scalar.layout
    let (a, rest) ← (scalar.read bytes).mapError (⟨[], ·⟩)
    return (set v a, rest)
  toJson v := scalar.toJson (get v)
  takeJson? v json := (scalar.ofJson? json).map (set v)

def repeated (number : Nat) (name : String) (scalar : Scalar α) (get : σ → List α)
    (set : σ → List α → σ) : Field σ where
  number := number
  name := name
  write v := (get v).flatMap fun a => keyed number scalar.layout (scalar.write a)
  read _ layout v bytes := do
    expectLayout layout scalar.layout
    let (a, rest) ← (scalar.read bytes).mapError (⟨[], ·⟩)
    return (set v (get v ++ [a]), rest)
  toJson v := .array ((get v).map scalar.toJson)
  takeJson? v json := (json.items?.bind (·.mapM scalar.ofJson?)).map (set v)

def message (number : Nat) (name : String) (schema : Schema α) (get : σ → Option α)
    (set : σ → Option α → σ) : Field σ where
  number := number
  name := name
  write v := match get v with
    | none => []
    | some m => keyed number .lengthDelimited (writeDelimited (schema.encode m))
  read depth layout v bytes := do
    let (m, rest) ← schema.readNested depth layout ((get v).getD schema.empty) bytes
    return (set v (some m), rest)
  toJson v := match get v with
    | none => .null
    | some m => schema.toJson m
  takeJson? v json := (schema.ofJson? json).map (set v ∘ some)

def messages (number : Nat) (name : String) (schema : Schema α) (get : σ → List α)
    (set : σ → List α → σ) : Field σ where
  number := number
  name := name
  write v := (get v).flatMap fun m =>
    keyed number .lengthDelimited (writeDelimited (schema.encode m))
  read depth layout v bytes := do
    let (m, rest) ← schema.readNested depth layout schema.empty bytes
    return (set v (get v ++ [m]), rest)
  toJson v := .array ((get v).map schema.toJson)
  takeJson? v json := (json.items?.bind (·.mapM schema.ofJson?)).map (set v)

end Field

/-- The messages of one type as JSON: what they are called, how they are written and how they are
read. -/
structure JsonCodec where
  name : String
  encode? : Json.Value → Option Bytes
  decode : Bytes → Except Error Json.Value

def Schema.jsonCodec {σ : Type} (schema : Schema σ) : JsonCodec where
  name := schema.name
  encode? json := (schema.ofJson? json).map schema.encode
  decode bytes := (schema.decode bytes).map schema.toJson

end AgentRelay.Wire
