import AgentRelay.Json.Scan

/-! Reading JSON as a value of a given type. A decoder is told how many levels of nesting it may
still enter. An object is read into a record field by field: unknown members are passed over, a
field may appear once, and an array in place of the object gives the fields in their order. -/
namespace AgentRelay.Json

abbrev Decoder (α : Type) := (depth : Nat) → List Char → Except Failure (α × List Char)

/-- A text may nest this deep. -/
def maxDepth : Nat := 127

/-! ### The parts of arrays and objects -/

/-- Where the next element starts, if there is one. -/
def nextItem (first : Bool) (s : List Char) : Except Failure (Bool × List Char) :=
  match skipBlanks s with
  | [] => .error ⟨.endOfList, [], 0⟩
  | ']' :: s => .ok (false, ']' :: s)
  | c :: s =>
    if first then .ok (true, c :: s)
    else if c = ',' then
      match skipBlanks s with
      | [] => .error ⟨.endOfValue, [], 0⟩
      | ']' :: s => .error ⟨.trailingComma, ']' :: s, 1⟩
      | s => .ok (true, s)
    else .error ⟨.expectedListCommaOrEnd, c :: s, 1⟩

/-- Where the name of the next member starts, after its quote, if there is one. -/
def nextMember (first : Bool) (s : List Char) : Except Failure (Bool × List Char) :=
  match skipBlanks s with
  | [] => .error ⟨.endOfObject, [], 0⟩
  | '\x7d' :: s => .ok (false, '\x7d' :: s)
  | c :: s =>
    if first then
      if c = '"' then .ok (true, s) else .error ⟨.keyNotString, c :: s, 1⟩
    else if c = ',' then
      match skipBlanks s with
      | [] => .error ⟨.endOfValue, [], 0⟩
      | '"' :: s => .ok (true, s)
      | '\x7d' :: s => .error ⟨.trailingComma, '\x7d' :: s, 1⟩
      | s => .error ⟨.keyNotString, s, 1⟩
    else .error ⟨.expectedObjectCommaOrEnd, c :: s, 1⟩

def readColon (s : List Char) : Except Failure (List Char) :=
  match skipBlanks s with
  | [] => .error ⟨.endOfObject, [], 0⟩
  | ':' :: s => .ok s
  | s => .error ⟨.expectedColon, s, 1⟩

def closeList (s : List Char) : Except Failure (List Char) :=
  match skipBlanks s with
  | [] => .error ⟨.endOfList, [], 0⟩
  | ']' :: s => .ok s
  | ',' :: s =>
    match skipBlanks s with
    | [] => .error ⟨.trailingCharacters, [], 0⟩
    | ']' :: s => .error ⟨.trailingComma, ']' :: s, 1⟩
    | s => .error ⟨.trailingCharacters, s, 1⟩
  | s => .error ⟨.trailingCharacters, s, 1⟩

def closeObject (s : List Char) : Except Failure (List Char) :=
  match skipBlanks s with
  | [] => .error ⟨.endOfObject, [], 0⟩
  | '\x7d' :: s => .ok s
  | ',' :: s => .error ⟨.trailingComma, ',' :: s, 1⟩
  | s => .error ⟨.trailingCharacters, s, 1⟩

/-- A fault of the whole list is placed behind its end where that is what comes next. -/
def listFailure (cause : Cause) (s : List Char) : Failure :=
  match skipBlanks s with
  | ']' :: s => ⟨cause, s, 0⟩
  | s => ⟨cause, s, 0⟩

/-- A fault of the whole object is placed behind its end where that is what comes next. -/
def objectFailure (cause : Cause) (s : List Char) : Failure :=
  match skipBlanks s with
  | '\x7d' :: s => ⟨cause, s, 0⟩
  | s => ⟨cause, s, 0⟩

/-- Reads elements up to the closing bracket. An element takes at least one character, so `steps`
above the length of the text are enough. -/
def readItems {α : Type} (element : List Char → Except Failure (α × List Char)) :
    (steps : Nat) → (first : Bool) → List Char → Except Failure (List α × List Char)
  | 0, _, s => .error ⟨.endOfList, s, 0⟩
  | steps + 1, first, s => do
    match ← nextItem first s with
    | (false, s) => return ([], s)
    | (true, s) =>
      let (item, s) ← element s
      let (items, s) ← readItems element steps false s
      return (item :: items, s)

/-- Folds the members up to the closing brace; `member` is given the name and what follows it. -/
def readMembers {σ : Type} (member : σ → String → List Char → Except Failure (σ × List Char)) :
    (steps : Nat) → (first : Bool) → σ → List Char → Except Failure (σ × List Char)
  | 0, _, _, s => .error ⟨.endOfObject, s, 0⟩
  | steps + 1, first, state, s => do
    match ← nextMember first s with
    | (false, s) => return (state, s)
    | (true, s) =>
      let (name, s) ← readString [] s
      let (state, s) ← member state name s
      readMembers member steps false state s

/-! ### Untyped values -/

/-- Sets a member to the value after the colon; the last one of a name stays. -/
def putMember {α : Type} (element : List Char → Except Failure (α × List Char))
    (members : List (String × α)) (name : String) (s : List Char) :
    Except Failure (List (String × α) × List Char) := do
  let (v, s) ← element (← readColon s)
  return (Ordered.insert name v members, s)

def readNumberValue (positive : Bool) (s : List Char) : Except Failure (Value × List Char) := do
  let (n, s) ← readNumber positive s
  return (.number n, s)

def Decoder.value : Decoder Value
  | depth, s =>
    match skipBlanks s with
    | [] => .error ⟨.endOfValue, [], 0⟩
    | 'n' :: s => do return (.null, ← readWord ['u', 'l', 'l'] s)
    | 't' :: s => do return (.bool true, ← readWord ['r', 'u', 'e'] s)
    | 'f' :: s => do return (.bool false, ← readWord ['a', 'l', 's', 'e'] s)
    | '-' :: s => readNumberValue false s
    | '"' :: s => do
      let (text, s) ← readString [] s
      return (.string text, s)
    | '[' :: s =>
      match depth with
      | 0 => .error ⟨.tooDeep, '[' :: s, 1⟩
      | depth + 1 => do
        let (items, s) ← readItems (Decoder.value depth) (s.length + 1) true s
        return (.array items, ← closeList s)
    | '\x7b' :: s =>
      match depth with
      | 0 => .error ⟨.tooDeep, '\x7b' :: s, 1⟩
      | depth + 1 => do
        let (members, s) ←
          readMembers (putMember (Decoder.value depth)) (s.length + 1) true [] s
        return (.object members, ← closeObject s)
    | c :: s =>
      if c.isDigit then readNumberValue true (c :: s) else .error ⟨.expectedValue, c :: s, 1⟩

/-! ### Typed values -/

def Number.found : Number → Found
  | .integer n _ => .integer n
  | .float x => .float x

/-- The failure for a value that is not of the type `expected`. A scalar is read before it is
refused. -/
def wrongType (expected : String) (s : List Char) : Failure :=
  let refuse (found : Found) (s : List Char) : Failure := ⟨.invalidType found expected, s, 0⟩
  let settle {α : Type} (found : α → Found) : Except Failure (α × List Char) → Failure
    | .ok (a, s) => refuse (found a) s
    | .error f => f
  match s with
  | 'n' :: s => settle (fun () => .null) ((readWord ['u', 'l', 'l'] s).map ((), ·))
  | 't' :: s => settle (fun () => .bool true) ((readWord ['r', 'u', 'e'] s).map ((), ·))
  | 'f' :: s => settle (fun () => .bool false) ((readWord ['a', 'l', 's', 'e'] s).map ((), ·))
  | '-' :: s => settle Number.found (readNumber false s)
  | '"' :: s => settle Found.string (readString [] s)
  | '[' :: s => refuse .sequence ('[' :: s)
  | '\x7b' :: s => refuse .map ('\x7b' :: s)
  | [] => ⟨.expectedValue, [], 0⟩
  | c :: s =>
    if c.isDigit then settle Number.found (readNumber true (c :: s))
    else ⟨.expectedValue, c :: s, 1⟩

def Decoder.string : Decoder String := fun _ s =>
  match skipBlanks s with
  | [] => .error ⟨.endOfValue, [], 0⟩
  | '"' :: s => readString [] s
  | s => .error (wrongType "a string" s)

/-- An integer from `low` up to, and without, `high`. -/
def Decoder.integer (low high : Int) (name : String) : Decoder Int := fun _ s =>
  let check : Except Failure (Number × List Char) → Except Failure (Int × List Char)
    | .error f => .error f
    | .ok (.float x, s) => .error ⟨.invalidType (.float x) name, s, 0⟩
    | .ok (.integer n _, s) =>
      if low ≤ n ∧ n < high then .ok (n, s) else .error ⟨.invalidValue (.integer n) name, s, 0⟩
  match skipBlanks s with
  | [] => .error ⟨.endOfValue, [], 0⟩
  | '-' :: s => check (readNumber false s)
  | c :: s =>
    if c.isDigit then check (readNumber true (c :: s)) else .error (wrongType name (c :: s))

def Decoder.map {α β : Type} (f : α → β) (decode : Decoder α) : Decoder β := fun depth s => do
  let (a, s) ← decode depth s
  return (f a, s)

def Decoder.int64 : Decoder Int64 :=
  .map Int64.ofInt (.integer (-0x8000000000000000) 0x8000000000000000 "i64")

def Decoder.uint64 : Decoder UInt64 :=
  .map (UInt64.ofNat ·.toNat) (.integer 0 0x10000000000000000 "u64")

def Decoder.uint16 : Decoder UInt16 :=
  .map (UInt16.ofNat ·.toNat) (.integer 0 0x10000 "u16")

def Decoder.option {α : Type} (decode : Decoder α) : Decoder (Option α) := fun depth s =>
  match skipBlanks s with
  | 'n' :: s => do return (none, ← readWord ['u', 'l', 'l'] s)
  | s => do
    let (a, s) ← decode depth s
    return (some a, s)

def Decoder.list {α : Type} (decode : Decoder α) : Decoder (List α) := fun depth s =>
  match skipBlanks s with
  | [] => .error ⟨.endOfValue, [], 0⟩
  | '[' :: s =>
    match depth with
    | 0 => .error ⟨.tooDeep, '[' :: s, 1⟩
    | depth + 1 => do
      let (items, s) ← readItems (decode depth) (s.length + 1) true s
      return (items, ← closeList s)
  | s => .error (wrongType "a sequence" s)

/-- An object whose members all have one type. -/
def Decoder.members {α : Type} (decode : Decoder α) : Decoder (List (String × α)) := fun depth s =>
  match skipBlanks s with
  | [] => .error ⟨.endOfValue, [], 0⟩
  | '\x7b' :: s =>
    match depth with
    | 0 => .error ⟨.tooDeep, '\x7b' :: s, 1⟩
    | depth + 1 => do
      let (members, s) ← readMembers (putMember (decode depth)) (s.length + 1) true [] s
      return (members, ← closeObject s)
  | s => .error (wrongType "a map" s)

/-- One of two names, alone or as the only member of an object with a null value. -/
def Decoder.oneOf {α : Type} (first second : String × α) : Decoder α := fun depth s =>
  let variant (s : List Char) : Except Failure (α × List Char) := do
    let (name, s) ← readString [] s
    if name = first.1 then return (first.2, s)
    else if name = second.1 then return (second.2, s)
    else throw ⟨.unknownVariant name first.1 second.1, s, 0⟩
  match skipBlanks s with
  | [] => .error ⟨.endOfValue, [], 0⟩
  | '"' :: s => variant s
  | '\x7b' :: s =>
    if depth = 0 then .error ⟨.tooDeep, '\x7b' :: s, 1⟩
    else do
      let (a, s) ← match ← nextMember true s with
        | (true, s) => variant s
        | (false, s) => throw ⟨.expectedValue, s, 1⟩
      let s ← match skipBlanks (← readColon s) with
        | [] => .error ⟨.endOfValue, [], 0⟩
        | 'n' :: s => readWord ['u', 'l', 'l'] s
        | s => .error (wrongType "unit" s)
      match skipBlanks s with
      | [] => .error ⟨.endOfObject, [], 0⟩
      | '\x7d' :: s => return (a, s)
      | s => .error ⟨.expectedValue, s, 0⟩
  | c :: s => .error ⟨.expectedValue, c :: s, 1⟩

/-! ### Records -/

/-- A field of a record that is being filled. In an array an optional one may be left out at the
end. -/
structure Field (σ : Type) where
  name : String
  optional : Bool
  isSet : σ → Bool
  read : σ → Decoder σ

def Field.of {σ α : Type} (name : String) (optional : Bool) (get : σ → Option α)
    (set : σ → α → σ) (decode : Decoder α) : Field σ where
  name := name
  optional := optional
  isSet draft := (get draft).isSome
  read draft := decode.map (set draft)

/-- Takes one member of an object into the draft. -/
def takeMember {σ : Type} (fields : List (Field σ)) (depth : Nat) (draft : σ) (name : String)
    (s : List Char) : Except Failure (σ × List Char) :=
  match fields.find? (·.name = name) with
  | some field =>
    if field.isSet draft then .error (objectFailure (.duplicateField name) s)
    else do field.read draft depth (← readColon s)
  | none => do return (draft, ← skipValue (← readColon s))

/-- Takes the elements of an array into the draft, one a field. -/
def takeItems {σ : Type} (expected : String) (depth : Nat) :
    (fields : List (Field σ)) → (index : Nat) → σ → List Char → Except Failure (σ × List Char)
  | [], _, draft, s => .ok (draft, s)
  | field :: fields, index, draft, s => do
    match ← nextItem (index = 0) s with
    | (true, s) =>
      let (draft, s) ← field.read draft depth s
      takeItems expected depth fields (index + 1) draft s
    | (false, s) =>
      if field.optional then takeItems expected depth fields (index + 1) draft s
      else throw (listFailure (.invalidLength index expected) s)

/-- A record: the name in messages, the fields, and what a filled draft gives. -/
structure Record (σ α : Type) where
  name : String
  fields : List (Field σ)
  empty : σ
  finish : σ → Except Cause α

def Record.expected {σ α : Type} (r : Record σ α) : String := "struct " ++ r.name

def Record.expectedItems {σ α : Type} (r : Record σ α) : String :=
  r.expected ++ " with " ++ toString r.fields.length ++
    if r.fields.length = 1 then " element" else " elements"

def Record.decoder {σ α : Type} (r : Record σ α) : Decoder α := fun depth s =>
  match skipBlanks s with
  | [] => .error ⟨.endOfValue, [], 0⟩
  | '[' :: s =>
    match depth with
    | 0 => .error ⟨.tooDeep, '[' :: s, 1⟩
    | depth + 1 => do
      let (draft, s) ← takeItems r.expectedItems depth r.fields 0 r.empty s
      match r.finish draft with
      | .ok a => return (a, ← closeList s)
      | .error cause => throw (listFailure cause s)
  | '\x7b' :: s =>
    match depth with
    | 0 => .error ⟨.tooDeep, '\x7b' :: s, 1⟩
    | depth + 1 => do
      let (draft, s) ← readMembers (takeMember r.fields depth) (s.length + 1) true r.empty s
      match r.finish draft with
      | .ok a => return (a, ← closeObject s)
      | .error cause => throw (objectFailure cause s)
  | s => .error (wrongType r.expected s)

/-- The value of a field that has to be there. -/
def required {α : Type} (name : String) : Option α → Except Cause α
  | some a => .ok a
  | none => .error (.missingField name)

/-! ### Whole texts -/

/-- Nothing but blanks may follow the value. -/
def decodeText {α : Type} (decode : Decoder α) (text : String) : Except Error α :=
  match decode maxDepth text.toList with
  | .error f => .error (f.locate text)
  | .ok (a, s) =>
    match skipBlanks s with
    | [] => .ok a
    | s => .error (Failure.locate text ⟨.trailingCharacters, s, 1⟩)

def parse (text : String) : Except Error Value := decodeText Decoder.value text

end AgentRelay.Json
