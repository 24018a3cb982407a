import AgentRelay.Ordered

/-! JSON values. An integer lies in the range of signed or of unsigned 64-bit words, any other
number is a double; an object that was read has its members in ascending order of their names. -/
namespace AgentRelay.Json

inductive Number where
  | integer (value : Int) (inRange : -0x8000000000000000 ≤ value ∧ value < 0x10000000000000000)
  | float (value : Float)

inductive Value where
  | null
  | bool (b : Bool)
  | number (n : Number)
  | string (s : String)
  | array (items : List Value)
  | object (members : List (String × Value))

instance : Inhabited Value := ⟨.null⟩

def Number.ofUInt16 (n : UInt16) : Number :=
  .integer n.toNat ⟨by omega, by have := n.toNat_lt; omega⟩

def Number.ofInt64 (n : Int64) : Number :=
  .integer n.toInt ⟨by have := n.le_toInt; omega, by have := n.toInt_lt; omega⟩

namespace Value

def member? (name : String) : Value → Option Value
  | .object members => Ordered.find? name members
  | _ => none

def items? : Value → Option (List Value)
  | .array items => some items
  | _ => none

def string? : Value → Option String
  | .string s => some s
  | _ => none

/-- The number as a signed 64-bit word, where it is an integer of that range. -/
def int64? : Value → Option Int64
  | .number (.integer n _) => if n < 0x8000000000000000 then some (Int64.ofInt n) else none
  | _ => none

/-- An object with the member set; any other value is unchanged. -/
def setMember (holder : Value) (name : String) (v : Value) : Value :=
  match holder with
  | .object members => .object (Ordered.insert name v members)
  | other => other

end Value

end AgentRelay.Json
