import AgentRelay.Ordered

/-! Error counters of an agent and of the apps behind it. A counter holds the failures since the
last success of what it counts. Counters are numbers without a bound: that a word of 64 bits would
turn over after 2 ^ 64 failures in a row, which no relay lives to see, is not modelled. -/
namespace AgentRelay

namespace Stats

/-- The access point of an app as its agent sees it. -/
structure Key where
  address : String
  port : UInt16
deriving DecidableEq

instance : LT Key where
  lt a b := a.address < b.address ∨ (a.address = b.address ∧ a.port < b.port)

instance : DecidableLT Key := fun a b =>
  inferInstanceAs (Decidable (a.address < b.address ∨ (a.address = b.address ∧ a.port < b.port)))

/-- Failures of the control agent and of the daemons behind it, by name. -/
structure KeaCounters where
  controlAgent : Nat := 0
  daemons : List (String × Nat) := []
deriving DecidableEq, Repr

structure Bind9Counters where
  rndc : Nat := 0
  statistics : Nat := 0
deriving DecidableEq, Repr

inductive Bundle where
  | kea (counters : KeaCounters)
  | bind9 (counters : Bind9Counters)
deriving DecidableEq, Repr

end Stats

/-- The exchanges with the agent that failed, and the counters of its apps in the order of their
keys. -/
structure Stats where
  currentErrors : Nat := 0
  bundles : List (Stats.Key × Stats.Bundle) := []
deriving DecidableEq

namespace Stats

def kea? (s : Stats) (key : Key) : Option KeaCounters :=
  match Ordered.find? key s.bundles with
  | some (.kea counters) => some counters
  | _ => none

def bind9? (s : Stats) (key : Key) : Option Bind9Counters :=
  match Ordered.find? key s.bundles with
  | some (.bind9 counters) => some counters
  | _ => none

/-- Changes the counters of a Kea app. They start from zero where the key has none or belonged to an
app of the other kind. -/
def updateKea (s : Stats) (key : Key) (f : KeaCounters → KeaCounters) : Stats :=
  { s with bundles := Ordered.insert key (.kea (f ((s.kea? key).getD {}))) s.bundles }

/-- Changes the counters of a BIND 9 app in the same way. -/
def updateBind9 (s : Stats) (key : Key) (f : Bind9Counters → Bind9Counters) : Stats :=
  { s with bundles := Ordered.insert key (.bind9 (f ((s.bind9? key).getD {}))) s.bundles }

theorem kea?_updateKea (s : Stats) (key : Key) (f : KeaCounters → KeaCounters) :
    (s.updateKea key f).kea? key = some (f ((s.kea? key).getD {})) := by
  simp [updateKea, kea?, Ordered.find?_insert_self]

theorem bind9?_updateBind9 (s : Stats) (key : Key) (f : Bind9Counters → Bind9Counters) :
    (s.updateBind9 key f).bind9? key = some (f ((s.bind9? key).getD {})) := by
  simp [updateBind9, bind9?, Ordered.find?_insert_self]

end Stats

end AgentRelay
