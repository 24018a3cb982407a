/-! What is measured: how many calls ended how, how many durations were taken, how many reconnects
succeeded, and the number of agents with a cached connection. Measurements are kept in the order in
which they are made; the totals are counts over them. -/
namespace AgentRelay

namespace Metrics

/-- How a call ended: at the first attempt, at the retry after a reconnect, or not at all. -/
inductive Outcome where
  | success
  | retried
  | error
deriving DecidableEq, Repr

def Outcome.name : Outcome → String
  | .success => "success"
  | .retried => "retried"
  | .error => "error"

inductive Measurement where
  | call (operation : String) (outcome : Outcome)
  | duration (operation : String)
  | reconnect (success : Bool)
  | connections (count : Int)
deriving DecidableEq, Repr

end Metrics

/-- The measurements so far, the oldest first. -/
abbrev Metrics := List Metrics.Measurement

namespace Metrics

/-- Measures a call that has ended. -/
def complete (operation : String) (outcome : Outcome) : Metrics :=
  [.call operation outcome, .duration operation]

def calls (m : Metrics) (operation : String) (outcome : Outcome) : Nat :=
  m.count (.call operation outcome)

def durations (m : Metrics) (operation : String) : Nat := m.count (.duration operation)

def reconnects (m : Metrics) (success : Bool) : Nat := m.count (.reconnect success)

/-- The last value of the gauge of agents with a cached connection. -/
def connections (m : Metrics) : Option Int :=
  m.foldl (fun last x => match x with
    | .connections count => some count
    | _ => last) none

/-- The operations that occur in the measurements, each once. -/
def operations (m : Metrics) : List String :=
  (m.filterMap fun x => match x with
    | .call operation _ => some operation
    | .duration operation => some operation
    | _ => none).eraseDups

end Metrics

end AgentRelay
