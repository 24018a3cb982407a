import AgentRelay.Relay.Operation

/-! Callers that come to the relay at the same time. In their order, each goes on until it has to
wait for something. Then the queue is worked through in rounds of as many requests as it holds: all
requests of a round are answered, after that their callers go on, and the next round is queued. -/
namespace AgentRelay.Relay

variable {ω α β γ : Type}

/-- What a caller wants of the relay. -/
inductive Task (ω α : Type) where
  | forward (operation : Operation ω α)
  /-- Something that needs no waiting. -/
  | immediate (run : Relay ω → α × Relay ω)
  | shutdown (answer : α)

/-- Carries a task out, with nobody else at the relay. -/
def Task.perform (net : Network ω) : Task ω α → Relay ω → α × Relay ω
  | .forward operation, r => operation.perform net r
  | .immediate run, r => run r
  | .shutdown a, r => (a, r.shutdown)

/-- A caller that waits for the reply to a request. -/
structure Waiting (ω α : Type) where
  address : String
  request : Request
  goOn : Reply → Relay ω → α × Relay ω

/-- What comes of a task before there is anything to wait for. A shutdown waits for the queue, but
its answer is known. -/
def Task.begin : Task ω α → Relay ω → (α ⊕ Waiting ω α) × Relay ω
  | .forward (.refused a), r => (.inl a, r)
  | .forward (.exchange address request goOn), r =>
    if r.accepting then (.inr ⟨address, request, goOn⟩, r)
    else
      let (a, r) := goOn (.error .shuttingDown) r
      (.inl a, r)
  | .immediate run, r =>
    let (a, r) := run r
    (.inl a, r)
  | .shutdown a, r => (.inl a, if r.accepting then r.stop else r)

/-- Takes one step after another. -/
def each (step : β → Relay ω → γ × Relay ω) : List β → Relay ω → List γ × Relay ω
  | [], r => ([], r)
  | b :: rest, r =>
    let (c, r) := step b r
    let (cs, r) := each step rest r
    (c :: cs, r)

/-- Answers all requests of a round, and lets their callers go on. -/
def round (net : Network ω) (callers : List (Waiting ω α)) (r : Relay ω) : List α × Relay ω :=
  let (replies, r) := each (fun w r => r.answer net w.address w.request) callers r
  each (fun (w, reply) r => w.goOn reply r) (callers.zip replies) r

/-- Cuts a list into pieces of `more + 1` elements; the last one may be shorter. -/
def pieces (more : Nat) : List β → List (List β)
  | [] => []
  | b :: rest => (b :: rest.take more) :: pieces more (rest.drop more)
termination_by bs => bs.length
decreasing_by simp only [List.length_drop, List.length_cons]; omega

/-- Puts answers in the places that are still open. -/
def fillIn : List (α ⊕ β) → List α → List α
  | .inl a :: begun, later => a :: fillIn begun later
  | .inr _ :: begun, a :: later => a :: fillIn begun later
  | _, _ => []

/-- Carries tasks out that all begin before any of them ends. -/
def concurrently (net : Network ω) (tasks : List (Task ω α)) (r : Relay ω) :
    List α × Relay ω :=
  let wasAccepting := r.accepting
  let (begun, r) := each Task.begin tasks (if tasks.isEmpty then r else r.start)
  let waiting := begun.filterMap Sum.getRight?
  let stopped := wasAccepting && !r.accepting
  let r := if stopped then r.log [Queue.stoppedEntry (min waiting.length (max 1 r.capacity))]
    else r
  let (answers, r) := each (round net) (pieces (r.capacity - 1) waiting) r
  (fillIn begun answers.flatten, if stopped then r.release else r)

end AgentRelay.Relay
