import AgentRelay.Proofs.Queue.Conversation

/-! What an address is answered. The rules of a call leave no choice, so they can be run: this gives
the traffic, the reply and the scene afterwards, and also what the connector and the agent have
answered meanwhile. From there on a call is known by these answers alone: two calls of the same
request, to addresses whose records are in the same state, that get the same answers as far as both
go, are the same but for the numbers of their connections. -/
namespace AgentRelay

/-- The event, with its connection under another name. -/
def Traffic.rename (name : Nat → Nat) : Traffic → Traffic
  | .connected address c => .connected address (name c)
  | .refused address e => .refused address e
  | .called c address request => .called (name c) address request
  | .dropped c => .dropped (name c)

namespace Queue

open Registry (Scene hangUp)

/-! ### Answers -/

/-- What the connector and the agent have answered, each in its order. -/
structure Heard where
  connects : List (Option Error) := []
  calls : List (Except Rpc.Status Response) := []

namespace Heard

instance : Append Heard where
  append h k := ⟨h.connects ++ k.connects, h.calls ++ k.calls⟩

/-- The same answers in the same order, as far as both go. -/
def Consistent (h k : Heard) : Prop :=
  (∃ script, h.connects <+: script ∧ k.connects <+: script) ∧
    ∃ script, h.calls <+: script ∧ k.calls <+: script

theorem Consistent.refl (h : Heard) : h.Consistent h :=
  ⟨⟨h.connects, List.prefix_rfl, List.prefix_rfl⟩, h.calls, List.prefix_rfl, List.prefix_rfl⟩

variable {h k rest more : Heard}

theorem Consistent.of_append (hk : (h ++ rest).Consistent (k ++ more)) : h.Consistent k := by
  obtain ⟨⟨connects, hconnects, hconnects'⟩, calls, hcalls, hcalls'⟩ := hk
  exact ⟨⟨connects, (List.prefix_append _ _).trans hconnects,
      (List.prefix_append _ _).trans hconnects'⟩,
    calls, (List.prefix_append _ _).trans hcalls, (List.prefix_append _ _).trans hcalls'⟩

theorem consistent_append_left {α : Type} {l m n : List α}
    (h : ∃ script, l ++ m <+: script ∧ l ++ n <+: script) :
    ∃ script, m <+: script ∧ n <+: script := by
  obtain ⟨_, ⟨last, rfl⟩, hn⟩ := h
  rw [List.append_assoc, List.prefix_append_right_inj] at hn
  exact ⟨m ++ last, List.prefix_append m last, hn⟩

/-- After the same answers, the further ones are to be compared. -/
theorem Consistent.further (hk : (h ++ rest).Consistent (h ++ more)) : rest.Consistent more :=
  ⟨consistent_append_left hk.1, consistent_append_left hk.2⟩

theorem head_eq {α : Type} {x y : α} {l m : List α}
    (h : ∃ script, x :: l <+: script ∧ y :: m <+: script) : x = y := by
  obtain ⟨_, ⟨last, rfl⟩, hy⟩ := h
  exact (List.cons_prefix_cons.1 hy).1.symm

end Heard

/-! ### The rules, run -/

/-- A call as a whole. -/
structure Talk (ω : Type) where
  sent : List Traffic
  heard : Heard
  reply : Reply
  after : Scene ω

section

variable {ω : Type}

/-- The talk that began with something else. -/
def Talk.prepend (sent : List Traffic) (heard : Heard) (t : Talk ω) : Talk ω :=
  { t with sent := sent ++ t.sent, heard := heard ++ t.heard }

variable (net : Network ω) (address : String) (request : Request)

/-- From the reconnect on. -/
def secondTalk (agent : Agent) (n : Nat) (w : ω) : Talk ω :=
  match net.connect address w with
  | (some e, w) =>
    { sent := hangUp agent ++ [.refused address e]
      heard := { connects := [some e] }
      reply := .error (.reconnectFailed address e)
      after := ⟨w, some { agent with connection := none }, n⟩ }
  | (none, w) =>
    let (turn, w) := net.call address (n + 1) w
    { sent := hangUp agent ++
        [.connected address (n + 1), .called (n + 1) address request]
      heard := { connects := [none], calls := [turn.remote.answer request] }
      reply := (turn.remote.answer request).mapError (.transport address)
      after := ⟨w, some { agent with connection := some (n + 1) }, n + 1⟩ }

/-- From the first attempt on. -/
def firstTalk (agent : Agent) (n : Nat) (w : ω) : Talk ω :=
  match agent.connection with
  | none => secondTalk net address request agent n w
  | some c =>
    let (turn, w) := net.call address c w
    match turn.remote.answer request with
    | .ok response =>
      { sent := [.called c address request]
        heard := { calls := [.ok response] }
        reply := .ok response
        after := ⟨w, some agent, n⟩ }
    | .error status =>
      (secondTalk net address request agent n w).prepend [.called c address request]
        { calls := [.error status] }

def talk (s : Scene ω) : Talk ω :=
  match s.agent with
  | some agent => firstTalk net address request agent s.opened s.world
  | none =>
    match net.connect address s.world with
    | (some e, w) =>
      { sent := [.refused address e]
        heard := { connects := [some e] }
        reply := .error e
        after := ⟨w, none, s.opened⟩ }
    | (none, w) =>
      (firstTalk net address request (.create address (s.opened + 1)) (s.opened + 1) w).prepend
        [.connected address (s.opened + 1)] { connects := [none] }

end

section

variable {ω : Type} {net : Network ω} {address : String} {request : Request} {agent : Agent}
  {n : Nat} {w w₁ w₂ : ω}

theorem secondTalk_refused {e : Error} (hconnect : net.connect address w = (some e, w₁)) :
    secondTalk net address request agent n w =
      { sent := hangUp agent ++ [.refused address e]
        heard := { connects := [some e] }
        reply := .error (.reconnectFailed address e)
        after := ⟨w₁, some { agent with connection := none }, n⟩ } := by
  simp only [secondTalk, hconnect]

theorem secondTalk_opened {turn : Turn} (hconnect : net.connect address w = (none, w₁))
    (hcall : net.call address (n + 1) w₁ = (turn, w₂)) :
    secondTalk net address request agent n w =
      { sent := hangUp agent ++
          [.connected address (n + 1), .called (n + 1) address request]
        heard := { connects := [none], calls := [turn.remote.answer request] }
        reply := (turn.remote.answer request).mapError (.transport address)
        after := ⟨w₂, some { agent with connection := some (n + 1) }, n + 1⟩ } := by
  simp only [secondTalk, hconnect, hcall]

theorem firstTalk_disconnected (hc : agent.connection = none) :
    firstTalk net address request agent n w = secondTalk net address request agent n w := by
  simp only [firstTalk, hc]

theorem firstTalk_answered {c : Nat} {turn : Turn} {response : Response}
    (hc : agent.connection = some c) (hcall : net.call address c w = (turn, w₁))
    (hanswer : turn.remote.answer request = .ok response) :
    firstTalk net address request agent n w =
      { sent := [.called c address request]
        heard := { calls := [.ok response] }
        reply := .ok response
        after := ⟨w₁, some agent, n⟩ } := by
  simp only [firstTalk, hc, hcall, hanswer]

theorem firstTalk_failed {c : Nat} {turn : Turn} {status : Rpc.Status}
    (hc : agent.connection = some c) (hcall : net.call address c w = (turn, w₁))
    (hanswer : turn.remote.answer request = .error status) :
    firstTalk net address request agent n w =
      (secondTalk net address request agent n w₁).prepend [.called c address request]
        { calls := [.error status] } := by
  simp only [firstTalk, hc, hcall, hanswer]

theorem talk_refused {e : Error} (hconnect : net.connect address w = (some e, w₁)) :
    talk net address request ⟨w, none, n⟩ =
      { sent := [.refused address e]
        heard := { connects := [some e] }
        reply := .error e
        after := ⟨w₁, none, n⟩ } := by
  simp only [talk, hconnect]

theorem talk_created (hconnect : net.connect address w = (none, w₁)) :
    talk net address request ⟨w, none, n⟩ =
      (firstTalk net address request (.create address (n + 1)) (n + 1) w₁).prepend
        [.connected address (n + 1)] { connects := [none] } := by
  simp only [talk, hconnect]

theorem secondTalk_exchanged {sent : List Traffic} {stop : Bool}
    (first : Fruitless net address request agent w sent stop w₁) : ∃ more,
    Exchanged net address request agent n w
      (sent ++ (secondTalk net address request agent n w₁).sent) (stop || more)
      (secondTalk net address request agent n w₁).reply
      (secondTalk net address request agent n w₁).after := by
  rcases hconnect : net.connect address w₁ with ⟨_ | e, w₂⟩
  · rcases hcall : net.call address (n + 1) w₂ with ⟨turn, w₃⟩
    rw [secondTalk_opened hconnect hcall, ← List.append_assoc]
    exact ⟨turn.cancels, .retried first hconnect hcall⟩
  · rw [secondTalk_refused hconnect, ← List.append_assoc]
    refine ⟨false, ?_⟩
    rw [Bool.or_false]
    exact .abandoned first hconnect

variable (net) (address) (request)

theorem firstTalk_exchanged (agent : Agent) (n : Nat) (w : ω) : ∃ stop,
    Exchanged net address request agent n w (firstTalk net address request agent n w).sent stop
      (firstTalk net address request agent n w).reply
      (firstTalk net address request agent n w).after := by
  cases hc : agent.connection with
  | none =>
    obtain ⟨more, hrules⟩ := secondTalk_exchanged (n := n) (.disconnected (w := w) hc)
    rw [firstTalk_disconnected hc]
    exact ⟨_, hrules⟩
  | some c =>
    rcases hcall : net.call address c w with ⟨turn, w₁⟩
    cases hanswer : turn.remote.answer request with
    | ok response =>
      rw [firstTalk_answered hc hcall hanswer]
      exact ⟨_, .answered hc hcall hanswer⟩
    | error status =>
      obtain ⟨more, hrules⟩ := secondTalk_exchanged (n := n) (.failed hc hcall hanswer)
      rw [firstTalk_failed hc hcall hanswer]
      exact ⟨_, hrules⟩

theorem talk_conversation (s : Scene ω) : ∃ stop,
    Conversation net address request s (talk net address request s).sent stop
      (talk net address request s).reply (talk net address request s).after := by
  obtain ⟨w, agent, n⟩ := s
  cases agent with
  | some agent =>
    obtain ⟨stop, hrules⟩ := firstTalk_exchanged net address request agent n w
    exact ⟨stop, .known hrules⟩
  | none =>
    rcases hconnect : net.connect address w with ⟨_ | e, w₁⟩
    · obtain ⟨stop, hrules⟩ :=
        firstTalk_exchanged net address request (.create address (n + 1)) (n + 1) w₁
      rw [talk_created hconnect]
      exact ⟨stop, .created hconnect hrules⟩
    · rw [talk_refused hconnect]
      exact ⟨false, .refused hconnect⟩

/-- A call is the talk that the rules lead to. -/
theorem call_talk (r : Registry ω) :
    (call net address request r).1 = (talk net address request (r.scene address)).reply ∧
      (call net address request r).2.scene address =
        (talk net address request (r.scene address)).after ∧
      (call net address request r).2.traffic =
        r.traffic ++ (talk net address request (r.scene address)).sent := by
  obtain ⟨sent, stop, hcall, htraffic, -⟩ := call_conversation net address request r
  obtain ⟨_, htalk⟩ := talk_conversation net address request (r.scene address)
  obtain ⟨rfl, -, hreply, hafter⟩ := hcall.unique htalk
  exact ⟨hreply, hafter, htraffic⟩

end

end Queue

end AgentRelay
