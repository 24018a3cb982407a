import AgentRelay.Proofs.Queue.Measurements
import AgentRelay.Proofs.Registry.Records
import Mathlib.Data.List.Perm.Basic

/-! The gauge of agents with a cached connection. It is recorded when a record is created, as the
number of records, and when all connections are closed, as zero. But a reconnect that fails takes
the connection of a record away, one that succeeds after the closing brings a connection back, and
neither is recorded. So the gauge is the number of agents that hold a connection exactly if it was
recorded with a new record and all records hold one, or with the closing and none does. -/
namespace AgentRelay.Registry

variable {ω : Type} (net : Network ω)

/-! ### What changes -/

/-- What a registry is used for. Only an agent that is known can be reconnected. -/
inductive Use where
  | getOrCreate (address : String)
  | reconnect (address : String)
  | closeAll

/-- What happens to the connections of the records. -/
inductive Change where
  /-- A record was created with its connection. -/
  | created (address : String)
  | reopened (address : String)
  | lost (address : String)
  | allClosed
deriving DecidableEq

/-- A use of a registry, with what it changes. -/
def Use.run (r : Registry ω) : Use → List Change × Registry ω
  | .getOrCreate address =>
    match r.agent? address, r.getOrCreate net address with
    | none, (.ok _, q) => ([.created address], q)
    | _, (_, q) => ([], q)
  | .reconnect address =>
    match r.agent? address with
    | none => ([], r)
    | some _ =>
      let (result, q) := r.reconnect net address
      ([if result.isOk then .reopened address else .lost address], q)
  | .closeAll => ([.allClosed], r.closeAll)

/-- The changes that some uses lead to, one after another. -/
def runUses : List Use → Registry ω → List Change × Registry ω
  | [], r => ([], r)
  | use :: uses, r =>
    let (first, r) := use.run net r
    let (rest, r) := runUses uses r
    (first ++ rest, r)

/-! ### What the changes say -/

/-- Whether the change gives the agent at the address a connection or takes it away. -/
def Change.opens? (address : String) : Change → Option Bool
  | .created other | .reopened other => if other = address then some true else none
  | .lost other => if other = address then some false else none
  | .allClosed => some false

/-- The last change that concerns the connection of the agent has opened one. -/
def Holds (changes : List Change) (address : String) : Prop :=
  (changes.filterMap (Change.opens? address)).getLast? = some true

def Change.created? : Change → Option String
  | .created address => some address
  | _ => none

def created (changes : List Change) : List String := changes.filterMap Change.created?

/-- Whether the gauge is recorded with all records, or with none. -/
def Change.records? : Change → Option Bool
  | .created _ => some true
  | .allClosed => some false
  | _ => none

/-- What the gauge was recorded with last. -/
def lastRecorded (changes : List Change) : Option Bool :=
  (changes.filterMap Change.records?).getLast?

/-- The value of the gauge. -/
def gaugeOf (changes : List Change) : Option Int :=
  (lastRecorded changes).map fun all => if all then (created changes).length else 0

/-- The agents that hold a connection are as many as were recorded last. -/
def Accurate (changes : List Change) : Prop :=
  match lastRecorded changes with
  | some true => ∀ address ∈ created changes, Holds changes address
  | some false => ∀ address, ¬Holds changes address
  | none => True

/-- The records that hold a connection. -/
def holders (r : Registry ω) : Nat := r.agents.countP (·.2.connection.isSome)

/-- The records of a registry are those that the changes tell of. -/
structure Listed (changes : List Change) (r : Registry ω) : Prop where
  sorted : Ordered.Sorted r.agents
  nodup : (created changes).Nodup
  known : ∀ address, (r.agent? address).isSome ↔ address ∈ created changes

/-- So are their connections, and the gauge. -/
structure Told (changes : List Change) (r : Registry ω) : Prop extends Listed changes r where
  holds : ∀ address, (r.connection? address).isSome ↔ Holds changes address
  gauge : r.metrics.connections = gaugeOf changes

/-! ### One change more -/

section

variable (changes : List Change) (change : Change) (address : String)

theorem holds_concat : Holds (changes ++ [change]) address ↔
    (change.opens? address = none ∧ Holds changes address ∨ change.opens? address = some true) := by
  unfold Holds
  cases h : change.opens? address <;> simp [List.filterMap_append, h]

theorem created_concat :
    created (changes ++ [change]) = created changes ++ change.created?.toList := by
  unfold created
  cases h : change.created? <;> simp [List.filterMap_append, h]

theorem lastRecorded_concat :
    lastRecorded (changes ++ [change]) = change.records?.or (lastRecorded changes) := by
  unfold lastRecorded
  cases h : change.records? <;> simp [List.filterMap_append, h]

/-- What is not recorded leaves the gauge as it is. -/
theorem gaugeOf_concat_of_none (h : change.records? = none) :
    gaugeOf (changes ++ [change]) = gaugeOf changes := by
  have hcreated : change.created? = none := by
    cases change <;> first | rfl | cases h
  simp only [gaugeOf, lastRecorded_concat, created_concat, h, hcreated, Option.none_or,
    Option.toList_none, List.append_nil]

end

theorem connections_concat (m : Metrics) (x : Metrics.Measurement) :
    Metrics.connections (m ++ [x]) = match x with
      | .connections count => some count
      | _ => m.connections := by
  cases x <;> simp [Metrics.connections, List.foldl_append]

/-! ### Records -/

section

variable {changes : List Change} {r q : Registry ω} {address : String}

theorem connection?_congr (h : q.agent? address = r.agent? address) :
    q.connection? address = r.connection? address := by
  rw [connection?, h]
  rfl

theorem told_empty (world : ω) : Told [] ({ world } : Registry ω) where
  sorted := Ordered.sorted_nil
  nodup := .nil
  known address := by simp [created, agent?, Ordered.find?]
  holds address := by simp [Holds, connection?, agent?, Ordered.find?]
  gauge := rfl

theorem agent?_of_insert {agent : Agent} {other : String}
    (hagents : q.agents = Ordered.insert address agent r.agents) (hother : other ≠ address) :
    q.agent? other = r.agent? other := by
  rw [agent?, hagents, Ordered.find?_insert_of_ne _ _ hother]
  rfl

theorem Listed.created (h : Listed changes r) (hnew : r.agent? address = none) {agent : Agent}
    (hagents : q.agents = Ordered.insert address agent r.agents) :
    Listed (changes ++ [.created address]) q := by
  have hcreated := created_concat changes (.created address)
  have hunknown : address ∉ Registry.created changes := by
    rw [← h.known, hnew]
    exact Bool.false_ne_true
  refine ⟨?_, ?_, fun other => ?_⟩
  · rw [hagents]
    exact h.sorted.insert _ _
  · rw [hcreated]
    refine List.nodup_append.2 ⟨h.nodup, List.nodup_singleton address, ?_⟩
    rintro other hother _ hnew rfl
    exact hunknown (List.mem_singleton.1 hnew ▸ hother)
  · rw [hcreated]
    by_cases hother : other = address
    · have hself : q.agent? address = some agent := by
        rw [agent?, hagents, Ordered.find?_insert_self]
      simp [hother, hself, Change.created?]
    · simp [hother, agent?_of_insert hagents hother, h.known, Change.created?]

/-- There are as many records as were created. -/
theorem Listed.size (h : Listed changes r) : r.size = (Registry.created changes).length := by
  have hperm : (r.agents.map Prod.fst).Perm (Registry.created changes) := by
    rw [List.perm_ext_iff_of_nodup h.sorted.nodup_keys h.nodup]
    intro other
    rw [← Ordered.isSome_find?_iff]
    exact h.known other
  have hlength := hperm.length_eq
  rwa [List.length_map] at hlength

variable (h : Told changes r)

include h

/-- The connections of the records that there are. -/
theorem Told.forall_agents {b : Bool} : (∀ e ∈ r.agents, e.2.connection.isSome = b) ↔
    ∀ address ∈ created changes, (r.connection? address).isSome = b := by
  constructor
  · intro hall address hknown
    obtain ⟨agent, hagent⟩ := Option.isSome_iff_exists.1 ((h.known address).2 hknown)
    rw [connection?_eq r hagent]
    exact hall _ (h.sorted.mem_iff.2 hagent)
  · rintro hall ⟨address, agent⟩ hmem
    have hagent : r.agent? address = some agent := h.sorted.mem_iff.1 hmem
    have hknown : address ∈ created changes := by
      rw [← h.known, hagent]
      rfl
    have hconnection := hall address hknown
    rwa [connection?_eq r hagent] at hconnection

theorem Told.created_of_holds (hholds : Holds changes address) : address ∈ created changes := by
  rw [← h.holds, connection?] at hholds
  rw [← h.known]
  cases hagent : r.agent? address with
  | none => simp [hagent] at hholds
  | some agent => rfl

/-- The gauge against the records. -/
theorem Told.accurate {g : Int} (hg : r.metrics.connections = some g) :
    g = r.holders ↔ Accurate changes := by
  rw [h.gauge] at hg
  obtain ⟨all, hlast, hvalue⟩ := Option.map_eq_some_iff.1 hg
  simp only [Accurate, hlast]
  cases all with
  | true =>
    have hcount : g = r.holders ↔ r.agents.countP (·.2.connection.isSome) = r.agents.length := by
      have hsize := h.size
      simp only [holders, size, if_true] at hsize hvalue ⊢
      omega
    rw [hcount, List.countP_eq_length, h.forall_agents]
    simp only [h.holds]
  | false =>
    have hcount : g = r.holders ↔ r.agents.countP (·.2.connection.isSome) = 0 := by
      simp only [holders, Bool.false_eq_true, if_false] at hvalue ⊢
      omega
    have hnone := h.forall_agents (b := false)
    simp only [List.countP_eq_zero, Bool.not_eq_true, hcount, hnone]
    constructor
    · intro hall address hholds
      have hheld := hall address (h.created_of_holds hholds)
      rw [← h.holds, hheld] at hholds
      exact Bool.false_ne_true hholds
    · intro hall address _
      rw [← Bool.not_eq_true, h.holds]
      exact hall address

/-! ### Uses -/

/-- Nothing has changed that the registry keeps of the agents. -/
theorem Told.congr (hagents : q.agents = r.agents) (hmetrics : q.metrics = r.metrics) :
    Told changes q := by
  have hagent : q.agent? = r.agent? := by
    funext other
    rw [agent?, hagents]
    rfl
  have hconnection : q.connection? = r.connection? :=
    funext fun other => connection?_congr (congrFun hagent other)
  exact ⟨⟨hagents ▸ h.sorted, h.nodup, hagent ▸ h.known⟩, hconnection ▸ h.holds,
    hmetrics ▸ h.gauge⟩

/-- A new record holds the connection with which it was created. -/
theorem Told.created (hnew : r.agent? address = none) {agent : Agent}
    (hagent : agent.connection.isSome)
    (hagents : q.agents = Ordered.insert address agent r.agents)
    (hmetrics : q.metrics = r.metrics ++ [.connections q.size]) :
    Told (changes ++ [.created address]) q := by
  have hself : q.agent? address = some agent := by
    rw [agent?, hagents, Ordered.find?_insert_self]
  have hlisted := h.toListed.created hnew hagents
  refine ⟨hlisted, fun other => ?_, ?_⟩
  · rw [holds_concat]
    by_cases hother : other = address
    · simp [hother, connection?_eq q hself, hagent, Change.opens?]
    · rw [connection?_congr (agent?_of_insert hagents hother)]
      simpa [Change.opens?, Ne.symm hother] using h.holds other
  · rw [hmetrics, connections_concat, hlisted.size, gaugeOf, lastRecorded_concat]
    rfl

/-- A record that was to get a new connection has one or has none. -/
theorem Told.reconnected {opened : Bool}
    (hagent : (q.agent? address).isSome = (r.agent? address).isSome)
    (hopened : (q.connection? address).isSome = opened)
    (hsorted : Ordered.Sorted q.agents)
    (hothers : ∀ other ≠ address, q.agent? other = r.agent? other)
    (hmetrics : q.metrics.connections = r.metrics.connections) :
    Told (changes ++ [if opened then .reopened address else .lost address]) q := by
  have hcreated : Registry.created
      (changes ++ [if opened then .reopened address else .lost address]) =
        Registry.created changes := by
    cases opened <;> simp [created_concat, Change.created?]
  refine ⟨⟨hsorted, hcreated ▸ h.nodup, fun other => ?_⟩, fun other => ?_, ?_⟩
  · rw [hcreated, ← h.known]
    by_cases hother : other = address
    · rw [hother, hagent]
    · rw [hothers other hother]
  · rw [holds_concat]
    by_cases hother : other = address
    · rw [hother, hopened]
      cases opened <;> simp [Change.opens?]
    · rw [connection?_congr (hothers other hother)]
      cases opened <;> simpa [Change.opens?, Ne.symm hother] using h.holds other
  · rw [hmetrics, gaugeOf_concat_of_none, h.gauge]
    cases opened <;> rfl

theorem Told.closeAll : Told (changes ++ [.allClosed]) r.closeAll := by
  have hcreated : Registry.created (changes ++ [.allClosed]) = Registry.created changes := by
    simp [created_concat, Change.created?]
  refine ⟨⟨agents_closeAll (r := r) ▸ h.sorted.map closed, hcreated ▸ h.nodup, fun other => ?_⟩,
    fun other => ?_, ?_⟩
  · rw [hcreated, agent?_closeAll, Option.isSome_map]
    exact h.known other
  · rw [holds_concat, connection?_closeAll]
    simp [Change.opens?]
  · show Metrics.connections (r.metrics ++ [.connections 0]) = _
    rw [connections_concat, gaugeOf, lastRecorded_concat]
    rfl

end

/-! ### Runs -/

section

variable {changes : List Change} {r : Registry ω} (h : Told changes r) (address : String)

include h

theorem Told.run_getOrCreate : Told (changes ++ ((Use.getOrCreate address).run net r).1)
    ((Use.getOrCreate address).run net r).2 := by
  cases hagent : r.agent? address with
  | some agent =>
    simp only [Use.run, getOrCreate, hagent, List.append_nil]
    exact h.congr rfl rfl
  | none =>
    rcases hconnect : net.connect address r.world with ⟨_ | e, w⟩
    · simp only [Use.run, getOrCreate, enter, hagent, connect_opened net r hconnect]
      exact h.created hagent rfl rfl rfl
    · simp only [Use.run, getOrCreate, hagent, enter_refused hagent hconnect, List.append_nil]
      exact h.congr rfl rfl

omit h in
/-- A reconnect leaves the record with a connection if it succeeds, and without one otherwise. -/
theorem agent?_reconnect {agent : Agent} (hagent : r.agent? address = some agent) :
    ∃ connection, (r.reconnect net address).2.agent? address = some { agent with connection } ∧
      connection.isSome = (r.reconnect net address).1.isOk := by
  rcases hconnect : net.connect address r.world with ⟨_ | e, w⟩
  · obtain ⟨hresult, hscene, -⟩ := reconnect_opened hagent hconnect
    rw [hresult]
    exact ⟨_, congrArg Scene.agent hscene, rfl⟩
  · obtain ⟨hresult, hscene, -⟩ := reconnect_refused hagent hconnect
    rw [hresult]
    exact ⟨_, congrArg Scene.agent hscene, rfl⟩

theorem Told.run_reconnect : Told (changes ++ ((Use.reconnect address).run net r).1)
    ((Use.reconnect address).run net r).2 := by
  cases hagent : r.agent? address with
  | none =>
    simp only [Use.run, hagent, List.append_nil]
    exact h
  | some agent =>
    simp only [Use.run, hagent]
    obtain ⟨connection, hrecord, hopened⟩ := agent?_reconnect net address hagent
    apply h.reconnected
    · rw [hrecord, hagent]
      rfl
    · rw [connection?_eq _ hrecord]
      exact hopened
    · exact agents_reconnect (fun _ _ _ hm => hm.insert _ _) net h.sorted address
    · exact fun other => agent?_reconnect_of_ne net r
    · rw [Queue.metrics_reconnect, connections_concat]

theorem Told.run (use : Use) : Told (changes ++ (use.run net r).1) (use.run net r).2 := by
  cases use with
  | getOrCreate address => exact h.run_getOrCreate net address
  | reconnect address => exact h.run_reconnect net address
  | closeAll => exact h.closeAll

theorem Told.runUses (uses : List Use) :
    Told (changes ++ (runUses net uses r).1) (runUses net uses r).2 := by
  induction uses generalizing changes r with
  | nil =>
    show Told (changes ++ []) r
    rw [List.append_nil]
    exact h
  | cons use uses ih =>
    have hrest := ih (h.run net use)
    rw [List.append_assoc] at hrest
    exact hrest

end

/-- What uses of a new registry lead to. The gauge has the value that was recorded last, an agent
holds a connection if the last change to it was an opening, and the gauge is the number of agents
that hold one exactly if, by the changes, all do after it was recorded with a new record, or none
does after it was recorded with the closing. -/
theorem connections_eq_holders_iff (net : Network ω) (world : ω) (uses : List Use)
    {changes : List Change} {r : Registry ω} (h : runUses net uses { world } = (changes, r)) :
    r.metrics.connections = gaugeOf changes ∧
      (∀ address, (r.connection? address).isSome ↔ Holds changes address) ∧
      ∀ g, r.metrics.connections = some g → (g = r.holders ↔ Accurate changes) := by
  have htold : Told changes r := by
    have hrun := (told_empty world).runUses net uses
    rwa [h] at hrun
  exact ⟨htold.gauge, htold.holds, fun g => htold.accurate⟩

/-- A network on which connections are opened and refused as planned. -/
def plannedNetwork : Network (List (Option Error)) where
  connect _ plan := (plan.headD none, plan.tail)
  call _ _ plan := ({ remote := Remote.failing ⟨.unavailable, "", []⟩ }, plan)

/-- An agent that was reconnected, while nothing was closed. -/
theorem connections_eq_holders_iff_reopened : ∃ r,
    runUses plannedNetwork [.getOrCreate "127.0.0.1:8080", .reconnect "127.0.0.1:8080"]
        { world := [] } = ([.created "127.0.0.1:8080", .reopened "127.0.0.1:8080"], r) ∧
      r.metrics.connections = some 1 ∧ (1 : Int) = r.holders := by
  obtain ⟨hgauge, -, hiff⟩ := connections_eq_holders_iff plannedNetwork []
    [.getOrCreate "127.0.0.1:8080", .reconnect "127.0.0.1:8080"] rfl
  refine ⟨_, rfl, hgauge, (hiff 1 hgauge).2 fun address haddress => ?_⟩
  obtain rfl := List.mem_singleton.1 haddress
  rfl

/-- The reconnect of the only agent fails, and one connection is still shown. -/
theorem lost_connection_still_shown :
    let r := (runUses plannedNetwork [.getOrCreate "127.0.0.1:8080", .reconnect "127.0.0.1:8080"]
      { world := [none, some (.invalidAddress "127.0.0.1:8080" "unreachable")] }).2
    r.metrics.connections = some 1 ∧ r.holders = 0 ∧
      ¬∀ (plan : List (Option Error)) (uses : List Use) (g : Int),
        (runUses plannedNetwork uses { world := plan }).2.metrics.connections = some g →
          g = (runUses plannedNetwork uses { world := plan }).2.holders := by
  refine ⟨rfl, rfl, fun hall => ?_⟩
  have heq := hall [none, some (.invalidAddress "127.0.0.1:8080" "unreachable")]
    [.getOrCreate "127.0.0.1:8080", .reconnect "127.0.0.1:8080"] 1 rfl
  exact absurd heq (by decide)

end AgentRelay.Registry
