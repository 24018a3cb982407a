import AgentRelay.Proofs.Relay.Connections
import AgentRelay.Proofs.Relay.StatsFrame

/-! Operations that are refused before anything is sent: for want of an access point, which is
looked for first, and after a shutdown whatever they ask for. Such an operation hands its reason on
and leaves the relay as it was, so any number of them do. Nothing is claimed here of requests that
were queued before a shutdown. -/
namespace AgentRelay

/-- What an app lacks for an operation over an access point of the kind. -/
def App.missing? (app : App) (kind : AccessPoint.Kind) : Option Error :=
  match app.accessPoint? kind with
  | none => some (.missingAccessPoint app.name kind)
  | some _ => none

namespace Relay

variable {ω α β : Type}

/-! ### Operations without and with an access point -/

/-- Operations that lack something and give it as their error, or that put a request to an agent and
give the error of a reply without doing anything more. -/
inductive Refusable (give : Error → α) : Option Error → Operation ω α → Prop where
  | missing (e : Error) : Refusable give (some e) (.refused (give e))
  | present {machine : Machine} {title : String} {request : Request}
      {goOn : Reply → Relay ω → α × Relay ω} (h : ∀ e r, goOn (.error e) r = (give e, r)) :
      Refusable give none (.roundTrip machine title request goOn)

theorem Refusable.map {give : Error → α} {lacks : Option Error} {operation : Operation ω α}
    (h : Refusable give lacks operation) (f : α → β) :
    Refusable (fun e => f (give e)) lacks (operation.map f) := by
  cases h with
  | missing e => exact .missing e
  | @present machine title request goOn h =>
    have hmap : (Operation.roundTrip machine title request goOn).map f =
        .roundTrip machine title request fun reply r =>
          (f (goOn reply r).1, (goOn reply r).2) := rfl
    rw [hmap]
    exact .present fun e r => by rw [h]

theorem refusable_hostState (address : String) (port : UInt16) :
    Refusable .error none (Operation.hostState address port : Operation ω _) := by
  refine .present fun e r => ?_
  rfl

theorem refusable_textTail (machine : Machine) (path : String) (offset : Int64) :
    Refusable .error none (Operation.textTail machine path offset : Operation ω _) := by
  refine .present fun e r => ?_
  rfl

theorem refusable_rndcCommand (app : App) (command : String) :
    Refusable .error (app.missing? .control)
      (Operation.rndcCommand app command : Operation ω _) := by
  unfold Operation.rndcCommand App.missing?
  cases app.accessPoint? .control with
  | none => exact .missing _
  | some point =>
    refine .present fun e r => ?_
    rfl

theorem refusable_namedStats (decode : Json.Decoder α) (app : App) (path : String) :
    Refusable .error (app.missing? .statistics)
      (Operation.namedStats decode app path : Operation ω _) := by
  unfold Operation.namedStats App.missing?
  cases app.accessPoint? .statistics with
  | none => exact .missing _
  | some point =>
    refine .present fun e r => ?_
    rfl

theorem refusable_keaCommands (app : App) (commands : List Kea.Command) (slots : List Kea.Slot) :
    Refusable (fun e => (.error e, slots)) (app.missing? .control)
      (Operation.keaCommands app commands slots : Operation ω _) := by
  unfold Operation.keaCommands App.missing?
  cases app.accessPoint? .control with
  | none => exact .missing _
  | some point =>
    refine .present fun e r => ?_
    rfl

namespace Forwarding

/-- What the operation lacks; some operations need no access point. -/
def missing? : Forwarding → Option Error
  | .hostState .. | .textTail .. => none
  | .rndcCommand app _ | .keaCommands app _ _ => app.missing? .control
  | .namedStats _ app _ => app.missing? .statistics

theorem refusable (f : Forwarding) :
    Refusable some f.missing? (f.operation : Operation ω (Option Error)) := by
  cases f with
  | hostState address port => exact (refusable_hostState address port).map failure?
  | rndcCommand app command => exact (refusable_rndcCommand app command).map failure?
  | namedStats decode app path => exact (refusable_namedStats decode app path).map failure?
  | keaCommands app commands slots =>
    exact (refusable_keaCommands app commands slots).map fun a => failure? a.1
  | textTail machine path offset => exact (refusable_textTail machine path offset).map failure?

end Forwarding

/-! ### After a shutdown -/

section

variable {net : Network ω} {r : Relay ω}

theorem accepting_shutdown (r : Relay ω) : r.shutdown.accepting = false := by
  unfold shutdown
  split
  · unfold start
    split <;> rfl
  · rename_i h
    exact Bool.eq_false_iff.2 h

theorem shutdown_of_stopped (h : r.accepting = false) : r.shutdown = r := by
  unfold shutdown
  rw [h]
  rfl

theorem submit_of_stopped (h : r.accepting = false) (address : String) (request : Request) :
    r.submit net address request = (.error .shuttingDown, r) := by
  unfold submit
  rw [h]
  rfl

/-- Nothing makes a relay accept requests again. -/
theorem stopped_perform (h : r.accepting = false) (action : Action) :
    (action.perform net r).accepting = false := by
  by_cases hshutdown : action = .shutdown
  · rw [hshutdown]
    exact accepting_shutdown r
  · exact (accepting_perform net hshutdown r).trans h

theorem stopped_run (h : r.accepting = false) (actions : List Action) :
    (run net actions r).accepting = false := by
  induction actions generalizing r with
  | nil => exact h
  | cons action actions ih => exact ih (stopped_perform h action)

/-! ### Refusals -/

theorem Refusable.perform_missing {give : Error → α} {e : Error} {operation : Operation ω α}
    (h : Refusable give (some e) operation) : operation.perform net r = (give e, r) := by
  cases h
  rfl

/-- The end of all communication speaks against no agent, so nothing is accounted for. -/
theorem Refusable.perform_stopped {give : Error → α} {operation : Operation ω α}
    (h : Refusable give none operation) (hstopped : r.accepting = false) :
    operation.perform net r = (give .shuttingDown, r) := by
  cases h with
  | @present machine title request goOn herror =>
    have hreply : r.roundTrip net machine title request = (.error .shuttingDown, r) := by
      unfold roundTrip
      rw [submit_of_stopped hstopped]
      rfl
    calc
      _ = goOn (r.roundTrip net machine title request).1
            (r.roundTrip net machine title request).2 := rfl
      _ = _ := by rw [hreply, herror]

end

/-- The operation fails with this error and nothing else happens: the relay is the same afterwards,
and so are the slots that Kea commands come with. -/
structure Refuses (net : Network ω) (r : Relay ω) (f : Forwarding) (e : Error) : Prop where
  forward : Relay.forward net f r = (some e, r)
  slots : ∀ app commands slots, f = .keaCommands app commands slots →
    (Operation.keaCommands app commands slots).perform net r = ((.error e, slots), r)

section

variable (net : Network ω) {r : Relay ω} {f : Forwarding}

theorem refuses_of_perform {e : Error}
    (h : ∀ {α : Type} {give : Error → α} {operation : Operation ω α},
      Refusable give f.missing? operation → operation.perform net r = (give e, r)) :
    Refuses net r f e := by
  refine ⟨h f.refusable, ?_⟩
  rintro app commands slots rfl
  exact h (refusable_keaCommands app commands slots)

theorem refuses_missing {e : Error} (h : f.missing? = some e) : Refuses net r f e := by
  refine refuses_of_perform net fun hrefusable => ?_
  rw [h] at hrefusable
  exact hrefusable.perform_missing

theorem refuses_stopped (h : f.missing? = none) (hstopped : r.accepting = false) :
    Refuses net r f .shuttingDown := by
  refine refuses_of_perform net fun hrefusable => ?_
  rw [h] at hrefusable
  exact hrefusable.perform_stopped hstopped

theorem forward_of_stopped (hstopped : r.accepting = false) (f : Forwarding) :
    (forward net f r).2 = r := by
  cases h : f.missing? with
  | none => rw [(refuses_stopped net h hstopped).forward]
  | some e => rw [(refuses_missing net h).forward]

/-- Actions none of which changes the relay change it in no number. -/
theorem run_of_perform {actions : List Action}
    (h : ∀ action ∈ actions, action.perform net r = r) : run net actions r = r := by
  induction actions with
  | nil => rfl
  | cons action actions ih =>
    obtain ⟨hfirst, hrest⟩ := List.forall_mem_cons.1 h
    calc
      _ = run net actions (action.perform net r) := rfl
      _ = r := by rw [hfirst, ih hrest]

end

/-- A relay that has connected to one agent. -/
def connectedRelay : Relay Unit :=
  run deafNetwork [.connectedAgent "10.0.0.1:8080"] (fresh () 1)

/-- In any state, an operation for which the app lacks the access point is refused for that. After a
shutdown, whatever has been done since, all others are refused as well. A refusal changes nothing at
all, neither traffic nor records nor counters nor events nor measurements, and no number of refused
operations and of further shutdowns does. -/
theorem refused_operations_change_nothing (net : Network ω) (r : Relay ω) :
    (∀ f e, Forwarding.missing? f = some e → Refuses net r f e) ∧
    (∀ later f, Forwarding.missing? f = none →
      Refuses net (run net later r.shutdown) f .shuttingDown) ∧
    (∀ fs : List Forwarding, (∀ f ∈ fs, f.missing? ≠ none) →
      run net (fs.map .forward) r = r) ∧
    ∀ later actions, (∀ action ∈ actions, action = .shutdown ∨ ∃ f, action = .forward f) →
      run net actions (run net later r.shutdown) = run net later r.shutdown := by
  have hstopped : ∀ later, (run net later r.shutdown).accepting = false :=
    stopped_run (accepting_shutdown r)
  refine ⟨fun f e => refuses_missing net, fun later f h => refuses_stopped net h (hstopped later),
    fun fs hfs => run_of_perform net fun action haction => ?_,
    fun later actions hactions => run_of_perform net fun action haction => ?_⟩
  · obtain ⟨f, hf, rfl⟩ := List.mem_map.1 haction
    obtain ⟨e, he⟩ := Option.ne_none_iff_exists'.1 (hfs f hf)
    exact congrArg Prod.snd (refuses_missing net he).forward
  · obtain rfl | ⟨f, rfl⟩ := hactions action haction
    · exact shutdown_of_stopped (hstopped later)
    · exact forward_of_stopped net (hstopped later) f

/-- Statistics of an app that has only a control channel, and a command to that app after a shutdown
and an attempt to connect anew. -/
theorem refused_operations_change_nothing_connected :
    Refuses deafNetwork connectedRelay (.namedStats .value bind9App "zones")
      (.missingAccessPoint "bind9@host" .statistics) ∧
    Refuses deafNetwork
      (run deafNetwork [.connectedAgent "10.0.0.1:8080"] connectedRelay.shutdown)
      (.rndcCommand bind9App "status") .shuttingDown ∧
    run deafNetwork ([.namedStats .value bind9App "zones"].map .forward) connectedRelay =
      connectedRelay ∧
    run deafNetwork [.forward (.rndcCommand bind9App "status"), .shutdown]
        (run deafNetwork [] connectedRelay.shutdown) =
      run deafNetwork [] connectedRelay.shutdown := by
  obtain ⟨hmissing, hstopped, hlacking, hlater⟩ :=
    refused_operations_change_nothing deafNetwork connectedRelay
  refine ⟨hmissing _ _ rfl, hstopped _ _ rfl, hlacking _ ?_, hlater _ _ ?_⟩
  · simp [Forwarding.missing?, App.missing?, App.accessPoint?, bind9App, bind9Point]
  · simp

end Relay

end AgentRelay
