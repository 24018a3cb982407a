import AgentRelay.Proofs.Relay.Answers
import Mathlib.Data.List.Forall2

/-! From the access points that an agent reports to the commands that are sent over them. What is
taken over from a report can be written as the report that it came from, so nothing is lost on the
way from the one to the other; and a command over a discovered access point names it to the agent in
the words of its report. -/
namespace AgentRelay

/-! ### Access points and their reports -/

/-- A report that describes an access point: its type is known, and its port is one. -/
def Protocol.AccessPoint.IsUsable (p : Protocol.AccessPoint) : Prop :=
  (p.type = "control" ∨ p.type = "statistics") ∧ 0 ≤ p.port.toInt ∧ p.port.toInt ≤ 65535

instance (p : Protocol.AccessPoint) : Decidable p.IsUsable :=
  inferInstanceAs (Decidable
    ((p.type = "control" ∨ p.type = "statistics") ∧ 0 ≤ p.port.toInt ∧ p.port.toInt ≤ 65535))

namespace AccessPoint

open Protocol.AccessPoint (IsUsable)

theorem Kind.ofName?_eq_some_iff {s : String} {kind : Kind} :
    Kind.ofName? s = some kind ↔ s = kind.name := by
  unfold Kind.ofName?
  split
  · cases kind <;> simp_all [Kind.name]
  · split <;> cases kind <;> simp_all [Kind.name]

theorem Kind.isSome_ofName?_iff {s : String} :
    (Kind.ofName? s).isSome ↔ s = "control" ∨ s = "statistics" := by
  unfold Kind.ofName?
  split
  · simp_all
  · split <;> simp_all

/-- The report of an access point. Without a key, the key is reported as empty. -/
def report (p : AccessPoint) : Protocol.AccessPoint :=
  ⟨p.kind.name, p.address, .ofNat p.port.toNat, p.key.getD ""⟩

theorem toInt_report_port (p : AccessPoint) : p.report.port.toInt = p.port.toNat := by
  have hlt : p.port.toNat < 2 ^ 16 := p.port.toNat_lt
  exact Int64.toInt_ofNat_of_lt (by omega)

theorem isSome_ofReport?_iff {reported : Protocol.AccessPoint} :
    (ofReport? reported).isSome ↔ reported.IsUsable := by
  unfold ofReport? IsUsable
  rw [← Kind.isSome_ofName?_iff]
  cases Kind.ofName? reported.type with
  | none => simp
  | some kind => split <;> simp_all

/-- A number that is a port is still the same after it was made one. -/
theorem ofNat_toNat_port {port : Int64} (h : 0 ≤ port.toInt ∧ port.toInt ≤ 65535) :
    Int64.ofNat (UInt16.ofNat port.toInt.toNat).toNat = port := by
  have hlt : port.toInt.toNat < 2 ^ 16 := by omega
  rw [UInt16.toNat_ofNat_of_lt' hlt, ← Int64.toInt_inj, Int64.toInt_ofNat_of_lt (by omega),
    Int.toNat_of_nonneg h.1]

theorem getD_of_nonempty (key : String) : (if key = "" then none else some key).getD "" = key := by
  split
  · exact Eq.symm ‹key = ""›
  · rfl

/-- What was taken over is reported in the words that it came in, and no key of it is empty. -/
theorem report_of_ofReport? {reported : Protocol.AccessPoint} {p : AccessPoint}
    (h : ofReport? reported = some p) : p.report = reported ∧ p.key ≠ some "" := by
  unfold ofReport? at h
  split at h
  · cases h
  · rename_i kind hkind
    split at h
    · rename_i hport
      obtain rfl := Option.some.inj h
      refine ⟨?_, ?_⟩
      · rw [report, ← Kind.ofName?_eq_some_iff.1 hkind, ofNat_toNat_port hport,
          getD_of_nonempty]
      · show (if reported.key = "" then none else some reported.key) ≠ some ""
        split <;> simp_all
    · cases h

/-- What is reported is taken over as it was. -/
theorem ofReport?_report {p : AccessPoint} (h : p.key ≠ some "") : ofReport? p.report = some p := by
  have hkind : Kind.ofName? p.report.type = some p.kind := Kind.ofName?_eq_some_iff.2 rfl
  have hport := p.toInt_report_port
  have hlt : p.port.toNat < 2 ^ 16 := p.port.toNat_lt
  have hkey : (if p.report.key = "" then none else some p.report.key) = p.key := by
    unfold report
    cases hkey : p.key with
    | none => rfl
    | some key =>
      rw [hkey] at h
      exact if_neg fun hempty => h (congrArg some hempty)
  unfold ofReport?
  rw [hkind, hport, hkey]
  simp only [Int.toNat_natCast, UInt16.ofNat_toNat]
  rw [if_pos (by omega)]
  rfl

/-- Taking over and reporting undo each other. -/
theorem ofReport?_eq_some_iff {reported : Protocol.AccessPoint} {p : AccessPoint} :
    ofReport? reported = some p ↔ p.report = reported ∧ p.key ≠ some "" := by
  refine ⟨report_of_ofReport?, ?_⟩
  rintro ⟨rfl, hkey⟩
  exact ofReport?_report hkey

/-- Of a list of reports, exactly the usable ones are taken over, in their order. -/
theorem map_report_ofReports (reported : List Protocol.AccessPoint) :
    (reported.filterMap ofReport?).map report = reported.filter (·.IsUsable) := by
  induction reported with
  | nil => rfl
  | cons first rest ih =>
    rw [List.filterMap_cons, List.filter_cons]
    cases h : ofReport? first with
    | none =>
      have hnot : ¬first.IsUsable := by simp [← isSome_ofReport?_iff, h]
      simpa [hnot] using ih
    | some p =>
      have husable : first.IsUsable := by simp [← isSome_ofReport?_iff, h]
      obtain ⟨hreport, -⟩ := ofReport?_eq_some_iff.1 h
      simpa [husable, hreport] using ih

theorem key_of_mem_ofReports {reported : List Protocol.AccessPoint} {p : AccessPoint}
    (h : p ∈ reported.filterMap ofReport?) : p.key ≠ some "" := by
  obtain ⟨_, -, hp⟩ := List.mem_filterMap.1 h
  exact (ofReport?_eq_some_iff.1 hp).2

theorem report_type_eq_iff {p : AccessPoint} : p.report.type = "control" ↔ p.kind = .control := by
  show p.kind.name = "control" ↔ _
  cases p.kind <;> simp [Kind.name]

end AccessPoint

/-- The first control access point of an app, as it was reported. -/
theorem App.report_accessPoint? {app : App} {reported : List Protocol.AccessPoint}
    (h : app.accessPoints = reported.filterMap AccessPoint.ofReport?) :
    (app.accessPoint? .control).map AccessPoint.report =
      (reported.filter (·.IsUsable)).find? (·.type = "control") := by
  rw [← AccessPoint.map_report_ofReports, List.find?_map, App.accessPoint?, h]
  simp only [Function.comp_def, AccessPoint.report_type_eq_iff]

namespace Relay

open Queue (OnlyCalls CalledOrRefused)

variable {ω : Type}

/-- Between `r` and `q` no other request was sent than this one, and to no other agent; and it was
sent, unless the relay is at its end or no connection could be opened. -/
def Sends (address : String) (request : Request) (r q : Relay ω) : Prop :=
  ∃ sent, q.registry.traffic = r.registry.traffic ++ sent ∧ OnlyCalls address request sent ∧
    (r.accepting = true → r.registry.cancelled = false → CalledOrRefused address request sent)

theorem Sends.of_traffic {address : String} {request : Request} {r q p : Relay ω}
    (h : Sends address request r q) (hsame : p.registry.traffic = q.registry.traffic) :
    Sends address request r p := by
  unfold Sends
  rw [hsame]
  exact h

theorem sends_submit (net : Network ω) (address : String) (request : Request) (r : Relay ω) :
    Sends address request r (r.submit net address request).2 := by
  have htraffic : r.start.registry.traffic = r.registry.traffic := by
    unfold start
    split <;> rfl
  have hcancelled : r.start.registry.cancelled = r.registry.cancelled := by
    unfold start
    split <;> rfl
  unfold submit answer
  split
  · split
    · -- The queue has been cancelled, so nothing is sent.
      rename_i hstop
      refine ⟨[], by simp [htraffic], by simp [OnlyCalls], fun _ hopen => ?_⟩
      rw [hcancelled, hopen] at hstop
      cases hstop
    · obtain ⟨sent, stop, hrules, hsent, -⟩ :=
        Queue.call_conversation net address request r.start.registry
      refine ⟨sent, ?_, hrules.onlyCalls, fun _ _ => hrules.calledOrRefused⟩
      rw [← htraffic]
      exact hsent
  · rename_i hnot
    exact ⟨[], by simp, by simp [OnlyCalls], fun haccepting => absurd haccepting hnot⟩

/-- After the request of an RNDC command nothing more happens on connections. -/
theorem traffic_rndcCommand (net : Network ω) {app : App} {point : AccessPoint}
    (hpoint : app.accessPoint? .control = some point) (command : String) (r : Relay ω) :
    ((Operation.rndcCommand app command).perform net r).2.registry.traffic =
      (r.submit net app.machine.agentAddress
        (.forwardRndcCommand (rndcRequest point command))).2.registry.traffic := by
  obtain ⟨n, hbooked⟩ := booked_roundTrip net app.machine rndcOperation
    (.forwardRndcCommand (rndcRequest point command)) r
  cases hreply : (r.submit net app.machine.agentAddress
      (.forwardRndcCommand (rndcRequest point command))).1 with
  | error e =>
    -- The error is handed on, and the relay is left as it was after accounting for it.
    obtain ⟨e', hresult⟩ := roundTrip_unanswered rndcOperation hreply
    have hperform : (Operation.rndcCommand app command).perform net r = (.error e',
        (r.roundTrip net app.machine rndcOperation
          (.forwardRndcCommand (rndcRequest point command))).2) := by
      rw [Operation.rndcCommand, hpoint]
      refine (perform_roundTrip _).trans ?_
      rw [hresult]
      rfl
    rw [hperform]
    exact hbooked.traffic
  | ok response =>
    obtain ⟨message, hmessage⟩ := accepts_of_submit hreply
    rw [rndcCommand_answered hpoint hreply hmessage]
    obtain ⟨m, hsettled⟩ := booked_settleBind9 app point .rndc rndcOperation
      (rndcOutcome app.machine.agentAddress point message)
      ((r.roundTrip net app.machine rndcOperation
        (.forwardRndcCommand (rndcRequest point command))).2.log [⟨.debug, "rndc command answered",
          [("app", .text app.name), ("command", .text command)]⟩])
    exact hsettled.traffic.trans hbooked.traffic

theorem hostState_answered {net : Network ω} {address : String} {port : UInt16} {r : Relay ω}
    {message : Protocol.GetStateRsp}
    (h : (r.submit net (Machine.agentAddress ⟨0, address, port⟩) (.getState {})).1 =
      .ok (.getState message)) :
    ((Operation.hostState address port).perform net r).1 = .ok (.ofReport address message) :=
  congrArg Prod.fst (perform_answered _ h)

/-! ### Discovery and use -/

/-- The first control access point that can be taken over from the report of an app. -/
def firstControl? (reported : Protocol.App) : Option Protocol.AccessPoint :=
  (reported.accessPoints.filter (·.IsUsable)).find? (·.type = "control")

/-- What is made of the report of an app agrees with it. -/
structure Agrees (net : Network ω) (reported : Protocol.App) (found : DiscoveredApp) : Prop where
  kind : found.kind = reported.type
  /-- The usable access points were taken over and no others, in their order and as reported. -/
  accessPoints : found.accessPoints.map AccessPoint.report =
    reported.accessPoints.filter (·.IsUsable)
  /-- An empty key was taken for no key. -/
  keys : ∀ p ∈ found.accessPoints, p.key ≠ some ""
  /-- A command to an app with these access points names the first control access point to the
  agent as it was reported. -/
  commands : ∀ (app : App) (point : Protocol.AccessPoint) (command : String) (r : Relay ω),
    app.accessPoints = found.accessPoints → firstControl? reported = some point →
      Sends app.machine.agentAddress
        (.forwardRndcCommand ⟨point.address, point.port, point.key, some ⟨command⟩⟩) r
        ((Operation.rndcCommand app command).perform net r).2

theorem agrees_ofReport (net : Network ω) (reported : Protocol.App) :
    Agrees net reported (.ofReport reported) := by
  refine ⟨rfl, AccessPoint.map_report_ofReports _, fun p => AccessPoint.key_of_mem_ofReports,
    fun app point command r happ hfirst => ?_⟩
  -- The access point that the command uses is the one whose report is the first for control, and
  -- the request has the address, port and key of its report.
  have hreported := App.report_accessPoint? happ
  rw [← firstControl?, hfirst] at hreported
  obtain ⟨used, hused, rfl⟩ := Option.map_eq_some_iff.1 hreported
  have hrequest : rndcRequest used command =
      ⟨used.report.address, used.report.port, used.report.key, some ⟨command⟩⟩ := rfl
  rw [← hrequest]
  exact (sends_submit net app.machine.agentAddress _ r).of_traffic
    (traffic_rndcCommand net hused command r)

/-- A network on which every agent gives this answer about its host and no other. -/
def reportingNetwork (message : Protocol.GetStateRsp) : Network Unit where
  connect _ w := (none, w)
  call _ _ w := ({ remote := { Remote.failing ⟨.unimplemented, "", []⟩ with
    getState := fun _ => .ok message } }, w)

/-- Among the access points are one of an unknown type, one whose port is none, and one without a
key. -/
def mixedReport : Protocol.App := ⟨"bind9", [⟨"bogus", "127.0.0.1", 1, ""⟩,
  ⟨"control", "127.0.0.1", 70000, "abc"⟩, ⟨"statistics", "127.0.0.1", 8053, ""⟩,
  ⟨"control", "::1", 953, ""⟩, ⟨"control", "127.0.0.1", 953, "abc"⟩]⟩

def mixedApp : App := ⟨2, "bind9@host", .bind9, ⟨1, "10.0.0.1", 8080⟩,
  [⟨.statistics, "127.0.0.1", 8053, none⟩, ⟨.control, "::1", 953, none⟩,
    ⟨.control, "127.0.0.1", 953, some "abc"⟩], []⟩

/-- The state that is made of an agent's answer has every reported app, in order and with its type.
Of the access points of an app it has those of a known type and with a possible port, in order; and
an RNDC command to any app with these access points puts the address, the port and the key of the
first one for control to the agent exactly as they were reported, even an empty key, and it puts
nothing else to anyone. -/
theorem discovery_agrees_with_use (net : Network ω) (address : String)
    (message : Protocol.GetStateRsp) :
    (∀ (port : UInt16) (r : Relay ω),
      (r.submit net (Machine.agentAddress ⟨0, address, port⟩) (.getState {})).1 =
        .ok (.getState message) →
      ((Operation.hostState address port).perform net r).1 = .ok (.ofReport address message)) ∧
    List.Forall₂ (Agrees net) message.apps (HostState.ofReport address message).apps := by
  refine ⟨fun port r => hostState_answered, ?_⟩
  have hforall : ∀ apps : List Protocol.App,
      List.Forall₂ (Agrees net) apps (apps.map DiscoveredApp.ofReport) := fun apps => by
    rw [List.forall₂_map_right_iff, List.forall₂_same]
    exact fun reported _ => agrees_ofReport net reported
  exact hforall message.apps

/-- The app is found with three of five access points, and a command goes to the second of them,
the first one for control, with an empty key. -/
theorem discovery_agrees_with_use_mixed :
    ((fresh () 1).submit (reportingNetwork { apps := [mixedReport] }) "10.0.0.1:8080"
      (.getState {})).1 = .ok (.getState { apps := [mixedReport] }) ∧
    ((Operation.hostState "10.0.0.1" 8080).perform (reportingNetwork { apps := [mixedReport] })
      (fresh () 1)).1 = .ok (.ofReport "10.0.0.1" { apps := [mixedReport] }) ∧
    (HostState.ofReport "10.0.0.1" { apps := [mixedReport] }).apps =
      [⟨"bind9", mixedApp.accessPoints⟩] ∧
    firstControl? mixedReport = some ⟨"control", "::1", 953, ""⟩ ∧
    Sends "10.0.0.1:8080" (.forwardRndcCommand ⟨"::1", 953, "", some ⟨"status"⟩⟩) (fresh () 1)
      ((Operation.rndcCommand mixedApp "status").perform
        (reportingNetwork { apps := [mixedReport] }) (fresh () 1)).2 := by
  obtain ⟨hstate, hagrees⟩ := discovery_agrees_with_use (reportingNetwork { apps := [mixedReport] })
    "10.0.0.1" { apps := [mixedReport] }
  have hfound := (List.forall₂_cons.1 hagrees).1
  exact ⟨rfl, hstate 8080 (fresh () 1) rfl, rfl, rfl,
    hfound.commands mixedApp ⟨"control", "::1", 953, ""⟩ "status" (fresh () 1) rfl rfl⟩

end Relay

end AgentRelay
