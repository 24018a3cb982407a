import AgentRelay.Proofs.Relay.Answers
import AgentRelay.Proofs.Relay.KeaBatch
import Mathlib.Data.List.Induction

/-! What an answer to Kea commands does to the counters of the app. The control agent is charged with
the failures of the batch and of its parts. A daemon is charged with its own elements in the slots
that were filled: in the end only those count that have failed since the last one that has not. -/
namespace AgentRelay.Relay

open Protocol

variable {ω : Type}

/-! ### Elements -/

/-- What an element says of which daemon. Without a name it speaks for the control agent, and without
a daemon or a result it says nothing. -/
def report? : Kea.DaemonResult → Option (String × Int64)
  | (some daemon, some result) => some (if daemon = "" then controlAgent else daemon, result)
  | _ => none

/-- The results that elements report for a daemon. -/
def resultsOf (name : String) (elements : List Kea.DaemonResult) : List Int64 :=
  ((elements.filterMap report?).filter (·.1 = name)).map (·.2)

/-- The errors since the last result that is none. -/
def trailingErrors (results : List Int64) : Nat :=
  (results.reverse.takeWhile (· = Kea.resultError)).length

theorem trailingErrors_concat (results : List Int64) (result : Int64) :
    trailingErrors (results ++ [result]) =
      if result = Kea.resultError then trailingErrors results + 1 else 0 := by
  by_cases h : result = Kea.resultError <;> simp [trailingErrors, h]

theorem resultsOf_concat (name : String) (elements : List Kea.DaemonResult)
    (element : Kea.DaemonResult) :
    resultsOf name (elements ++ [element]) = resultsOf name elements ++
      match report? element with
      | none => []
      | some (daemon, result) => if daemon = name then [result] else [] := by
  cases h : report? element with
  | none => simp [resultsOf, h]
  | some said => by_cases hname : said.1 = name <;> simp [resultsOf, h, hname]

/-! ### The tally of a reply -/

theorem countElement_eq (daemons : List (String × Nat)) (element : Kea.DaemonResult) :
    countElement daemons element =
      match report? element with
      | none => daemons
      | some (name, result) => Ordered.insert name
          (if result = Kea.resultError then (Ordered.find? name daemons).getD 0 + 1 else 0)
          daemons := by
  match element with
  | (none, _) | (some _, none) | (some _, some _) => rfl

theorem sorted_countElement {daemons : List (String × Nat)} (h : Ordered.Sorted daemons)
    (element : Kea.DaemonResult) : Ordered.Sorted (countElement daemons element) := by
  unfold countElement
  split
  · exact h.insert _ _
  · exact h

theorem sorted_tally (elements : List Kea.DaemonResult) :
    Ordered.Sorted (elements.foldl countElement []) :=
  List.foldlRecOn elements countElement Ordered.sorted_nil fun _ h element _ =>
    sorted_countElement h element

/-- A daemon is in the tally if an element speaks for it, with its errors at the end. -/
theorem find?_tally (name : String) (elements : List Kea.DaemonResult) :
    Ordered.find? name (elements.foldl countElement []) =
      if resultsOf name elements = [] then none
      else some (trailingErrors (resultsOf name elements)) := by
  induction elements using List.reverseRecOn with
  | nil => rfl
  | append_singleton elements element ih =>
    rw [List.foldl_append, List.foldl_cons, List.foldl_nil, countElement_eq, resultsOf_concat]
    cases report? element with
    | none => simpa using ih
    | some said =>
      obtain ⟨daemon, result⟩ := said
      by_cases h : daemon = name
      · subst h
        simp only [if_true, Ordered.find?_insert_self, ih, trailingErrors_concat,
          List.append_eq_nil_iff, List.cons_ne_nil, and_false, if_false]
        by_cases hnone : resultsOf daemon elements = [] <;> simp [hnone, trailingErrors]
      · simpa [h, Ordered.find?_insert_of_ne _ _ (Ne.symm h)] using ih

theorem find?_countReply (tally : Tally) (h : Ordered.Sorted tally.daemons)
    (c : Stats.KeaCounters) (name : String) :
    Ordered.find? name (countReply tally c).daemons =
      match Ordered.find? name tally.daemons with
      | none => Ordered.find? name c.daemons
      | some count => some (nextCount (daemonCount c.daemons name) count) := by
  have hmerged := Ordered.find?_foldl_insert h
    (fun previous count => nextCount (previous.getD 0) count) name c.daemons
  cases hcount : Ordered.find? name tally.daemons <;> rw [hcount] at hmerged <;> exact hmerged

/-- The counter of a daemon after a reply, from the results that the reply reports for it. -/
theorem find?_countReply_of (batch : Option Error) (outcomes : List (Except Error Kea.Slot))
    (c : Stats.KeaCounters) (name : String) :
    Ordered.find? name (countReply (Tally.of batch outcomes) c).daemons =
      match (resultsOf name (decodedElements outcomes)).getLast? with
      | none => Ordered.find? name c.daemons
      | some last => some (if last = Kea.resultError then
          (Ordered.find? name c.daemons).getD 0 +
            trailingErrors (resultsOf name (decodedElements outcomes))
        else 0) := by
  rw [find?_countReply _ (sorted_tally _), Tally.of, find?_tally]
  generalize resultsOf name (decodedElements outcomes) = results
  induction results using List.reverseRecOn with
  | nil => rfl
  | append_singleton results last =>
    rw [if_neg (by simp), List.getLast?_concat, trailingErrors_concat]
    by_cases h : last = Kea.resultError <;> simp [h, nextCount, daemonCount]

/-! ### The result and the slots -/

/-- The elements of the slots that were filled, in the order of the reply. -/
def KeaResult.elements (result : KeaResult) (outputs : List Kea.Slot) : List Kea.DaemonResult :=
  (result.commandErrors.zip outputs).flatMap fun (entry, slot) =>
    if entry.isNone then slot.daemonResults else []

theorem elements_fillSlots (batch : Option Error) (slots : List Kea.Slot)
    {outcomes : List (Except Error Kea.Slot)}
    (h : ∀ i filled, outcomes[i]? = some (.ok filled) → i < slots.length) :
    KeaResult.elements ⟨batch, outcomes.map failure?⟩ (fillSlots slots outcomes) =
      decodedElements outcomes := by
  unfold KeaResult.elements decodedElements
  induction outcomes generalizing slots with
  | nil => rfl
  | cons outcome outcomes ih =>
    cases slots with
    | nil =>
      have herrors : ∀ o ∈ outcome :: outcomes, ∃ e, o = .error e := by
        intro o ho
        obtain ⟨i, hi⟩ := List.mem_iff_getElem?.1 ho
        cases o with
        | error e => exact ⟨e, rfl⟩
        | ok filled => exact absurd (h i filled hi) (Nat.not_lt_zero i)
      simp only [fillSlots, List.mapIdx_nil, List.zip_nil_right, List.flatMap_nil]
      refine (List.flatMap_eq_nil_iff.2 fun o ho => ?_).symm
      obtain ⟨e, rfl⟩ := herrors o ho
      rfl
    | cons slot slots =>
      have hrest := ih slots fun i filled hi =>
        Nat.lt_of_succ_lt_succ (h (i + 1) filled hi)
      cases outcome <;> simpa [fillSlots, List.mapIdx_cons, failure?] using hrest

section

variable (url : String) {commands : List Kea.Command} {slots : List Kea.Slot}

theorem takePart_of_decode {i : Nat} {part : KeaResponse} {command : Kea.Command}
    {slot filled : Kea.Slot} (hstatus : succeeded part.status = true)
    (hcommand : commands[i]? = some command) (hslot : slots[i]? = some slot)
    (hdecode : slot.decode command part.response = .ok filled) :
    takePart url commands slots i part = .ok filled := by
  rw [takePart, if_pos hstatus, hcommand, hslot]
  simp only [hdecode, mapError_ok]

/-- An entry is none exactly where a good part for a command has filled its slot. -/
theorem commandErrors_eq_none_iff (parts : List KeaResponse) (i : Nat) :
    ((takeParts url commands slots parts).map failure?)[i]? = some none ↔
      ∃ command, commands[i]? = some command ∧
        Filled slots parts (fillSlots slots (takeParts url commands slots parts)) i command := by
  rw [List.getElem?_map]
  constructor
  · intro h
    obtain ⟨outcome, houtcome, hentry⟩ := Option.map_eq_some_iff.1 h
    cases outcome with
    | error e => cases hentry
    | ok filled =>
      have hpart := houtcome
      rw [getElem?_takeParts] at hpart
      obtain ⟨part, hpart, htake⟩ := Option.map_eq_some_iff.1 hpart
      obtain ⟨hstatus, command, slot, hcommand, hslot, hdecode⟩ := takePart_eq_ok htake
      exact ⟨command, hcommand, part, slot, filled, hpart, hstatus, hslot, hdecode,
        fillSlots_of_ok hslot houtcome⟩
  · rintro ⟨command, hcommand, part, slot, filled, hpart, hstatus, hslot, hdecode, -⟩
    rw [getElem?_takeParts, hpart, Option.map_some,
      takePart_of_decode url hstatus hcommand hslot hdecode]
    rfl

theorem elements_takeParts (commands : List Kea.Command) (slots : List Kea.Slot)
    (batch : Option Error) (parts : List KeaResponse) :
    KeaResult.elements ⟨batch, (takeParts url commands slots parts).map failure?⟩
        (fillSlots slots (takeParts url commands slots parts)) =
      decodedElements (takeParts url commands slots parts) := by
  refine elements_fillSlots batch slots fun i filled h => ?_
  rw [getElem?_takeParts] at h
  obtain ⟨part, -, htake⟩ := Option.map_eq_some_iff.1 h
  obtain ⟨-, _, slot, -, hslot, -⟩ := takePart_eq_ok htake
  exact (List.getElem?_eq_some_iff.1 hslot).1

end

/-- The failures of a batch and of its parts, one by one. -/
theorem length_failures (url : String) (status : Option Status)
    (outcomes : List (Except Error Kea.Slot)) :
    (Tally.of (batchError url status) outcomes).failures.length =
      (if succeeded status then 0 else 1) + (outcomes.map failure?).countP Option.isSome := by
  have hentries : (outcomes.filterMap failure?).length =
      (outcomes.map failure?).countP Option.isSome := by
    induction outcomes with
    | nil => rfl
    | cons outcome outcomes ih =>
      rw [List.map_cons, List.countP_cons, ← ih]
      cases outcome <;> rfl
  rw [Tally.of, List.length_append, hentries, batchError]
  split <;> rfl

/-! ### The operation -/

/-- The counters of the app after an answer. -/
theorem kea?_takeReply_roundTrip {net : Network ω} {app : App} {point : AccessPoint}
    {commands : List Kea.Command} (slots : List Kea.Slot) {r : Relay ω} {response : Response}
    (message : ForwardToKeaOverHttpRsp)
    (h : (r.submit net app.machine.agentAddress
      (.forwardToKeaOverHttp (keaRequest point.url commands))).1 = .ok response) :
    ((takeReply app point commands slots message (r.roundTrip net app.machine keaOperation
        (.forwardToKeaOverHttp (keaRequest point.url commands))).2).2.statsOf
      app.machine.agentAddress).kea? point.statsKey =
      some (countReply (Tally.of (batchError point.url message.status)
          (takeParts point.url commands slots message.keaResponses))
        (((r.statsOf app.machine.agentAddress).kea? point.statsKey).getD {})) := by
  obtain ⟨-, hknown⟩ := roundTrip_answered keaOperation h
  have hbundles := bundles_roundTrip net app.machine keaOperation
    (.forwardToKeaOverHttp (keaRequest point.url commands)) r app.machine.agentAddress
  rw [(booked_takeReply app point commands slots message _).statsOf hknown, Stats.kea?_updateKea]
  unfold Stats.kea?
  rw [hbundles]

/-- A reply that has failed as a whole, and in its only part a daemon reports an error. -/
def failedReply : ForwardToKeaOverHttpRsp :=
  { status := some (.error "denied")
    keaResponses := [⟨some .ok, "[\x7b\"result\":1\x7d]"⟩] }

/-- What an answer does to the counters of the app: `c` is the number of failures of the batch and of
its entries, each entry being none exactly where the slot of its command was filled. The counter of
the control agent is reset where there are none, and grows by them otherwise. The counter of a daemon
for which no element of a filled slot speaks stays as it is; where the last one that does is no
error, it is reset, and otherwise it grows by the errors at the end. An app without counters starts
from zero. -/
theorem keaCommands_counters (net : Network ω) (app : App) (point : AccessPoint)
    (commands : List Kea.Command) (slots : List Kea.Slot) (r : Relay ω) (response : Response)
    (hpoint : app.accessPoint? .control = some point)
    (hanswer : (r.submit net app.machine.agentAddress
      (.forwardToKeaOverHttp (keaRequest point.url commands))).1 = .ok response) :
    ∃ message result outputs q old new c, response = .forwardToKeaOverHttp message ∧
      (Operation.keaCommands app commands slots).perform net r = ((.ok result, outputs), q) ∧
      result.commandErrors.length = message.keaResponses.length ∧
      (∀ i, result.commandErrors[i]? = some none ↔ ∃ command, commands[i]? = some command ∧
        Filled slots message.keaResponses outputs i command) ∧
      old = ((r.statsOf app.machine.agentAddress).kea? point.statsKey).getD {} ∧
      (q.statsOf app.machine.agentAddress).kea? point.statsKey = some new ∧
      c = (if succeeded message.status then 0 else 1) +
        result.commandErrors.countP Option.isSome ∧
      new.controlAgent = (if c = 0 then 0 else old.controlAgent + c) ∧
      ∀ name, Ordered.find? name new.daemons =
        match (resultsOf name (result.elements outputs)).getLast? with
        | none => Ordered.find? name old.daemons
        | some last => some (if last = Kea.resultError then
            (Ordered.find? name old.daemons).getD 0 +
              trailingErrors (resultsOf name (result.elements outputs))
          else 0) := by
  obtain ⟨message, hmessage⟩ := accepts_of_submit hanswer
  have hreply : (.ok response : Reply) = .ok (.forwardToKeaOverHttp message) :=
    eq_ok_of_bind_forwardToKeaOverHttp? hmessage
  refine ⟨message, _, _, _, _, _, _, Except.ok.inj hreply,
    keaCommands_answered hpoint hanswer hmessage, ?_,
    commandErrors_eq_none_iff point.url message.keaResponses, rfl,
    kea?_takeReply_roundTrip slots message hanswer, rfl, ?_, fun name => ?_⟩
  · simp [takeReply, takeParts]
  · exact congrArg (nextCount _) (length_failures ..)
  · have helements := elements_takeParts point.url commands slots
      (batchError point.url message.status) message.keaResponses
    have hdaemons := find?_countReply_of (batchError point.url message.status)
      (takeParts point.url commands slots message.keaResponses)
      (((r.statsOf app.machine.agentAddress).kea? point.statsKey).getD {}) name
    rw [← helements] at hdaemons
    exact hdaemons

/-- The first failures of a control agent and of a daemon behind it. -/
theorem keaCommands_counters_failed :
    keaApp.accessPoint? .control = some keaPoint ∧ ∃ result outputs q new,
      (Operation.keaCommands keaApp [⟨"config-get", ["dhcp4"], none⟩] [.headers []]).perform
          (keaNetwork failedReply) (fresh () 1) = ((.ok result, outputs), q) ∧
      (q.statsOf keaApp.machine.agentAddress).kea? keaPoint.statsKey = some new ∧
      new.controlAgent = 1 ∧ Ordered.find? "dhcp4" new.daemons = some 1 := by
  obtain ⟨message, result, outputs, q, old, new, c, hmessage, hperform, -, -, hold, hnew, hc,
    hagent, hdaemons⟩ := keaCommands_counters (keaNetwork failedReply) keaApp keaPoint
      [⟨"config-get", ["dhcp4"], none⟩] [.headers []] (fresh () 1)
      (.forwardToKeaOverHttp failedReply) rfl rfl
  have hresult := hperform
  cases hmessage
  cases hresult
  subst hold hc
  exact ⟨rfl, _, _, _, new, hperform, hnew, hagent, hdaemons "dhcp4"⟩

end AgentRelay.Relay
