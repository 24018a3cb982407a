import AgentRelay.Proofs.Outcome
import AgentRelay.Proofs.Relay.Counters
import AgentRelay.Relay.Kea

/-! What the result of Kea commands says of each command. Its entries are made from the parts of the
reply, and so it speaks for every command exactly when the reply has a part for every command; a
reply that is too short lets a command without an answer pass for a success. -/
namespace AgentRelay.Relay

open Protocol

variable {ω : Type} {commands : List Kea.Command} {slots outputs : List Kea.Slot}

/-- The reply has a good part for the command at a position, and its payload is in the slot. -/
def Filled (slots : List Kea.Slot) (parts : List KeaResponse) (outputs : List Kea.Slot) (i : Nat)
    (command : Kea.Command) : Prop :=
  ∃ part slot filled, parts[i]? = some part ∧ succeeded part.status = true ∧
    slots[i]? = some slot ∧ slot.decode command part.response = .ok filled ∧
    outputs[i]? = some filled

/-- What a caller is promised: an entry for every command, and where the result is good, an answer
to every command in its slot. -/
structure Faithful (commands : List Kea.Command) (slots : List Kea.Slot) (parts : List KeaResponse)
    (result : KeaResult) (outputs : List Kea.Slot) : Prop where
  entries : ∀ i < commands.length, ∃ entry, result.commandErrors[i]? = some entry
  filled : result.isOk = true → ∀ i command, commands[i]? = some command →
    Filled slots parts outputs i command

/-! ### The parts of a reply -/

section

variable {url : String} {i : Nat}

theorem takePart_eq_ok {part : KeaResponse} {filled : Kea.Slot}
    (h : takePart url commands slots i part = .ok filled) :
    succeeded part.status = true ∧ ∃ command slot, commands[i]? = some command ∧
      slots[i]? = some slot ∧ slot.decode command part.response = .ok filled := by
  unfold takePart at h
  split at h
  · rename_i hstatus
    split at h
    · rename_i command slot hcommand hslot
      exact ⟨hstatus, command, slot, hcommand, hslot, eq_ok_of_mapError_eq_ok h⟩
    · cases h
  · cases h

theorem fillSlots_of_ok {outcomes : List (Except Error Kea.Slot)} {slot filled : Kea.Slot}
    (hslot : slots[i]? = some slot) (houtcome : outcomes[i]? = some (.ok filled)) :
    (fillSlots slots outcomes)[i]? = some filled := by
  simp [fillSlots, List.getElem?_mapIdx, hslot, houtcome]

/-- Where no entry is an error, every part was good. -/
theorem outcome_of_isOk {batch : Option Error} {outcomes : List (Except Error Kea.Slot)}
    {outcome : Except Error Kea.Slot} (h : KeaResult.isOk ⟨batch, outcomes.map failure?⟩ = true)
    (houtcome : outcomes[i]? = some outcome) : ∃ filled, outcome = .ok filled := by
  obtain ⟨-, hall⟩ := Bool.and_eq_true_iff.1 h
  have hnone := List.all_eq_true.1 hall _ (List.mem_map_of_mem (List.mem_of_getElem? houtcome))
  cases outcome with
  | ok filled => exact ⟨filled, rfl⟩
  | error e => cases hnone

theorem getElem?_takeParts (url : String) (commands : List Kea.Command) (slots : List Kea.Slot)
    (parts : List KeaResponse) (i : Nat) :
    (takeParts url commands slots parts)[i]? = parts[i]?.map (takePart url commands slots i) :=
  List.getElem?_mapIdx

theorem faithful_takeParts_iff (batch : Option Error) (parts : List KeaResponse) :
    Faithful commands slots parts ⟨batch, (takeParts url commands slots parts).map failure?⟩
        (fillSlots slots (takeParts url commands slots parts)) ↔
      commands.length ≤ parts.length := by
  constructor
  · intro h
    refine Nat.le_of_not_lt fun hlt => ?_
    -- the first command beyond the parts has no entry
    obtain ⟨entry, hentry⟩ := h.entries parts.length hlt
    rw [List.getElem?_map, getElem?_takeParts, List.getElem?_eq_none (Nat.le_refl _)] at hentry
    cases hentry
  · intro hle
    refine ⟨fun i hi => ?_, fun hok i command hcommand => ?_⟩
    · rw [List.getElem?_map, getElem?_takeParts,
        List.getElem?_eq_getElem (Nat.lt_of_lt_of_le hi hle)]
      exact ⟨_, rfl⟩
    · obtain ⟨hi, -⟩ := List.getElem?_eq_some_iff.1 hcommand
      have hpart := List.getElem?_eq_getElem (Nat.lt_of_lt_of_le hi hle)
      have houtcome := getElem?_takeParts url commands slots parts i
      rw [hpart, Option.map_some] at houtcome
      obtain ⟨filled, hfilled⟩ := outcome_of_isOk hok houtcome
      obtain ⟨hstatus, command', slot, hcommand', hslot, hdecode⟩ := takePart_eq_ok hfilled
      obtain rfl := Option.some.inj (hcommand'.symm.trans hcommand)
      rw [hfilled] at houtcome
      exact ⟨_, slot, filled, hpart, hstatus, hslot, hdecode, fillSlots_of_ok hslot houtcome⟩

end

/-! ### The operation -/

theorem eq_ok_of_bind_forwardToKeaOverHttp? {reply : Reply} {message : ForwardToKeaOverHttpRsp}
    (h : reply.bind Response.forwardToKeaOverHttp? = .ok message) :
    reply = .ok (.forwardToKeaOverHttp message) := by
  obtain ⟨response, rfl, hresponse⟩ := exists_of_bind_eq_ok h
  cases response with
  | forwardToKeaOverHttp message' =>
    cases hresponse
    rfl
  | _ => cases hresponse

theorem keaCommands_eq_ok {net : Network ω} {app : App} {r q : Relay ω} {result : KeaResult}
    (h : (Operation.keaCommands app commands slots).perform net r = ((.ok result, outputs), q)) :
    ∃ point message, app.accessPoint? .control = some point ∧
      (r.submit net app.machine.agentAddress
        (.forwardToKeaOverHttp (keaRequest point.url commands))).1 =
          .ok (.forwardToKeaOverHttp message) ∧
      result = ⟨batchError point.url message.status,
        (takeParts point.url commands slots message.keaResponses).map failure?⟩ ∧
      outputs = fillSlots slots (takeParts point.url commands slots message.keaResponses) := by
  unfold Operation.keaCommands at h
  split at h
  · cases h
  · rename_i point hpoint
    simp only [Operation.perform, Operation.roundTrip] at h
    split at h
    · cases h
    · rename_i message hmessage
      cases h
      have hreply := eq_ok_of_bind_forwardToKeaOverHttp? hmessage
      exact ⟨point, message, hpoint, accountReply_eq_ok _ _ _ hreply, rfl, rfl⟩

/-- A network on which every agent gives the same reply to Kea commands. -/
def keaNetwork (reply : ForwardToKeaOverHttpRsp) : Network Unit where
  connect _ w := (none, w)
  call _ _ w := ({ remote := { Remote.failing ⟨.unimplemented, "", []⟩ with
    forwardToKeaOverHttp := fun _ => .ok reply } }, w)

def keaPoint : AccessPoint := ⟨.control, "10.0.0.1", 8000, none⟩

/-- A Kea app with a control agent. -/
def keaApp : App := ⟨1, "kea@host", .kea, ⟨1, "10.0.0.1", 8080⟩, [keaPoint], []⟩

def listCommands : Kea.Command := ⟨"list-commands", [], none⟩

/-- A result keeps its promise exactly when the reply has no fewer parts than there were commands,
whatever slots there are and whatever the parts say. -/
theorem keaCommands_faithful_iff (net : Network ω) (app : App) (commands : List Kea.Command)
    (slots outputs : List Kea.Slot) (r q : Relay ω) (result : KeaResult)
    (h : (Operation.keaCommands app commands slots).perform net r = ((.ok result, outputs), q)) :
    ∃ point message, app.accessPoint? .control = some point ∧
      (r.submit net app.machine.agentAddress
        (.forwardToKeaOverHttp (keaRequest point.url commands))).1 =
          .ok (.forwardToKeaOverHttp message) ∧
      (Faithful commands slots message.keaResponses result outputs ↔
        commands.length ≤ message.keaResponses.length) := by
  obtain ⟨point, message, hpoint, hreply, rfl, rfl⟩ := keaCommands_eq_ok h
  exact ⟨point, message, hpoint, hreply, faithful_takeParts_iff _ _⟩

/-- Two commands, and a reply with one part, which has failed. -/
theorem keaCommands_faithful_iff_refused :
    ∃ point message, keaApp.accessPoint? .control = some point ∧
      (({ registry := { world := () } } : Relay Unit).submit
        (keaNetwork { status := some .ok, keaResponses := [⟨some (.error "denied"), ""⟩] })
        keaApp.machine.agentAddress
        (.forwardToKeaOverHttp (keaRequest point.url [listCommands, listCommands]))).1 =
          .ok (.forwardToKeaOverHttp message) ∧
      (Faithful [listCommands, listCommands] [.headers [], .values []] message.keaResponses
          ⟨none, [some (.status keaPoint.url "denied")]⟩ [.headers [], .values []] ↔
        2 ≤ message.keaResponses.length) :=
  keaCommands_faithful_iff _ _ _ _ _ _ _ _ rfl

/-- One command, and a good reply without parts: the result has no entry and is a success. -/
theorem unanswered_command_succeeds : ∃ result outputs q,
    (Operation.keaCommands keaApp [listCommands] [.headers []]).perform
        (keaNetwork { status := some .ok }) ({ registry := { world := () } } : Relay Unit) =
      ((.ok result, outputs), q) ∧
    result.isOk = true ∧ ¬ Faithful [listCommands] [.headers []] [] result outputs := by
  refine ⟨⟨none, []⟩, [.headers []], _, rfl, rfl, fun h => ?_⟩
  obtain ⟨_, hentry⟩ := h.entries 0 (by decide)
  cases hentry

end AgentRelay.Relay
