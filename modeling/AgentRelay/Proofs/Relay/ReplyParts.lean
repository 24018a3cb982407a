import AgentRelay.Proofs.Relay.KeaCounters

/-! What becomes of each part of a reply to Kea commands. The parts are taken one by one, each with
the command and the slot at its position, whatever the numbers of commands, slots and parts are and
whatever the status of the reply is. A part that is good and can be read fills its slot, and its
entry is none; of any other part the entry says why not, and its slot stays as it is. -/
namespace AgentRelay.Relay

open Protocol

variable {ω : Type}

/-! ### One part -/

/-- The part is good, and there are a command and a slot at its position in which its payload can be
put, which makes it this slot. -/
structure Fits (commands : List Kea.Command) (slots : List Kea.Slot) (i : Nat) (part : KeaResponse)
    (filled : Kea.Slot) : Prop where
  good : succeeded part.status = true
  decodes : ∃ command slot, commands[i]? = some command ∧ slots[i]? = some slot ∧
    slot.decode command part.response = .ok filled

/-- The entry for the part of a reply at a position. -/
inductive Entry (url : String) (commands : List Kea.Command) (slots : List Kea.Slot) (i : Nat)
    (part : KeaResponse) : Option Error → Prop
  | filled {filled : Kea.Slot} (h : Fits commands slots i part filled) :
      Entry url commands slots i part none
  | status (h : succeeded part.status = false) :
      Entry url commands slots i part (some (.status url (statusMessage part.status)))
  | unexpected (h : succeeded part.status = true)
      (hplace : commands.length ≤ i ∨ slots.length ≤ i) :
      Entry url commands slots i part (some (.decode url ("unexpected response #" ++ toString i)))
  | malformed {command : Kea.Command} {slot : Kea.Slot} {e : Json.Error}
      (h : succeeded part.status = true) (hcommand : commands[i]? = some command)
      (hslot : slots[i]? = some slot) (hdecode : slot.decode command part.response = .error e) :
      Entry url commands slots i part (some (.decode url e.message))

section

variable {url : String} {commands : List Kea.Command} {slots : List Kea.Slot} {i : Nat}
  {part : KeaResponse} {filled : Kea.Slot}

theorem takePart_eq_ok_iff :
    takePart url commands slots i part = .ok filled ↔ Fits commands slots i part filled := by
  constructor
  · intro h
    obtain ⟨hgood, hdecodes⟩ := takePart_eq_ok h
    exact ⟨hgood, hdecodes⟩
  · rintro ⟨hgood, command, slot, hcommand, hslot, hdecode⟩
    exact takePart_of_decode url hgood hcommand hslot hdecode

theorem takePart_of_missing (hgood : succeeded part.status = true)
    (h : commands[i]? = none ∨ slots[i]? = none) : takePart url commands slots i part =
      .error (.decode url ("unexpected response #" ++ toString i)) := by
  rw [takePart, if_pos hgood]
  split
  · rename_i command slot hcommand hslot
    rw [hcommand, hslot] at h
    obtain h | h := h <;> cases h
  · rfl

theorem takePart_of_malformed {command : Kea.Command} {slot : Kea.Slot} {e : Json.Error}
    (hgood : succeeded part.status = true) (hcommand : commands[i]? = some command)
    (hslot : slots[i]? = some slot) (hdecode : slot.decode command part.response = .error e) :
    takePart url commands slots i part = .error (.decode url e.message) := by
  rw [takePart, if_pos hgood, hcommand, hslot]
  simp only [hdecode, mapError_error]

/-- Every part has an entry of one of the four kinds. -/
theorem entry_takePart (url : String) (commands : List Kea.Command) (slots : List Kea.Slot)
    (i : Nat) (part : KeaResponse) :
    Entry url commands slots i part (failure? (takePart url commands slots i part)) := by
  cases hgood : succeeded part.status with
  | false =>
    rw [takePart, if_neg (by rw [hgood]; exact Bool.false_ne_true)]
    exact .status hgood
  | true =>
    cases hcommand : commands[i]? with
    | none =>
      rw [takePart_of_missing hgood (.inl hcommand)]
      exact .unexpected hgood (.inl (List.getElem?_eq_none_iff.1 hcommand))
    | some command =>
      cases hslot : slots[i]? with
      | none =>
        rw [takePart_of_missing hgood (.inr hslot)]
        exact .unexpected hgood (.inr (List.getElem?_eq_none_iff.1 hslot))
      | some slot =>
        cases hdecode : slot.decode command part.response with
        | error e =>
          rw [takePart_of_malformed hgood hcommand hslot hdecode]
          exact .malformed hgood hcommand hslot hdecode
        | ok filled =>
          rw [takePart_of_decode url hgood hcommand hslot hdecode]
          exact .filled ⟨hgood, command, slot, hcommand, hslot, hdecode⟩

theorem failure?_eq_none_iff {α : Type} {outcome : Except Error α} :
    failure? outcome = none ↔ ∃ a, outcome = .ok a := by
  cases outcome <;> simp [failure?]

theorem failure?_takePart_eq_none_iff :
    failure? (takePart url commands slots i part) = none ↔
      ∃ filled, Fits commands slots i part filled := by
  rw [failure?_eq_none_iff]
  exact exists_congr fun _ => takePart_eq_ok_iff

end

/-! ### All parts -/

section

variable {slots : List Kea.Slot} {outcomes : List (Except Error Kea.Slot)} {i : Nat}
  {slot : Kea.Slot}

theorem length_fillSlots (slots : List Kea.Slot) (outcomes : List (Except Error Kea.Slot)) :
    (fillSlots slots outcomes).length = slots.length := List.length_mapIdx

/-- Only an entry that is none overwrites its slot. -/
theorem fillSlots_of_entry (hslot : slots[i]? = some slot)
    (hentry : (outcomes.map failure?)[i]? ≠ some none) :
    (fillSlots slots outcomes)[i]? = some slot := by
  rw [fillSlots, List.getElem?_mapIdx, hslot, Option.map_some]
  split
  · rename_i filled houtcome
    refine absurd ?_ hentry
    rw [List.getElem?_map, houtcome]
    rfl
  · rfl

end

theorem getElem?_entries (url : String) (commands : List Kea.Command) (slots : List Kea.Slot)
    {parts : List KeaResponse} {i : Nat} {part : KeaResponse} (hpart : parts[i]? = some part) :
    ((takeParts url commands slots parts).map failure?)[i]? =
      some (failure? (takePart url commands slots i part)) := by
  rw [List.getElem?_map, getElem?_takeParts, hpart]
  rfl

/-- A good part leaves the slot at its position as the slot itself receives its payload. -/
theorem fillSlots_receive (url : String) {commands : List Kea.Command} {slots : List Kea.Slot}
    {parts : List KeaResponse} {i : Nat} {part : KeaResponse} {command : Kea.Command}
    {slot : Kea.Slot} (hpart : parts[i]? = some part) (hgood : succeeded part.status = true)
    (hcommand : commands[i]? = some command) (hslot : slots[i]? = some slot) :
    (fillSlots slots (takeParts url commands slots parts))[i]? =
      some (slot.receive command part.response).2 := by
  have houtcome := getElem?_takeParts url commands slots parts i
  rw [hpart, Option.map_some] at houtcome
  rw [Kea.Slot.receive]
  cases hdecode : slot.decode command part.response with
  | ok filled =>
    rw [takePart_of_decode url hgood hcommand hslot hdecode] at houtcome
    exact fillSlots_of_ok hslot houtcome
  | error e =>
    rw [takePart_of_malformed hgood hcommand hslot hdecode] at houtcome
    refine fillSlots_of_entry hslot ?_
    rw [List.getElem?_map, houtcome]
    exact nofun

/-- A slot ends with the payload that was put in it, or as it was. -/
theorem getElem?_fillSlots (url : String) {commands : List Kea.Command} {slots : List Kea.Slot}
    (parts : List KeaResponse) {i : Nat} {slot : Kea.Slot} (hslot : slots[i]? = some slot) :
    ∃ output, (fillSlots slots (takeParts url commands slots parts))[i]? = some output ∧
      (((takeParts url commands slots parts).map failure?)[i]? ≠ some none → output = slot) ∧
      ∀ part filled, parts[i]? = some part → Fits commands slots i part filled →
        output = filled := by
  by_cases hentry : ((takeParts url commands slots parts).map failure?)[i]? = some none
  · have houtcome := hentry
    rw [List.getElem?_map] at houtcome
    obtain ⟨outcome, houtcome, hnone⟩ := Option.map_eq_some_iff.1 houtcome
    obtain ⟨output, rfl⟩ := failure?_eq_none_iff.1 hnone
    refine ⟨output, fillSlots_of_ok hslot houtcome, fun h => absurd hentry h,
      fun part filled hpart h => ?_⟩
    rw [getElem?_takeParts, hpart, Option.map_some, takePart_eq_ok_iff.2 h] at houtcome
    cases houtcome
    rfl
  · refine ⟨slot, fillSlots_of_entry hslot hentry, fun _ => rfl, fun part filled hpart h => ?_⟩
    refine absurd ?_ hentry
    rw [getElem?_entries url commands slots hpart, failure?_takePart_eq_none_iff.2 ⟨filled, h⟩]

/-! ### The operation -/

theorem keaCommands_reply {net : Network ω} {app : App} {point : AccessPoint}
    {commands : List Kea.Command} (slots : List Kea.Slot) {r : Relay ω}
    {message : ForwardToKeaOverHttpRsp} (hpoint : app.accessPoint? .control = some point)
    (h : (r.submit net app.machine.agentAddress
      (.forwardToKeaOverHttp (keaRequest point.url commands))).1 =
        .ok (.forwardToKeaOverHttp message)) :
    ∃ q, (Operation.keaCommands app commands slots).perform net r =
      ((.ok ⟨batchError point.url message.status,
          (takeParts point.url commands slots message.keaResponses).map failure?⟩,
        fillSlots slots (takeParts point.url commands slots message.keaResponses)), q) :=
  ⟨_, keaCommands_answered hpoint h rfl⟩

/-- What an answer makes of commands: the status of the reply is an error of the batch or none, there
is one entry for each part of the reply, and a slot is overwritten exactly where the entry is none.
The parts alone decide on the entries and the slots. -/
theorem keaCommands_entries (net : Network ω) (app : App) (point : AccessPoint)
    (commands : List Kea.Command) (slots : List Kea.Slot) (r : Relay ω) (response : Response)
    (hpoint : app.accessPoint? .control = some point)
    (hanswer : (r.submit net app.machine.agentAddress
      (.forwardToKeaOverHttp (keaRequest point.url commands))).1 = .ok response) :
    ∃ message result outputs q, response = .forwardToKeaOverHttp message ∧
      (Operation.keaCommands app commands slots).perform net r = ((.ok result, outputs), q) ∧
      result.error = (if succeeded message.status then none
        else some (.status point.url (statusMessage message.status))) ∧
      result.commandErrors.length = message.keaResponses.length ∧
      (∀ (i : Nat) part, message.keaResponses[i]? = some part →
        ∃ entry, result.commandErrors[i]? = some entry ∧
          Entry point.url commands slots i part entry ∧
          (entry = none ↔ ∃ filled, Fits commands slots i part filled)) ∧
      outputs.length = slots.length ∧
      (∀ (i : Nat) slot, slots[i]? = some slot → ∃ output, outputs[i]? = some output ∧
        (result.commandErrors[i]? ≠ some none → output = slot) ∧
        ∀ part filled, message.keaResponses[i]? = some part →
          Fits commands slots i part filled → output = filled) ∧
      ∀ (net' : Network ω) (r' : Relay ω) status, (r'.submit net' app.machine.agentAddress
          (.forwardToKeaOverHttp (keaRequest point.url commands))).1 =
            .ok (.forwardToKeaOverHttp ⟨status, message.keaResponses⟩) →
        ∃ result' q', (Operation.keaCommands app commands slots).perform net' r' =
            ((.ok result', outputs), q') ∧ result'.commandErrors = result.commandErrors := by
  obtain ⟨message, hmessage⟩ := accepts_of_submit hanswer
  have hreply : (.ok response : Reply) = .ok (.forwardToKeaOverHttp message) :=
    eq_ok_of_bind_forwardToKeaOverHttp? hmessage
  obtain ⟨q, hperform⟩ := keaCommands_reply slots hpoint (hreply ▸ hanswer)
  refine ⟨message, _, _, q, Except.ok.inj hreply, hperform, rfl, ?_, fun i part hpart => ?_,
    length_fillSlots .., fun i slot hslot => ?_, fun net' r' status hanswer' => ?_⟩
  · simp [takeParts]
  · refine ⟨_, getElem?_entries point.url commands slots hpart, entry_takePart .., ?_⟩
    exact failure?_takePart_eq_none_iff
  · exact getElem?_fillSlots point.url message.keaResponses hslot
  · -- the same parts under another status
    obtain ⟨q', hperform'⟩ := keaCommands_reply slots hpoint hanswer'
    exact ⟨_, q', hperform', rfl⟩

/-- A reply that has failed as a whole, with one part more than there were commands. -/
def surplusReply : ForwardToKeaOverHttpRsp :=
  { status := some (.error "denied")
    keaResponses := [⟨some .ok, "[\x7b\"result\":1\x7d]"⟩, ⟨some .ok, "[]"⟩] }

/-- The first part fills its slot all the same, and the second has no place. -/
theorem keaCommands_entries_surplus :
    keaApp.accessPoint? .control = some keaPoint ∧ ∃ result outputs q,
      (Operation.keaCommands keaApp [⟨"config-get", ["dhcp4"], none⟩] [.headers []]).perform
          (keaNetwork surplusReply) (fresh () 1) = ((.ok result, outputs), q) ∧
      result.commandErrors.length = 2 ∧ result.commandErrors[0]? = some none ∧
      result.commandErrors[1]? = some (some (.decode keaPoint.url "unexpected response #1")) := by
  obtain ⟨message, result, outputs, q, hmessage, hperform, -, hlength, -⟩ :=
    keaCommands_entries (keaNetwork surplusReply) keaApp keaPoint
      [⟨"config-get", ["dhcp4"], none⟩] [.headers []] (fresh () 1)
      (.forwardToKeaOverHttp surplusReply) rfl rfl
  have hresult := hperform
  cases hmessage
  cases hresult
  exact ⟨rfl, _, _, _, hperform, hlength, rfl, rfl⟩

end AgentRelay.Relay
