import AgentRelay.Proofs.Kea.Kinds
import AgentRelay.Proofs.Relay.ReplyParts
import Mathlib.Data.List.Forall2

/-! The kind of a slot makes no difference to what is counted. Where the payload of a part is an array
of objects that name no daemon, and each of two slots can be filled with it, the same daemons are
charged with the same results. So if this is so at every position of the reply where the slots are
not the same anyway, commands leave the relay in one and the same state. -/
namespace AgentRelay.Relay

open Protocol

variable {ω : Type}

/-! ### Outcomes -/

/-- What is counted of one part is the same. -/
inductive CountsAlike : Except Error Kea.Slot → Except Error Kea.Slot → Prop
  | filled {filled filled' : Kea.Slot} (h : filled.daemonResults = filled'.daemonResults) :
      CountsAlike (.ok filled) (.ok filled')
  | failed (e : Error) : CountsAlike (.error e) (.error e)

theorem CountsAlike.refl (outcome : Except Error Kea.Slot) : CountsAlike outcome outcome := by
  cases outcome with
  | ok filled => exact .filled rfl
  | error e => exact .failed e

section

variable {outcomes outcomes' : List (Except Error Kea.Slot)}
  (h : List.Forall₂ CountsAlike outcomes outcomes')

include h

theorem decodedElements_congr : decodedElements outcomes = decodedElements outcomes' := by
  induction h with
  | nil => rfl
  | cons hfirst _ ih =>
    simp only [decodedElements, List.flatMap_cons] at ih ⊢
    rw [ih]
    cases hfirst with
    | filled hresults => simp only [hresults]
    | failed => rfl

theorem failures_congr : outcomes.map failure? = outcomes'.map failure? := by
  induction h with
  | nil => rfl
  | cons hfirst _ ih =>
    rw [List.map_cons, List.map_cons, ih]
    cases hfirst <;> rfl

theorem tally_congr (batch : Option Error) : Tally.of batch outcomes = Tally.of batch outcomes' := by
  have hfailures : outcomes.filterMap failure? = outcomes'.filterMap failure? := by
    have hmap := congrArg (List.filterMap id) (failures_congr h)
    simpa [List.filterMap_map] using hmap
  rw [Tally.of, Tally.of, hfailures, decodedElements_congr h]

end

/-! ### Parts -/

/-- The slots are the same, or the payload is one that both can be filled with, whatever their
kinds. -/
inductive Interchangeable (command : Kea.Command) (payload : String) : Kea.Slot → Kea.Slot → Prop
  | same (slot : Kea.Slot) : Interchangeable command payload slot slot
  | filled {slot slot' filled filled' : Kea.Slot} {items : List Json.Value}
      (hpayload : Kea.NamelessObjects payload items)
      (hdecode : slot.decode command payload = .ok filled)
      (hdecode' : slot'.decode command payload = .ok filled') :
      Interchangeable command payload slot slot'

/-- At the position of every good part that has a command, the slots are interchangeable. -/
structure InterchangeableFor (commands : List Kea.Command) (parts : List KeaResponse)
    (slots slots' : List Kea.Slot) : Prop where
  length : slots.length = slots'.length
  each : ∀ {i : Nat} {part command slot slot'}, parts[i]? = some part →
    succeeded part.status = true → commands[i]? = some command → slots[i]? = some slot →
    slots'[i]? = some slot' → Interchangeable command part.response slot slot'

theorem daemonResults_eq {command : Kea.Command} {payload : String} {items : List Json.Value}
    (h : Kea.NamelessObjects payload items) {slot slot' filled filled' : Kea.Slot}
    (hdecode : slot.decode command payload = .ok filled)
    (hdecode' : slot'.decode command payload = .ok filled') :
    filled.daemonResults = filled'.daemonResults := by
  rw [Kea.daemonResults_of_decode h hdecode, Kea.daemonResults_of_decode h hdecode']

section

variable {commands : List Kea.Command} {parts : List KeaResponse} {slots slots' : List Kea.Slot}
  (h : InterchangeableFor commands parts slots slots')

include h

theorem takePart_countsAlike (url : String) {i : Nat} {part : KeaResponse}
    (hpart : parts[i]? = some part) : CountsAlike (takePart url commands slots i part)
      (takePart url commands slots' i part) := by
  cases hgood : succeeded part.status with
  | false =>
    simp only [takePart, hgood]
    exact .refl _
  | true =>
    cases hcommand : commands[i]? with
    | none =>
      rw [takePart_of_missing hgood (.inl hcommand), takePart_of_missing hgood (.inl hcommand)]
      exact .refl _
    | some command =>
      cases hslot : slots[i]? with
      | none =>
        have hslot' : slots'[i]? = none := by
          rw [List.getElem?_eq_none_iff, ← h.length]
          exact List.getElem?_eq_none_iff.1 hslot
        rw [takePart_of_missing hgood (.inr hslot), takePart_of_missing hgood (.inr hslot')]
        exact .refl _
      | some slot =>
        have hlt : i < slots'.length := by
          rw [← h.length]
          exact (List.getElem?_eq_some_iff.1 hslot).1
        obtain ⟨slot', hslot'⟩ : ∃ slot', slots'[i]? = some slot' :=
          ⟨_, List.getElem?_eq_getElem hlt⟩
        cases h.each hpart hgood hcommand hslot hslot' with
        | same =>
          rw [takePart, takePart, hslot, hslot']
          exact .refl _
        | filled hpayload hdecode hdecode' =>
          rw [takePart_of_decode url hgood hcommand hslot hdecode,
            takePart_of_decode url hgood hcommand hslot' hdecode']
          exact .filled (daemonResults_eq hpayload hdecode hdecode')

theorem takeParts_countsAlike (url : String) :
    List.Forall₂ CountsAlike (takeParts url commands slots parts)
      (takeParts url commands slots' parts) := by
  rw [List.forall₂_iff_get]
  refine ⟨by simp [takeParts], fun i hi hi' => ?_⟩
  simp only [takeParts, List.get_eq_getElem, List.getElem_mapIdx]
  apply takePart_countsAlike h
  apply List.getElem?_eq_getElem

theorem takeReply_congr (app : App) (point : AccessPoint) (status : Option Status) (r : Relay ω) :
    (takeReply app point commands slots ⟨status, parts⟩ r).1.1 =
        (takeReply app point commands slots' ⟨status, parts⟩ r).1.1 ∧
      (takeReply app point commands slots ⟨status, parts⟩ r).2 =
        (takeReply app point commands slots' ⟨status, parts⟩ r).2 := by
  have halike := takeParts_countsAlike h point.url
  constructor
  · show KeaResult.mk _ _ = KeaResult.mk _ _
    rw [failures_congr halike]
  · simp only [takeReply, decodedElements_congr halike, tally_congr halike]

end

/-! ### The operation -/

/-- Commands with interchangeable slots leave the relay in the same state and have the same
result. -/
theorem perform_keaCommands_congr (net : Network ω) {app : App} {commands : List Kea.Command}
    {slots slots' : List Kea.Slot} {r : Relay ω}
    (h : ∀ point message, app.accessPoint? .control = some point →
      (r.submit net app.machine.agentAddress
        (.forwardToKeaOverHttp (keaRequest point.url commands))).1 =
          .ok (.forwardToKeaOverHttp message) →
      InterchangeableFor commands message.keaResponses slots slots') :
    ((Operation.keaCommands app commands slots).perform net r).2 =
        ((Operation.keaCommands app commands slots').perform net r).2 ∧
      ((Operation.keaCommands app commands slots).perform net r).1.1 =
        ((Operation.keaCommands app commands slots').perform net r).1.1 := by
  unfold Operation.keaCommands
  split
  · exact ⟨rfl, rfl⟩
  · rename_i point hpoint
    simp only [Operation.perform, Operation.roundTrip]
    split
    · exact ⟨rfl, rfl⟩
    · rename_i message hmessage
      have hreply := eq_ok_of_bind_forwardToKeaOverHttp? hmessage
      have hsubmit := accountReply_eq_ok _ _ _ hreply
      obtain ⟨hresult, hrelay⟩ := takeReply_congr (h point message hpoint hsubmit) app point
        message.status _
      exact ⟨hrelay, congrArg Except.ok hresult⟩

/-- The kind of a slot does not change what is counted. Slots of any two kinds that can be filled
with an array of objects without a daemon then hold the same daemons and results; and commands that
differ only in the kinds of such slots have the same result, and leave the relay, with its counters,
events and log, in the same state. -/
theorem keaCommands_kinds (ω : Type) :
    (∀ command payload items (slot slot' filled filled' : Kea.Slot),
      Kea.NamelessObjects payload items → slot.decode command payload = .ok filled →
        slot'.decode command payload = .ok filled' →
          filled.daemonResults = filled'.daemonResults) ∧
    ∀ (net : Network ω) app commands slots slots' (r : Relay ω),
      (∀ point message, app.accessPoint? .control = some point →
        (r.submit net app.machine.agentAddress
          (.forwardToKeaOverHttp (keaRequest point.url commands))).1 =
            .ok (.forwardToKeaOverHttp message) →
        InterchangeableFor commands message.keaResponses slots slots') →
      ((Operation.keaCommands app commands slots).perform net r).2 =
          ((Operation.keaCommands app commands slots').perform net r).2 ∧
        ((Operation.keaCommands app commands slots).perform net r).1.1 =
          ((Operation.keaCommands app commands slots').perform net r).1.1 := by
  constructor
  · intro command payload items slot slot' filled filled' h hdecode hdecode'
    exact daemonResults_eq h hdecode hdecode'
  · intro net app commands slots slots' r h
    exact perform_keaCommands_congr net h

/-- An element read without its arguments, and as a JSON value. -/
theorem keaCommands_kinds_failed :
    Kea.Slot.daemonResults (.headers [⟨1, "", "dhcp4"⟩]) =
        Kea.Slot.daemonResults (.values [.object [("daemon", .string "dhcp4"),
          ("result", .number (.integer 1 (by decide)))]]) ∧
      ((Operation.keaCommands keaApp [⟨"config-get", ["dhcp4"], none⟩] [.headers []]).perform
          (keaNetwork failedReply) (fresh () 1)).2 =
        ((Operation.keaCommands keaApp [⟨"config-get", ["dhcp4"], none⟩] [.values []]).perform
          (keaNetwork failedReply) (fresh () 1)).2 := by
  obtain ⟨hslots, hcommands⟩ := keaCommands_kinds Unit
  have hpayload : Kea.NamelessObjects "[\x7b\"result\":1\x7d]"
      [.object [("result", .number (.integer 1 (by decide)))]] := by
    refine ⟨rfl, fun v hv => ?_⟩
    obtain rfl := List.mem_singleton.1 hv
    exact ⟨_, rfl, rfl⟩
  refine ⟨?_, (hcommands _ _ _ _ _ _ fun point message hpoint hanswer => ?_).1⟩
  · exact hslots ⟨"config-get", ["dhcp4"], none⟩ _ _ (.headers []) (.values []) _ _ hpayload rfl rfl
  cases hpoint
  cases hanswer
  refine ⟨rfl, fun {i part command slot slot'} hpart _ hcommand hslot hslot' => ?_⟩
  cases i with
  | zero =>
    cases hpart
    cases hcommand
    cases hslot
    cases hslot'
    exact .filled hpayload rfl rfl
  | succ i => cases hcommand

end AgentRelay.Relay
