import AgentRelay.Proofs.Relay.KeaCounters

/-! Kea commands in one request and in several. Within a reply the errors of a daemon are counted
since its last element that has not failed. This tally is added to the counter, or resets it where
it is zero: so a daemon that has recovered and fails again within one reply keeps the failures from
before its recovery. Apart from that the counter is the number of its consecutive failures, and in
any case it is zero when that is. -/
namespace AgentRelay.Relay

open Protocol

variable {ω : Type}

/-! ### Consecutive failures -/

/-- The errors since the last result that is none, going on from `n` of them. -/
def consecutive (n : Nat) (results : List Int64) : Nat :=
  results.foldl (fun n result => if result = Kea.resultError then n + 1 else 0) n

/-- The counter of a daemon after a reply that reports these results for it: the errors at the end of
them are added, or else it is zero again. -/
def afterReply (n : Nat) (results : List Int64) : Nat :=
  match results.getLast? with
  | none => n
  | some last => if last = Kea.resultError then n + trailingErrors results else 0

def allErrors (results : List Int64) : Bool := results.all (· = Kea.resultError)

/-- The daemon fails at the end, though it has not failed throughout. -/
def Relapsed (results : List Int64) : Prop :=
  results.getLast? = some Kea.resultError ∧ ∃ result ∈ results, result ≠ Kea.resultError

section

variable (n : Nat) (results : List Int64)

theorem allErrors_iff :
    allErrors results = true ↔ ∀ result ∈ results, result = Kea.resultError := by
  rw [allErrors, List.all_eq_true]
  simp only [decide_eq_true_eq]

theorem consecutive_append (more : List Int64) :
    consecutive n (results ++ more) = consecutive (consecutive n results) more :=
  List.foldl_append

theorem consecutive_concat (result : Int64) : consecutive n (results ++ [result]) =
    if result = Kea.resultError then consecutive n results + 1 else 0 :=
  consecutive_append n results [result]

/-- What was there before counts only as long as every result is an error. -/
theorem consecutive_eq : consecutive n results =
    (if allErrors results then n else 0) + trailingErrors results := by
  induction results using List.reverseRecOn with
  | nil => simp [consecutive, trailingErrors, allErrors]
  | append_singleton results result ih =>
    rw [consecutive_concat, trailingErrors_concat, ih]
    by_cases h : result = Kea.resultError
    · simp only [h, allErrors, List.all_append, List.all_cons, List.all_nil, decide_true,
        Bool.and_true, if_true]
      exact Nat.add_assoc ..
    · simp [h, allErrors, List.all_append]

theorem trailingErrors_append (more : List Int64) : trailingErrors (results ++ more) =
    (if allErrors more then trailingErrors results else 0) +
      trailingErrors more := by
  have hzero : ∀ results, consecutive 0 results = trailingErrors results := fun results => by
    rw [consecutive_eq, ite_self, Nat.zero_add]
  rw [← hzero, consecutive_append, hzero, consecutive_eq]

theorem afterReply_nil : afterReply n [] = n := rfl

theorem afterReply_concat (result : Int64) : afterReply n (results ++ [result]) =
    if result = Kea.resultError then n + trailingErrors (results ++ [result]) else 0 := by
  rw [afterReply, List.getLast?_concat]

variable {n results}

theorem afterReply_of_relapsed (h : Relapsed results) :
    afterReply n results = n + consecutive n results := by
  obtain ⟨hlast, result, hresult, hgood⟩ := h
  have hnot : ¬allErrors results = true := fun hall =>
    hgood ((allErrors_iff results).1 hall result hresult)
  rw [consecutive_eq, if_neg hnot, Nat.zero_add, afterReply, hlast]
  exact if_pos rfl

theorem afterReply_of_not_relapsed (h : ¬Relapsed results) :
    afterReply n results = consecutive n results := by
  induction results using List.reverseRecOn with
  | nil => rfl
  | append_singleton results result _ =>
    rw [afterReply_concat]
    by_cases hresult : result = Kea.resultError
    · have hall : allErrors (results ++ [result]) = true := by
        refine (allErrors_iff _).2 fun r hr => ?_
        refine Decidable.byContradiction fun hgood => h ⟨?_, r, hr, hgood⟩
        rw [List.getLast?_concat, hresult]
      rw [if_pos hresult, consecutive_eq, if_pos hall]
    · rw [if_neg hresult, consecutive_concat, if_neg hresult]

theorem le_afterReply : consecutive n results ≤ afterReply n results := by
  by_cases h : Relapsed results
  · rw [afterReply_of_relapsed h]
    exact Nat.le_add_left ..
  · exact Nat.le_of_eq (afterReply_of_not_relapsed h).symm

theorem consecutive_mono {m : Nat} (h : n ≤ m) : consecutive n results ≤ consecutive m results := by
  rw [consecutive_eq, consecutive_eq]
  split <;> omega

/-- Whether there are consecutive failures depends on what was before only by its being zero. -/
theorem afterReply_eq_zero_iff {m : Nat} (h : n = 0 ↔ m = 0) :
    afterReply n results = 0 ↔ consecutive m results = 0 := by
  induction results using List.reverseRecOn with
  | nil => exact h
  | append_singleton results result _ =>
    rw [afterReply_concat, consecutive_concat, trailingErrors_concat]
    split <;> simp

end

/-! ### One list of results or two -/

theorem afterReply_eq_add_iff {n : Nat} {results : List Int64} :
    afterReply n results = n + trailingErrors results ↔
      afterReply n results = n ∨ results.getLast? = some Kea.resultError := by
  induction results using List.reverseRecOn with
  | nil => simp [afterReply_nil, trailingErrors]
  | append_singleton results result _ =>
    rw [afterReply_concat, trailingErrors_concat, List.getLast?_concat]
    by_cases h : result = Kea.resultError <;> simp [h]

/-- In one reply or in two: the counter is the same if the first results leave it as it was, if the
second results do not end with an error, or if they are errors only and go on from one. -/
theorem afterReply_append_iff {n : Nat} {first second : List Int64} :
    afterReply n (first ++ second) = afterReply (afterReply n first) second ↔
      afterReply n first = n ∨ second.getLast? ≠ some Kea.resultError ∨
        (first.getLast? = some Kea.resultError ∧ ∀ result ∈ second, result = Kea.resultError) := by
  induction second using List.reverseRecOn with
  | nil => simp [afterReply_nil]
  | append_singleton second result _ =>
    rw [← List.append_assoc, afterReply_concat, afterReply_concat, List.getLast?_concat]
    by_cases hresult : result = Kea.resultError
    · rw [if_pos hresult, if_pos hresult, List.append_assoc, trailingErrors_append, hresult]
      simp only [ne_eq, not_true_eq_false, false_or, ← allErrors_iff]
      -- the errors at the end of the first results count only if nothing but errors comes after
      split
      · rename_i hall
        rw [and_iff_left hall, ← afterReply_eq_add_iff]
        omega
      · rename_i hall
        rw [or_iff_left fun h => hall h.2]
        omega
    · simp [hresult]

/-! ### Any number of lists -/

section

variable {n m : Nat}

theorem foldl_afterReply_eq_zero_iff (lists : List (List Int64)) (h : n = 0 ↔ m = 0) :
    lists.foldl afterReply n = 0 ↔ consecutive m lists.flatten = 0 := by
  induction lists generalizing n m with
  | nil => exact h
  | cons results lists ih =>
    rw [List.flatten_cons, consecutive_append]
    exact ih (afterReply_eq_zero_iff h)

theorem le_foldl_afterReply (lists : List (List Int64)) (h : m ≤ n) :
    consecutive m lists.flatten ≤ lists.foldl afterReply n := by
  induction lists generalizing n m with
  | nil => exact h
  | cons results lists ih =>
    rw [List.flatten_cons, consecutive_append]
    exact ih (Nat.le_trans (consecutive_mono h) le_afterReply)

theorem foldl_afterReply_of_not_relapsed {lists : List (List Int64)}
    (h : ∀ results ∈ lists, ¬Relapsed results) :
    lists.foldl afterReply n = consecutive n lists.flatten := by
  induction lists generalizing n with
  | nil => rfl
  | cons results lists ih =>
    rw [List.flatten_cons, consecutive_append, List.foldl_cons,
      afterReply_of_not_relapsed (h results List.mem_cons_self)]
    exact ih fun results hresults => h results (List.mem_cons_of_mem _ hresults)

end

/-! ### The entry of a daemon -/

/-- The entry of a daemon after a reply. Where nothing is reported for it, none is made. -/
def entryAfter (entry : Option Nat) (results : List Int64) : Option Nat :=
  if results = [] then entry else some (afterReply (entry.getD 0) results)

section

variable (entry : Option Nat) (results : List Int64)

theorem getD_entryAfter :
    (entryAfter entry results).getD 0 = afterReply (entry.getD 0) results := by
  by_cases h : results = []
  · rw [entryAfter, if_pos h, h, afterReply_nil]
  · rw [entryAfter, if_neg h, Option.getD_some]

theorem entryAfter_append_iff (more : List Int64) :
    entryAfter entry (results ++ more) = entryAfter (entryAfter entry results) more ↔
      afterReply (entry.getD 0) (results ++ more) =
        afterReply (afterReply (entry.getD 0) results) more := by
  by_cases hmore : more = []
  · simp [hmore, afterReply_nil, entryAfter]
  · have hsome : ∀ entry', entryAfter entry' more = some (afterReply (entry'.getD 0) more) :=
      fun _ => if_neg hmore
    rw [hsome, getD_entryAfter, entryAfter, if_neg (by simp [hmore]), Option.some_inj]

end

theorem find?_countReply_eq (batch : Option Error) (outcomes : List (Except Error Kea.Slot))
    (c : Stats.KeaCounters) (name : String) :
    Ordered.find? name (countReply (Tally.of batch outcomes) c).daemons =
      entryAfter (Ordered.find? name c.daemons) (resultsOf name (decodedElements outcomes)) := by
  rw [find?_countReply_of]
  cases h : (resultsOf name (decodedElements outcomes)).getLast? with
  | none => rw [List.getLast?_eq_none_iff.1 h]; rfl
  | some last =>
    have hne : resultsOf name (decodedElements outcomes) ≠ [] := fun hnil => by simp [hnil] at h
    rw [entryAfter, if_neg hne, afterReply, h]

/-! ### Batches of commands -/

/-- A command with its slot, and the part of a reply that answers it. -/
structure Answered where
  command : Kea.Command
  slot : Kea.Slot
  part : KeaResponse

/-- The part is good, and its payload can be decoded. -/
def Answered.Good (a : Answered) : Prop :=
  succeeded a.part.status = true ∧ ∃ filled, a.slot.decode a.command a.part.response = .ok filled

/-- What the slot is filled with. -/
def Answered.elements (a : Answered) : List Kea.DaemonResult :=
  match a.slot.decode a.command a.part.response with
  | .ok filled => filled.daemonResults
  | .error _ => []

/-- The results that the answers to a batch report for a daemon. -/
def batchResults (name : String) (batch : List Answered) : List Int64 :=
  resultsOf name (batch.flatMap Answered.elements)

theorem resultsOf_append (name : String) (elements more : List Kea.DaemonResult) :
    resultsOf name (elements ++ more) = resultsOf name elements ++ resultsOf name more := by
  simp [resultsOf]

theorem batchResults_append (name : String) (batch more : List Answered) :
    batchResults name (batch ++ more) = batchResults name batch ++ batchResults name more := by
  rw [batchResults, List.flatMap_append, resultsOf_append]
  rfl

theorem batchResults_flatten (name : String) (batches : List (List Answered)) :
    batchResults name batches.flatten = (batches.map (batchResults name)).flatten := by
  induction batches with
  | nil => rfl
  | cons batch batches ih => rw [List.flatten_cons, batchResults_append, ih]; rfl

theorem decodedElements_takeParts (url : String) {batch : List Answered}
    (h : ∀ a ∈ batch, a.Good) :
    decodedElements (takeParts url (batch.map Answered.command) (batch.map Answered.slot)
      (batch.map Answered.part)) = batch.flatMap Answered.elements := by
  have houtcomes : takeParts url (batch.map Answered.command) (batch.map Answered.slot)
      (batch.map Answered.part) = batch.map fun a =>
        (a.slot.decode a.command a.part.response).mapError (.decode url ·.message) := by
    refine List.ext_getElem? fun i => ?_
    rw [getElem?_takeParts, List.getElem?_map, List.getElem?_map, Option.map_map]
    cases ha : batch[i]? with
    | none => rfl
    | some a =>
      obtain ⟨hstatus, filled, hfilled⟩ := h a (List.mem_of_getElem? ha)
      have htake : takePart url (batch.map Answered.command) (batch.map Answered.slot) i a.part =
          .ok filled :=
        takePart_of_decode url hstatus (by rw [List.getElem?_map, ha]; rfl)
          (by rw [List.getElem?_map, ha]; rfl) hfilled
      simp only [Option.map_some, Function.comp_apply, htake, hfilled]
      rfl
  rw [houtcomes, decodedElements, List.flatMap_map]
  refine congrArg batch.flatMap (funext fun a => ?_)
  unfold Answered.elements
  cases a.slot.decode a.command a.part.response <;> rfl

/-! ### Calls -/

/-- The counters of a Kea app. Before they are written for the first time, they are zero. -/
def keaCounters (r : Relay ω) (app : App) (point : AccessPoint) : Stats.KeaCounters :=
  ((r.statsOf app.machine.agentAddress).kea? point.statsKey).getD {}

/-- The counters of the daemons behind an access point. -/
def daemonErrors (r : Relay ω) (app : App) (point : AccessPoint) : List (String × Nat) :=
  (r.keaCounters app point).daemons

/-- What a reply to commands has to be counted. -/
def replyTally (point : AccessPoint) (commands : List Kea.Command) (slots : List Kea.Slot)
    (message : ForwardToKeaOverHttpRsp) : Tally :=
  Tally.of (batchError point.url message.status)
    (takeParts point.url commands slots message.keaResponses)

theorem keaCounters_answered {net : Network ω} {app : App} {point : AccessPoint}
    {commands : List Kea.Command} (slots : List Kea.Slot) {r : Relay ω}
    {message : ForwardToKeaOverHttpRsp} (hpoint : app.accessPoint? .control = some point)
    (hanswer : (r.submit net app.machine.agentAddress
      (.forwardToKeaOverHttp (keaRequest point.url commands))).1 =
        .ok (.forwardToKeaOverHttp message)) :
    ((Operation.keaCommands app commands slots).perform net r).2.keaCounters app point =
      countReply (replyTally point commands slots message) (r.keaCounters app point) := by
  rw [keaCommands_answered hpoint hanswer rfl, keaCounters,
    kea?_takeReply_roundTrip slots message hanswer, Option.getD_some]
  rfl

/-- A call that sends a batch and is answered with its parts, all of them good, on any network. -/
structure Carried (app : App) (point : AccessPoint) (batch : List Answered) (r q : Relay ω) :
    Prop where
  good : ∀ a ∈ batch, a.Good
  call : ∃ (net : Network ω) (status : Option Status), succeeded status = true ∧
    (r.submit net app.machine.agentAddress
      (.forwardToKeaOverHttp (keaRequest point.url (batch.map Answered.command)))).1 =
        .ok (.forwardToKeaOverHttp ⟨status, batch.map Answered.part⟩) ∧
    q = ((Operation.keaCommands app (batch.map Answered.command)
      (batch.map Answered.slot)).perform net r).2

/-- Calls one after the other, each with its batch. -/
inductive CarriedAll (app : App) (point : AccessPoint) :
    List (List Answered) → Relay ω → Relay ω → Prop where
  | nil {r : Relay ω} : CarriedAll app point [] r r
  | cons {batch : List Answered} {batches : List (List Answered)} {r q p : Relay ω} :
    Carried app point batch r q → CarriedAll app point batches q p →
      CarriedAll app point (batch :: batches) r p

section

variable {app : App} {point : AccessPoint} (hpoint : app.accessPoint? .control = some point)

include hpoint

theorem Carried.entry {batch : List Answered} {r q : Relay ω} (h : Carried app point batch r q)
    (name : String) : Ordered.find? name (daemonErrors q app point) =
      entryAfter (Ordered.find? name (daemonErrors r app point)) (batchResults name batch) := by
  obtain ⟨hgood, net, status, -, hanswer, rfl⟩ := h
  rw [daemonErrors, keaCounters_answered _ hpoint hanswer, replyTally, find?_countReply_eq,
    decodedElements_takeParts point.url hgood]
  rfl

theorem Carried.count {batch : List Answered} {r q : Relay ω} (h : Carried app point batch r q)
    (name : String) : daemonCount (daemonErrors q app point) name =
      afterReply (daemonCount (daemonErrors r app point) name) (batchResults name batch) := by
  rw [daemonCount, h.entry hpoint name, getD_entryAfter]
  rfl

theorem CarriedAll.count {batches : List (List Answered)} {r q : Relay ω}
    (h : CarriedAll app point batches r q) (name : String) :
    daemonCount (daemonErrors q app point) name =
      (batches.map (batchResults name)).foldl afterReply
        (daemonCount (daemonErrors r app point) name) := by
  induction h with
  | nil => rfl
  | cons hfirst _ ih => rw [ih, hfirst.count hpoint name]; rfl

end

/-! ### Calls to one daemon -/

/-- A command to the DHCPv4 daemon, and its answer with a result. -/
def dhcp4Answered (payload : String) : Answered :=
  ⟨⟨"config-get", ["dhcp4"], none⟩, .headers [], ⟨some .ok, payload⟩⟩

def failedAnswer : Answered := dhcp4Answered "[\x7b\"result\":1\x7d]"

def goodAnswer : Answered := dhcp4Answered "[\x7b\"result\":0\x7d]"

/-- The relay after a call with a batch that the agent answers. -/
def callWith (batch : List Answered) (r : Relay Unit) : Relay Unit :=
  ((Operation.keaCommands keaApp (batch.map Answered.command) (batch.map Answered.slot)).perform
    (keaNetwork ⟨some .ok, batch.map Answered.part⟩) r).2

theorem good_of_mem {batch : List Answered} (h : ∀ a ∈ batch, a = failedAnswer ∨ a = goodAnswer) :
    ∀ a ∈ batch, a.Good := by
  intro a ha
  obtain rfl | rfl := h a ha
  · exact ⟨rfl, _, rfl⟩
  · exact ⟨rfl, _, rfl⟩

theorem carried_callWith {batch : List Answered} {r : Relay Unit}
    (hbatch : ∀ a ∈ batch, a = failedAnswer ∨ a = goodAnswer)
    (hanswer : (r.submit (keaNetwork ⟨some .ok, batch.map Answered.part⟩)
      keaApp.machine.agentAddress (.forwardToKeaOverHttp
        (keaRequest keaPoint.url (batch.map Answered.command)))).1 =
      .ok (.forwardToKeaOverHttp ⟨some .ok, batch.map Answered.part⟩)) :
    Carried keaApp keaPoint batch r (callWith batch r) :=
  ⟨good_of_mem hbatch, _, _, rfl, hanswer, rfl⟩

/-- A relay that knows of one failure of the daemon. -/
def failingOnce : Relay Unit := callWith [failedAnswer] (fresh () 1)

/-! ### The law -/

/-- A reply adds its tally for a daemon to the counter, or resets it where the tally is zero, and
leaves a daemon of which it says nothing. Two batches in one call or in two: the entry of a daemon is
the same exactly if the first batch leaves its counter as it was, if the second does not end with an
error of it, or if the second has nothing else to say of it and the first ends with an error. In any
case it is failing after the one call if it is after the two. After any number of calls, each adding
its tally, a daemon is failing if its last results are errors, and its counter is no less than the
number of these; it is that number where in no single reply the daemon has failed again after it was
heard to work. -/
theorem batching_keeps_errors_iff (app : App) (point : AccessPoint) (name : String)
    (hpoint : app.accessPoint? .control = some point) :
    (∀ (r q : Relay ω) (batch : List Answered), Carried app point batch r q →
      Ordered.find? name (daemonErrors q app point) =
        entryAfter (Ordered.find? name (daemonErrors r app point)) (batchResults name batch)) ∧
    (∀ (r whole mid last : Relay ω) (first second : List Answered),
      Carried app point (first ++ second) r whole → Carried app point first r mid →
      Carried app point second mid last →
        (Ordered.find? name (daemonErrors whole app point) =
            Ordered.find? name (daemonErrors last app point) ↔
          daemonCount (daemonErrors mid app point) name =
              daemonCount (daemonErrors r app point) name ∨
            (batchResults name second).getLast? ≠ some Kea.resultError ∨
            ((batchResults name first).getLast? = some Kea.resultError ∧
              ∀ result ∈ batchResults name second, result = Kea.resultError)) ∧
        (daemonCount (daemonErrors whole app point) name = 0 ↔
          daemonCount (daemonErrors last app point) name = 0)) ∧
    ∀ (r q : Relay ω) (batches : List (List Answered)) (failing : Nat),
      CarriedAll app point batches r q →
      failing = consecutive (daemonCount (daemonErrors r app point) name)
        (batchResults name batches.flatten) →
        daemonCount (daemonErrors q app point) name = (batches.map (batchResults name)).foldl
          afterReply (daemonCount (daemonErrors r app point) name) ∧
        (daemonCount (daemonErrors q app point) name = 0 ↔ failing = 0) ∧
        failing ≤ daemonCount (daemonErrors q app point) name ∧
        ((∀ batch ∈ batches, ¬Relapsed (batchResults name batch)) →
          daemonCount (daemonErrors q app point) name = failing) := by
  refine ⟨fun r q batch hcall => hcall.entry hpoint name,
    fun r whole mid last first second hwhole hfirst hsecond => ⟨?_, ?_⟩,
    fun r q batches failing hrun hfailing => ⟨hrun.count hpoint name, ?_⟩⟩
  · rw [hwhole.entry hpoint, hsecond.entry hpoint, hfirst.entry hpoint, hfirst.count hpoint,
      batchResults_append, entryAfter_append_iff]
    exact afterReply_append_iff
  · rw [hwhole.count hpoint, hsecond.count hpoint, hfirst.count hpoint, batchResults_append,
      afterReply_eq_zero_iff Iff.rfl, consecutive_append]
    exact (afterReply_eq_zero_iff (afterReply_eq_zero_iff Iff.rfl)).symm
  · rw [hrun.count hpoint, hfailing, batchResults_flatten]
    refine ⟨foldl_afterReply_eq_zero_iff _ Iff.rfl, le_foldl_afterReply _ (Nat.le_refl _),
      fun h => foldl_afterReply_of_not_relapsed ?_⟩
    simpa using h

/-- After a failure two more, in one call and in two; and a success and a failure in one call. -/
theorem batching_keeps_errors_iff_failed :
    keaApp.accessPoint? .control = some keaPoint ∧
      Ordered.find? "dhcp4" (daemonErrors
          (callWith [failedAnswer, failedAnswer] failingOnce) keaApp keaPoint) =
        Ordered.find? "dhcp4" (daemonErrors
          (callWith [failedAnswer] (callWith [failedAnswer] failingOnce)) keaApp keaPoint) ∧
      Ordered.find? "dhcp4" (daemonErrors
          (callWith [goodAnswer, failedAnswer] failingOnce) keaApp keaPoint) = some (1 + 1) := by
  obtain ⟨hreply, htwo, -⟩ := batching_keeps_errors_iff (ω := Unit) keaApp keaPoint "dhcp4" rfl
  obtain ⟨hiff, -⟩ := htwo failingOnce _ _ _ [failedAnswer] [failedAnswer]
    (carried_callWith (by simp) rfl) (carried_callWith (by simp) rfl)
    (carried_callWith (by simp) rfl)
  have hresults : batchResults "dhcp4" [failedAnswer] = [Kea.resultError] := rfl
  have hsame := hiff.2 (.inr (.inr ⟨rfl, by simp [hresults]⟩))
  exact ⟨rfl, hsame, hreply failingOnce _ _ (carried_callWith (by simp) rfl)⟩

/-- The daemon works again and fails again: in one call the failure from before is still counted. -/
theorem relapse_counts_old_failures : ∃ whole mid last : Relay Unit,
    Carried keaApp keaPoint ([goodAnswer] ++ [failedAnswer]) failingOnce whole ∧
    Carried keaApp keaPoint [goodAnswer] failingOnce mid ∧
    Carried keaApp keaPoint [failedAnswer] mid last ∧
    Ordered.find? "dhcp4" (daemonErrors whole keaApp keaPoint) = some 2 ∧
    Ordered.find? "dhcp4" (daemonErrors last keaApp keaPoint) = some 1 ∧
    consecutive (daemonCount (daemonErrors failingOnce keaApp keaPoint) "dhcp4")
      (batchResults "dhcp4" ([goodAnswer] ++ [failedAnswer])) = 1 :=
  ⟨_, _, _, carried_callWith (by simp) rfl, carried_callWith (by simp) rfl,
    carried_callWith (by simp) rfl, rfl, rfl, rfl⟩

end AgentRelay.Relay
