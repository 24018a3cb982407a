import AgentRelay.Proofs.Queue.Answers
import AgentRelay.Proofs.Queue.Order

/-! A call to one agent does not depend on the others. What it leads to is fixed by the state of the
record of its own address and by the answers of the connector and of that agent; and the records of
all other addresses stay as they are. So a queue can be thinned out to the envelopes of one address,
and these get the replies that they had among the others. -/
namespace AgentRelay.Queue

open Registry (Scene hangUp)

/-! ### Agreement about an address -/

section

variable {ω₁ ω₂ : Type} {name₁ name₂ : Nat → Nat} {n₁ n₂ : Nat} {s₁ : Scene ω₁} {s₂ : Scene ω₂}

/-- The connections that are opened from now on have the same names. -/
def SameNext (name₁ name₂ : Nat → Nat) (n₁ n₂ : Nat) : Prop :=
  ∀ k, 0 < k → name₁ (n₁ + k) = name₂ (n₂ + k)

theorem SameNext.new (h : SameNext name₁ name₂ n₁ n₂) : name₁ (n₁ + 1) = name₂ (n₂ + 1) :=
  h 1 Nat.one_pos

theorem SameNext.succ (h : SameNext name₁ name₂ n₁ n₂) :
    SameNext name₁ name₂ (n₁ + 1) (n₂ + 1) := by
  intro k _
  rw [Nat.add_assoc, Nat.add_assoc]
  exact h (1 + k) (by omega)

/-- Both scenes have a record or neither has, and the records have the same connection, or none. A
connection is the same when it has the same name; connections are numbered differently where more of
them were opened for other addresses. -/
structure Agree (name₁ name₂ : Nat → Nat) (s₁ : Scene ω₁) (s₂ : Scene ω₂) : Prop where
  known : s₁.agent.isSome = s₂.agent.isSome
  connection : (s₁.agent.bind Agent.connection).map name₁ =
    (s₂.agent.bind Agent.connection).map name₂
  next : SameNext name₁ name₂ s₁.opened s₂.opened

/-- The state of a record: there is none, or it is there with or without a connection. -/
def state (s : Scene ω₁) : Option Bool := s.agent.map (·.connection.isSome)

theorem Agree.state_eq (h : Agree name₁ name₂ s₁ s₂) : state s₁ = state s₂ := by
  obtain ⟨w₁, agent₁, n₁⟩ := s₁
  obtain ⟨w₂, agent₂, n₂⟩ := s₂
  obtain ⟨hknown, hconnection, -⟩ := h
  cases agent₁ <;> cases agent₂
  · rfl
  · cases hknown
  · cases hknown
  · have hopen := congrArg Option.isSome hconnection
    simpa [state] using hopen

/-- Where no connection has a name of its own, records in the same state agree. -/
theorem agree_of_state_eq (h : state s₁ = state s₂) : Agree (fun _ => 0) (fun _ => 0) s₁ s₂ := by
  obtain ⟨w₁, agent₁, n₁⟩ := s₁
  obtain ⟨w₂, agent₂, n₂⟩ := s₂
  cases agent₁ with
  | none =>
    cases agent₂ with
    | none => exact ⟨rfl, rfl, fun _ _ => rfl⟩
    | some agent₂ => cases h
  | some agent₁ =>
    cases agent₂ with
    | none => cases h
    | some agent₂ =>
      simp only [state, Option.map_some, Option.some.injEq] at h
      refine ⟨rfl, ?_, fun _ _ => rfl⟩
      show agent₁.connection.map _ = agent₂.connection.map _
      cases h₁ : agent₁.connection <;> cases h₂ : agent₂.connection <;> simp_all

end

/-! ### Talks with the same answers -/

section

variable {ω₁ ω₂ : Type} {net₁ : Network ω₁} {net₂ : Network ω₂} {address : String}
  {request : Request} {name₁ name₂ : Nat → Nat} {agent₁ agent₂ : Agent} {n₁ n₂ : Nat}
  {w₁ : ω₁} {w₂ : ω₂}

/-- The same is sent, answered and replied, and the scenes afterwards agree. -/
structure Talk.Same (name₁ name₂ : Nat → Nat) (t₁ : Talk ω₁) (t₂ : Talk ω₂) : Prop where
  sent : t₁.sent.map (Traffic.rename name₁) = t₂.sent.map (Traffic.rename name₂)
  heard : t₁.heard = t₂.heard
  reply : t₁.reply = t₂.reply
  after : Agree name₁ name₂ t₁.after t₂.after

theorem Talk.Same.prepend {t₁ : Talk ω₁} {t₂ : Talk ω₂} (h : Talk.Same name₁ name₂ t₁ t₂)
    {sent₁ sent₂ : List Traffic} {heard : Heard}
    (hsent : sent₁.map (Traffic.rename name₁) = sent₂.map (Traffic.rename name₂)) :
    Talk.Same name₁ name₂ (t₁.prepend sent₁ heard) (t₂.prepend sent₂ heard) where
  sent := by simp only [Talk.prepend, List.map_append, hsent, h.sent]
  heard := congrArg (heard ++ ·) h.heard
  reply := h.reply
  after := h.after

theorem map_hangUp (name : Nat → Nat) (agent : Agent) :
    (hangUp agent).map (Traffic.rename name) =
      (agent.connection.map name).toList.map Traffic.dropped := by
  unfold hangUp
  cases agent.connection <;> rfl

theorem exists_same_name {c₁ : Nat}
    (hconnection : agent₁.connection.map name₁ = agent₂.connection.map name₂)
    (hc₁ : agent₁.connection = some c₁) :
    ∃ c₂, agent₂.connection = some c₂ ∧ name₁ c₁ = name₂ c₂ := by
  rw [hc₁, Option.map_some] at hconnection
  obtain ⟨c₂, hc₂, hname⟩ := Option.map_eq_some_iff.1 hconnection.symm
  exact ⟨c₂, hc₂, hname.symm⟩

theorem secondTalk_same (hconnection : agent₁.connection.map name₁ = agent₂.connection.map name₂)
    (hnext : SameNext name₁ name₂ n₁ n₂)
    (hheard : (secondTalk net₁ address request agent₁ n₁ w₁).heard.Consistent
      (secondTalk net₂ address request agent₂ n₂ w₂).heard) :
    Talk.Same name₁ name₂ (secondTalk net₁ address request agent₁ n₁ w₁)
      (secondTalk net₂ address request agent₂ n₂ w₂) := by
  have hhangUp : (hangUp agent₁).map (Traffic.rename name₁) =
      (hangUp agent₂).map (Traffic.rename name₂) := by
    rw [map_hangUp, map_hangUp, hconnection]
  have hnew := hnext.new
  -- Where the connector refuses one and not the other, the answers differ from the first on.
  rcases hconnect₁ : net₁.connect address w₁ with ⟨_ | e₁, v₁⟩ <;>
    rcases hconnect₂ : net₂.connect address w₂ with ⟨_ | e₂, v₂⟩
  · rcases hcall₁ : net₁.call address (n₁ + 1) v₁ with ⟨turn₁, u₁⟩
    rcases hcall₂ : net₂.call address (n₂ + 1) v₂ with ⟨turn₂, u₂⟩
    rw [secondTalk_opened hconnect₁ hcall₁, secondTalk_opened hconnect₂ hcall₂] at hheard ⊢
    have hanswer := Heard.head_eq hheard.2
    refine ⟨?_, ?_, ?_, rfl, ?_, hnext.succ⟩
    · simp [hhangUp, Traffic.rename, hnew]
    · rw [hanswer]
    · rw [hanswer]
    · simp [hnew]
  · rcases hcall₁ : net₁.call address (n₁ + 1) v₁ with ⟨turn₁, u₁⟩
    rw [secondTalk_opened hconnect₁ hcall₁, secondTalk_refused hconnect₂] at hheard
    cases Heard.head_eq hheard.1
  · rcases hcall₂ : net₂.call address (n₂ + 1) v₂ with ⟨turn₂, u₂⟩
    rw [secondTalk_refused hconnect₁, secondTalk_opened hconnect₂ hcall₂] at hheard
    cases Heard.head_eq hheard.1
  · rw [secondTalk_refused hconnect₁, secondTalk_refused hconnect₂] at hheard ⊢
    cases Heard.head_eq hheard.1
    refine ⟨?_, rfl, rfl, rfl, rfl, hnext⟩
    simp [hhangUp, Traffic.rename]

theorem firstTalk_same (hconnection : agent₁.connection.map name₁ = agent₂.connection.map name₂)
    (hnext : SameNext name₁ name₂ n₁ n₂)
    (hheard : (firstTalk net₁ address request agent₁ n₁ w₁).heard.Consistent
      (firstTalk net₂ address request agent₂ n₂ w₂).heard) :
    Talk.Same name₁ name₂ (firstTalk net₁ address request agent₁ n₁ w₁)
      (firstTalk net₂ address request agent₂ n₂ w₂) := by
  cases hc₁ : agent₁.connection with
  | none =>
    have hc₂ : agent₂.connection = none := by simpa [hc₁] using hconnection.symm
    rw [firstTalk_disconnected hc₁, firstTalk_disconnected hc₂] at hheard ⊢
    exact secondTalk_same hconnection hnext hheard
  | some c₁ =>
    obtain ⟨c₂, hc₂, hname⟩ := exists_same_name hconnection hc₁
    rcases hcall₁ : net₁.call address c₁ w₁ with ⟨turn₁, v₁⟩
    rcases hcall₂ : net₂.call address c₂ w₂ with ⟨turn₂, v₂⟩
    have hsent : [Traffic.called c₁ address request].map (Traffic.rename name₁) =
        [Traffic.called c₂ address request].map (Traffic.rename name₂) := by
      simp [Traffic.rename, hname]
    cases hanswer₁ : turn₁.remote.answer request with
    | ok response =>
      cases hanswer₂ : turn₂.remote.answer request with
      | ok response' =>
        rw [firstTalk_answered hc₁ hcall₁ hanswer₁, firstTalk_answered hc₂ hcall₂ hanswer₂]
          at hheard ⊢
        cases Heard.head_eq hheard.2
        exact ⟨hsent, rfl, rfl, rfl, hconnection, hnext⟩
      | error status =>
        rw [firstTalk_answered hc₁ hcall₁ hanswer₁, firstTalk_failed hc₂ hcall₂ hanswer₂] at hheard
        cases Heard.head_eq hheard.2
    | error status =>
      cases hanswer₂ : turn₂.remote.answer request with
      | ok response =>
        rw [firstTalk_failed hc₁ hcall₁ hanswer₁, firstTalk_answered hc₂ hcall₂ hanswer₂] at hheard
        cases Heard.head_eq hheard.2
      | error status' =>
        rw [firstTalk_failed hc₁ hcall₁ hanswer₁, firstTalk_failed hc₂ hcall₂ hanswer₂] at hheard ⊢
        cases Heard.head_eq hheard.2
        exact (secondTalk_same hconnection hnext hheard.further).prepend hsent

theorem talk_same {s₁ : Scene ω₁} {s₂ : Scene ω₂} (hagree : Agree name₁ name₂ s₁ s₂)
    (hheard : (talk net₁ address request s₁).heard.Consistent
      (talk net₂ address request s₂).heard) :
    Talk.Same name₁ name₂ (talk net₁ address request s₁) (talk net₂ address request s₂) := by
  obtain ⟨w₁, agent₁, n₁⟩ := s₁
  obtain ⟨w₂, agent₂, n₂⟩ := s₂
  obtain ⟨hknown, hconnection, hnext⟩ := hagree
  cases agent₁ with
  | some agent₁ =>
    obtain ⟨agent₂, rfl⟩ := Option.isSome_iff_exists.1 hknown.symm
    exact firstTalk_same hconnection hnext hheard
  | none =>
    obtain rfl : agent₂ = none := Option.isNone_iff_eq_none.1 (by simpa using hknown.symm)
    rcases hconnect₁ : net₁.connect address w₁ with ⟨_ | e₁, v₁⟩ <;>
      rcases hconnect₂ : net₂.connect address w₂ with ⟨_ | e₂, v₂⟩
    · rw [talk_created hconnect₁, talk_created hconnect₂] at hheard ⊢
      have hnew := hnext.new
      refine (firstTalk_same ?_ hnext.succ hheard.further).prepend ?_
      · simp [Agent.create, hnew]
      · simp [Traffic.rename, hnew]
    · rw [talk_created hconnect₁, talk_refused hconnect₂] at hheard
      cases Heard.head_eq hheard.1
    · rw [talk_refused hconnect₁, talk_created hconnect₂] at hheard
      cases Heard.head_eq hheard.1
    · rw [talk_refused hconnect₁, talk_refused hconnect₂] at hheard ⊢
      cases Heard.head_eq hheard.1
      exact ⟨rfl, rfl, rfl, hknown, hconnection, hnext⟩

/-! ### Networks that behave alike -/

/-- The networks answer an address in the same way and go on doing so. They may tell connections
apart by their names, and remember what they like. -/
structure BehaveAlike (net₁ : Network ω₁) (net₂ : Network ω₂) (address : String)
    (name₁ name₂ : Nat → Nat) (related : ω₁ → ω₂ → Prop) : Prop where
  connect : ∀ w₁ w₂, related w₁ w₂ →
    (net₁.connect address w₁).1 = (net₂.connect address w₂).1 ∧
      related (net₁.connect address w₁).2 (net₂.connect address w₂).2
  call : ∀ c₁ c₂, name₁ c₁ = name₂ c₂ → ∀ w₁ w₂, related w₁ w₂ →
    (∀ request, (net₁.call address c₁ w₁).1.remote.answer request =
      (net₂.call address c₂ w₂).1.remote.answer request) ∧
      related (net₁.call address c₁ w₁).2 (net₂.call address c₂ w₂).2

section

variable {related : ω₁ → ω₂ → Prop}
  (h : BehaveAlike net₁ net₂ address name₁ name₂ related)

include h

theorem secondTalk_heard (hnext : SameNext name₁ name₂ n₁ n₂) (hw : related w₁ w₂) :
    (secondTalk net₁ address request agent₁ n₁ w₁).heard =
      (secondTalk net₂ address request agent₂ n₂ w₂).heard := by
  obtain ⟨hconnect, hv⟩ := h.connect w₁ w₂ hw
  rcases hconnect₁ : net₁.connect address w₁ with ⟨_ | e₁, v₁⟩ <;>
    rcases hconnect₂ : net₂.connect address w₂ with ⟨_ | e₂, v₂⟩ <;>
    rw [hconnect₁, hconnect₂] at hconnect hv
  · obtain ⟨hanswer, -⟩ := h.call (n₁ + 1) (n₂ + 1) hnext.new v₁ v₂ hv
    rw [secondTalk_opened hconnect₁ rfl, secondTalk_opened hconnect₂ rfl]
    simp only [hanswer]
  · cases hconnect
  · cases hconnect
  · cases hconnect
    rw [secondTalk_refused hconnect₁, secondTalk_refused hconnect₂]

theorem firstTalk_heard (hconnection : agent₁.connection.map name₁ = agent₂.connection.map name₂)
    (hnext : SameNext name₁ name₂ n₁ n₂) (hw : related w₁ w₂) :
    (firstTalk net₁ address request agent₁ n₁ w₁).heard =
      (firstTalk net₂ address request agent₂ n₂ w₂).heard := by
  cases hc₁ : agent₁.connection with
  | none =>
    have hc₂ : agent₂.connection = none := by simpa [hc₁] using hconnection.symm
    rw [firstTalk_disconnected hc₁, firstTalk_disconnected hc₂]
    exact secondTalk_heard h hnext hw
  | some c₁ =>
    obtain ⟨c₂, hc₂, hname⟩ := exists_same_name hconnection hc₁
    obtain ⟨hanswers, hv⟩ := h.call c₁ c₂ hname w₁ w₂ hw
    have hanswer := hanswers request
    cases hanswer₁ : (net₁.call address c₁ w₁).1.remote.answer request with
    | ok response =>
      rw [firstTalk_answered hc₁ rfl hanswer₁,
        firstTalk_answered hc₂ rfl (hanswer.symm.trans hanswer₁)]
    | error status =>
      rw [firstTalk_failed hc₁ rfl hanswer₁,
        firstTalk_failed hc₂ rfl (hanswer.symm.trans hanswer₁)]
      exact congrArg (_ ++ ·) (secondTalk_heard h hnext hv)

theorem talk_heard {s₁ : Scene ω₁} {s₂ : Scene ω₂} (hagree : Agree name₁ name₂ s₁ s₂)
    (hw : related s₁.world s₂.world) :
    (talk net₁ address request s₁).heard = (talk net₂ address request s₂).heard := by
  obtain ⟨w₁, agent₁, n₁⟩ := s₁
  obtain ⟨w₂, agent₂, n₂⟩ := s₂
  obtain ⟨hknown, hconnection, hnext⟩ := hagree
  cases agent₁ with
  | some agent₁ =>
    obtain ⟨agent₂, rfl⟩ := Option.isSome_iff_exists.1 hknown.symm
    exact firstTalk_heard h hconnection hnext hw
  | none =>
    obtain rfl : agent₂ = none := Option.isNone_iff_eq_none.1 (by simpa using hknown.symm)
    obtain ⟨hconnect, hv⟩ := h.connect w₁ w₂ hw
    rcases hconnect₁ : net₁.connect address w₁ with ⟨_ | e₁, v₁⟩ <;>
      rcases hconnect₂ : net₂.connect address w₂ with ⟨_ | e₂, v₂⟩ <;>
      rw [hconnect₁, hconnect₂] at hconnect hv
    · rw [talk_created hconnect₁, talk_created hconnect₂]
      refine congrArg (_ ++ ·) (firstTalk_heard h ?_ hnext.succ hv)
      simpa [Agent.create] using hnext.new
    · cases hconnect
    · cases hconnect
    · cases hconnect
      rw [talk_refused hconnect₁, talk_refused hconnect₂]

end

end

/-! ### One address among others -/

/-- The envelopes of one address. -/
def Channel.only (address : String) (c : Channel) : Channel :=
  { c with queued := c.queued.filter (·.address = address) }

/-- The replies to the envelopes of one address. -/
def repliesTo (address : String) (queue : List Envelope) (replies : List Reply) : List Reply :=
  ((queue.zip replies).filter (·.1.address = address)).map (·.2)

section

variable {ω : Type} (net : Network ω) (address : String)

/-- What one address is answered while a queue is served. -/
def answers : List Envelope → Registry ω → Heard
  | [], _ => {}
  | e :: rest, r =>
    if r.cancelled then {}
    else if e.address = address then
      (talk net address e.request (r.scene address)).heard ++ answers rest (handle net e r).2
    else answers rest (handle net e r).2

variable (e : Envelope) (rest : List Envelope) {r : Registry ω}

theorem serve_of_cancelled (h : r.cancelled = true) (queue : List Envelope) :
    serve net queue r = ([], queue, r) := by
  cases queue <;> simp [serve, h]

theorem serve_cons (h : r.cancelled = false) :
    serve net (e :: rest) r = ((handle net e r).1 :: (serve net rest (handle net e r).2).1,
      (serve net rest (handle net e r).2).2) := by
  simp [serve, h]

/-- Where the end was never asked for, it had not been asked for before. -/
theorem open_of_serve {queue : List Envelope} (h : (serve net queue r).2.2.cancelled = false) :
    r.cancelled = false := by
  cases hr : r.cancelled with
  | false => rfl
  | true =>
    rw [serve_of_cancelled net hr, hr] at h
    cases h

section

variable {address e}

theorem repliesTo_cons_self (he : e.address = address) (reply : Reply) (replies : List Reply) :
    repliesTo address (e :: rest) (reply :: replies) = reply :: repliesTo address rest replies := by
  simp [repliesTo, he]

theorem repliesTo_cons_of_ne (he : e.address ≠ address) (reply : Reply) (replies : List Reply) :
    repliesTo address (e :: rest) (reply :: replies) = repliesTo address rest replies := by
  simp [repliesTo, he]

theorem answers_cons_self (he : e.address = address) (h : r.cancelled = false) :
    answers net address (e :: rest) r =
      (talk net address e.request (r.scene address)).heard ++
        answers net address rest (handle net e r).2 := by
  simp [answers, he, h]

theorem answers_cons_of_ne (he : e.address ≠ address) (h : r.cancelled = false) :
    answers net address (e :: rest) r = answers net address rest (handle net e r).2 := by
  simp [answers, he, h]

end

theorem handle_talk (r : Registry ω) :
    (handle net e r).1 = (talk net e.address e.request (r.scene e.address)).reply ∧
      (handle net e r).2.scene e.address =
        (talk net e.address e.request (r.scene e.address)).after := by
  obtain ⟨hreply, hafter, -⟩ := call_talk net e.address e.request r
  refine ⟨hreply, ?_⟩
  unfold handle
  cases e.waiting <;> exact hafter

theorem agent?_handle_of_ne (r : Registry ω) (h : address ≠ e.address) :
    (handle net e r).2.agent? address = r.agent? address := by
  have hcall : (call net e.address e.request r).2.agent? address = r.agent? address :=
    agent?_call_of_ne net r h
  unfold handle
  cases e.waiting <;> exact hcall

end

section

variable {ω₁ ω₂ : Type} {net₁ : Network ω₁} {net₂ : Network ω₂} {address : String}

theorem serve_only {queue : List Envelope} {r₁ : Registry ω₁} {r₂ : Registry ω₂}
    (hstate : state (r₁.scene address) = state (r₂.scene address))
    (h₁ : (serve net₁ queue r₁).2.2.cancelled = false)
    (h₂ : (serve net₂ (queue.filter (·.address = address)) r₂).2.2.cancelled = false)
    (hanswers : (answers net₁ address queue r₁).Consistent
      (answers net₂ address (queue.filter (·.address = address)) r₂)) :
    repliesTo address queue (serve net₁ queue r₁).1 =
        (serve net₂ (queue.filter (·.address = address)) r₂).1 ∧
      state ((serve net₁ queue r₁).2.2.scene address) =
        state ((serve net₂ (queue.filter (·.address = address)) r₂).2.2.scene address) := by
  induction queue generalizing r₁ r₂ with
  | nil => exact ⟨rfl, hstate⟩
  | cons e rest ih =>
    have hopen₁ := open_of_serve net₁ h₁
    have hopen₂ := open_of_serve net₂ h₂
    rw [serve_cons net₁ e rest hopen₁] at h₁ ⊢
    by_cases he : e.address = address
    · subst he
      rw [List.filter_cons_of_pos (by simp)] at h₂ hanswers ⊢
      rw [serve_cons net₂ e _ hopen₂] at h₂ ⊢
      rw [answers_cons_self net₁ rest rfl hopen₁, answers_cons_self net₂ _ rfl hopen₂] at hanswers
      have hsame := talk_same (agree_of_state_eq hstate) hanswers.of_append
      obtain ⟨hreply₁, hafter₁⟩ := handle_talk net₁ e r₁
      obtain ⟨hreply₂, hafter₂⟩ := handle_talk net₂ e r₂
      have hstate' : state ((handle net₁ e r₁).2.scene e.address) =
          state ((handle net₂ e r₂).2.scene e.address) := by
        rw [hafter₁, hafter₂]
        exact hsame.after.state_eq
      rw [hsame.heard] at hanswers
      obtain ⟨hreplies, hend⟩ := ih hstate' h₁ h₂ hanswers.further
      refine ⟨?_, hend⟩
      rw [repliesTo_cons_self rest rfl, hreplies, hreply₁, hreply₂, hsame.reply]
    · rw [List.filter_cons_of_neg (by simpa using he)] at h₂ hanswers ⊢
      rw [answers_cons_of_ne net₁ rest he hopen₁] at hanswers
      -- The other agent's call has changed the world and the numbers, but not this record.
      have hstate' : state ((handle net₁ e r₁).2.scene address) = state (r₂.scene address) := by
        rw [← hstate]
        unfold state Registry.scene
        rw [agent?_handle_of_ne net₁ address e r₁ (Ne.symm he)]
      obtain ⟨hreplies, hend⟩ := ih hstate' h₁ h₂ hanswers
      refine ⟨?_, hend⟩
      rw [repliesTo_cons_of_ne rest he, hreplies]

theorem serve_left_of_open {ω : Type} (net : Network ω) {queue : List Envelope} {r : Registry ω}
    (h : (serve net queue r).2.2.cancelled = false) : (serve net queue r).2.1 = [] := by
  obtain ⟨k, sent, hprogress, hrest⟩ := serve_progress net queue r
  rw [hrest] at h ⊢
  rw [hprogress.eq_length h]
  exact List.drop_length

/-- A run in which the end is never asked for turns nothing away. -/
theorem run_of_open {ω : Type} (net : Network ω) {c : Channel} {r : Registry ω}
    (h : (run net c r).2.2.cancelled = false) :
    (run net c r).1 = (serve net c.queued (r.log [startedEntry])).1 := by
  have hleft : (serve net c.queued (r.log [startedEntry])).2.1 = [] := serve_left_of_open net h
  show _ ++ reject (serve net c.queued (r.log [startedEntry])).2.1 = _
  rw [hleft]
  exact List.append_nil _

end

/-- A call depends on nothing but the state of its own address and on what that address is answered,
whether this is the same because the networks behave alike or happens to be so. Then the result is
the same, the traffic is the same under the names of the connections, the records agree afterwards,
and those of all other addresses stay as they were. Records in the same state agree at least where
all connections have one name. So in a run in which the end is not asked for, the replies to one
address are those that its envelopes get without the others, provided that its connects and calls
are answered in the same way in the same order. -/
theorem calls_independent {ω₁ ω₂ : Type} (net₁ : Network ω₁) (net₂ : Network ω₂)
    (address : String) :
    (∀ (request : Request) (r₁ : Registry ω₁) (r₂ : Registry ω₂) (name₁ name₂ : Nat → Nat),
      Agree name₁ name₂ (r₁.scene address) (r₂.scene address) →
      (∃ related, BehaveAlike net₁ net₂ address name₁ name₂ related ∧ related r₁.world r₂.world) ∨
        (talk net₁ address request (r₁.scene address)).heard.Consistent
          (talk net₂ address request (r₂.scene address)).heard →
      (call net₁ address request r₁).1 = (call net₂ address request r₂).1 ∧
      (∃ sent₁ sent₂, (call net₁ address request r₁).2.traffic = r₁.traffic ++ sent₁ ∧
        (call net₂ address request r₂).2.traffic = r₂.traffic ++ sent₂ ∧
        sent₁.map (Traffic.rename name₁) = sent₂.map (Traffic.rename name₂)) ∧
      Agree name₁ name₂ ((call net₁ address request r₁).2.scene address)
        ((call net₂ address request r₂).2.scene address) ∧
      ∀ other ≠ address, (call net₁ address request r₁).2.agent? other = r₁.agent? other ∧
        (call net₂ address request r₂).2.agent? other = r₂.agent? other) ∧
    (∀ (r₁ : Registry ω₁) (r₂ : Registry ω₂),
      state (r₁.scene address) = state (r₂.scene address) →
      Agree (fun _ => 0) (fun _ => 0) (r₁.scene address) (r₂.scene address)) ∧
    ∀ (c : Channel) (r₁ : Registry ω₁) (r₂ : Registry ω₂),
      state (r₁.scene address) = state (r₂.scene address) →
      (run net₁ c r₁).2.2.cancelled = false →
      (run net₂ (c.only address) r₂).2.2.cancelled = false →
      (answers net₁ address c.queued (r₁.log [startedEntry])).Consistent
        (answers net₂ address (c.only address).queued (r₂.log [startedEntry])) →
      repliesTo address c.queued (run net₁ c r₁).1 = (run net₂ (c.only address) r₂).1 ∧
        state ((run net₁ c r₁).2.2.scene address) =
          state ((run net₂ (c.only address) r₂).2.2.scene address) := by
  refine ⟨?_, fun _ _ => agree_of_state_eq, ?_⟩
  · intro request r₁ r₂ name₁ name₂ hagree hanswers
    have hconsistent : (talk net₁ address request (r₁.scene address)).heard.Consistent
        (talk net₂ address request (r₂.scene address)).heard := by
      obtain ⟨related, halike, hw⟩ | hconsistent := hanswers
      · rw [talk_heard halike hagree hw]
        exact .refl _
      · exact hconsistent
    have hsame := talk_same hagree hconsistent
    obtain ⟨hreply₁, hafter₁, htraffic₁⟩ := call_talk net₁ address request r₁
    obtain ⟨hreply₂, hafter₂, htraffic₂⟩ := call_talk net₂ address request r₂
    refine ⟨?_, ⟨_, _, htraffic₁, htraffic₂, hsame.sent⟩, ?_, fun other hother => ?_⟩
    · rw [hreply₁, hreply₂, hsame.reply]
    · rw [hafter₁, hafter₂]
      exact hsame.after
    · exact ⟨agent?_call_of_ne net₁ r₁ hother, agent?_call_of_ne net₂ r₂ hother⟩
  · intro c r₁ r₂ hstate h₁ h₂ hanswers
    rw [run_of_open net₁ h₁, run_of_open net₂ h₂]
    exact serve_only hstate h₁ h₂ hanswers

/-- One agent fails at its first call and answers from then on; no other can be reached. -/
def slowNetwork : Network Nat where
  connect address w := (if address = "127.0.0.1:8080" then none else some .shuttingDown, w)
  call _ _ w := ({ remote :=
    { Remote.failing ⟨.unavailable, "", []⟩ with
      getState := fun _ => if w = 0 then .error ⟨.unavailable, "", []⟩ else .ok {} } }, w + 1)

/-- An agent that cannot be reached is not noticed at another address, which has to be connected to
anew; and a call there is the same whether or not connections to others were opened before. -/
theorem unreachable_agent_unnoticed :
    (call slowNetwork "127.0.0.1:8080" (.getState {}) { world := 0 }).1 =
        (call slowNetwork "127.0.0.1:8080" (.getState {}) { world := 0, opened := 7 }).1 ∧
      let c : Channel := { queued := [⟨"127.0.0.2:8080", .getState {}, true⟩,
        ⟨"127.0.0.1:8080", .getState {}, true⟩, ⟨"127.0.0.2:8080", .getState {}, true⟩] }
      repliesTo "127.0.0.1:8080" c.queued (run slowNetwork c { world := 0 }).1 =
        (run slowNetwork (c.only "127.0.0.1:8080") { world := 0 }).1 := by
  obtain ⟨hcall, -, hrun⟩ := calls_independent slowNetwork slowNetwork "127.0.0.1:8080"
  constructor
  · have hagree : Agree (· - 0) (· - 7)
        (({ world := 0 } : Registry Nat).scene "127.0.0.1:8080")
        (({ world := 0, opened := 7 } : Registry Nat).scene "127.0.0.1:8080") := by
      refine ⟨rfl, rfl, fun k _ => ?_⟩
      show 0 + k - 0 = 7 + k - 7
      omega
    have halike : BehaveAlike slowNetwork slowNetwork "127.0.0.1:8080" (· - 0) (· - 7) (· = ·) :=
      ⟨fun w₁ w₂ h => h ▸ ⟨rfl, rfl⟩, fun c₁ c₂ _ w₁ w₂ h => h ▸ ⟨fun _ => rfl, rfl⟩⟩
    exact (hcall (.getState {}) _ _ _ _ hagree (.inl ⟨_, halike, rfl⟩)).1
  · exact (hrun _ _ _ rfl (by decide) (by decide) (.refl _)).1

end AgentRelay.Queue
