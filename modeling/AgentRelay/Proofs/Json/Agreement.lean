import AgentRelay.Proofs.Json.Skipping
import AgentRelay.Proofs.Json.Values

/-! A text read in two ways. Where a scalar or the members of an object are read as a value of a given
type, the same text is read as an untyped value that stands for it. A record passes over the members
that it does not know, and less is asked of those than of values that are read; but where the object
is read untyped as well, both readings go through the same members and end at the same place, so what
a draft knows of the members follows from what each of its fields does. In the same way the elements
of an array are read one by one in both. -/
namespace AgentRelay.Json

variable {α β σ τ : Type} {s t u : List Char} {depth : Nat}

/-! ### Untyped values by their first character -/

theorem value_skipBlanks (depth : Nat) (s : List Char) :
    Decoder.value depth (skipBlanks s) = Decoder.value depth s := by
  rw [Decoder.value, Decoder.value, skipBlanks_skipBlanks]

theorem value_of_null (h : skipBlanks s = 'n' :: u) (hword : readWord ['u', 'l', 'l'] u = .ok t) :
    Decoder.value depth s = .ok (.null, t) := by
  rw [Decoder.value, h]
  simp only [hword, bind, Except.bind]
  rfl

theorem value_of_quote {text : String} (h : skipBlanks s = '"' :: u)
    (hstring : readString [] u = .ok (text, t)) :
    Decoder.value depth s = .ok (.string text, t) := by
  rw [Decoder.value, h]
  simp only [hstring, bind, Except.bind]
  rfl

theorem value_of_minus {n : Number} (h : skipBlanks s = '-' :: u)
    (hnumber : readNumber false u = .ok (n, t)) :
    Decoder.value depth s = .ok (.number n, t) := by
  rw [Decoder.value, h]
  simp only [readNumberValue, hnumber]
  rfl

theorem value_of_digit {c : Char} {n : Number} (h : skipBlanks s = c :: u) (hc : c.isDigit = true)
    (hnumber : readNumber true (c :: u) = .ok (n, t)) :
    Decoder.value depth s = .ok (.number n, t) := by
  rw [← value_skipBlanks, h, value_of_isDigit hc, readNumberValue, hnumber]
  rfl

/-! ### Typed values -/

/-- What is read as a value of the type is also read as an untyped value that it stands for. -/
def Decoder.Refines (decode : Decoder α) (stands : α → Value → Prop) : Prop :=
  ∀ ⦃depth s a t⦄, decode depth s = .ok (a, t) →
    ∃ v, Decoder.value depth s = .ok (v, t) ∧ stands a v

theorem refines_string : Decoder.string.Refines fun text v => v = .string text := by
  intro depth s text t h
  unfold Decoder.string at h
  split at h
  · cases h
  · rename_i hskip
    exact ⟨_, value_of_quote hskip h, rfl⟩
  · cases h

/-- A number is taken if it is an integer within the bounds. -/
def checkInteger (low high : Int) (name : String) :
    Except Failure (Number × List Char) → Except Failure (Int × List Char)
  | .error f => .error f
  | .ok (.float x, s) => .error ⟨.invalidType (.float x) name, s, 0⟩
  | .ok (.integer n _, s) =>
    if low ≤ n ∧ n < high then .ok (n, s) else .error ⟨.invalidValue (.integer n) name, s, 0⟩

theorem integer_eq (low high : Int) (name : String) (depth : Nat) (s : List Char) :
    Decoder.integer low high name depth s = match skipBlanks s with
      | [] => .error ⟨.endOfValue, [], 0⟩
      | '-' :: s => checkInteger low high name (readNumber false s)
      | c :: s =>
        if c.isDigit then checkInteger low high name (readNumber true (c :: s))
        else .error (wrongType name (c :: s)) := rfl

/-- The untyped value is this integer. -/
def IsInteger (low high n : Int) (v : Value) : Prop :=
  low ≤ n ∧ n < high ∧ ∃ inRange, v = .number (.integer n inRange)

theorem exists_of_checkInteger {low high n : Int} {name : String}
    {read : Except Failure (Number × List Char)}
    (h : checkInteger low high name read = .ok (n, t)) :
    ∃ number, read = .ok (number, t) ∧ IsInteger low high n (.number number) := by
  unfold checkInteger at h
  split at h
  · cases h
  · cases h
  · rename_i inRange _
    split at h
    · rename_i hbounds
      cases h
      exact ⟨_, rfl, hbounds.1, hbounds.2, inRange, rfl⟩
    · cases h

theorem refines_integer (low high : Int) (name : String) :
    (Decoder.integer low high name).Refines (IsInteger low high) := by
  intro depth s n t h
  rw [integer_eq] at h
  split at h
  · cases h
  · rename_i hskip
    obtain ⟨number, hread, hinteger⟩ := exists_of_checkInteger h
    exact ⟨_, value_of_minus hskip hread, hinteger⟩
  · rename_i hskip
    split at h
    · rename_i hdigit
      obtain ⟨number, hread, hinteger⟩ := exists_of_checkInteger h
      exact ⟨_, value_of_digit hskip hdigit hread, hinteger⟩
    · cases h

theorem Decoder.Refines.map {decode : Decoder α} {stands : α → Value → Prop}
    (h : decode.Refines stands) (f : α → β) {stands' : β → Value → Prop}
    (hstands : ∀ a v, stands a v → stands' (f a) v) : (decode.map f).Refines stands' := by
  intro depth s b t hread
  obtain ⟨⟨a, u⟩, hread, hmap⟩ := exists_of_bind_eq_ok hread
  cases hmap
  obtain ⟨v, hvalue, hv⟩ := h hread
  exact ⟨v, hvalue, hstands a v hv⟩

theorem refines_int64 : Decoder.int64.Refines fun n v => v.int64? = some n := by
  refine (refines_integer _ _ _).map _ fun n v h => ?_
  obtain ⟨hlow, hhigh, inRange, rfl⟩ := h
  exact if_pos hhigh

/-- A null, or a value of the type. -/
def NullOr (stands : α → Value → Prop) : Option α → Value → Prop
  | none, v => v = .null
  | some a, v => stands a v

theorem Decoder.Refines.option {decode : Decoder α} {stands : α → Value → Prop}
    (h : decode.Refines stands) : decode.option.Refines (NullOr stands) := by
  intro depth s a t hread
  unfold Decoder.option at hread
  split at hread
  · rename_i hskip
    obtain ⟨u, hword, hread⟩ := exists_of_bind_eq_ok hread
    cases hread
    exact ⟨_, value_of_null hskip hword, rfl⟩
  · obtain ⟨⟨a, u⟩, hread, hsome⟩ := exists_of_bind_eq_ok hread
    cases hsome
    obtain ⟨v, hvalue, hv⟩ := h hread
    rw [value_skipBlanks] at hvalue
    exact ⟨v, hvalue, hv⟩

theorem refines_members :
    (Decoder.members .value).Refines fun members v => v = .object members := by
  intro depth s members t h
  unfold Decoder.members at h
  split at h
  · cases h
  · rename_i hskip
    split at h
    · cases h
    · obtain ⟨⟨members, u⟩, hread, h⟩ := exists_of_bind_eq_ok h
      obtain ⟨rest, hclose, h⟩ := exists_of_bind_eq_ok h
      cases h
      refine ⟨_, ?_, rfl⟩
      rw [Decoder.value, hskip]
      simp only [hread, hclose, bind, Except.bind]
      rfl
  · cases h

theorem Decoder.Refines.agree {decode : Decoder α} {stands : α → Value → Prop}
    (h : decode.Refines stands) {a : α} {v : Value} (hread : decode depth s = .ok (a, t))
    (hvalue : Decoder.value depth s = .ok (v, u)) : u = t ∧ stands a v := by
  obtain ⟨w, hw, hstands⟩ := h hread
  rw [hw] at hvalue
  cases hvalue
  exact ⟨rfl, hstands⟩

/-! ### Elements -/

theorem Starts.unique {first : Bool} {start start' : List Char} (h : Starts first s start)
    (h' : Starts first s start') : start' = start := by
  cases h with
  | opening hskip =>
    cases h' with
    | opening hskip' => rw [← hskip, ← hskip']
  | comma hcomma hskip =>
    cases h' with
    | comma hcomma' hskip' =>
      rw [hcomma] at hcomma'
      cases hcomma'
      rw [← hskip, ← hskip']

theorem Starts.not_close {first : Bool} {start rest : List Char} (h : Starts first s start) :
    skipBlanks s ≠ ']' :: rest := by
  intro hclose
  cases h with
  | opening hskip hc =>
    rw [hskip] at hclose
    exact hc (List.cons.inj hclose).1
  | comma hcomma =>
    rw [hcomma] at hclose
    exact absurd (List.cons.inj hclose).1 (by decide)

/-- Reading the elements of one array in two ways. -/
theorem Elements.forall₂ {read : List Char → Except Failure (α × List Char)}
    {read' : List Char → Except Failure (β × List Char)} {allowed : β → Prop}
    {stands : α → β → Prop}
    (hstep : ∀ {s a t b u}, read s = .ok (a, t) → read' s = .ok (b, u) → allowed b →
      u = t ∧ stands a b)
    {first : Bool} {items : List α} {items' : List β} {rest rest' : List Char}
    (h : Elements read first s items rest) (h' : Elements read' first s items' rest')
    (hallowed : ∀ b ∈ items', allowed b) : List.Forall₂ stands items items' := by
  induction h generalizing items' with
  | close hclose =>
    cases h' with
    | close => exact .nil
    | element hstart' => exact absurd hclose hstart'.not_close
  | element hstart hread _ ih =>
    cases h' with
    | close hclose' => exact absurd hclose' hstart.not_close
    | element hstart' hread' hrest' =>
      obtain rfl := hstart.unique hstart'
      obtain ⟨hb, hitems⟩ := List.forall_mem_cons.1 hallowed
      obtain ⟨rfl, hstands⟩ := hstep hread hread' hb
      exact .cons hstands (ih hrest' hitems)

theorem IsArray.forall₂ {decode : Decoder α} {allowed : Value → Prop} {stands : α → Value → Prop}
    (hstep : ∀ {depth s a t v u}, decode depth s = .ok (a, t) →
      Decoder.value depth s = .ok (v, u) → allowed v → u = t ∧ stands a v)
    {text : String} {items : List α} {values : List Value} (h : IsArray decode text items)
    (h' : IsArray .value text values) (hallowed : ∀ v ∈ values, allowed v) :
    List.Forall₂ stands items values := by
  obtain ⟨inner, rest, hskip, helements, -⟩ := h
  obtain ⟨inner', rest', hskip', helements', -⟩ := h'
  rw [hskip] at hskip'
  cases hskip'
  exact helements.forall₂ hstep helements' hallowed

theorem OpensWith.elements {items : List Value} (h : OpensWith depth s (.array items) t) :
    ∃ inner, skipBlanks s = '[' :: inner ∧
      Elements (Decoder.value (depth - 1)) true inner items t := by
  cases h with
  | array hskip helements => exact ⟨_, hskip, helements⟩

/-! ### Members -/

theorem NameStarts.unique {first : Bool} {start start' : List Char} (h : NameStarts first s start)
    (h' : NameStarts first s start') : start' = start := by
  cases h with
  | opening hskip =>
    cases h' with
    | opening hskip' =>
      rw [hskip] at hskip'
      cases hskip'
      rfl
  | comma hcomma hskip =>
    cases h' with
    | comma hcomma' hskip' =>
      rw [hcomma] at hcomma'
      cases hcomma'
      rw [hskip] at hskip'
      cases hskip'
      rfl

theorem NameStarts.not_close {first : Bool} {start rest : List Char}
    (h : NameStarts first s start) : skipBlanks s ≠ '\x7d' :: rest := by
  intro hclose
  cases h with
  | opening hskip =>
    rw [hskip] at hclose
    exact absurd (List.cons.inj hclose).1 (by decide)
  | comma hcomma =>
    rw [hcomma] at hclose
    exact absurd (List.cons.inj hclose).1 (by decide)

/-- Taking in the members of one object in two ways. -/
theorem Members.agree {member : σ → String → List Char → Except Failure (σ × List Char)}
    {member' : τ → String → List Char → Except Failure (τ × List Char)} {stands : σ → τ → Prop}
    (hstep : ∀ {state next state' next' name s t u}, stands state state' →
      member state name s = .ok (next, t) → member' state' name s = .ok (next', u) →
      u = t ∧ stands next next')
    {first : Bool} {state final : σ} {state' final' : τ} {rest rest' : List Char}
    (h : Members member first state s final rest)
    (h' : Members member' first state' s final' rest') (hstands : stands state state') :
    rest' = rest ∧ stands final final' := by
  induction h generalizing state' with
  | close hclose =>
    cases h' with
    | close hclose' =>
      rw [hclose] at hclose'
      cases hclose'
      exact ⟨rfl, hstands⟩
    | member hstart' => exact absurd hclose hstart'.not_close
  | member hstart hname hmember _ ih =>
    cases h' with
    | close hclose' => exact absurd hclose' hstart.not_close
    | member hstart' hname' hmember' hrest' =>
      obtain rfl := hstart.unique hstart'
      rw [hname] at hname'
      cases hname'
      obtain ⟨rfl, hnext⟩ := hstep hstands hmember hmember'
      exact ih hrest' hnext

/-! ### Records -/

/-- Taking the field in, a draft keeps to what it knows of the members. -/
def Field.Keeps (knows : σ → List (String × Value) → Prop) (f : Field σ) : Prop :=
  ∀ ⦃depth s draft next t v u members⦄, knows draft members →
    f.read draft depth s = .ok (next, t) → Decoder.value depth s = .ok (v, u) →
      u = t ∧ knows next (Ordered.insert f.name v members)

/-- What the drafts of a record know of the members that have been read, whatever these are. -/
structure Record.Keeps (knows : σ → List (String × Value) → Prop) (r : Record σ α) : Prop where
  empty : knows r.empty []
  field : ∀ f ∈ r.fields, f.Keeps knows
  unknown : ∀ {draft members}, knows draft members → ∀ name v,
    (∀ f ∈ r.fields, f.name ≠ name) → knows draft (Ordered.insert name v members)

section

variable {knows : σ → List (String × Value) → Prop} {r : Record σ α}

/-- One member. -/
theorem Record.Keeps.takeMember (h : r.Keeps knows) {draft next : σ}
    {members members' : List (String × Value)} {name : String} (hknows : knows draft members)
    (htake : takeMember r.fields depth draft name s = .ok (next, t))
    (hput : putMember (Decoder.value depth) members name s = .ok (members', u)) :
    u = t ∧ knows next members' := by
  obtain ⟨v, hcolon, hput⟩ := exists_of_bind_eq_ok hput
  obtain ⟨⟨w, _⟩, hvalue, hput⟩ := exists_of_bind_eq_ok hput
  cases hput
  unfold Json.takeMember at htake
  split at htake
  · rename_i field hfind
    split at htake
    · cases htake
    · obtain ⟨_, hcolon', hfield⟩ := exists_of_bind_eq_ok htake
      rw [hcolon] at hcolon'
      cases hcolon'
      have hname : field.name = name := by simpa using List.find?_some hfind
      rw [← hname]
      exact h.field field (List.mem_of_find?_eq_some hfind) hknows hfield hvalue
  · rename_i hfind
    obtain ⟨_, hcolon', hskip⟩ := exists_of_bind_eq_ok htake
    obtain ⟨_, hskip, hnext⟩ := exists_of_bind_eq_ok hskip
    rw [hcolon] at hcolon'
    cases hcolon'
    cases hnext
    refine ⟨(skipValue_eq_of_value hvalue hskip).symm, h.unknown hknows name w fun f hf => ?_⟩
    simpa using List.find?_eq_none.1 hfind f hf

/-- A record and the object that it was read from. -/
theorem Record.Keeps.agree (h : r.Keeps knows) {a : α} {members : List (String × Value)}
    (hread : r.decoder depth s = .ok (a, t))
    (hvalue : Decoder.value depth s = .ok (.object members, u)) :
    u = t ∧ ∃ draft, r.finish draft = .ok a ∧ knows draft members := by
  cases opensWith_of_value hvalue with
  | @object depth _ inner _ _ hskip hmembers =>
    unfold Record.decoder at hread
    rw [hskip] at hread
    obtain ⟨⟨draft, _⟩, htake, hread⟩ := exists_of_bind_eq_ok hread
    obtain ⟨rest, rfl, hdraft⟩ := members_of_readMembers htake
    obtain ⟨rfl, hknows⟩ := hdraft.agree h.takeMember hmembers h.empty
    have hfinish := finish_of_close hread
    simp only [hfinish] at hread
    cases hread
    exact ⟨rfl, draft, hfinish, hknows⟩

end

end AgentRelay.Json
