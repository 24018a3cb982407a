import AgentRelay.Proofs.Outcome
import AgentRelay.Proofs.Wire.Scalars

/-! Messages are read back as they were written. What a field writes is taken up key by key, and
each key brings the message that is being filled a step further; so the fields of a schema, one
after another, lead from the empty message to the one that was written. Nested messages are read by
the same argument one level deeper. -/
namespace AgentRelay.Wire

variable {σ α : Type}

namespace Schema

/-! ### Steps and runs -/

/-- Reading the bytes brings the message from `v` to `w`, key by key, and nothing that follows the
bytes is touched. -/
inductive Reads (schema : Schema σ) (depth : Nat) : σ → Bytes → σ → Prop
  | nil {v : σ} : Reads schema depth v [] v
  | cons {v w x : σ} {first bytes : Bytes}
      (hstep : ∀ rest, schema.readField depth v (first ++ rest) = .ok (w, rest))
      (hne : first ≠ []) (hrest : Reads schema depth w bytes x) :
      Reads schema depth v (first ++ bytes) x

section

variable {schema : Schema σ} {depth : Nat} {v w x : σ} {bytes more : Bytes}

theorem Reads.single (hstep : ∀ rest, schema.readField depth v (bytes ++ rest) = .ok (w, rest))
    (hne : bytes ≠ []) : Reads schema depth v bytes w := by
  have h := Reads.cons hstep hne .nil
  rwa [List.append_nil] at h

theorem Reads.append (h : Reads schema depth v bytes w) (hmore : Reads schema depth w more x) :
    Reads schema depth v (bytes ++ more) x := by
  induction h with
  | nil => exact hmore
  | cons hstep hne _ ih =>
    rw [List.append_assoc]
    exact .cons hstep hne (ih hmore)

/-- A key takes at least one byte, so as many steps as there are bytes are enough. -/
theorem Reads.readUntil (h : Reads schema depth v bytes w) {steps : Nat}
    (hsteps : bytes.length ≤ steps) (rest : Bytes) :
    schema.readUntil depth rest.length steps v (bytes ++ rest) = .ok (w, rest) := by
  induction h generalizing steps with
  | nil => cases steps <;> simp [Schema.readUntil]
  | @cons v w x first bytes hstep hne _ ih =>
    have hfirst := List.length_pos_iff.2 hne
    rw [List.length_append] at hsteps
    obtain ⟨left, rfl⟩ : ∃ left, steps = left + 1 := ⟨steps - 1, by omega⟩
    have hlimit : ¬(first ++ bytes ++ rest).length ≤ rest.length := by
      simp only [List.length_append]
      omega
    rw [Schema.readUntil, if_neg hlimit, List.append_assoc, hstep]
    exact ih (by omega)

theorem Reads.decode (h : Reads schema maxDepth schema.empty bytes v) :
    schema.decode bytes = .ok v := by
  have hread := h.readUntil (Nat.le_refl _) []
  rw [List.append_nil] at hread
  unfold Schema.decode
  rw [← List.length_nil (α := UInt8), hread]
  rfl

theorem Reads.readNested (h : Reads schema depth v bytes w)
    (hlength : bytes.length < 0x10000000000000000) (rest : Bytes) :
    schema.readNested (depth + 1) .lengthDelimited v (writeDelimited bytes ++ rest) =
      .ok (w, rest) := by
  have hlimit : (bytes ++ rest).length - bytes.length = rest.length := by simp
  have hsteps : bytes.length ≤ (bytes ++ rest).length := by simp
  have hread := h.readUntil hsteps rest
  simp only [Schema.readNested, writeDelimited, List.append_assoc, readVarint_writeVarint hlength,
    expectLayout, if_pos, mapError_ok, bind, Except.bind, hlimit, hread]
  rw [if_neg (by simp)]
  simp [pure, Except.pure]

end

/-! ### Keyed values -/

section

variable {schema : Schema σ} {depth number : Nat} {field : Field σ}

theorem readField_keyed (hfind : schema.fields.find? (·.number = number) = some field)
    (hnumber : 0 < number ∧ number < 0x20000000) {layout : WireType} {value rest : Bytes} {v w : σ}
    (hread : field.read depth layout v (value ++ rest) = .ok (w, rest)) :
    schema.readField depth v (Field.keyed number layout value ++ rest) = .ok (w, rest) := by
  unfold readField Field.keyed
  rw [List.append_assoc, readKey_write hnumber.1 hnumber.2]
  simp only [mapError_ok, bind, Except.bind, hfind, hread]

theorem keyed_ne_nil (number : Nat) (layout : WireType) (value : Bytes) :
    Field.keyed number layout value ≠ [] := by
  simp [Field.keyed, Key.write, writeVarint_ne_nil]

theorem length_le_keyed (number : Nat) (layout : WireType) (value : Bytes) :
    value.length ≤ (Field.keyed number layout value).length := by
  simp [Field.keyed]

end

/-! ### Fields -/

/-- The value of a field can be got from a message and set in it. -/
structure Access (get : σ → α) (set : σ → α → σ) : Prop where
  get_set : ∀ d a, get (set d a) = a
  set_set : ∀ d a b, set (set d a) b = set d b
  set_get : ∀ d, set d (get d) = d

/-- Every message that is not too long for its lengths to be written is read back where it may
hold messages in `levels` further levels. -/
def Readable (schema : Schema σ) (levels : Nat) : Prop :=
  ∀ depth, levels ≤ depth → ∀ v, (schema.encode v).length < 0x10000000000000000 →
    schema.Reads depth schema.empty (schema.encode v) v

theorem Readable.mono {schema : Schema σ} {levels more : Nat} (h : schema.Readable levels)
    (hmore : levels ≤ more) : schema.Readable more :=
  fun depth hdepth => h depth (Nat.le_trans hmore hdepth)

section

variable {schema : Schema σ} {depth number : Nat} {name : String} {v d : σ}
  (hnumber : 0 < number ∧ number < 0x20000000)

include hnumber

theorem reads_single {scalar : Scalar α} {default : α} (hfaithful : scalar.Faithful default)
    {get : σ → α} {set : σ → α → σ}
    (hfind : schema.fields.find? (·.number = number) = some (.single number name scalar get set))
    (hdefault : set d default = d)
    (hlength : ((Field.single number name scalar get set).write v).length < 0x10000000000000000) :
    schema.Reads depth d ((Field.single number name scalar get set).write v) (set d (get v)) := by
  by_cases h : scalar.isDefault (get v) = true
  · -- a default is not written, and the message that is being filled holds it already
    rw [hfaithful.eq_default _ h, hdefault]
    simp only [Field.single, if_pos h]
    exact .nil
  · simp only [Field.single, if_neg h] at hlength ⊢
    have hvalue := length_le_keyed number scalar.layout (scalar.write (get v))
    refine .single (fun rest => readField_keyed hfind hnumber ?_) (keyed_ne_nil _ _ _)
    simp only [Field.single, expectLayout, if_pos, hfaithful.read_write (get v) rest (by omega)]
    rfl

omit hnumber in
/-- Occurrences of a repeated field append one element each. -/
theorem reads_occurrences {get : σ → List α} {set : σ → List α → σ} (access : Access get set)
    {occurrence : α → Bytes} (hne : ∀ a, occurrence a ≠ []) {as : List α}
    (hstep : ∀ a ∈ as, ∀ d rest, schema.readField depth d (occurrence a ++ rest) =
      .ok (set d (get d ++ [a]), rest)) (d : σ) :
    schema.Reads depth d (as.flatMap occurrence) (set d (get d ++ as)) := by
  induction as generalizing d with
  | nil =>
    rw [List.append_nil, access.set_get]
    exact .nil
  | cons a as ih =>
    have hlater := ih (fun b hb => hstep b (List.mem_cons_of_mem _ hb)) (set d (get d ++ [a]))
    rw [access.get_set, access.set_set, List.append_assoc, List.singleton_append] at hlater
    exact .cons (hstep a List.mem_cons_self d) (hne a) hlater

omit hnumber in
/-- What one occurrence takes up is no longer than all of them. -/
theorem length_lt_of_mem {occurrence : α → Bytes} {as : List α} {a : α} (ha : a ∈ as)
    (h : (as.flatMap occurrence).length < 0x10000000000000000) :
    (occurrence a).length < 0x10000000000000000 := by
  obtain ⟨before, after, rfl⟩ := List.append_of_mem ha
  simp only [List.flatMap_append, List.flatMap_cons, List.length_append] at h
  omega

theorem reads_repeated {scalar : Scalar α} {default : α} (hfaithful : scalar.Faithful default)
    {get : σ → List α} {set : σ → List α → σ} (access : Access get set)
    (hfind : schema.fields.find? (·.number = number) = some (.repeated number name scalar get set))
    (hempty : get d = [])
    (hlength : ((Field.repeated number name scalar get set).write v).length < 0x10000000000000000) :
    schema.Reads depth d ((Field.repeated number name scalar get set).write v) (set d (get v)) := by
  have hstep : ∀ a ∈ get v, ∀ d rest,
      schema.readField depth d (Field.keyed number scalar.layout (scalar.write a) ++ rest) =
        .ok (set d (get d ++ [a]), rest) := by
    intro a ha d rest
    have hone := length_lt_of_mem ha hlength
    have hvalue := length_le_keyed number scalar.layout (scalar.write a)
    refine readField_keyed hfind hnumber ?_
    simp only [Field.repeated, expectLayout, if_pos, hfaithful.read_write a rest (by omega)]
    rfl
  have hall := reads_occurrences access
    (fun a => keyed_ne_nil number scalar.layout (scalar.write a)) hstep d
  rwa [hempty, List.nil_append] at hall

omit hnumber in
theorem readNested_encode {inner : Schema α} {levels : Nat} (hinner : inner.Readable levels)
    (hdepth : levels + 1 ≤ depth) {m : α}
    (hlength : (writeDelimited (inner.encode m)).length < 0x10000000000000000) (rest : Bytes) :
    inner.readNested depth .lengthDelimited inner.empty (writeDelimited (inner.encode m) ++ rest) =
      .ok (m, rest) := by
  have hcontent := length_le_writeDelimited (inner.encode m)
  obtain ⟨below, rfl⟩ : ∃ below, depth = below + 1 := ⟨depth - 1, by omega⟩
  exact (hinner below (by omega) m (by omega)).readNested (by omega) rest

theorem reads_messages {inner : Schema α} {levels : Nat} (hinner : inner.Readable levels)
    (hdepth : levels + 1 ≤ depth) {get : σ → List α} {set : σ → List α → σ}
    (access : Access get set)
    (hfind : schema.fields.find? (·.number = number) = some (.messages number name inner get set))
    (hempty : get d = [])
    (hlength : ((Field.messages number name inner get set).write v).length < 0x10000000000000000) :
    schema.Reads depth d ((Field.messages number name inner get set).write v) (set d (get v)) := by
  have hstep : ∀ m ∈ get v, ∀ d rest,
      schema.readField depth d
          (Field.keyed number .lengthDelimited (writeDelimited (inner.encode m)) ++ rest) =
        .ok (set d (get d ++ [m]), rest) := by
    intro m hm d rest
    have hone := length_lt_of_mem hm hlength
    have hvalue := length_le_keyed number .lengthDelimited (writeDelimited (inner.encode m))
    refine readField_keyed hfind hnumber ?_
    simp only [Field.messages, readNested_encode hinner hdepth (Nat.lt_of_le_of_lt hvalue hone)]
    rfl
  have hall := reads_occurrences access
    (fun m => keyed_ne_nil number .lengthDelimited (writeDelimited (inner.encode m))) hstep d
  rwa [hempty, List.nil_append] at hall

theorem reads_message {inner : Schema α} {levels : Nat} (hinner : inner.Readable levels)
    (hdepth : levels + 1 ≤ depth) {get : σ → Option α} {set : σ → Option α → σ}
    (hfind : schema.fields.find? (·.number = number) = some (.message number name inner get set))
    (hempty : get d = none) (hdefault : set d none = d)
    (hlength : ((Field.message number name inner get set).write v).length < 0x10000000000000000) :
    schema.Reads depth d ((Field.message number name inner get set).write v) (set d (get v)) := by
  simp only [Field.message] at hlength ⊢
  cases h : get v with
  | none =>
    rw [hdefault]
    exact .nil
  | some m =>
    rw [h] at hlength
    have hvalue := length_le_keyed number .lengthDelimited (writeDelimited (inner.encode m))
    refine .single (fun rest => readField_keyed hfind hnumber ?_) (keyed_ne_nil _ _ _)
    simp only [Field.message, hempty, Option.getD_none,
      readNested_encode hinner hdepth (Nat.lt_of_le_of_lt hvalue hlength)]
    rfl

end

/-! ### Schemas -/

/-- The fields, one after another, lead from `d` to `w`, when what they write of `v` is read. -/
inductive Fills (schema : Schema σ) (depth : Nat) (v : σ) : List (Field σ) → σ → σ → Prop
  | nil {d : σ} : Fills schema depth v [] d d
  | cons {field : Field σ} {fields : List (Field σ)} {d e w : σ}
      (hfield : (field.write v).length < 0x10000000000000000 →
        schema.Reads depth d (field.write v) e)
      (hfields : Fills schema depth v fields e w) : Fills schema depth v (field :: fields) d w

theorem Fills.reads {schema : Schema σ} {depth : Nat} {v d w : σ} {fields : List (Field σ)}
    (h : Fills schema depth v fields d w)
    (hlength : (fields.flatMap (·.write v)).length < 0x10000000000000000) :
    schema.Reads depth d (fields.flatMap (·.write v)) w := by
  induction h with
  | nil => exact .nil
  | cons hfield _ ih =>
    rw [List.flatMap_cons, List.length_append] at hlength
    rw [List.flatMap_cons]
    exact (hfield (by omega)).append (ih (by omega))

/-- A schema is readable if its fields lead from the empty message to any message that they were
written from. -/
theorem readable_of_fills {schema : Schema σ} {levels : Nat}
    (h : ∀ depth, levels ≤ depth → ∀ v, Fills schema depth v schema.fields schema.empty v) :
    schema.Readable levels :=
  fun depth hdepth v hlength => (h depth hdepth v).reads hlength

theorem Readable.decode_encode {schema : Schema σ} {levels : Nat} (h : schema.Readable levels)
    (hlevels : levels ≤ maxDepth) {v : σ}
    (hlength : (schema.encode v).length < 0x10000000000000000) :
    schema.decode (schema.encode v) = .ok v :=
  (h maxDepth hlevels v hlength).decode

end Schema

end AgentRelay.Wire
