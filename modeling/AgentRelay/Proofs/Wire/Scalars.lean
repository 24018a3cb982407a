import AgentRelay.Wire.Schema

/-! Numbers, keys and scalars are read back as they were written, whatever bytes follow them. The
one bound is on lengths: the number of the bytes behind it has to fit a word. -/
namespace AgentRelay.Wire

/-! ### Numbers -/

/-- All bytes but the last have room for seven bits, and the last one for a single bit. -/
theorem readVarintFrom_writeVarint (left : Nat) {n : Nat} (h : n < 2 * Nat.pow 128 left)
    (rest : Bytes) :
    readVarintFrom (left + 1) (writeVarint n ++ rest) = .ok (n, rest) := by
  induction left generalizing n with
  | zero =>
    have hlast : n < 2 := h
    have hbyte : (UInt8.ofNat n).toNat = n :=
      UInt8.toNat_ofNat_of_lt' (show n < 256 by omega)
    rw [writeVarint, if_pos (by omega)]
    simp only [List.cons_append, List.nil_append, readVarintFrom, hbyte]
    rw [if_pos (by omega), if_neg (by omega)]
  | succ left ih =>
    rw [writeVarint]
    split
    · rename_i hsmall
      have hbyte : (UInt8.ofNat n).toNat = n :=
        UInt8.toNat_ofNat_of_lt' (show n < 256 by omega)
      simp only [List.cons_append, List.nil_append, readVarintFrom, hbyte]
      rw [if_pos hsmall, if_neg (by omega)]
    · have hbyte : (UInt8.ofNat (n % 128 + 128)).toNat = n % 128 + 128 :=
        UInt8.toNat_ofNat_of_lt' (show n % 128 + 128 < 256 by omega)
      have hquotient : n / 128 < 2 * Nat.pow 128 left :=
        Nat.div_lt_of_lt_mul (by rw [Nat.mul_comm, Nat.mul_assoc]; exact h)
      rw [List.cons_append, readVarintFrom]
      simp only [hbyte, ih hquotient]
      rw [if_neg (by omega), Nat.add_sub_cancel, Nat.mod_add_div]

theorem readVarint_writeVarint {n : Nat} (h : n < 0x10000000000000000) (rest : Bytes) :
    readVarint (writeVarint n ++ rest) = .ok (n, rest) :=
  readVarintFrom_writeVarint 9 h rest

theorem writeVarint_ne_nil (n : Nat) : writeVarint n ≠ [] := by
  rw [writeVarint]
  split <;> simp

/-! ### Keys and lengths -/

theorem WireType.number_lt (w : WireType) : w.number < 8 := by
  cases w <;> decide

theorem readKey_write {number : Nat} (hpos : 0 < number) (hlt : number < 0x20000000)
    (layout : WireType) (rest : Bytes) :
    readKey (Key.write ⟨number, layout⟩ ++ rest) = .ok (⟨number, layout⟩, rest) := by
  have hlayout := layout.number_lt
  have hfield : (number * 8 + layout.number) / 8 = number := by omega
  have htype : (number * 8 + layout.number) % 8 = layout.number := by omega
  have hword : number * 8 + layout.number < 0x10000000000000000 := by omega
  unfold readKey Key.write
  rw [readVarint_writeVarint hword]
  simp only [bind, Except.bind, hfield, htype, WireType.ofNumber?_number]
  rw [if_neg (by omega), if_neg (by omega)]
  rfl

theorem readDelimited_writeDelimited {content : Bytes} (h : content.length < 0x10000000000000000)
    (rest : Bytes) : readDelimited (writeDelimited content ++ rest) = .ok (content, rest) := by
  unfold readDelimited writeDelimited
  rw [List.append_assoc, readVarint_writeVarint h]
  simp only [bind, Except.bind, List.length_append, List.take_left, List.drop_left]
  rw [if_neg (by omega)]
  rfl

theorem length_le_writeDelimited (content : Bytes) :
    content.length ≤ (writeDelimited content).length := by
  simp [writeDelimited]

/-! ### Scalars -/

/-- Values are read back as they were written, and only the default is left out. -/
structure Scalar.Faithful {α : Type} (scalar : Scalar α) (default : α) : Prop where
  read_write : ∀ a rest, (scalar.write a).length < 0x10000000000000000 →
    scalar.read (scalar.write a ++ rest) = .ok (a, rest)
  eq_default : ∀ a, scalar.isDefault a = true → a = default

theorem Scalar.string_faithful : Scalar.string.Faithful "" where
  read_write s rest h := by
    have hlength := length_le_writeDelimited (Text.utf8Bytes s)
    simp only [Scalar.string] at h ⊢
    rw [readDelimited_writeDelimited (by omega)]
    simp only [bind, Except.bind, Text.ofUtf8?_utf8Bytes]
    rfl
  eq_default s h := String.isEmpty_iff.1 h

theorem Scalar.int64_faithful : Scalar.int64.Faithful 0 where
  read_write n rest _ := by
    simp only [Scalar.int64]
    rw [readVarint_writeVarint n.toUInt64.toNat_lt]
    simp [bind, Except.bind, pure, Except.pure]
  eq_default n h := eq_of_beq h

/-- Of the sign that was put in front, nothing is taken. -/
theorem toInt32_ofNat_toInt64 (n : Int32) :
    (UInt32.ofNat n.toInt64.toUInt64.toNat).toInt32 = n := by
  apply Int32.toBitVec_inj.1
  apply BitVec.eq_of_getLsbD_eq
  intro i hi
  simp [BitVec.getLsbD_signExtend, hi]
  omega

theorem Scalar.int32_faithful : Scalar.int32.Faithful 0 where
  read_write n rest _ := by
    simp only [Scalar.int32]
    rw [readVarint_writeVarint n.toInt64.toUInt64.toNat_lt]
    simp only [bind, Except.bind, toInt32_ofNat_toInt64]
    rfl
  eq_default n h := eq_of_beq h

end AgentRelay.Wire
