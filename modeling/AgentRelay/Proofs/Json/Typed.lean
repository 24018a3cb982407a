import AgentRelay.Proofs.Json.Frames

/-! Typed values are read back: words, texts and names, values that may be left out, and records. A
record is read from an object whose members bring its draft, field by field, to one that gives the
record. -/
namespace AgentRelay.Json

variable {α β σ : Type} {depth : Nat} {text : List Char} {a : α}

/-! ### Scalars -/

/-- A printed string with what follows it, after the quote. -/
theorem stringChars_append (s : String) (rest : List Char) :
    stringChars s ++ rest = '"' :: (s.toList.flatMap escaped ++ '"' :: rest) := by
  simp [stringChars]

theorem reads_string (s : String) : Reads (Decoder.string depth) (stringChars s) s := by
  refine ⟨⟨'"', _, rfl, by decide, by decide⟩, fun rest _ => ?_⟩
  rw [stringChars_append, Decoder.string, skipBlanks_cons (by decide)]
  exact readString_stringChars s rest

theorem ne_of_isDigit {c d : Char} (hc : c.isDigit = true) (hd : d.isDigit = false) : c ≠ d := by
  rintro rfl
  simp_all

theorem isBlank_of_isDigit {c : Char} (h : c.isDigit = true) : isBlank c = false := by
  simp [isBlank, ne_of_isDigit h]

/-- A printed integer is a sign before digits, or digits alone. -/
theorem intChars_eq (n : Int) :
    (n < 0 ∧ intChars n = '-' :: Nat.toDigits 10 n.natAbs) ∨
      0 ≤ n ∧ intChars n = Nat.toDigits 10 n.natAbs ∧
        ∃ c s, Nat.toDigits 10 n.natAbs = c :: s ∧ c.isDigit = true := by
  unfold intChars
  split
  · exact .inl ⟨by assumption, rfl⟩
  · obtain ⟨c, s, hdigits⟩ := List.exists_cons_of_ne_nil
      (Nat.toDigits_ne_nil : Nat.toDigits 10 n.natAbs ≠ [])
    have hdigit : c.isDigit = true :=
      Nat.isDigit_of_mem_toDigits (by decide) (by decide) (hdigits ▸ List.mem_cons_self)
    exact .inr ⟨by omega, rfl, c, s, hdigits, hdigit⟩

theorem intChars_opens (n : Int) :
    ∃ c s, intChars n = c :: s ∧ isBlank c = false ∧ c ≠ ']' := by
  obtain ⟨_, htext⟩ | ⟨_, htext, c, s, hdigits, hdigit⟩ := intChars_eq n
  · exact ⟨_, _, htext, by decide, by decide⟩
  · exact ⟨c, s, htext.trans hdigits, isBlank_of_isDigit hdigit, ne_of_isDigit hdigit (by decide)⟩

/-- An integer within the bounds of its type, and these within what can be written. -/
theorem reads_integer {low high n : Int} {name : String} (hlow : -0x8000000000000000 ≤ low)
    (hhigh : high ≤ 0x10000000000000000) (h : low ≤ n ∧ n < high) :
    Reads (Decoder.integer low high name depth) (intChars n) n := by
  have hrange : -0x8000000000000000 ≤ n ∧ n < 0x10000000000000000 := by omega
  refine ⟨intChars_opens n, fun rest hrest => ?_⟩
  obtain ⟨hneg, htext⟩ | ⟨hnonneg, htext, c, s, hdigits, hdigit⟩ := intChars_eq n
  · have hread := readNumber_of_neg hrange hneg hrest
    rw [htext, List.cons_append, Decoder.integer, skipBlanks_cons (by decide)]
    simp only [hread, if_pos h]
  · have hread := readNumber_of_nonneg hrange hnonneg hrest
    rw [htext]
    rw [hdigits, List.cons_append] at hread ⊢
    rw [Decoder.integer, skipBlanks_cons (isBlank_of_isDigit hdigit)]
    have hsign : c ≠ '-' := ne_of_isDigit hdigit (by decide)
    split
    · cases ‹_ :: _ = []›
    · simp_all
    · rename_i heq
      cases heq
      simp only [hread, if_pos h, if_pos hdigit]

theorem Reads.map {decode : Decoder α} (h : Reads (decode depth) text a) (f : α → β) :
    Reads (decode.map f depth) text (f a) := by
  refine ⟨h.opens, fun rest hrest => ?_⟩
  simp only [Decoder.map, h.eq rest hrest]
  rfl

theorem reads_int64 (n : Int64) : Reads (Decoder.int64 depth) (intChars n.toInt) n := by
  have hbounds : -0x8000000000000000 ≤ n.toInt ∧ n.toInt < 0x8000000000000000 :=
    ⟨n.le_toInt, n.toInt_lt⟩
  have h : Reads (Decoder.int64 depth) (intChars n.toInt) (Int64.ofInt n.toInt) :=
    (reads_integer (by decide) (by decide) hbounds).map Int64.ofInt
  rwa [Int64.ofInt_toInt] at h

theorem reads_uint16 (n : UInt16) : Reads (Decoder.uint16 depth) (intChars n.toNat) n := by
  have hbounds : (0 : Int) ≤ n.toNat ∧ (n.toNat : Int) < 0x10000 := by
    have := n.toNat_lt
    omega
  have h : Reads (Decoder.uint16 depth) (intChars n.toNat) (UInt16.ofNat (n.toNat : Int).toNat) :=
    (reads_integer (by decide) (by decide) hbounds).map fun n => UInt16.ofNat n.toNat
  rwa [Int.toNat_natCast, UInt16.ofNat_toNat] at h

/-! ### Values that may be missing, and names -/

theorem reads_none {decode : Decoder α} :
    Reads (decode.option depth) ['n', 'u', 'l', 'l'] none :=
  ⟨⟨'n', _, rfl, by decide, by decide⟩, fun _ _ => rfl⟩

/-- Only the text of a value that opens like a null could be taken for one. -/
theorem Reads.option {decode : Decoder α} (h : Reads (decode depth) text a)
    (hnull : text.head? ≠ some 'n') : Reads (decode.option depth) text (some a) := by
  refine ⟨h.opens, fun rest hrest => ?_⟩
  have heq := h.eq rest hrest
  rw [Decoder.option, h.skipBlanks_append]
  split
  · obtain ⟨c, s, rfl, _⟩ := h.opens
    simp_all
  · simp only [heq]
    rfl

theorem reads_first {first second : String × α} :
    Reads (Decoder.oneOf first second depth) (stringChars first.1) first.2 := by
  refine ⟨⟨'"', _, rfl, by decide, by decide⟩, fun rest _ => ?_⟩
  rw [stringChars_append, Decoder.oneOf, skipBlanks_cons (by decide)]
  simp only [readString_stringChars, bind, Except.bind, if_true]
  rfl

theorem reads_second {first second : String × α} (hne : second.1 ≠ first.1) :
    Reads (Decoder.oneOf first second depth) (stringChars second.1) second.2 := by
  refine ⟨⟨'"', _, rfl, by decide, by decide⟩, fun rest _ => ?_⟩
  rw [stringChars_append, Decoder.oneOf, skipBlanks_cons (by decide)]
  simp only [readString_stringChars, bind, Except.bind, if_neg hne, if_true]
  rfl

/-! ### Records -/

/-- A member of the name of a field that is not set yet sets it. -/
theorem Takes.field {fields : List (Field σ)} {name : String} {optional : Bool}
    {get : σ → Option α} {set : σ → α → σ} {decode : Decoder α} {v w : σ}
    {entries : List (String × List Char)}
    (hfind : fields.find? (·.name = name) = some (.of name optional get set decode))
    (hunset : get v = none) (hread : Reads (decode depth) text a)
    (hrest : Takes (takeMember fields depth) (set v a) entries w) :
    Takes (takeMember fields depth) v ((name, text) :: entries) w := by
  refine .cons (fun rest hstop => ?_) hrest
  have hcolon : readColon (':' :: text ++ rest) = .ok (text ++ rest) := rfl
  have hfield := (hread.map (set v)).eq rest hstop
  have hset : (Field.of name optional get set decode).isSet v = false := by simp [Field.of, hunset]
  simp only [takeMember, hfind, hset, hcolon]
  exact hfield

theorem Record.reads {r : Record σ α} {entries : List (String × List Char)} {draft : σ}
    (h : Takes (takeMember r.fields depth) r.empty entries draft)
    (hfinish : r.finish draft = .ok a) :
    Reads (r.decoder (depth + 1)) (objectChars (entries.map entryChars)) a := by
  refine ⟨⟨'\x7b', _, rfl, by decide, by decide⟩, fun rest _ => ?_⟩
  have hmembers := h.readMembers_print rest
  rw [objectChars_append, Record.decoder, skipBlanks_cons (by decide)]
  simp only [bind, Except.bind, hmembers, hfinish]
  rfl

end AgentRelay.Json
