import AgentRelay.Proofs.Json.Typed

/-! Values of no given type are read back, level by level: arrays and objects hold values of one
level less, and setting the members of an object in ascending order puts each behind the others.
Numbers that are no integers are left out. -/
namespace AgentRelay.Json

variable {α : Type} {depth : Nat}

/-- The value has at most so many levels of arrays and objects, all its numbers are integers, and
in each of its objects the names ascend. -/
inductive Value.Fits : Nat → Value → Prop
  | null {depth : Nat} : Fits depth .null
  | bool {depth : Nat} (b : Bool) : Fits depth (.bool b)
  | integer {depth : Nat} (n : Int)
      (inRange : -0x8000000000000000 ≤ n ∧ n < 0x10000000000000000) :
      Fits depth (.number (.integer n inRange))
  | string {depth : Nat} (s : String) : Fits depth (.string s)
  | array {depth : Nat} {items : List Value} (h : ∀ v ∈ items, Fits depth v) :
      Fits (depth + 1) (.array items)
  | object {depth : Nat} {members : List (String × Value)} (hsorted : Ordered.Sorted members)
      (h : ∀ e ∈ members, Fits depth e.2) : Fits (depth + 1) (.object members)

/-! ### Members in order -/

/-- The members of an object with the texts of their values. -/
def entriesOf (print : α → List Char) (members : List (String × α)) :
    List (String × List Char) :=
  members.map fun e => (e.1, print e.2)

/-- Members in ascending order are put one behind the other. -/
theorem takes_putMember {element : List Char → Except Failure (α × List Char)}
    {print : α → List Char} {acc members : List (String × α)}
    (hsorted : Ordered.Sorted (acc ++ members))
    (h : ∀ e ∈ members, Reads element (print e.2) e.2) :
    Takes (putMember element) acc (entriesOf print members) (acc ++ members) := by
  induction members generalizing acc with
  | nil =>
    rw [List.append_nil]
    exact .nil
  | cons e members ih =>
    obtain ⟨he, hmembers⟩ := List.forall_mem_cons.1 h
    have habove : ∀ other ∈ acc, other.1 < e.1 := fun other hother =>
      (List.pairwise_append.1 hsorted).2.2 other hother e List.mem_cons_self
    have hinsert := Ordered.insert_eq_append e.2 habove
    have hassoc : acc ++ e :: members = acc ++ [(e.1, e.2)] ++ members := by simp
    rw [hassoc] at hsorted ⊢
    refine .cons (fun rest hstop => ?_) (ih hsorted hmembers)
    have hcolon : readColon (':' :: print e.2 ++ rest) = .ok (print e.2 ++ rest) := rfl
    simp only [putMember, hcolon, bind, Except.bind, he.eq rest hstop, hinsert]
    rfl

theorem takes_members {element : List Char → Except Failure (α × List Char)}
    {print : α → List Char} {members : List (String × α)} (hsorted : Ordered.Sorted members)
    (h : ∀ e ∈ members, Reads element (print e.2) e.2) :
    Takes (putMember element) [] (entriesOf print members) members := by
  have htakes := takes_putMember (List.nil_append members ▸ hsorted) h
  rwa [List.nil_append] at htakes

theorem reads_members {decode : Decoder α} {print : α → List Char} {members : List (String × α)}
    (hsorted : Ordered.Sorted members) (h : ∀ e ∈ members, Reads (decode depth) (print e.2) e.2) :
    Reads (Decoder.members decode (depth + 1))
      (objectChars ((entriesOf print members).map entryChars)) members := by
  refine ⟨⟨'\x7b', _, rfl, by decide, by decide⟩, fun rest _ => ?_⟩
  have hmembers := (takes_members hsorted h).readMembers_print rest
  rw [objectChars_append, Decoder.members, skipBlanks_cons (by decide)]
  simp only [bind, Except.bind, hmembers]
  rfl

/-! ### Values -/

theorem itemsChars_eq (items : List Value) : itemsChars items = items.map Value.chars := by
  induction items with
  | nil => rfl
  | cons v items ih => rw [itemsChars, ih, List.map_cons]

theorem membersChars_eq (members : List (String × Value)) :
    membersChars members = (entriesOf Value.chars members).map entryChars := by
  induction members with
  | nil => rfl
  | cons e members ih => rw [membersChars, ih]; rfl

/-- A digit starts a number without a sign. -/
theorem value_of_isDigit {c : Char} (h : c.isDigit = true) (s : List Char) :
    Decoder.value depth (c :: s) = readNumberValue true (c :: s) := by
  rw [Decoder.value, skipBlanks_cons (isBlank_of_isDigit h)]
  split
  case h_9 heq =>
    cases heq
    exact if_pos h
  -- a digit is none of the other characters that start a value
  all_goals
    rename_i heq
    cases heq <;> exact absurd h (by decide)

theorem value_intChars {n : Int} (inRange : -0x8000000000000000 ≤ n ∧ n < 0x10000000000000000)
    {rest : List Char} (hrest : Stop rest) :
    Decoder.value depth (intChars n ++ rest) = .ok (.number (.integer n inRange), rest) := by
  obtain ⟨hneg, htext⟩ | ⟨hnonneg, htext, c, s, hdigits, hdigit⟩ := intChars_eq n
  · have hread := readNumber_of_neg inRange hneg hrest
    rw [htext, List.cons_append, Decoder.value, skipBlanks_cons (by decide)]
    simp only [readNumberValue, hread]
    rfl
  · have hread := readNumber_of_nonneg inRange hnonneg hrest
    rw [htext]
    rw [hdigits, List.cons_append] at hread ⊢
    rw [value_of_isDigit hdigit, readNumberValue, hread]
    rfl

theorem Value.Fits.reads {v : Value} (h : v.Fits depth) :
    Reads (Decoder.value depth) v.chars v := by
  induction h with
  | null =>
    refine ⟨⟨'n', _, rfl, by decide, by decide⟩, fun rest _ => ?_⟩
    rw [Value.chars, Decoder.value]
    rfl
  | bool b =>
    cases b with
    | true =>
      refine ⟨⟨'t', _, rfl, by decide, by decide⟩, fun rest _ => ?_⟩
      rw [Value.chars, Decoder.value]
      rfl
    | false =>
      refine ⟨⟨'f', _, rfl, by decide, by decide⟩, fun rest _ => ?_⟩
      rw [Value.chars, Decoder.value]
      rfl
  | integer n inRange =>
    refine ⟨intChars_opens n, fun rest hrest => ?_⟩
    rw [Value.chars, Number.chars, value_intChars inRange hrest]
  | string s =>
    refine ⟨⟨'"', _, rfl, by decide, by decide⟩, fun rest _ => ?_⟩
    rw [Value.chars, stringChars_append, Decoder.value, skipBlanks_cons (by decide)]
    simp only [readString_stringChars]
    rfl
  | @array depth items _ ih =>
    refine ⟨⟨'[', _, rfl, by decide, by decide⟩, fun rest _ => ?_⟩
    have hitems := readItems_print ih rest
    rw [Value.chars, itemsChars_eq, arrayChars_append, Decoder.value, skipBlanks_cons (by decide)]
    simp only [bind, Except.bind, hitems]
    rfl
  | @object depth members hsorted _ ih =>
    refine ⟨⟨'\x7b', _, rfl, by decide, by decide⟩, fun rest _ => ?_⟩
    have hmembers := (takes_members hsorted ih).readMembers_print rest
    rw [Value.chars, membersChars_eq, objectChars_append, Decoder.value,
      skipBlanks_cons (by decide)]
    simp only [bind, Except.bind, hmembers]
    rfl

/-- No other value could be taken for a null. -/
theorem Value.Fits.head?_ne {v : Value} (h : v.Fits depth) (hnull : v ≠ .null) :
    v.chars.head? ≠ some 'n' := by
  cases h with
  | null => exact absurd rfl hnull
  | bool b => cases b <;> simp [Value.chars]
  | integer n inRange =>
    rw [Value.chars, Number.chars]
    obtain ⟨_, htext⟩ | ⟨_, htext, c, s, hdigits, hdigit⟩ := intChars_eq n
    · simp [htext]
    · simpa [htext, hdigits] using ne_of_isDigit hdigit (by decide)
  | string s => simp [Value.chars, stringChars]
  | array h => simp [Value.chars, arrayChars]
  | object hsorted h => simp [Value.chars, objectChars]

end AgentRelay.Json
