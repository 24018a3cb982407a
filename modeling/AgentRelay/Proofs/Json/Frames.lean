import AgentRelay.Json.Decoder
import AgentRelay.Proofs.Json.Scan
import AgentRelay.Proofs.Ordered

/-! Arrays and objects are read back part by part. A part is taken up to the comma or the bracket
behind it, so what is left of the frame can be read by the same argument; in an object every member
brings what is being built one step further. The number of steps that a reader is given is the
length of the text, and no part is without a character or a comma. -/
namespace AgentRelay.Json

variable {α σ : Type}

/-- The text opens like a value, and the reader takes all of it, and nothing behind it, for `a`. -/
structure Reads (read : List Char → Except Failure (α × List Char)) (text : List Char) (a : α) :
    Prop where
  opens : ∃ c s, text = c :: s ∧ isBlank c = false ∧ c ≠ ']'
  eq : ∀ rest, Stop rest → read (text ++ rest) = .ok (a, rest)

theorem skipBlanks_cons {c : Char} (h : isBlank c = false) (s : List Char) :
    skipBlanks (c :: s) = c :: s := by
  simp [skipBlanks, h]

section

variable {read : List Char → Except Failure (α × List Char)} {text : List Char} {a : α}

theorem Reads.skipBlanks_append (h : Reads read text a) (rest : List Char) :
    skipBlanks (text ++ rest) = text ++ rest := by
  obtain ⟨c, s, rfl, hblank, _⟩ := h.opens
  exact skipBlanks_cons hblank _

theorem Reads.nextItem_first (h : Reads read text a) (rest : List Char) :
    nextItem true (text ++ rest) = .ok (true, text ++ rest) := by
  obtain ⟨c, s, rfl, hblank, hne⟩ := h.opens
  rw [List.cons_append, nextItem, skipBlanks_cons hblank]
  simp

/-- Behind a comma there has to be one more item. -/
theorem nextItem_comma (s : List Char) :
    nextItem false (',' :: s) =
      match skipBlanks s with
      | [] => .error ⟨.endOfValue, [], 0⟩
      | ']' :: s => .error ⟨.trailingComma, ']' :: s, 1⟩
      | s => .ok (true, s) := rfl

theorem Reads.nextItem_comma (h : Reads read text a) (rest : List Char) :
    nextItem false (',' :: (text ++ rest)) = .ok (true, text ++ rest) := by
  rw [Json.nextItem_comma, h.skipBlanks_append]
  obtain ⟨c, s, rfl, _, hne⟩ := h.opens
  split <;> simp_all

end

/-! ### Parts with commas between them -/

theorem commaSeparated_cons (first : List Char) (texts : List (List Char)) :
    commaSeparated (first :: texts) = first ++ texts.flatMap (',' :: ·) := by
  induction texts generalizing first with
  | nil => simp [commaSeparated]
  | cons second texts ih => rw [commaSeparated, ih, List.flatMap_cons, List.cons_append]

/-- No part is lost in the count of characters, as there is a comma for each but the first. -/
theorem length_le_length_commaSeparated (texts : List (List Char)) :
    texts.length ≤ (commaSeparated texts).length + 1 := by
  cases texts with
  | nil => exact Nat.zero_le _
  | cons first texts =>
    have hcommas : texts.length ≤ (texts.flatMap (',' :: ·)).length := by
      induction texts with
      | nil => exact Nat.le_refl _
      | cons second texts ih =>
        simp only [List.flatMap_cons, List.length_append, List.length_cons]
        omega
    rw [commaSeparated_cons, List.length_append, List.length_cons]
    omega

theorem stop_flatMap {rest : List Char} (h : Stop rest) (texts : List (List Char)) :
    Stop (texts.flatMap (',' :: ·) ++ rest) := by
  cases texts with
  | nil => exact h
  | cons first texts => exact .comma _

/-! ### Arrays -/

section

variable {element : List Char → Except Failure (α × List Char)} {print : α → List Char}
  {items : List α}

theorem readItems_flatMap (h : ∀ a ∈ items, Reads element (print a) a) {steps : Nat}
    (hsteps : items.length < steps) (rest : List Char) :
    readItems element steps false ((items.map print).flatMap (',' :: ·) ++ ']' :: rest) =
      .ok (items, ']' :: rest) := by
  induction items generalizing steps with
  | nil =>
    obtain ⟨left, rfl⟩ : ∃ left, steps = left + 1 := ⟨steps - 1, by omega⟩
    rfl
  | cons a items ih =>
    obtain ⟨left, rfl⟩ : ∃ left, steps = left + 1 := ⟨steps - 1, by omega⟩
    obtain ⟨ha, hitems⟩ := List.forall_mem_cons.1 h
    have hrest := ih hitems (Nat.lt_of_succ_lt_succ hsteps)
    rw [List.map_cons, List.flatMap_cons, List.cons_append, List.cons_append, List.append_assoc,
      readItems, ha.nextItem_comma]
    have htake := ha.eq _ (stop_flatMap (.bracket rest) (items.map print))
    simp only [bind, Except.bind, htake, hrest]
    rfl

/-- Items between commas are read up to the closing bracket. -/
theorem readItems_commaSeparated (h : ∀ a ∈ items, Reads element (print a) a) {steps : Nat}
    (hsteps : items.length < steps) (rest : List Char) :
    readItems element steps true (commaSeparated (items.map print) ++ ']' :: rest) =
      .ok (items, ']' :: rest) := by
  obtain ⟨left, rfl⟩ : ∃ left, steps = left + 1 := ⟨steps - 1, by omega⟩
  cases items with
  | nil => rfl
  | cons a items =>
    obtain ⟨ha, hitems⟩ := List.forall_mem_cons.1 h
    have hrest := readItems_flatMap hitems (Nat.lt_of_succ_lt_succ hsteps) rest
    have htake := ha.eq _ (stop_flatMap (.bracket rest) (items.map print))
    rw [List.map_cons, commaSeparated_cons, List.append_assoc, readItems, ha.nextItem_first]
    simp only [bind, Except.bind, htake, hrest]
    rfl

/-- An array as far as its closing bracket, with the steps that its text allows. -/
theorem readItems_print (h : ∀ a ∈ items, Reads element (print a) a) (rest : List Char) :
    readItems element ((commaSeparated (items.map print) ++ ']' :: rest).length + 1) true
        (commaSeparated (items.map print) ++ ']' :: rest) = .ok (items, ']' :: rest) := by
  refine readItems_commaSeparated h ?_ rest
  have hlength := length_le_length_commaSeparated (items.map print)
  rw [List.length_map] at hlength
  rw [List.length_append, List.length_cons]
  omega

end

theorem arrayChars_append (items : List (List Char)) (rest : List Char) :
    arrayChars items ++ rest = '[' :: (commaSeparated items ++ ']' :: rest) := by
  simp [arrayChars]

theorem reads_list {decode : Decoder α} {depth : Nat} {print : α → List Char} {items : List α}
    (h : ∀ a ∈ items, Reads (decode depth) (print a) a) :
    Reads (Decoder.list decode (depth + 1)) (arrayChars (items.map print)) items := by
  refine ⟨⟨'[', _, rfl, by decide, by decide⟩, fun rest _ => ?_⟩
  have hitems := readItems_print h rest
  rw [arrayChars_append, Decoder.list, skipBlanks_cons (by decide)]
  simp only [bind, Except.bind, hitems]
  rfl

/-! ### Objects -/

/-- Reading the members, one after another, brings what is being built from `v` to `w`. -/
inductive Takes (member : σ → String → List Char → Except Failure (σ × List Char)) :
    σ → List (String × List Char) → σ → Prop
  | nil {v : σ} : Takes member v [] v
  | cons {v w x : σ} {name : String} {text : List Char} {entries : List (String × List Char)}
      (hstep : ∀ rest, Stop rest → member v name (':' :: text ++ rest) = .ok (w, rest))
      (hrest : Takes member w entries x) : Takes member v ((name, text) :: entries) x

def entryChars (e : String × List Char) : List Char := memberChars e.1 e.2

section

variable {member : σ → String → List Char → Except Failure (σ × List Char)} {v w : σ}
  {entries : List (String × List Char)}

/-- A member is read after its quote, with what follows it. -/
theorem readString_entryChars (e : String × List Char) (rest : List Char) :
    ∃ s, entryChars e ++ rest = '"' :: s ∧ readString [] s = .ok (e.1, ':' :: e.2 ++ rest) := by
  refine ⟨e.1.toList.flatMap escaped ++ '"' :: (':' :: e.2 ++ rest), ?_,
    readString_stringChars _ _⟩
  simp [entryChars, memberChars, stringChars]

theorem Takes.readMembers_flatMap (h : Takes member v entries w) {steps : Nat}
    (hsteps : entries.length < steps) (rest : List Char) :
    readMembers member steps false v
        ((entries.map entryChars).flatMap (',' :: ·) ++ '\x7d' :: rest) =
      .ok (w, '\x7d' :: rest) := by
  induction h generalizing steps with
  | nil =>
    obtain ⟨left, rfl⟩ : ∃ left, steps = left + 1 := ⟨steps - 1, by omega⟩
    rfl
  | @cons v w x name text entries hstep _ ih =>
    obtain ⟨left, rfl⟩ : ∃ left, steps = left + 1 := ⟨steps - 1, by omega⟩
    have hrest := ih (Nat.lt_of_succ_lt_succ hsteps)
    have htake := hstep _ (stop_flatMap (.brace rest) (entries.map entryChars))
    obtain ⟨s, htext, hname⟩ := readString_entryChars (name, text)
      ((entries.map entryChars).flatMap (',' :: ·) ++ '\x7d' :: rest)
    have hnext : nextMember false (',' :: '"' :: s) = .ok (true, s) := rfl
    rw [List.map_cons, List.flatMap_cons, List.cons_append, List.cons_append, List.append_assoc,
      htext, readMembers, hnext]
    simp only [bind, Except.bind, hname, htake, hrest]

/-- Members between commas are read up to the closing brace. -/
theorem Takes.readMembers_commaSeparated (h : Takes member v entries w) {steps : Nat}
    (hsteps : entries.length < steps) (rest : List Char) :
    readMembers member steps true v
        (commaSeparated (entries.map entryChars) ++ '\x7d' :: rest) =
      .ok (w, '\x7d' :: rest) := by
  obtain ⟨left, rfl⟩ : ∃ left, steps = left + 1 := ⟨steps - 1, by omega⟩
  cases h with
  | nil => rfl
  | @cons v w x name text entries hstep htakes =>
    have hrest := htakes.readMembers_flatMap (Nat.lt_of_succ_lt_succ hsteps) rest
    have htake := hstep _ (stop_flatMap (.brace rest) (entries.map entryChars))
    obtain ⟨s, htext, hname⟩ := readString_entryChars (name, text)
      ((entries.map entryChars).flatMap (',' :: ·) ++ '\x7d' :: rest)
    have hnext : nextMember true ('"' :: s) = .ok (true, s) := rfl
    rw [List.map_cons, commaSeparated_cons, List.append_assoc, htext, readMembers, hnext]
    simp only [bind, Except.bind, hname, htake, hrest]

/-- An object as far as its closing brace, with the steps that its text allows. -/
theorem Takes.readMembers_print (h : Takes member v entries w) (rest : List Char) :
    readMembers member ((commaSeparated (entries.map entryChars) ++ '\x7d' :: rest).length + 1)
        true v (commaSeparated (entries.map entryChars) ++ '\x7d' :: rest) =
      .ok (w, '\x7d' :: rest) := by
  refine h.readMembers_commaSeparated ?_ rest
  have hlength := length_le_length_commaSeparated (entries.map entryChars)
  rw [List.length_map] at hlength
  rw [List.length_append, List.length_cons]
  omega

end

theorem objectChars_append (members : List (List Char)) (rest : List Char) :
    objectChars members ++ rest = '\x7b' :: (commaSeparated members ++ '\x7d' :: rest) := by
  simp [objectChars]

end AgentRelay.Json
