import AgentRelay.Json.Decoder
import AgentRelay.Proofs.Outcome

/-! What a list tells of the text it was read from. The text is an array, and every item of the list
is what its decoder reads where an element of the array starts: the first behind the bracket, any
other behind the comma that follows the one before it, and the last in front of the closing bracket.
So there is one item for each element, in their order. -/
namespace AgentRelay.Json

variable {α σ : Type}

/-- Where an element starts, at the first place of an array or at a later one. -/
inductive Starts : (first : Bool) → (s start : List Char) → Prop
  | opening {s t : List Char} {c : Char} (h : skipBlanks s = c :: t) (hc : c ≠ ']') :
      Starts true s (c :: t)
  | comma {s t u : List Char} {c : Char} (hcomma : skipBlanks s = ',' :: u)
      (h : skipBlanks u = c :: t) (hc : c ≠ ']') : Starts false s (c :: t)

/-- Reading the elements of an array one after another, each where it starts, gives the items and
ends behind the closing bracket. -/
inductive Elements (read : List Char → Except Failure (α × List Char)) :
    (first : Bool) → List Char → List α → List Char → Prop
  | close {first : Bool} {s rest : List Char} (h : skipBlanks s = ']' :: rest) :
      Elements read first s [] rest
  | element {first : Bool} {s start next rest : List Char} {a : α} {items : List α}
      (hstart : Starts first s start) (hread : read start = .ok (a, next))
      (hrest : Elements read false next items rest) : Elements read first s (a :: items) rest

/-- The text is an array, and nothing but blanks is around it; its elements are read as these
items. -/
def IsArray (decode : Decoder α) (text : String) (items : List α) : Prop :=
  ∃ inner rest, skipBlanks text.toList = '[' :: inner ∧
    Elements (decode (maxDepth - 1)) true inner items rest ∧ skipBlanks rest = []

/-! ### Reading a list -/

section

variable {first : Bool} {s t : List Char}

theorem starts_of_nextItem (h : nextItem first s = .ok (true, t)) : Starts first s t := by
  unfold nextItem at h
  split at h
  · cases h
  · cases h
  · rename_i c u hc hskip
    cases first with
    | true =>
      cases h
      exact .opening hskip hc
    | false =>
      simp only [Bool.false_eq_true, if_false] at h
      split at h
      · rename_i hcomma
        subst hcomma
        split at h
        · cases h
        · cases h
        · rename_i hnil hbracket
          cases h
          cases hnext : skipBlanks u with
          | nil => exact absurd hnext hnil
          | cons d v => exact .comma hskip hnext fun heq => hbracket v (heq ▸ hnext)
      · cases h

theorem close_of_nextItem (h : nextItem first s = .ok (false, t)) :
    ∃ rest, skipBlanks s = ']' :: rest ∧ t = ']' :: rest := by
  unfold nextItem at h
  split at h
  · cases h
  · rename_i rest hskip
    cases h
    exact ⟨rest, hskip, rfl⟩
  · split at h
    · cases h
    · split at h
      · split at h <;> cases h
      · cases h

theorem elements_of_readItems {read : List Char → Except Failure (α × List Char)} {steps : Nat}
    {items : List α} (h : readItems read steps first s = .ok (items, t)) :
    ∃ rest, t = ']' :: rest ∧ Elements read first s items rest := by
  induction steps generalizing first s items with
  | zero => cases h
  | succ steps ih =>
    unfold readItems at h
    obtain ⟨⟨more, start⟩, hnext, h⟩ := exists_of_bind_eq_ok h
    cases more with
    | false =>
      cases h
      obtain ⟨rest, hskip, rfl⟩ := close_of_nextItem hnext
      exact ⟨rest, rfl, .close hskip⟩
    | true =>
      obtain ⟨⟨a, next⟩, hread, h⟩ := exists_of_bind_eq_ok h
      obtain ⟨⟨others, u⟩, hothers, h⟩ := exists_of_bind_eq_ok h
      cases h
      obtain ⟨rest, rfl, helements⟩ := ih hothers
      exact ⟨rest, rfl, .element (starts_of_nextItem hnext) hread helements⟩

end

theorem isArray_of_decodeText {decode : Decoder α} {text : String} {items : List α}
    (h : decodeText (.list decode) text = .ok items) : IsArray decode text items := by
  unfold decodeText at h
  split at h
  · cases h
  · rename_i read after hread
    split at h
    · rename_i hafter
      cases h
      unfold Decoder.list at hread
      split at hread
      · cases hread
      · rename_i inner hskip
        obtain ⟨⟨items, t⟩, hitems, hread⟩ := exists_of_bind_eq_ok hread
        obtain ⟨u, hclose, hread⟩ := exists_of_bind_eq_ok hread
        cases hread
        obtain ⟨rest, rfl, helements⟩ := elements_of_readItems hitems
        cases hclose
        exact ⟨inner, _, hskip, helements, hafter⟩
      · cases hread
    · cases h

theorem Elements.exists_read {read : List Char → Except Failure (α × List Char)} {first : Bool}
    {s rest : List Char} {items : List α} (h : Elements read first s items rest) {a : α}
    (ha : a ∈ items) : ∃ start next, read start = .ok (a, next) := by
  induction h with
  | close => cases ha
  | @element _ _ start next _ _ _ _ hread _ ih =>
    obtain rfl | ha := List.mem_cons.1 ha
    · exact ⟨start, next, hread⟩
    · exact ih ha

/-! ### Records -/

theorem finish_of_close {finish : Except Cause α} {fail : Cause → Failure}
    {close : Except Failure (List Char)} {a : α} {rest : List Char}
    (h : (match finish with
      | .ok b => close.bind fun t => .ok (b, t)
      | .error cause => .error (fail cause)) = .ok (a, rest)) : finish = .ok a := by
  cases finish with
  | error cause => cases h
  | ok b =>
    obtain ⟨t, -, h⟩ := exists_of_bind_eq_ok h
    cases h
    rfl

/-- A record that was read is what its draft gives in the end. -/
theorem Record.exists_finish {r : Record σ α} {depth : Nat} {s rest : List Char} {a : α}
    (h : r.decoder depth s = .ok (a, rest)) : ∃ draft, r.finish draft = .ok a := by
  unfold Record.decoder at h
  split at h
  · cases h
  · split at h
    · cases h
    · obtain ⟨⟨draft, t⟩, -, h⟩ := exists_of_bind_eq_ok h
      exact ⟨draft, finish_of_close h⟩
  · split at h
    · cases h
    · obtain ⟨⟨draft, t⟩, -, h⟩ := exists_of_bind_eq_ok h
      exact ⟨draft, finish_of_close h⟩
  · cases h

end AgentRelay.Json
