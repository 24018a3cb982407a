import AgentRelay.Json.Decoder
import AgentRelay.Proofs.Json.Elements
import Mathlib.Data.List.DropRight

/-! A value that can be read is passed over to the same place. The reader descends into arrays and
objects; what passes over a value goes on in one loop and keeps the brackets that are open. Where the
reader comes out of a value, the loop arrives with the brackets that it had before. -/
namespace AgentRelay.Json

variable {s t : List Char}

/-! ### Strings -/

theorem skipString_of_quad {a b c d : Char} {n : Nat} (h : hexQuad a b c d = some n) :
    skipString ('\\' :: 'u' :: a :: b :: c :: d :: s) = skipString s := by
  simp [skipString, h]

theorem skipString_of_readString {done : List Char} {text : String}
    (h : readString done s = .ok (text, t)) : skipString s = .ok t := by
  fun_induction readString done s with
  | case2 =>
    cases h
    rfl
  | case7 done a b c d n hquad _ _ e f g k rest m hquad' _ ih =>
    rw [skipString_of_quad hquad, skipString_of_quad hquad']
    exact ih h
  | case10 done a b c d rest n hquad _ _ ih =>
    rw [skipString_of_quad hquad]
    exact ih h
  | case11 done c rest hquad e hescape ih =>
    rw [skipString, hescape]
    · exact ih h
    · exact hquad
  | case14 done c rest hquote hend hquad hescape hprintable ih =>
    rw [skipString, if_neg hprintable]
    · exact ih h
    · exact hquote
    · exact hend
    · exact hquad
    · exact hescape
  | _ => cases h

/-! ### Numbers -/

/-- Passes over an exponent after its letter. -/
def skipExponent (s : List Char) : Except Failure (List Char) :=
  let s := (isNegative s).2
  if (s.takeWhile Char.isDigit).isEmpty then
    .error ⟨.invalidNumber, s, if s.isEmpty then 0 else 1⟩
  else .ok (s.dropWhile Char.isDigit)

/-- Passes over what follows the digits of a fraction. -/
def skipFractionEnd : List Char → Except Failure (List Char)
  | 'e' :: s => skipExponent s
  | 'E' :: s => skipExponent s
  | s => .ok s

/-- Passes over what follows the integer digits. -/
def skipNumberEnd : List Char → Except Failure (List Char)
  | '.' :: s =>
    if (s.takeWhile Char.isDigit).isEmpty then
      .error ⟨.invalidNumber, s, if s.isEmpty then 0 else 1⟩
    else skipFractionEnd (s.dropWhile Char.isDigit)
  | s => skipFractionEnd s

theorem skipNumber_eq (s : List Char) : skipNumber s = match s with
    | '0' :: rest =>
      if (rest.takeWhile Char.isDigit).isEmpty then skipNumberEnd rest
      else .error ⟨.invalidNumber, rest, if rest.isEmpty then 0 else 1⟩
    | s =>
      if (s.takeWhile Char.isDigit).isEmpty then
        .error ⟨.invalidNumber, s, if s.isEmpty then 0 else 1⟩
      else skipNumberEnd (s.dropWhile Char.isDigit) := rfl

variable {positive : Bool} {m : Nat} {n : Number}

theorem rest_of_floatNumber {exponent : Int} (h : floatNumber positive m exponent s = .ok (n, t)) :
    t = s := by
  unfold floatNumber at h
  split at h <;> cases h
  rfl

theorem skipExponent_of_readExponent {start : Int}
    (h : readExponent positive m start s = .ok (n, t)) : skipExponent s = .ok t := by
  unfold readExponent at h
  unfold skipExponent
  simp only at h
  split at h
  · cases h
  · cases h
  · rename_i hnil _
    have hdigits : ((isNegative s).2.takeWhile Char.isDigit).isEmpty = false := by
      simpa using hnil
    simp only [hdigits]
    split at h
    · simp [rest_of_floatNumber h]
    · split at h <;> cases h
      rfl

theorem skipFraction_of_readFraction {start : Int}
    (h : readFraction positive m start s = .ok (n, t)) :
    (s.takeWhile Char.isDigit).isEmpty = false ∧
      skipFractionEnd (s.dropWhile Char.isDigit) = .ok t := by
  unfold readFraction at h
  simp only at h
  split at h
  · cases h
  · cases h
  · rename_i hnil _
    refine ⟨by simpa using hnil, ?_⟩
    split at h
    · rename_i heq
      rw [heq]
      exact skipExponent_of_readExponent h
    · rename_i heq
      rw [heq]
      exact skipExponent_of_readExponent h
    · rename_i hlower hupper
      rw [skipFractionEnd, rest_of_floatNumber h]
      · exact hlower
      · exact hupper

theorem skipNumberEnd_of_readNumberEnd {surplus : Nat}
    (h : readNumberEnd positive m surplus s = .ok (n, t)) : skipNumberEnd s = .ok t := by
  unfold readNumberEnd at h
  split at h
  · obtain ⟨hdigits, hend⟩ := skipFraction_of_readFraction h
    rw [skipNumberEnd, hdigits]
    exact hend
  · exact skipExponent_of_readExponent h
  · exact skipExponent_of_readExponent h
  · rename_i hpoint hlower hupper
    rw [skipNumberEnd, skipFractionEnd]
    · split at h
      · cases h
        rfl
      · rw [rest_of_floatNumber h]
    · exact hlower
    · exact hupper
    · exact hpoint

theorem skipNumber_of_readNumber (h : readNumber positive s = .ok (n, t)) :
    skipNumber s = .ok t := by
  rw [skipNumber_eq]
  unfold readNumber at h
  split at h
  · cases h
  · split at h
    · rename_i hdigits
      simp only [hdigits, if_true]
      exact skipNumberEnd_of_readNumberEnd h
    · cases h
  · rename_i c rest hzero
    split at h
    · rename_i hdigit
      have hdigits : ((c :: rest).takeWhile Char.isDigit).isEmpty = false := by
        simp [hdigit]
      split
      · rename_i heq
        cases heq
        exact absurd rfl hzero
      · rw [hdigits]
        exact skipNumberEnd_of_readNumberEnd h
    · cases h

/-! ### Values -/

/-- Passing over the rest of a text from the first place comes to what it comes to from the second,
where a value has just ended. -/
def Reaches (due : Bool) (opened : List Bracket) (s : List Char) (opened' : List Bracket)
    (t : List Char) : Prop :=
  ∀ steps rest, skipFrom steps due opened s = .ok rest →
    ∃ steps', skipFrom steps' false opened' t = .ok rest

section

variable {due due' : Bool} {opened opened' opened'' : List Bracket} {u : List Char}

theorem Reaches.refl (opened : List Bracket) (s : List Char) :
    Reaches false opened s opened s := fun steps _ h => ⟨steps, h⟩

theorem Reaches.trans (h : Reaches due opened s opened' t)
    (h' : Reaches false opened' t opened'' u) : Reaches due opened s opened'' u := by
  intro steps rest hrest
  obtain ⟨steps', hrest'⟩ := h steps rest hrest
  exact h' steps' rest hrest'

/-- One step of the loop. -/
theorem Reaches.of_step
    (hstep : ∀ steps, skipFrom (steps + 1) due opened s = skipFrom steps due' opened' t)
    (h : Reaches due' opened' t opened'' u) : Reaches due opened s opened'' u := by
  intro steps rest hrest
  cases steps with
  | zero => cases due <;> cases hrest
  | succ steps =>
    rw [hstep] at hrest
    exact h steps rest hrest

theorem skipBlanks_skipBlanks (s : List Char) : skipBlanks (skipBlanks s) = skipBlanks s :=
  List.dropWhile_idempotent ..

theorem skipFrom_skipBlanks (steps : Nat) (opened : List Bracket) (s : List Char) :
    skipFrom (steps + 1) true opened (skipBlanks s) = skipFrom (steps + 1) true opened s := by
  rw [skipFrom, skipFrom, skipBlanks_skipBlanks]

/-- Blanks before a value are passed over with it. -/
theorem Reaches.of_skipBlanks (h : Reaches true opened (skipBlanks s) opened' t) :
    Reaches true opened s opened' t := by
  intro steps rest hrest
  cases steps with
  | zero => cases hrest
  | succ steps => exact h (steps + 1) rest (by rwa [skipFrom_skipBlanks])

end

section

variable {α : Type} {read : List Char → Except Failure (α × List Char)} {rest : List Char}

/-- Where elements are passed over like they are read, so is the rest of an array. -/
theorem Elements.reaches
    (hread : ∀ {s t a} opened, read s = .ok (a, t) → Reaches true opened s opened t)
    {first : Bool} {items : List α} (h : Elements read first s items rest) (hlater : first = false)
    (opened : List Bracket) : Reaches false (.list :: opened) s opened rest := by
  induction h with
  | close hclose =>
    refine .of_step (fun steps => ?_) (.refl opened _)
    simp only [skipFrom, hclose]
  | element hstart helement _ ih =>
    cases hstart with
    | opening => cases hlater
    | comma hcomma hnext hc =>
      have hvalue := hread (.list :: opened) helement
      rw [← hnext] at hvalue
      refine .of_step (fun steps => ?_) (hvalue.of_skipBlanks.trans (ih rfl))
      simp only [skipFrom, hcomma]

end

/-! ### Members -/

/-- Where the name of a member starts, behind its quote, at the first place of an object or at a
later one. -/
inductive NameStarts : (first : Bool) → (s start : List Char) → Prop
  | opening {s start : List Char} (h : skipBlanks s = '"' :: start) : NameStarts true s start
  | comma {s u start : List Char} (hcomma : skipBlanks s = ',' :: u)
      (h : skipBlanks u = '"' :: start) : NameStarts false s start

/-- Taking in the members of an object one after another leads from one state to another and ends
behind the closing brace. -/
inductive Members {σ : Type} (member : σ → String → List Char → Except Failure (σ × List Char)) :
    (first : Bool) → σ → List Char → σ → List Char → Prop
  | close {first : Bool} {state : σ} {s rest : List Char} (h : skipBlanks s = '\x7d' :: rest) :
      Members member first state s state rest
  | member {first : Bool} {state state' final : σ} {s start u next rest : List Char} {name : String}
      (hstart : NameStarts first s start) (hname : readString [] start = .ok (name, u))
      (hmember : member state name u = .ok (state', next))
      (hrest : Members member false state' next final rest) :
      Members member first state s final rest

section

variable {first : Bool} {σ : Type}
  {member : σ → String → List Char → Except Failure (σ × List Char)}

theorem nameStarts_of_nextMember (h : nextMember first s = .ok (true, t)) :
    NameStarts first s t := by
  unfold nextMember at h
  split at h
  · cases h
  · cases h
  · rename_i c u _ hskip
    split at h
    · split at h
      · rename_i hfirst hquote
        cases h
        rw [hfirst]
        exact .opening (hquote ▸ hskip)
      · cases h
    · split at h
      · rename_i hfirst hcomma
        split at h
        · cases h
        · rename_i hnext
          cases h
          rw [Bool.eq_false_iff.2 hfirst]
          exact .comma (hcomma ▸ hskip) hnext
        · cases h
        · cases h
      · cases h

theorem close_of_nextMember (h : nextMember first s = .ok (false, t)) :
    ∃ rest, skipBlanks s = '\x7d' :: rest ∧ t = '\x7d' :: rest := by
  unfold nextMember at h
  split at h
  · cases h
  · rename_i rest hskip
    cases h
    exact ⟨rest, hskip, rfl⟩
  · split at h
    · split at h <;> cases h
    · split at h
      · split at h <;> cases h
      · cases h

theorem members_of_readMembers {steps : Nat} {state final : σ}
    (h : readMembers member steps first state s = .ok (final, t)) :
    ∃ rest, t = '\x7d' :: rest ∧ Members member first state s final rest := by
  induction steps generalizing first state s with
  | zero => cases h
  | succ steps ih =>
    unfold readMembers at h
    obtain ⟨⟨more, start⟩, hnext, h⟩ := exists_of_bind_eq_ok h
    cases more with
    | false =>
      cases h
      obtain ⟨rest, hskip, rfl⟩ := close_of_nextMember hnext
      exact ⟨rest, rfl, .close hskip⟩
    | true =>
      obtain ⟨⟨name, u⟩, hname, h⟩ := exists_of_bind_eq_ok h
      obtain ⟨⟨state', next⟩, hmember, h⟩ := exists_of_bind_eq_ok h
      obtain ⟨rest, rfl, hrest⟩ := ih h
      exact ⟨rest, rfl, .member (nameStarts_of_nextMember hnext) hname hmember hrest⟩

theorem skipBlanks_of_readColon {u : List Char} (h : readColon t = .ok u) :
    skipBlanks t = ':' :: u := by
  unfold readColon at h
  split at h
  · cases h
  · rename_i hskip
    cases h
    exact hskip
  · cases h

theorem skipName_of_readColon {name : String} {u : List Char}
    (hname : readString [] s = .ok (name, t)) (hcolon : readColon t = .ok u) :
    skipFrom.skipName ('"' :: s) = .ok u := by
  simp only [skipFrom.skipName, skipString_of_readString hname, skipBlanks_of_readColon hcolon,
    bind, Except.bind]

end

section

variable {α : Type} {element : List Char → Except Failure (α × List Char)} {rest : List Char}

/-- Where values are passed over like they are read, so is the rest of an object. -/
theorem Members.reaches
    (hread : ∀ {s t a} opened, element s = .ok (a, t) → Reaches true opened s opened t)
    {first : Bool} {members final : List (String × α)}
    (h : Members (putMember element) first members s final rest) (hlater : first = false)
    (opened : List Bracket) : Reaches false (.object :: opened) s opened rest := by
  induction h with
  | close hclose =>
    refine .of_step (fun steps => ?_) (.refl opened _)
    simp only [skipFrom, hclose]
  | member hstart hname hmember _ ih =>
    cases hstart with
    | opening => cases hlater
    | comma hcomma hnext =>
      obtain ⟨v, hcolon, hmember⟩ := exists_of_bind_eq_ok hmember
      obtain ⟨⟨a, t⟩, helement, hmember⟩ := exists_of_bind_eq_ok hmember
      cases hmember
      refine .of_step (fun steps => ?_) ((hread (.object :: opened) helement).trans (ih rfl))
      simp only [skipFrom, hcomma, hnext, skipName_of_readColon hname hcolon, bind, Except.bind]

end

/-! ### What a value is read from -/

/-- The text opens with the value, and this is left behind it. -/
inductive OpensWith : (depth : Nat) → List Char → Value → List Char → Prop
  | nullWord {depth : Nat} {s u t : List Char} (hskip : skipBlanks s = 'n' :: u)
      (h : readWord ['u', 'l', 'l'] u = .ok t) : OpensWith depth s .null t
  | trueWord {depth : Nat} {s u t : List Char} (hskip : skipBlanks s = 't' :: u)
      (h : readWord ['r', 'u', 'e'] u = .ok t) : OpensWith depth s (.bool true) t
  | falseWord {depth : Nat} {s u t : List Char} (hskip : skipBlanks s = 'f' :: u)
      (h : readWord ['a', 'l', 's', 'e'] u = .ok t) : OpensWith depth s (.bool false) t
  | negative {depth : Nat} {s u t : List Char} {n : Number} (hskip : skipBlanks s = '-' :: u)
      (h : readNumber false u = .ok (n, t)) : OpensWith depth s (.number n) t
  | number {depth : Nat} {s u t : List Char} {c : Char} {n : Number} (hskip : skipBlanks s = c :: u)
      (hdigit : c.isDigit = true) (h : readNumber true (c :: u) = .ok (n, t)) :
      OpensWith depth s (.number n) t
  | string {depth : Nat} {s u t : List Char} {text : String} (hskip : skipBlanks s = '"' :: u)
      (h : readString [] u = .ok (text, t)) : OpensWith depth s (.string text) t
  | array {depth : Nat} {s inner t : List Char} {items : List Value}
      (hskip : skipBlanks s = '[' :: inner)
      (h : Elements (Decoder.value depth) true inner items t) :
      OpensWith (depth + 1) s (.array items) t
  | object {depth : Nat} {s inner t : List Char} {members : List (String × Value)}
      (hskip : skipBlanks s = '\x7b' :: inner)
      (h : Members (putMember (Decoder.value depth)) true [] inner members t) :
      OpensWith (depth + 1) s (.object members) t

theorem opensWith_of_value {depth : Nat} {v : Value} (h : Decoder.value depth s = .ok (v, t)) :
    OpensWith depth s v t := by
  unfold Decoder.value at h
  split at h
  · cases h
  · rename_i hskip
    obtain ⟨u, hword, h⟩ := exists_of_bind_eq_ok h
    cases h
    exact .nullWord hskip hword
  · rename_i hskip
    obtain ⟨u, hword, h⟩ := exists_of_bind_eq_ok h
    cases h
    exact .trueWord hskip hword
  · rename_i hskip
    obtain ⟨u, hword, h⟩ := exists_of_bind_eq_ok h
    cases h
    exact .falseWord hskip hword
  · rename_i hskip
    obtain ⟨⟨n, u⟩, hnumber, h⟩ := exists_of_bind_eq_ok h
    cases h
    exact .negative hskip hnumber
  · rename_i hskip
    obtain ⟨⟨text, u⟩, hstring, h⟩ := exists_of_bind_eq_ok h
    cases h
    exact .string hskip hstring
  · rename_i hskip
    split at h
    · cases h
    · obtain ⟨⟨items, u⟩, hitems, h⟩ := exists_of_bind_eq_ok h
      obtain ⟨u', hclose, h⟩ := exists_of_bind_eq_ok h
      cases h
      obtain ⟨rest, rfl, helements⟩ := elements_of_readItems hitems
      cases hclose
      exact .array hskip helements
  · rename_i hskip
    split at h
    · cases h
    · obtain ⟨⟨members, u⟩, hread, h⟩ := exists_of_bind_eq_ok h
      obtain ⟨u', hclose, h⟩ := exists_of_bind_eq_ok h
      cases h
      obtain ⟨rest, rfl, hmembers⟩ := members_of_readMembers hread
      cases hclose
      exact .object hskip hmembers
  · rename_i hskip
    split at h
    · rename_i hdigit
      obtain ⟨⟨n, u⟩, hnumber, h⟩ := exists_of_bind_eq_ok h
      cases h
      exact .number hskip hdigit hnumber
    · cases h

/-! ### Passing over a value -/

section

variable {opened : List Bracket} {u : List Char}

/-- A value without parts is passed over in one step. -/
theorem Reaches.of_scalar
    (hstep : ∀ steps, skipFrom (steps + 1) true opened s = skipFrom steps false opened t) :
    Reaches true opened s opened t := .of_step hstep (.refl opened t)

theorem Reaches.of_digit {c : Char} (hskip : skipBlanks s = c :: u) (hdigit : c.isDigit = true)
    (h : skipNumber (c :: u) = .ok t) : Reaches true opened s opened t := by
  have hdigits : ((c :: u).takeWhile Char.isDigit).isEmpty = false := by simp [hdigit]
  refine .of_scalar fun steps => ?_
  rw [skipFrom, hskip]
  split
  case h_9 =>
    rw [hdigits, h]
    rfl
  -- a digit is none of the other characters that start a value
  all_goals
    rename_i heq
    cases heq <;> exact absurd hdigit (by decide)

variable {inner rest : List Char} {α : Type}
  {read : List Char → Except Failure (α × List Char)}

theorem Reaches.of_array
    (hread : ∀ {s t a} opened, read s = .ok (a, t) → Reaches true opened s opened t)
    {items : List α} (hskip : skipBlanks s = '[' :: inner)
    (h : Elements read true inner items rest) : Reaches true opened s opened rest := by
  cases h with
  | close hclose =>
    refine .of_scalar fun steps => ?_
    simp only [skipFrom, hskip, hclose]
  | element hstart helement hrest =>
    cases hstart with
    | opening hnext hc =>
      have hinner := hrest.reaches hread rfl opened
      refine .of_step (fun steps => ?_) ((hread (.list :: opened) helement).trans hinner)
      simp only [skipFrom, hskip, hnext]
      simp [hc]

theorem Reaches.of_object
    (hread : ∀ {s t a} opened, read s = .ok (a, t) → Reaches true opened s opened t)
    {members : List (String × α)} (hskip : skipBlanks s = '\x7b' :: inner)
    (h : Members (putMember read) true [] inner members rest) :
    Reaches true opened s opened rest := by
  cases h with
  | close hclose =>
    refine .of_scalar fun steps => ?_
    simp only [skipFrom, hskip, hclose]
  | member hstart hname hmember hrest =>
    cases hstart with
    | opening hnext =>
      obtain ⟨v, hcolon, hmember⟩ := exists_of_bind_eq_ok hmember
      obtain ⟨⟨a, t⟩, helement, hmember⟩ := exists_of_bind_eq_ok hmember
      cases hmember
      have hinner := hrest.reaches hread rfl opened
      refine .of_step (fun steps => ?_) ((hread (.object :: opened) helement).trans hinner)
      simp [skipFrom, hskip, hnext, skipName_of_readColon hname hcolon, bind, Except.bind]

end

theorem reaches_of_value {depth : Nat} {v : Value} (h : Decoder.value depth s = .ok (v, t))
    (opened : List Bracket) : Reaches true opened s opened t := by
  induction depth using Nat.strongRecOn generalizing s t v opened with
  | ind depth ih =>
    cases opensWith_of_value h with
    | nullWord hskip hword | trueWord hskip hword | falseWord hskip hword =>
      refine .of_scalar fun steps => ?_
      simp only [skipFrom, hskip, hword, bind, Except.bind]
    | negative hskip hnumber =>
      refine .of_scalar fun steps => ?_
      simp only [skipFrom, hskip, skipNumber_of_readNumber hnumber, bind, Except.bind]
    | number hskip hdigit hnumber => exact .of_digit hskip hdigit (skipNumber_of_readNumber hnumber)
    | string hskip hstring =>
      refine .of_scalar fun steps => ?_
      simp only [skipFrom, hskip, skipString_of_readString hstring, bind, Except.bind]
    | @array depth _ _ _ _ hskip hitems =>
      exact .of_array (fun opened hv => ih depth (Nat.lt_succ_self depth) hv opened) hskip hitems
    | @object depth _ _ _ _ hskip hmembers =>
      exact .of_object (fun opened hv => ih depth (Nat.lt_succ_self depth) hv opened) hskip hmembers

/-- A value that can be read is passed over to the same place, if it is passed over at all. -/
theorem skipValue_eq_of_value {depth : Nat} {v : Value} {u : List Char}
    (h : Decoder.value depth s = .ok (v, t)) (hskip : skipValue s = .ok u) : u = t := by
  obtain ⟨steps, hsteps⟩ := reaches_of_value h [] _ u hskip
  cases steps with
  | zero => cases hsteps
  | succ steps =>
    cases hsteps
    rfl

end AgentRelay.Json
