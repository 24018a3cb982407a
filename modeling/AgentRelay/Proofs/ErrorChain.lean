import AgentRelay.Error

/-! What the line of a chain of messages shows of the chain. However far it has been written, it ends
with the link that was looked at last: that link was written there, or it was left out because it is
empty or because the one before it, with which the line ended, ends with it. So nothing is lost by
leaving links out, and a link that is repeated is looked at in vain. -/
namespace AgentRelay

namespace ErrorChain

/-! ### The links that are written -/

/-- The links that are written behind `last`, of those that follow it. -/
def written (last : List Char) : List (List Char) → List (List Char)
  | [] => []
  | message :: rest =>
    if message ≠ [] ∧ ¬message.isSuffixOf last then message :: written message rest
    else written message rest

theorem written_sublist (last : List Char) (rest : List (List Char)) :
    (written last rest).Sublist rest := by
  induction rest generalizing last with
  | nil => exact .slnil
  | cons message rest ih =>
    rw [written]
    split
    · exact (ih message).cons_cons message
    · exact (ih message).cons message

/-- A link that follows itself is not written. -/
theorem written_self (message : List Char) (rest : List (List Char)) :
    written message (message :: rest) = written message rest := by
  rw [written, if_neg]
  simp

theorem written_repeated (last : List Char) (before : List (List Char)) (message : List Char)
    (after : List (List Char)) :
    written last (before ++ message :: message :: after) =
      written last (before ++ message :: after) := by
  induction before generalizing last with
  | nil =>
    rw [List.nil_append, List.nil_append, written, written_self, ← written]
  | cons first before ih => simp only [List.cons_append, written, ih]

/-- The line goes on with the links that are written, each behind a colon and a space. -/
theorem extend_eq (line last : List Char) (rest : List (List Char)) :
    extend line last rest =
      line ++ (written last rest).flatMap fun message => [':', ' '] ++ message := by
  induction rest generalizing line last with
  | nil => simp [extend, written]
  | cons message rest ih =>
    rw [extend, written]
    split
    · rw [ih]
      simp
    · exact ih line message

/-! ### What the line ends with -/

section

variable {line last : List Char} (h : last <:+ line)

include h

/-- After each link the line ends with it. -/
theorem exists_extend_cons (message : List Char) (rest : List (List Char)) :
    ∃ line', message <:+ line' ∧ extend line last (message :: rest) = extend line' message rest := by
  rw [extend]
  split
  · refine ⟨_, ?_, rfl⟩
    simpa using List.suffix_append (line ++ [':', ' ']) message
  · rename_i hleft
    refine ⟨line, ?_, rfl⟩
    -- a link that is left out is empty, or the line ends with it already
    obtain hnil | hsuffix := Classical.not_and_iff_not_or_not.1 hleft
    · rw [Classical.not_not.1 hnil]
      exact List.nil_suffix
    · exact (List.isSuffixOf_iff_suffix.1 (Classical.not_not.1 hsuffix)).trans h

theorem suffix_extend {rest : List (List Char)} {message : List Char}
    (hmessage : (last :: rest).getLast? = some message) : message <:+ extend line last rest := by
  induction rest generalizing line last with
  | nil =>
    cases hmessage
    exact h
  | cons first rest ih =>
    obtain ⟨line', hends, heq⟩ := exists_extend_cons h first rest
    rw [heq]
    exact ih hends (by rwa [List.getLast?_cons_cons] at hmessage)

theorem infix_extend {rest : List (List Char)} {message : List Char}
    (hmessage : message ∈ last :: rest) : message <:+: extend line last rest := by
  induction rest generalizing line last with
  | nil =>
    cases List.mem_singleton.1 hmessage
    exact h.isInfix
  | cons first rest ih =>
    obtain rfl | hlater := List.mem_cons.1 hmessage
    · rw [extend_eq]
      exact h.isInfix.trans (List.prefix_append _ _).isInfix
    · obtain ⟨line', hends, heq⟩ := exists_extend_cons h first rest
      rw [heq]
      exact ih hends hlater

end

/-! ### Chains -/

theorem intercalate_cons (separator first : List Char) (rest : List (List Char)) :
    separator.intercalate (first :: rest) =
      first ++ rest.flatMap fun message => separator ++ message := by
  induction rest generalizing first with
  | nil => simp
  | cons second rest ih => simp [List.intercalate_cons_cons, ih]

theorem lineChars_cons (first : List Char) (rest : List (List Char)) :
    lineChars (first :: rest) = [':', ' '].intercalate (first :: written first rest) := by
  rw [lineChars, extend_eq, intercalate_cons]

theorem lineChars_repeated (before : List (List Char)) (message : List Char)
    (after : List (List Char)) :
    lineChars (before ++ message :: message :: after) = lineChars (before ++ message :: after) := by
  cases before with
  | nil => rw [List.nil_append, List.nil_append, lineChars_cons, lineChars_cons, written_self]
  | cons first before =>
    rw [List.cons_append, List.cons_append, lineChars_cons, lineChars_cons, written_repeated]

/-- What the line of a chain is promised to show. -/
structure Faithful (messages : List String) : Prop where
  starts : ∀ first, messages.head? = some first → first.toList <+: (line messages).toList
  ends : ∀ last, messages.getLast? = some last → last.toList <:+ (line messages).toList
  shows : ∀ message ∈ messages, message.toList <:+: (line messages).toList
  /-- A link that is repeated makes no difference. -/
  repeated : ∀ before message after, messages = before ++ message :: after →
    line (before ++ message :: message :: after) = line messages
  /-- Nothing is written but links of the chain, in their order. -/
  joined : ∃ links : List String, links.Sublist messages ∧ line messages = ": ".intercalate links

theorem toList_line (messages : List String) :
    (line messages).toList = lineChars (messages.map String.toList) := String.toList_ofList

theorem faithful (messages : List String) : Faithful messages where
  starts first h := by
    obtain ⟨rest, rfl⟩ := List.head?_eq_some_iff.1 h
    rw [toList_line, List.map_cons, lineChars_cons, intercalate_cons]
    exact List.prefix_append _ _
  ends last h := by
    cases messages with
    | nil => cases h
    | cons first rest =>
      rw [toList_line, List.map_cons, lineChars]
      refine suffix_extend List.suffix_rfl ?_
      rw [← List.map_cons, List.getLast?_map, h, Option.map_some]
  shows message h := by
    cases messages with
    | nil => cases h
    | cons first rest =>
      rw [toList_line, List.map_cons, lineChars]
      refine infix_extend List.suffix_rfl ?_
      rw [← List.map_cons]
      exact List.mem_map_of_mem h
  repeated before message after h := by
    rw [h, ← String.toList_inj, toList_line, toList_line]
    simp only [List.map_append, List.map_cons]
    exact lineChars_repeated _ _ _
  joined := by
    cases messages with
    | nil => exact ⟨[], .slnil, rfl⟩
    | cons first rest =>
      have hsublist := (written_sublist first.toList (rest.map String.toList)).map String.ofList
      rw [List.map_map] at hsublist
      refine ⟨first :: (written first.toList (rest.map String.toList)).map String.ofList,
        List.Sublist.cons_cons first (by simpa [Function.comp_def] using hsublist), ?_⟩
      rw [← String.toList_inj, toList_line, List.map_cons, lineChars_cons,
        String.toList_intercalate]
      simp [Function.comp_def]

end ErrorChain

/-! ### Root causes -/

/-- What is said of the cause of a fault: the fault itself, unless it has a cause of its own. -/
def Credentials.Fault.rootText : Fault → String
  | .unreadable _ reason => reason
  | fault => fault.message

/-- What is said of the cause in which all causes of an error end. -/
def Error.rootText : Error → String
  | .reconnectFailed _ source => source.rootText
  | .unreachable _ _ source => source.rootText
  | .credentials _ fault => fault.rootText
  | e => e.message

theorem Credentials.Fault.getLast?_messages (fault : Fault) :
    fault.messages.getLast? = some fault.rootText := by
  cases fault <;> rfl

theorem Error.getLast?_messages (e : Error) : e.messages.getLast? = some e.rootText := by
  induction e with
  | reconnectFailed address source ih =>
    rw [messages, List.getLast?_cons, ih]
    rfl
  | unreachable address operation source ih =>
    rw [messages, List.getLast?_cons, ih]
    rfl
  | credentials address fault =>
    rw [messages, List.getLast?_cons, fault.getLast?_messages]
    rfl
  | invalidAddress | transport | stillUnreachable | backendStillFailing | status | decode
  | unexpectedResponse | missingAccessPoint | shuttingDown => rfl

/-- The line of a chain of messages loses nothing: it starts with the outermost one and ends with
the innermost one, and every one is in it; and no link changes it by being repeated. So the line of
an error ends with its root cause. -/
theorem ErrorChain.line_loses_nothing :
    (∀ messages : List String, Faithful messages) ∧
      ∀ e : Error, e.rootText.toList <:+ e.line.toList :=
  ⟨faithful, fun e => (faithful e.messages).ends e.rootText e.getLast?_messages⟩

end AgentRelay
