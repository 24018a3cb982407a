import AgentRelay.Kea.Slot
import AgentRelay.Proofs.Json.Elements

/-! What comes of a payload in a slot. A payload that cannot be read leaves the slot as it is. Any
other is an array, and the slot then holds its elements in their order, whatever it held before. An
element differs from what was read only in the name of its daemon, which is that of the daemon at the
same position of the command. Elements with fields of their own are read without a name; a JSON object
keeps the name it comes with, if that is a text and not empty, and other JSON values have none. -/
namespace AgentRelay.Kea

open Json

/-! ### Elements by position -/

section

variable {α : Type} [Element α]

/-- An element with the name that its position gives it. -/
def nameAt : Option String → α → α
  | some daemon, element => assignDaemon daemon element
  | none, element => element

theorem assignDaemon_of_empty {a : α} (h : Element.daemon? a = some "") (daemon : String) :
    assignDaemon daemon a = Element.setDaemon daemon a := by
  rw [assignDaemon, h]
  exact if_pos rfl

theorem getElem?_assignDaemons (daemons : List String) (elements : List α) (i : Nat) :
    (assignDaemons daemons elements)[i]? = elements[i]?.map (nameAt daemons[i]?) := by
  induction elements generalizing daemons i with
  | nil => cases daemons <;> rfl
  | cons element elements ih =>
    cases daemons with
    | nil =>
      show (element :: elements)[i]? = _
      cases (element :: elements)[i]? <;> rfl
    | cons daemon daemons =>
      cases i with
      | zero => rfl
      | succ i => exact ih daemons i

theorem length_assignDaemons (daemons : List String) (elements : List α) :
    (assignDaemons daemons elements).length = elements.length := by
  induction elements generalizing daemons with
  | nil => cases daemons <;> rfl
  | cons element elements ih =>
    cases daemons with
    | nil => rfl
    | cons daemon daemons => exact congrArg Nat.succ (ih daemons)

/-- A payload that is read fills a slot, whatever the slot held, with the elements of the array, each
of them named as its position in the command says; any other payload leaves the slot as it is. -/
def FillsByPosition (named : Option String → α → α → Prop) (slot : List α → Slot)
    (command : Command) (payload : String) : Prop :=
  match decodeText (.list (Element.decoder (α := α))) payload with
  | .error e => ∀ held, (slot held).receive command payload = (.error e, slot held)
  | .ok parsed => IsArray Element.decoder payload parsed ∧ ∃ elements : List α,
      (∀ held, (slot held).receive command payload = (.ok (), slot elements)) ∧
      elements.length = parsed.length ∧ ∀ (i : Nat) (a : α), parsed[i]? = some a →
        ∃ b, elements[i]? = some b ∧ named command.daemons[i]? a b

theorem fillsByPosition {named : Option String → α → α → Prop} {slot : List α → Slot}
    (hdecode : ∀ command payload held,
      (slot held).decode command payload = (decodeElements command payload).map slot)
    (hnamed : ∀ depth s rest a, Element.decoder depth s = .ok (a, rest) →
      ∀ name, named name a (nameAt name a))
    (command : Command) (payload : String) : FillsByPosition named slot command payload := by
  unfold FillsByPosition
  split
  · rename_i e hread
    intro held
    rw [Slot.receive, hdecode, decodeElements, hread]
    rfl
  · rename_i parsed hread
    have harray := isArray_of_decodeText hread
    refine ⟨harray, assignDaemons command.daemons parsed, fun held => ?_,
      length_assignDaemons _ _, fun i a ha => ?_⟩
    · rw [Slot.receive, hdecode, decodeElements, hread]
      rfl
    · obtain ⟨_, _, -, helements, -⟩ := harray
      obtain ⟨start, next, helement⟩ := helements.exists_read (List.mem_of_getElem? ha)
      rw [getElem?_assignDaemons, ha]
      exact ⟨_, rfl, hnamed _ start next a helement _⟩

end

/-! ### Elements with fields -/

/-- What was read has no name, and nothing but the name is changed. -/
def Header.Named (name : Option String) (parsed element : Header) : Prop :=
  parsed.daemon = "" ∧ element = { parsed with daemon := name.getD "" }

/-- What was read has no name, and nothing but the name is changed. -/
def Response.Named (name : Option String) (parsed element : Response) : Prop :=
  parsed.daemon = "" ∧ element = { parsed with daemon := name.getD "" }

theorem Header.daemon_of_finish {draft : Header.Draft} {h : Header}
    (hfinish : Header.record.finish draft = .ok h) : h.daemon = "" := by
  obtain ⟨result, -, hrest⟩ := exists_of_bind_eq_ok hfinish
  cases hrest
  rfl

theorem Response.daemon_of_finish {draft : Response.Draft} {r : Response}
    (hfinish : Response.record.finish draft = .ok r) : r.daemon = "" := by
  obtain ⟨result, -, hrest⟩ := exists_of_bind_eq_ok hfinish
  cases hrest
  rfl

theorem Header.named_nameAt {h : Header} (hempty : h.daemon = "") (name : Option String) :
    Header.Named name h (nameAt name h) := by
  have hname : Element.daemon? h = some "" := congrArg some hempty
  refine ⟨hempty, ?_⟩
  cases name with
  | none => simp [nameAt, ← hempty]
  | some daemon => exact assignDaemon_of_empty hname daemon

theorem Response.named_nameAt {r : Response} (hempty : r.daemon = "") (name : Option String) :
    Response.Named name r (nameAt name r) := by
  have hname : Element.daemon? r = some "" := congrArg some hempty
  refine ⟨hempty, ?_⟩
  cases name with
  | none => simp [nameAt, ← hempty]
  | some daemon => exact assignDaemon_of_empty hname daemon

/-! ### JSON values -/

/-- The name that an object comes with. -/
def OwnName (members : List (String × Value)) (name : String) : Prop :=
  Ordered.find? "daemon" members = some (.string name) ∧ name ≠ ""

/-- What becomes of a JSON value at a position that has a name or none. -/
inductive ValueNamed : (name : Option String) → (parsed element : Value) → Prop
  | own {name : Option String} {members : List (String × Value)} {own : String}
      (h : OwnName members own) : ValueNamed name (.object members) (.object members)
  | given {daemon : String} {members : List (String × Value)} (h : ∀ own, ¬OwnName members own) :
      ValueNamed (some daemon) (.object members)
        (.object (Ordered.insert "daemon" (.string daemon) members))
  | unnamed {v : Value} : ValueNamed none v v
  | other {name : Option String} {v : Value} (h : ∀ members, v ≠ .object members) :
      ValueNamed name v v

section

variable {members : List (String × Value)}

theorem daemon?_of_missing (h : Ordered.find? "daemon" members = none) :
    Element.daemon? (Value.object members) = some "" := by
  simp only [Element.daemon?, valueDaemon?, h]

theorem daemon?_of_member {v : Value} (h : Ordered.find? "daemon" members = some v) :
    Element.daemon? (Value.object members) = v.string? := by
  simp only [Element.daemon?, valueDaemon?, h]

/-- An object is named unless it comes with a name. -/
theorem assignDaemon_object (daemon : String) (members : List (String × Value)) :
    (∃ own, OwnName members own ∧ assignDaemon daemon (.object members) = Value.object members) ∨
      (∀ own, ¬OwnName members own) ∧ assignDaemon daemon (.object members) =
        Value.object (Ordered.insert "daemon" (.string daemon) members) := by
  unfold OwnName
  cases hfind : Ordered.find? "daemon" members with
  | none => exact .inr ⟨by simp, assignDaemon_of_empty (daemon?_of_missing hfind) daemon⟩
  | some v =>
    have hname := daemon?_of_member hfind
    cases v with
    | string own =>
      by_cases hown : own = ""
      · subst hown
        exact .inr ⟨by simp, assignDaemon_of_empty hname daemon⟩
      · refine .inl ⟨own, ⟨rfl, hown⟩, ?_⟩
        rw [assignDaemon, hname]
        exact if_neg hown
    | null | bool | number | array | object =>
      refine .inr ⟨by simp, ?_⟩
      rw [assignDaemon, hname]
      rfl

end

theorem valueNamed_nameAt (name : Option String) (v : Value) :
    ValueNamed name v (nameAt name v) := by
  cases name with
  | none => exact .unnamed
  | some daemon =>
    cases v with
    | object members =>
      obtain ⟨own, hown, heq⟩ | ⟨hnone, heq⟩ := assignDaemon_object daemon members
      · rw [nameAt, heq]
        exact .own hown
      · rw [nameAt, heq]
        exact .given hnone
    | null | bool | number | string | array => exact .other nofun

/-- Nothing but the name is changed. -/
theorem ValueNamed.member? {name : Option String} {v w : Value} (h : ValueNamed name v w)
    {other : String} (hother : other ≠ "daemon") : w.member? other = v.member? other := by
  cases h with
  | own | unnamed | other => rfl
  | given => exact Ordered.find?_insert_of_ne _ _ hother

/-! ### All kinds of slots -/

/-- A payload fills a slot of any kind by position, or leaves it as it is. -/
theorem slots_fill_by_position (command : Command) (payload : String) :
    FillsByPosition Header.Named .headers command payload ∧
      FillsByPosition Response.Named .responses command payload ∧
      FillsByPosition ValueNamed .values command payload ∧
      ∀ name v w, ValueNamed name v w →
        ∀ other ≠ "daemon", w.member? other = v.member? other := by
  refine ⟨?_, ?_, ?_, fun name v w h other => h.member?⟩
  · refine fillsByPosition (fun _ _ _ => rfl) (fun depth s rest h hread => ?_) command payload
    obtain ⟨draft, hfinish⟩ := Record.exists_finish hread
    exact Header.named_nameAt (Header.daemon_of_finish hfinish)
  · refine fillsByPosition (fun _ _ _ => rfl) (fun depth s rest r hread => ?_) command payload
    obtain ⟨draft, hfinish⟩ := Record.exists_finish hread
    exact Response.named_nameAt (Response.daemon_of_finish hfinish)
  · exact fillsByPosition (fun _ _ _ => rfl) (fun _ _ _ v _ name => valueNamed_nameAt name v)
      command payload

/-- An object without a name, and a number behind the daemons of the command. -/
theorem slots_fill_by_position_beyond : ∃ v w,
    (∀ held, (Slot.values held).receive ⟨"config-get", ["dhcp4"], none⟩ "[\x7b\"result\":1\x7d,5]" =
      (.ok (), .values [w, .number (.integer 5 (by decide))])) ∧
    ValueNamed (some "dhcp4") v w ∧ w.member? "result" = v.member? "result" := by
  obtain ⟨-, -, hvalues, hframe⟩ := slots_fill_by_position ⟨"config-get", ["dhcp4"], none⟩
    "[\x7b\"result\":1\x7d,5]"
  have hread : decodeText (.list (Element.decoder (α := Value))) "[\x7b\"result\":1\x7d,5]" =
    .ok [.object [("result", .number (.integer 1 (by decide)))],
      .number (.integer 5 (by decide))] := rfl
  simp only [FillsByPosition, hread] at hvalues
  obtain ⟨-, elements, hreceive, hlength, helements⟩ := hvalues
  obtain ⟨w, hw, hnamed⟩ := helements 0 _ rfl
  obtain ⟨u, hu, hleft⟩ := helements 1 _ rfl
  match elements, hlength with
  | [_, _], _ =>
    cases hw
    cases hu
    cases hleft <;>
      exact ⟨_, w, hreceive, hnamed, hframe _ _ _ hnamed "result" (by decide)⟩

end AgentRelay.Kea
