import AgentRelay.Proofs.Json.Agreement
import AgentRelay.Proofs.Kea.Slot

/-! The kinds of slots compared. If a payload is an array of objects that name no daemon, its
elements are the same daemons and results for every kind that can read it: the daemons come from the
positions, and the result of an element with fields of its own is the member that the object has
under this name. -/
namespace AgentRelay.Kea

open Json

/-! ### One element -/

/-- An object that names no daemon. -/
def Nameless (v : Value) : Prop :=
  ∃ members, v = .object members ∧ Ordered.find? "daemon" members = none

/-- The element has the daemon and the result of the value, whatever name both are given. -/
def SameResult {α : Type} [Element α] (a : α) (v : Value) : Prop :=
  ∀ name : Option String, daemonResult (nameAt name a) = daemonResult (nameAt name v)

theorem daemonResult_object {members : List (String × Value)}
    (h : Ordered.find? "daemon" members = none) (name : Option String) :
    daemonResult (nameAt name (Value.object members)) =
      (some (name.getD ""), (Ordered.find? "result" members).bind Value.int64?) := by
  have hnone := daemon?_of_missing h
  cases name with
  | none => exact Prod.ext hnone rfl
  | some daemon =>
    rw [nameAt, assignDaemon_of_empty hnone]
    refine Prod.ext ?_ ?_
    · exact daemon?_of_member (Ordered.find?_insert_self ..)
    · show (Ordered.find? "result" (Ordered.insert "daemon" _ members)).bind _ = _
      rw [Ordered.find?_insert_of_ne _ _ (by decide)]

/-! ### Elements with fields -/

section

variable {σ α : Type} {result : σ → Option Int64}

/-- The draft has the result that the members have, if they have one. -/
def HasResult (result : σ → Option Int64) (draft : σ) (members : List (String × Value)) : Prop :=
  result draft = (Ordered.find? "result" members).bind Value.int64?

theorem hasResult_insert_of_ne {draft : σ} {members : List (String × Value)} {name : String}
    (hname : name ≠ "result") (v : Value) :
    HasResult result draft (Ordered.insert name v members) ↔ HasResult result draft members := by
  rw [HasResult, HasResult, Ordered.find?_insert_of_ne _ _ hname.symm]

theorem keeps_result {optional : Bool} {get : σ → Option Int64} {set : σ → Int64 → σ}
    (hset : ∀ draft n, result (set draft n) = some n) :
    (Field.of "result" optional get set .int64).Keeps (HasResult result) := by
  intro depth s draft next t v u members _ hread hvalue
  obtain ⟨⟨n, _⟩, hread, hmap⟩ := exists_of_bind_eq_ok hread
  cases hmap
  obtain ⟨rfl, hn⟩ := refines_int64.agree hread hvalue
  refine ⟨rfl, ?_⟩
  show result _ = (Ordered.find? "result" (Ordered.insert "result" v members)).bind _
  rw [hset, Ordered.find?_insert_self, Option.bind_some, hn]

/-- Any other field leaves the result as it is. -/
theorem keeps_other {name : String} {optional : Bool} {get : σ → Option α} {set : σ → α → σ}
    {decode : Decoder α} {stands : α → Value → Prop} (hname : name ≠ "result")
    (hdecode : decode.Refines stands) (hset : ∀ draft a, result (set draft a) = result draft) :
    (Field.of name optional get set decode).Keeps (HasResult result) := by
  intro depth s draft next t v u members hknows hread hvalue
  obtain ⟨⟨a, _⟩, hread, hmap⟩ := exists_of_bind_eq_ok hread
  cases hmap
  obtain ⟨rfl, -⟩ := hdecode.agree hread hvalue
  refine ⟨rfl, (hasResult_insert_of_ne hname v).2 ?_⟩
  rw [HasResult, hset]
  exact hknows

theorem keeps_hasResult {r : Record σ α} (hempty : result r.empty = none)
    (hresult : ∃ f ∈ r.fields, f.name = "result")
    (hfields : ∀ f ∈ r.fields, f.Keeps (HasResult result)) : r.Keeps (HasResult result) where
  empty := hempty
  field := hfields
  unknown hknows name v hname := by
    obtain ⟨f, hf, heq⟩ := hresult
    exact (hasResult_insert_of_ne (heq ▸ (hname f hf).symm) v).2 hknows

end

/-- Where a record knows the result, its values have the results of the objects that they were read
from. -/
theorem Record.sameResult {σ α : Type} [Element α] {r : Record σ α} {result : σ → Option Int64}
    (hkeeps : r.Keeps (HasResult result))
    (hfinish : ∀ {draft a}, r.finish draft = .ok a → ∀ name : Option String,
      daemonResult (nameAt name a) = (some (name.getD ""), result draft))
    {depth : Nat} {s t u : List Char} {a : α} {v : Value} (hread : r.decoder depth s = .ok (a, t))
    (hvalue : Decoder.value depth s = .ok (v, u)) (hv : Nameless v) : u = t ∧ SameResult a v := by
  obtain ⟨members, rfl, hnone⟩ := hv
  obtain ⟨rfl, draft, hdraft, hknows⟩ := hkeeps.agree hread hvalue
  refine ⟨rfl, fun name => ?_⟩
  rw [hfinish hdraft, daemonResult_object hnone, ← hknows]

theorem eq_some_of_required {α : Type} {name : String} {a : α} {value : Option α}
    (h : required name value = .ok a) : value = some a := by
  cases value <;> cases h
  rfl

theorem Header.keeps : Header.record.Keeps (HasResult Header.Draft.result) := by
  refine keeps_hasResult rfl ⟨_, List.mem_cons_self .., rfl⟩ fun f hf => ?_
  simp only [Header.record, List.mem_cons, List.not_mem_nil, or_false] at hf
  obtain rfl | rfl := hf
  · exact keeps_result fun _ _ => rfl
  · exact keeps_other (by decide) refines_string fun _ _ => rfl

theorem Response.keeps : Response.record.Keeps (HasResult Response.Draft.result) := by
  refine keeps_hasResult rfl ⟨_, List.mem_cons_self .., rfl⟩ fun f hf => ?_
  simp only [Response.record, List.mem_cons, List.not_mem_nil, or_false] at hf
  obtain rfl | rfl | rfl := hf
  · exact keeps_result fun _ _ => rfl
  · exact keeps_other (by decide) refines_string fun _ _ => rfl
  · exact keeps_other (by decide) refines_members.option fun _ _ => rfl

theorem Header.daemonResult_of_finish {draft : Header.Draft} {h : Header}
    (hfinish : Header.record.finish draft = .ok h) (name : Option String) :
    daemonResult (nameAt name h) = (some (name.getD ""), draft.result) := by
  obtain ⟨-, hnamed⟩ := Header.named_nameAt (daemon_of_finish hfinish) name
  obtain ⟨result, hrequired, hrest⟩ := exists_of_bind_eq_ok hfinish
  cases hrest
  rw [hnamed, eq_some_of_required hrequired]
  rfl

theorem Response.daemonResult_of_finish {draft : Response.Draft} {r : Response}
    (hfinish : Response.record.finish draft = .ok r) (name : Option String) :
    daemonResult (nameAt name r) = (some (name.getD ""), draft.result) := by
  obtain ⟨-, hnamed⟩ := Response.named_nameAt (daemon_of_finish hfinish) name
  obtain ⟨result, hrequired, hrest⟩ := exists_of_bind_eq_ok hfinish
  cases hrest
  rw [hnamed, eq_some_of_required hrequired]
  rfl

/-! ### All elements -/

/-- The payload is an array of objects that name no daemon. -/
def NamelessObjects (payload : String) (items : List Value) : Prop :=
  parse payload = .ok (.array items) ∧ ∀ v ∈ items, Nameless v

theorem isArray_of_parse {text : String} {items : List Value}
    (h : parse text = .ok (.array items)) : IsArray .value text items := by
  unfold parse decodeText at h
  split at h
  · cases h
  · rename_i v rest hread
    split at h
    · rename_i hblank
      cases h
      obtain ⟨inner, hskip, helements⟩ := (opensWith_of_value hread).elements
      exact ⟨inner, rest, hskip, helements, hblank⟩
    · cases h

section

variable {α : Type} [Element α]

theorem assignDaemons_nil (elements : List α) : assignDaemons [] elements = elements := by
  cases elements <;> rfl

theorem map_daemonResult_assignDaemons {elements : List α} {items : List Value}
    (h : List.Forall₂ SameResult elements items) (daemons : List String) :
    (assignDaemons daemons elements).map daemonResult =
      (assignDaemons daemons items).map daemonResult := by
  induction h generalizing daemons with
  | nil => cases daemons <;> rfl
  | cons hfirst _ ih =>
    cases daemons with
    | nil =>
      have hrest := ih []
      rw [assignDaemons_nil, assignDaemons_nil] at hrest
      exact List.cons_eq_cons.2 ⟨hfirst none, hrest⟩
    | cons daemon daemons => exact List.cons_eq_cons.2 ⟨hfirst (some daemon), ih daemons⟩

/-- Elements of any kind have the daemons and the results of the objects. -/
theorem map_daemonResult_of_decode
    (hsame : ∀ {depth s a t v u}, Element.decoder (α := α) depth s = .ok (a, t) →
      Decoder.value depth s = .ok (v, u) → Nameless v → u = t ∧ SameResult a v)
    {command : Command} {payload : String} {items : List Value} (h : NamelessObjects payload items)
    {elements : List α} (hdecode : decodeElements command payload = .ok elements) :
    elements.map daemonResult = (assignDaemons command.daemons items).map daemonResult := by
  obtain ⟨hparse, hitems⟩ := h
  obtain ⟨parsed, hread, rfl⟩ := exists_of_map_eq_ok hdecode
  have harray := isArray_of_decodeText hread
  exact map_daemonResult_assignDaemons (harray.forall₂ hsame (isArray_of_parse hparse) hitems) _

end

theorem daemonResults_of_decode {command : Command} {payload : String} {items : List Value}
    (h : NamelessObjects payload items) {slot filled : Slot}
    (hdecode : slot.decode command payload = .ok filled) :
    filled.daemonResults = (assignDaemons command.daemons items).map daemonResult := by
  cases slot with
  | headers =>
    obtain ⟨elements, helements, rfl⟩ := exists_of_map_eq_ok hdecode
    exact map_daemonResult_of_decode
      (Record.sameResult Header.keeps Header.daemonResult_of_finish) h helements
  | responses =>
    obtain ⟨elements, helements, rfl⟩ := exists_of_map_eq_ok hdecode
    exact map_daemonResult_of_decode
      (Record.sameResult Response.keeps Response.daemonResult_of_finish) h helements
  | values =>
    obtain ⟨elements, helements, rfl⟩ := exists_of_map_eq_ok hdecode
    refine map_daemonResult_of_decode (fun hread hvalue _ => ?_) h helements
    rw [show Decoder.value _ _ = _ from hread] at hvalue
    cases hvalue
    exact ⟨rfl, fun _ => rfl⟩

end AgentRelay.Kea
