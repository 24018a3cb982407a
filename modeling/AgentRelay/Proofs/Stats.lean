import AgentRelay.App
import AgentRelay.Stats
import Mathlib.Data.List.DropRight
import Mathlib.Data.List.Induction

/-! Accesses to the counters of apps, in any number and order. Whoever asks for counters of a kind
under a key finds some there, put in place of nothing or of counters of the other kind, and may
write anything into them. So a bundle is of the kind that was asked for last, and it holds what was
written since that kind took over; nothing is left of what came before, and accesses under other
keys do not matter. -/
namespace AgentRelay.Stats

/-! ### Bundles after an update -/

section

variable (s : Stats) {key other : Key}

theorem find?_updateKea (key : Key) (f : KeaCounters → KeaCounters) :
    Ordered.find? key (s.updateKea key f).bundles = some (.kea (f ((s.kea? key).getD {}))) :=
  Ordered.find?_insert_self ..

theorem find?_updateKea_of_ne (f : KeaCounters → KeaCounters) (h : other ≠ key) :
    Ordered.find? other (s.updateKea key f).bundles = Ordered.find? other s.bundles :=
  Ordered.find?_insert_of_ne _ _ h

theorem find?_updateBind9 (key : Key) (f : Bind9Counters → Bind9Counters) :
    Ordered.find? key (s.updateBind9 key f).bundles =
      some (.bind9 (f ((s.bind9? key).getD {}))) := Ordered.find?_insert_self ..

theorem find?_updateBind9_of_ne (f : Bind9Counters → Bind9Counters) (h : other ≠ key) :
    Ordered.find? other (s.updateBind9 key f).bundles = Ordered.find? other s.bundles :=
  Ordered.find?_insert_of_ne _ _ h

end

/-! ### Counters of either kind -/

/-- The counters that are kept for an app of the kind. -/
def Counters : App.Kind → Type
  | .kea => KeaCounters
  | .bind9 => Bind9Counters

def Counters.zero : (kind : App.Kind) → Counters kind
  | .kea => ({} : KeaCounters)
  | .bind9 => ({} : Bind9Counters)

namespace Bundle

def kind : Bundle → App.Kind
  | .kea _ => .kea
  | .bind9 _ => .bind9

def of : (kind : App.Kind) → Counters kind → Bundle
  | .kea, c => .kea c
  | .bind9, c => .bind9 c

def counters? : (kind : App.Kind) → Bundle → Option (Counters kind)
  | .kea, .kea c => some c
  | .bind9, .bind9 c => some c
  | _, _ => none

end Bundle

/-- The counters of the kind under a key, if it is this kind that the key has. -/
def counters? (s : Stats) : (kind : App.Kind) → Key → Option (Counters kind)
  | .kea => s.kea?
  | .bind9 => s.bind9?

theorem counters?_eq (s : Stats) (kind : App.Kind) (key : Key) :
    s.counters? kind key = (Ordered.find? key s.bundles).bind (Bundle.counters? kind) := by
  cases kind with
  | kea =>
    show s.kea? key = _
    unfold kea?
    rcases Ordered.find? key s.bundles with _ | _ | _ <;> rfl
  | bind9 =>
    show s.bind9? key = _
    unfold bind9?
    rcases Ordered.find? key s.bundles with _ | _ | _ <;> rfl

/-! ### Accesses -/

/-- Counters are asked for under a key, and something is written into them. -/
inductive Access where
  | kea (key : Key) (write : KeaCounters → KeaCounters)
  | bind9 (key : Key) (write : Bind9Counters → Bind9Counters)

namespace Access

def key : Access → Key
  | .kea key _ | .bind9 key _ => key

/-- The kind that is asked for. -/
def kind : Access → App.Kind
  | .kea .. => .kea
  | .bind9 .. => .bind9

def perform : Access → Stats → Stats
  | .kea key write, s => s.updateKea key write
  | .bind9 key write, s => s.updateBind9 key write

/-- What is written into counters of the kind. -/
def write? : (kind : App.Kind) → Access → Option (Counters kind → Counters kind)
  | .kea, .kea _ write => some write
  | .bind9, .bind9 _ write => some write
  | _, _ => none

/-- The bundle that an access leaves where it has found this one, or none. -/
def leave (found : Option Bundle) : Access → Bundle
  | .kea _ write => .kea (write ((found.bind (Bundle.counters? .kea)).getD {}))
  | .bind9 _ write => .bind9 (write ((found.bind (Bundle.counters? .bind9)).getD {}))

variable (a : Access) (s : Stats)

theorem find?_perform : Ordered.find? a.key (a.perform s).bundles =
    some (a.leave (Ordered.find? a.key s.bundles)) := by
  cases a with
  | kea key write =>
    refine (s.find?_updateKea key write).trans ?_
    rw [leave, ← s.counters?_eq]
    rfl
  | bind9 key write =>
    refine (s.find?_updateBind9 key write).trans ?_
    rw [leave, ← s.counters?_eq]
    rfl

theorem find?_perform_of_ne {other : Key} (h : other ≠ a.key) :
    Ordered.find? other (a.perform s).bundles = Ordered.find? other s.bundles := by
  cases a with
  | kea => exact s.find?_updateKea_of_ne _ h
  | bind9 => exact s.find?_updateBind9_of_ne _ h

theorem currentErrors_perform : (a.perform s).currentErrors = s.currentErrors := by
  cases a <;> rfl

/-- Counters of the kind that was asked for are there, and none of the other. -/
theorem counters?_leave (kind : App.Kind) (found : Option Bundle) :
    (a.leave found).counters? kind = (a.write? kind).map fun write =>
      write ((found.bind (Bundle.counters? kind)).getD (.zero kind)) := by
  cases a <;> cases kind <;> rfl

theorem isSome_write? (kind : App.Kind) : (a.write? kind).isSome = decide (a.kind = kind) := by
  cases a <;> cases kind <;> rfl

end Access

theorem counters?_perform (a : Access) (s : Stats) (kind : App.Kind) :
    (a.perform s).counters? kind a.key = (a.write? kind).map fun write =>
      write ((s.counters? kind a.key).getD (.zero kind)) := by
  rw [counters?_eq, a.find?_perform, Option.bind_some, a.counters?_leave, counters?_eq]

/-! ### Runs -/

def run (accesses : List Access) (s : Stats) : Stats :=
  accesses.foldl (fun s a => a.perform s) s

theorem run_concat (accesses : List Access) (a : Access) (s : Stats) :
    run (accesses ++ [a]) s = a.perform (run accesses s) := by simp [run]

theorem currentErrors_run (accesses : List Access) (s : Stats) :
    (run accesses s).currentErrors = s.currentErrors := by
  induction accesses generalizing s with
  | nil => rfl
  | cons a accesses ih => exact (ih (a.perform s)).trans (a.currentErrors_perform s)

/-- The accesses under a key. -/
def requests (key : Key) (accesses : List Access) : List Access :=
  accesses.filter (·.key = key)

theorem requests_concat (key : Key) (accesses : List Access) (a : Access) :
    requests key (accesses ++ [a]) =
      if a.key = key then requests key accesses ++ [a] else requests key accesses := by
  by_cases h : a.key = key <;> simp [requests, h]

theorem key_of_mem_requests {key : Key} {accesses : List Access} {a : Access}
    (h : a ∈ requests key accesses) : a.key = key := by
  simpa using (List.mem_filter.1 h).2

/-- A bundle is as if there had been no accesses but those under its key. -/
theorem find?_run_requests (key : Key) (accesses : List Access) (s : Stats) :
    Ordered.find? key (run accesses s).bundles =
      Ordered.find? key (run (requests key accesses) s).bundles := by
  induction accesses using List.reverseRecOn with
  | nil => rfl
  | append_singleton accesses a ih =>
    rw [run_concat, requests_concat]
    by_cases hkey : a.key = key
    · subst hkey
      rw [if_pos rfl, run_concat, a.find?_perform, a.find?_perform, ih]
    · rw [if_neg hkey, a.find?_perform_of_ne _ (Ne.symm hkey), ih]

/-! ### Since the kind has changed -/

/-- The accesses at the end that all ask for the kind. -/
def latest (kind : App.Kind) (accesses : List Access) : List Access :=
  accesses.rtakeWhile (·.kind = kind)

theorem latest_concat (kind : App.Kind) (accesses : List Access) (a : Access) :
    latest kind (accesses ++ [a]) = if a.kind = kind then latest kind accesses ++ [a] else [] := by
  simp [latest, List.rtakeWhile_concat]

/-- What the counters of a kind start from: zero, or, if the kind has never changed, what there was
before all accesses. -/
def initial (s : Stats) (kind : App.Kind) (key : Key) (accesses : List Access) : Counters kind :=
  if ∀ a ∈ accesses, a.kind = kind then (s.counters? kind key).getD (.zero kind) else .zero kind

theorem initial_concat (s : Stats) (kind : App.Kind) (key : Key) (accesses : List Access)
    (a : Access) : s.initial kind key (accesses ++ [a]) =
      if a.kind = kind then s.initial kind key accesses else .zero kind := by
  unfold initial
  simp only [List.forall_mem_append, List.forall_mem_singleton]
  by_cases h : a.kind = kind <;> simp [h]

/-- What accesses write, one after another, into counters of the kind. -/
def writeAll (kind : App.Kind) (accesses : List Access) (c : Counters kind) : Counters kind :=
  (accesses.filterMap (Access.write? kind)).foldl (fun c write => write c) c

theorem writeAll_concat {kind : App.Kind} {a : Access} {write : Counters kind → Counters kind}
    (h : a.write? kind = some write) (accesses : List Access) (c : Counters kind) :
    writeAll kind (accesses ++ [a]) c = write (writeAll kind accesses c) := by
  simp [writeAll, List.filterMap_append, h]

section

variable {key : Key} {accesses : List Access} (h : ∀ a ∈ accesses, a.key = key) (s : Stats)

include h

theorem isSome_counters?_run (kind : App.Kind) :
    ((run accesses s).counters? kind key).isSome = match accesses.getLast? with
      | some last => decide (last.kind = kind)
      | none => (s.counters? kind key).isSome := by
  induction accesses using List.reverseRecOn with
  | nil => rfl
  | append_singleton accesses a =>
    obtain rfl := h a (by simp)
    rw [run_concat, counters?_perform, List.getLast?_concat, Option.isSome_map, a.isSome_write?]

/-- The kind is any one here: for the one that the key does not have, both sides are zero. -/
theorem getD_counters?_run (kind : App.Kind) :
    ((run accesses s).counters? kind key).getD (.zero kind) =
      writeAll kind (latest kind accesses) (s.initial kind key accesses) := by
  induction accesses using List.reverseRecOn with
  | nil => simp [run, writeAll, latest, initial]
  | append_singleton accesses a ih =>
    obtain rfl := h a (by simp)
    rw [run_concat, counters?_perform, ih fun b hb => h b (List.mem_append_left _ hb),
      latest_concat, initial_concat]
    -- An access of the kind writes into what the others have left; one of the other kind leaves
    -- no counters of this kind, so whatever comes next starts from zero.
    by_cases hkind : a.kind = kind
    · obtain ⟨write, hwrite⟩ := Option.isSome_iff_exists.1
        ((a.isSome_write? kind).trans (decide_eq_true hkind))
      rw [if_pos hkind, if_pos hkind, hwrite, writeAll_concat hwrite]
      rfl
    · have hwrite : a.write? kind = none := by
        rw [← Option.not_isSome_iff_eq_none, a.isSome_write?]
        simpa using hkind
      rw [if_neg hkind, if_neg hkind, hwrite]
      rfl

end

/-! ### How counters are handed out -/

/-- What an access for the kind finds: zeros that are put where there is nothing, and in place of
counters of the other kind. -/
def entry (s : Stats) (kind : App.Kind) (key : Key) : Bundle :=
  let bundle := (Ordered.find? key s.bundles).getD (.of kind (.zero kind))
  if bundle.kind = kind then bundle else .of kind (.zero kind)

/-- An access step by step. What it finds is taken for counters of the kind, and where it is none,
the access comes to nothing. -/
def access? (s : Stats) (kind : App.Kind) (key : Key) (write : Counters kind → Counters kind) :
    Option Stats :=
  ((s.entry kind key).counters? kind).map fun c =>
    { s with bundles := Ordered.insert key (.of kind (write c)) s.bundles }

def Access.perform? : Access → Stats → Option Stats
  | .kea key write, s => s.access? .kea key write
  | .bind9 key write, s => s.access? .bind9 key write

/-- What is found is of the kind that was asked for. -/
theorem counters?_entry (s : Stats) (kind : App.Kind) (key : Key) :
    (s.entry kind key).counters? kind = some ((s.counters? kind key).getD (.zero kind)) := by
  rw [counters?_eq, entry]
  cases kind <;> rcases Ordered.find? key s.bundles with _ | _ | _ <;> rfl

theorem access?_eq (s : Stats) (kind : App.Kind) (key : Key)
    (write : Counters kind → Counters kind) :
    s.access? kind key write = some { s with
      bundles := Ordered.insert key
        (.of kind (write ((s.counters? kind key).getD (.zero kind)))) s.bundles } := by
  rw [access?, counters?_entry, Option.map_some]

theorem perform?_eq (a : Access) (s : Stats) : a.perform? s = some (a.perform s) := by
  cases a with
  | kea key write => exact s.access?_eq .kea key write
  | bind9 key write => exact s.access?_eq .bind9 key write

theorem foldlM_perform? (accesses : List Access) (s : Stats) :
    accesses.foldlM (fun s a => a.perform? s) s = some (run accesses s) := by
  induction accesses generalizing s with
  | nil => rfl
  | cons a accesses ih =>
    rw [List.foldlM_cons, perform?_eq]
    exact ih (a.perform s)

/-- Accesses under one key that ask for counters of a Kea app, then for others, and then for those of
a Kea app again, and an access under another key in between. -/
def alternating : List Access :=
  [.kea ⟨"localhost", 953⟩ fun c => { c with controlAgent := 5 },
    .bind9 ⟨"localhost", 953⟩ fun c => { c with rndc := c.rndc + 1 },
    .kea ⟨"localhost", 953⟩ fun c => { c with controlAgent := c.controlAgent + 1 },
    .bind9 ⟨"localhost", 8053⟩ fun c => { c with statistics := c.statistics + 1 },
    .kea ⟨"localhost", 953⟩ fun c => { c with daemons := [("dhcp4", c.controlAgent)] }]

/-- After any accesses to the counters of apps, none of which comes to nothing, the agent's own
counter is what it was, and what there is under a key depends on the accesses under that key alone.
Where there were some, the counters are of the kind that was asked for last and there are none of
the other; and they are what the accesses since the last change of the kind have written, starting
from zero at that change, or from what was there at first if the kind has never changed. -/
theorem counters_of_accesses (s : Stats) (accesses : List Access) :
    accesses.foldlM (fun s a => a.perform? s) s = some (run accesses s) ∧
    (run accesses s).currentErrors = s.currentErrors ∧
    ∀ key,
      Ordered.find? key (run accesses s).bundles =
        Ordered.find? key (run (requests key accesses) s).bundles ∧
      (requests key accesses = [] →
        Ordered.find? key (run accesses s).bundles = Ordered.find? key s.bundles) ∧
      ∀ last ∈ (requests key accesses).getLast?,
        (run accesses s).counters? last.kind key =
          some (writeAll last.kind (latest last.kind (requests key accesses))
            (s.initial last.kind key (requests key accesses))) ∧
        ∀ kind ≠ last.kind, (run accesses s).counters? kind key = none := by
  refine ⟨foldlM_perform? accesses s, currentErrors_run accesses s, fun key => ?_⟩
  have honly := find?_run_requests key accesses s
  have hkeys : ∀ a ∈ requests key accesses, a.key = key := fun a => key_of_mem_requests
  have hcounters : ∀ kind, (run accesses s).counters? kind key =
      (run (requests key accesses) s).counters? kind key := fun kind => by
    rw [counters?_eq, counters?_eq, honly]
  refine ⟨honly, fun hnone => ?_, fun last hlast => ⟨?_, fun kind hkind => ?_⟩⟩
  · rw [honly, hnone]
    rfl
  · have hsome := isSome_counters?_run hkeys s last.kind
    rw [Option.mem_def.1 hlast] at hsome
    obtain ⟨c, hc⟩ := Option.isSome_iff_exists.1 (hsome.trans (decide_eq_true rfl))
    rw [hcounters, ← getD_counters?_run hkeys, hc]
    rfl
  · have hnone := isSome_counters?_run hkeys s kind
    rw [Option.mem_def.1 hlast] at hnone
    rw [hcounters, ← Option.not_isSome_iff_eq_none, hnone]
    simpa using hkind.symm

/-- The failures from before the kind changed are gone, and a key that was not used has nothing. -/
theorem counters_of_accesses_alternating :
    (∃ last ∈ (requests ⟨"localhost", 953⟩ alternating).getLast?, last.kind = .kea) ∧
    requests ⟨"localhost", 8000⟩ alternating = [] ∧
    (run alternating {}).kea? ⟨"localhost", 953⟩ =
      some { controlAgent := 1, daemons := [("dhcp4", 1)] } ∧
    (run alternating {}).bind9? ⟨"localhost", 953⟩ = none ∧
    Ordered.find? ⟨"localhost", 8000⟩ (run alternating {}).bundles = none := by
  obtain ⟨-, -, hkeys⟩ := counters_of_accesses {} alternating
  obtain ⟨-, -, hused⟩ := hkeys ⟨"localhost", 953⟩
  obtain ⟨-, hunused, -⟩ := hkeys ⟨"localhost", 8000⟩
  obtain ⟨hcounters, hothers⟩ := hused (.kea ⟨"localhost", 953⟩ _) rfl
  exact ⟨⟨_, rfl, rfl⟩, rfl, hcounters, hothers .bind9 (by decide), hunused rfl⟩

end AgentRelay.Stats
