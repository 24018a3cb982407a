import AgentRelay.App.Json
import AgentRelay.Kea.Command
import AgentRelay.Kea.Response
import AgentRelay.Proofs.Json.Values

/-! Apps and the messages for and from a Kea server are read back from the text that is written for
them. For each type the members that are written bring an empty draft to one that gives the value;
what a message carries for the server may be any value that nests deep enough below the limit. -/
namespace AgentRelay

open Json

variable {depth : Nat}

/-! ### Access points, machines, daemons and apps -/

theorem AccessPoint.Kind.reads (k : AccessPoint.Kind) :
    Reads (AccessPoint.Kind.decoder depth) k.chars k := by
  cases k with
  | control => exact reads_first
  | statistics => exact reads_second (by decide)

theorem AccessPoint.reads (p : AccessPoint) :
    Reads (AccessPoint.record.decoder (depth + 1)) p.chars p := by
  obtain ⟨kind, address, port, key⟩ := p
  cases key with
  | none =>
    exact Record.reads
      (.field rfl rfl kind.reads <|
        .field rfl rfl (reads_string address) <|
        .field rfl rfl (reads_uint16 port) <|
        .field rfl rfl reads_none .nil) rfl
  | some key =>
    have hkey : Reads (Decoder.option .string depth) (stringChars key) (some key) :=
      (reads_string key).option (by simp [stringChars])
    exact Record.reads
      (.field rfl rfl kind.reads <|
        .field rfl rfl (reads_string address) <|
        .field rfl rfl (reads_uint16 port) <|
        .field rfl rfl hkey .nil) rfl

theorem Machine.reads (m : Machine) : Reads (Machine.record.decoder (depth + 1)) m.chars m :=
  Record.reads
    (.field rfl rfl (reads_int64 m.id) <|
      .field rfl rfl (reads_string m.address) <|
      .field rfl rfl (reads_uint16 m.agentPort) .nil) rfl

theorem Daemon.reads (d : Daemon) : Reads (Daemon.record.decoder (depth + 1)) d.chars d :=
  Record.reads
    (.field rfl rfl (reads_int64 d.id) <|
      .field rfl rfl (reads_string d.name) .nil) rfl

theorem App.Kind.reads (k : App.Kind) : Reads (App.Kind.decoder depth) k.chars k := by
  cases k with
  | kea => exact reads_first
  | bind9 => exact reads_second (by decide)

theorem App.reads (app : App) : Reads (App.record.decoder (depth + 3)) app.chars app :=
  Record.reads
    (.field rfl rfl (reads_int64 app.id) <|
      .field rfl rfl (reads_string app.name) <|
      .field rfl rfl app.kind.reads <|
      .field rfl rfl app.machine.reads <|
      .field rfl rfl (reads_list fun p _ => p.reads) <|
      .field rfl rfl (reads_list fun d _ => d.reads) .nil) rfl

/-! ### Commands and answers -/

namespace Kea

/-- What a command carries can be told from nothing, and fits below the level of the command. -/
def Command.Sendable (c : Command) (depth : Nat) : Prop :=
  ∀ v, c.arguments = some v → v ≠ .null ∧ v.Fits depth

theorem Command.reads {c : Command} (h : c.Sendable (depth + 1)) :
    Reads (Command.record.decoder (depth + 2)) c.chars c := by
  obtain ⟨name, daemons, arguments⟩ := c
  have hdaemons : Reads (Decoder.list .string (depth + 1)) (arrayChars (daemons.map stringChars))
      daemons := reads_list fun daemon _ => reads_string daemon
  have harguments : ∀ v, arguments = some v →
      Reads (Decoder.option .value (depth + 1)) v.chars (some v) := by
    intro v hv
    obtain ⟨hnull, hfits⟩ := h v hv
    exact hfits.reads.option (hfits.head?_ne hnull)
  -- the daemons and the arguments are written only if there are any
  cases daemons with
  | nil =>
    cases arguments with
    | none => exact Record.reads (.field rfl rfl (reads_string name) .nil) rfl
    | some v =>
      exact Record.reads
        (.field rfl rfl (reads_string name) <|
          .field rfl rfl (harguments v rfl) .nil) rfl
  | cons daemon daemons =>
    cases arguments with
    | none =>
      exact Record.reads
        (.field rfl rfl (reads_string name) <|
          .field rfl rfl hdaemons .nil) rfl
    | some v =>
      exact Record.reads
        (.field rfl rfl (reads_string name) <|
          .field rfl rfl hdaemons <|
          .field rfl rfl (harguments v rfl) .nil) rfl

/-- The daemon is not written, so none is read back. -/
theorem Header.reads (h : Header) :
    Reads (Header.record.decoder (depth + 1)) h.chars { h with daemon := "" } :=
  Record.reads
    (.field rfl rfl (reads_int64 h.result) <|
      .field rfl rfl (reads_string h.text) .nil) rfl

theorem Response.reads {r : Response}
    (h : ∀ members, r.arguments = some members → (Value.object members).Fits depth) :
    Reads (Response.record.decoder (depth + 1)) r.chars { r with daemon := "" } := by
  obtain ⟨result, text, arguments, daemon⟩ := r
  cases arguments with
  | none =>
    exact Record.reads
      (.field rfl rfl (reads_int64 result) <|
        .field rfl rfl (reads_string text) <|
        .field rfl rfl reads_none .nil) rfl
  | some members =>
    have hmembers : Reads (Decoder.members .value depth) (Value.object members).chars members := by
      cases h members rfl with
      | object hsorted hmembers =>
        rw [Value.chars, membersChars_eq]
        exact reads_members hsorted fun e he => (hmembers e he).reads
    have hnull : (Value.object members).chars.head? ≠ some 'n' := by
      simp [Value.chars, objectChars]
    exact Record.reads
      (.field rfl rfl (reads_int64 result) <|
        .field rfl rfl (reads_string text) <|
        .field rfl rfl (hmembers.option hnull) .nil) rfl

end Kea

/-! ### Whole texts -/

theorem Json.Reads.decodeText {α : Type} {decode : Decoder α} {text : List Char} {a : α}
    (h : Reads (decode maxDepth) text a) :
    decodeText decode (String.ofList text) = .ok a := by
  have heq := h.eq [] .done
  rw [List.append_nil] at heq
  rw [Json.decodeText, String.toList_ofList, heq]
  rfl

/-- Reading a text that was written for a value gives the value. Of an answer the name of the daemon
is lost, and what a command or an answer carries has to nest within the limit, its own level being
one of those, and to hold no fractions. -/
theorem decodeText_chars :
    (∀ p : AccessPoint, decodeText AccessPoint.record.decoder (String.ofList p.chars) = .ok p) ∧
    (∀ m : Machine, decodeText Machine.record.decoder (String.ofList m.chars) = .ok m) ∧
    (∀ d : Daemon, decodeText Daemon.record.decoder (String.ofList d.chars) = .ok d) ∧
    (∀ app : App, decodeText App.record.decoder (String.ofList app.chars) = .ok app) ∧
    (∀ c : Kea.Command, c.Sendable 126 →
      decodeText Kea.Command.record.decoder c.print = .ok c) ∧
    (∀ h : Kea.Header,
      decodeText Kea.Header.record.decoder (String.ofList h.chars) = .ok { h with daemon := "" }) ∧
    ∀ r : Kea.Response,
      (∀ members, r.arguments = some members → (Value.object members).Fits 126) →
      decodeText Kea.Response.record.decoder (String.ofList r.chars) =
        .ok { r with daemon := "" } :=
  ⟨fun p => p.reads.decodeText, fun m => m.reads.decodeText, fun d => d.reads.decodeText,
    fun app => app.reads.decodeText, fun _ h => (Kea.Command.reads h).decodeText,
    fun h => h.reads.decodeText, fun _ h => (Kea.Response.reads h).decodeText⟩

/-- A command with integers at both limits, a null below the first level and names with escapes. -/
def Kea.Command.atLimits : Kea.Command where
  name := "config-set"
  daemons := ["dhcp4", "ü"]
  arguments := some (.object [
    ("\"\n", .array [
      .number (.integer (-0x8000000000000000) (by decide)),
      .number (.integer 0xFFFFFFFFFFFFFFFF (by decide)),
      .null]),
    ("\\", .object [])])

theorem decodeText_chars_atLimits :
    Kea.Command.atLimits.Sendable 126 ∧
      decodeText Kea.Command.record.decoder Kea.Command.atLimits.print =
        .ok Kea.Command.atLimits := by
  have hempty : ∀ e ∈ ([] : List (String × Value)), e.2.Fits 124 := fun _ h =>
    absurd h List.not_mem_nil
  have hitems : ∀ v ∈ [Value.number (.integer (-0x8000000000000000) (by decide)),
      .number (.integer 0xFFFFFFFFFFFFFFFF (by decide)), .null], v.Fits 124 := by
    simp only [List.forall_mem_cons]
    exact ⟨.integer _ _, .integer _ _, .null, fun _ h => absurd h List.not_mem_nil⟩
  have hsendable : Kea.Command.atLimits.Sendable 126 := by
    intro v hv
    cases hv
    refine ⟨by simp, .object ?_ ?_⟩
    · have hbelow : "\"\n" < "\\" := by decide
      exact List.pairwise_pair.2 hbelow
    · simp only [List.forall_mem_cons]
      exact ⟨.array hitems, .object .nil hempty, fun _ h => absurd h List.not_mem_nil⟩
  exact ⟨hsendable, decodeText_chars.2.2.2.2.1 _ hsendable⟩

end AgentRelay
