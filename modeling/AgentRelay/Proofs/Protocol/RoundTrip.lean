import AgentRelay.Proofs.Wire.Messages
import AgentRelay.Protocol.Schema

/-! Every message of the protocol is read back as it was written. For each type of message, what its
fields write leads from the empty message to the one that was written. -/
namespace AgentRelay.Protocol

open Wire Wire.Schema

/-! ### Messages without others in them -/

theorem Status.readable : Status.schema.Readable 0 :=
  readable_of_fills fun _ _ _ =>
    .cons (reads_single (by decide) Scalar.int32_faithful rfl rfl) <|
    .cons (reads_single (by decide) Scalar.string_faithful rfl rfl) .nil

theorem AccessPoint.readable : AccessPoint.schema.Readable 0 :=
  readable_of_fills fun _ _ _ =>
    .cons (reads_single (by decide) Scalar.string_faithful rfl rfl) <|
    .cons (reads_single (by decide) Scalar.string_faithful rfl rfl) <|
    .cons (reads_single (by decide) Scalar.int64_faithful rfl rfl) <|
    .cons (reads_single (by decide) Scalar.string_faithful rfl rfl) .nil

theorem GetStateReq.readable : GetStateReq.schema.Readable 0 :=
  readable_of_fills fun _ _ _ =>
    .nil

theorem RndcRequest.readable : RndcRequest.schema.Readable 0 :=
  readable_of_fills fun _ _ _ =>
    .cons (reads_single (by decide) Scalar.string_faithful rfl rfl) .nil

theorem NamedStatsRequest.readable : NamedStatsRequest.schema.Readable 0 :=
  readable_of_fills fun _ _ _ =>
    .cons (reads_single (by decide) Scalar.string_faithful rfl rfl) .nil

theorem KeaRequest.readable : KeaRequest.schema.Readable 0 :=
  readable_of_fills fun _ _ _ =>
    .cons (reads_single (by decide) Scalar.string_faithful rfl rfl) .nil

theorem TailTextFileReq.readable : TailTextFileReq.schema.Readable 0 :=
  readable_of_fills fun _ _ _ =>
    .cons (reads_single (by decide) Scalar.string_faithful rfl rfl) <|
    .cons (reads_single (by decide) Scalar.int64_faithful rfl rfl) .nil

/-! ### Messages with others in them -/

theorem App.readable : App.schema.Readable 1 :=
  readable_of_fills fun _ hdepth _ =>
    .cons (reads_single (by decide) Scalar.string_faithful rfl rfl) <|
    .cons (reads_messages (by decide) AccessPoint.readable hdepth
      ⟨fun _ _ => rfl, fun _ _ _ => rfl, fun _ => rfl⟩ rfl rfl) .nil

theorem RndcResponse.readable : RndcResponse.schema.Readable 1 :=
  readable_of_fills fun _ hdepth _ =>
    .cons (reads_message (by decide) Status.readable hdepth rfl rfl rfl) <|
    .cons (reads_single (by decide) Scalar.string_faithful rfl rfl) .nil

theorem NamedStatsResponse.readable : NamedStatsResponse.schema.Readable 1 :=
  readable_of_fills fun _ hdepth _ =>
    .cons (reads_message (by decide) Status.readable hdepth rfl rfl rfl) <|
    .cons (reads_single (by decide) Scalar.string_faithful rfl rfl) .nil

theorem KeaResponse.readable : KeaResponse.schema.Readable 1 :=
  readable_of_fills fun _ hdepth _ =>
    .cons (reads_message (by decide) Status.readable hdepth rfl rfl rfl) <|
    .cons (reads_single (by decide) Scalar.string_faithful rfl rfl) .nil

theorem ForwardRndcCommandReq.readable : ForwardRndcCommandReq.schema.Readable 1 :=
  readable_of_fills fun _ hdepth _ =>
    .cons (reads_single (by decide) Scalar.string_faithful rfl rfl) <|
    .cons (reads_single (by decide) Scalar.int64_faithful rfl rfl) <|
    .cons (reads_single (by decide) Scalar.string_faithful rfl rfl) <|
    .cons (reads_message (by decide) RndcRequest.readable hdepth rfl rfl rfl) .nil

theorem ForwardToNamedStatsReq.readable : ForwardToNamedStatsReq.schema.Readable 1 :=
  readable_of_fills fun _ hdepth _ =>
    .cons (reads_single (by decide) Scalar.string_faithful rfl rfl) <|
    .cons (reads_message (by decide) NamedStatsRequest.readable hdepth rfl rfl rfl) .nil

theorem ForwardToKeaOverHttpReq.readable : ForwardToKeaOverHttpReq.schema.Readable 1 :=
  readable_of_fills fun _ hdepth _ =>
    .cons (reads_single (by decide) Scalar.string_faithful rfl rfl) <|
    .cons (reads_messages (by decide) KeaRequest.readable hdepth
      ⟨fun _ _ => rfl, fun _ _ _ => rfl, fun _ => rfl⟩ rfl rfl) .nil

theorem TailTextFileRsp.readable : TailTextFileRsp.schema.Readable 1 :=
  readable_of_fills fun _ hdepth _ =>
    .cons (reads_message (by decide) Status.readable hdepth rfl rfl rfl) <|
    .cons (reads_repeated (by decide) Scalar.string_faithful
      ⟨fun _ _ => rfl, fun _ _ _ => rfl, fun _ => rfl⟩ rfl rfl) .nil

/-! ### Messages with two levels in them -/

theorem GetStateRsp.readable : GetStateRsp.schema.Readable 2 :=
  readable_of_fills fun _ hdepth _ =>
    .cons (reads_single (by decide) Scalar.string_faithful rfl rfl) <|
    .cons (reads_messages (by decide) App.readable hdepth
      ⟨fun _ _ => rfl, fun _ _ _ => rfl, fun _ => rfl⟩ rfl rfl) <|
    .cons (reads_single (by decide) Scalar.string_faithful rfl rfl) <|
    .cons (reads_single (by decide) Scalar.int64_faithful rfl rfl) <|
    .cons (reads_single (by decide) Scalar.string_faithful rfl rfl) <|
    .cons (reads_single (by decide) Scalar.int64_faithful rfl rfl) <|
    .cons (reads_single (by decide) Scalar.int64_faithful rfl rfl) <|
    .cons (reads_single (by decide) Scalar.int64_faithful rfl rfl) <|
    .cons (reads_single (by decide) Scalar.string_faithful rfl rfl) <|
    .cons (reads_single (by decide) Scalar.string_faithful rfl rfl) <|
    .cons (reads_single (by decide) Scalar.string_faithful rfl rfl) <|
    .cons (reads_single (by decide) Scalar.string_faithful rfl rfl) <|
    .cons (reads_single (by decide) Scalar.string_faithful rfl rfl) <|
    .cons (reads_single (by decide) Scalar.string_faithful rfl rfl) <|
    .cons (reads_single (by decide) Scalar.string_faithful rfl rfl) <|
    .cons (reads_single (by decide) Scalar.string_faithful rfl rfl) <|
    .cons (reads_single (by decide) Scalar.string_faithful rfl rfl) <|
    .cons (reads_single (by decide) Scalar.string_faithful rfl rfl) .nil

theorem ForwardRndcCommandRsp.readable : ForwardRndcCommandRsp.schema.Readable 2 :=
  readable_of_fills fun _ hdepth _ =>
    .cons (reads_message (by decide) Status.readable (by omega) rfl rfl rfl) <|
    .cons (reads_message (by decide) RndcResponse.readable hdepth rfl rfl rfl) .nil

theorem ForwardToNamedStatsRsp.readable : ForwardToNamedStatsRsp.schema.Readable 2 :=
  readable_of_fills fun _ hdepth _ =>
    .cons (reads_message (by decide) Status.readable (by omega) rfl rfl rfl) <|
    .cons (reads_message (by decide) NamedStatsResponse.readable hdepth rfl rfl rfl) .nil

theorem ForwardToKeaOverHttpRsp.readable : ForwardToKeaOverHttpRsp.schema.Readable 2 :=
  readable_of_fills fun _ hdepth _ =>
    .cons (reads_message (by decide) Status.readable (by omega) rfl rfl rfl) <|
    .cons (reads_messages (by decide) KeaResponse.readable hdepth
      ⟨fun _ _ => rfl, fun _ _ _ => rfl, fun _ => rfl⟩ rfl rfl) .nil

/-! ### All messages -/

/-- The types of messages, each with its schema. -/
def messageTypes : List ((σ : Type) × Schema σ) := [
  ⟨_, Status.schema⟩,
  ⟨_, AccessPoint.schema⟩,
  ⟨_, App.schema⟩,
  ⟨_, GetStateReq.schema⟩,
  ⟨_, GetStateRsp.schema⟩,
  ⟨_, RndcRequest.schema⟩,
  ⟨_, RndcResponse.schema⟩,
  ⟨_, ForwardRndcCommandReq.schema⟩,
  ⟨_, ForwardRndcCommandRsp.schema⟩,
  ⟨_, NamedStatsRequest.schema⟩,
  ⟨_, NamedStatsResponse.schema⟩,
  ⟨_, ForwardToNamedStatsReq.schema⟩,
  ⟨_, ForwardToNamedStatsRsp.schema⟩,
  ⟨_, KeaRequest.schema⟩,
  ⟨_, KeaResponse.schema⟩,
  ⟨_, ForwardToKeaOverHttpReq.schema⟩,
  ⟨_, ForwardToKeaOverHttpRsp.schema⟩,
  ⟨_, TailTextFileReq.schema⟩,
  ⟨_, TailTextFileRsp.schema⟩]

/-- No message holds others in more than two levels. -/
theorem readable_of_mem : ∀ t ∈ messageTypes, t.2.Readable 2 := by
  have hflat : 0 ≤ 2 := by decide
  have hone : 1 ≤ 2 := by decide
  simp only [messageTypes, List.forall_mem_cons]
  exact ⟨Status.readable.mono hflat, AccessPoint.readable.mono hflat, App.readable.mono hone,
    GetStateReq.readable.mono hflat, GetStateRsp.readable, RndcRequest.readable.mono hflat,
    RndcResponse.readable.mono hone, ForwardRndcCommandReq.readable.mono hone,
    ForwardRndcCommandRsp.readable, NamedStatsRequest.readable.mono hflat,
    NamedStatsResponse.readable.mono hone, ForwardToNamedStatsReq.readable.mono hone,
    ForwardToNamedStatsRsp.readable, KeaRequest.readable.mono hflat,
    KeaResponse.readable.mono hone, ForwardToKeaOverHttpReq.readable.mono hone,
    ForwardToKeaOverHttpRsp.readable, TailTextFileReq.readable.mono hflat,
    TailTextFileRsp.readable.mono hone, fun _ h => nomatch h⟩

/-- Every message of every type of the protocol is read back as it was written. What is written has
to have a length that fits a word, as all bytes in memory do, because nested lengths are written
that way. -/
theorem decode_encode_messages :
    codecs = messageTypes.map (fun t => t.2.jsonCodec) ∧
      ∀ t ∈ messageTypes, ∀ m : t.1, (t.2.encode m).length < 0x10000000000000000 →
        t.2.decode (t.2.encode m) = .ok m := by
  refine ⟨rfl, fun t ht m hlength => ?_⟩
  have hlevels : 2 ≤ maxDepth := by decide
  exact (readable_of_mem t ht).decode_encode hlevels hlength

/-- A status with a negative code beside one that is there and empty. -/
theorem decode_encode_messages_nested :
    (ForwardRndcCommandRsp.schema.encode ⟨some ⟨-1, "ä"⟩, some ⟨some {}, ""⟩⟩).length <
        0x10000000000000000 ∧
      ForwardRndcCommandRsp.schema.decode
          (ForwardRndcCommandRsp.schema.encode ⟨some ⟨-1, "ä"⟩, some ⟨some {}, ""⟩⟩) =
        .ok ⟨some ⟨-1, "ä"⟩, some ⟨some {}, ""⟩⟩ := by
  have hmem : (⟨_, ForwardRndcCommandRsp.schema⟩ : (σ : Type) × Schema σ) ∈ messageTypes := by
    simp [messageTypes]
  have hlength : (ForwardRndcCommandRsp.schema.encode
      ⟨some ⟨-1, "ä"⟩, some ⟨some {}, ""⟩⟩).length < 0x10000000000000000 := by
    decide +kernel
  exact ⟨hlength, decode_encode_messages.2 _ hmem _ hlength⟩

end AgentRelay.Protocol
