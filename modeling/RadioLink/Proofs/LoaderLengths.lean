import RadioLink.Proofs.StubLoading

/-!
Lengths in the commands that load a stub. The header of a command has 16 bits for the length of its body, and
the container of a stub has 32 bits for the length of its code. A segment goes as one block, so the length in
its command is short by a multiple of 65536 as soon as the block with its header needs more than 16 bits.
-/

namespace RadioLink

namespace Firmware.Stub

/-- When a container is accepted, and what is taken from it. -/
theorem parse_eq_ok_iff {file : Bytes} {stub : Stub} :
    parse file = .ok stub ↔
      (16 ≤ file.length ∧ 1 ≤ (file.uint32At 12).toNat ∧ (file.uint32At 12).toNat ≤ file.length - 16) ∧
        stub = { entry := file.uint32At 0, paramsStart := file.uint32At 4, dataStart := file.uint32At 8,
                 code := (file.drop 16).take (file.uint32At 12).toNat,
                 data := (file.drop 16).drop (file.uint32At 12).toNat } := by
  simp only [parse, headerLength, List.length_drop]
  split
  next short =>
    constructor
    · intro refused
      cases refused
    · rintro ⟨fits, -⟩
      omega
  next long =>
    split
    next bad =>
      constructor
      · intro refused
        cases refused
      · rintro ⟨fits, -⟩
        omega
    next good =>
      constructor
      · intro accepted
        exact ⟨by omega, (Except.ok.inj accepted).symm⟩
      · rintro ⟨-, rfl⟩
        rfl

/-- A container that is accepted is as long as what is taken from it. -/
theorem length_of_parse {file : Bytes} {stub : Stub} (parsed : parse file = .ok stub) :
    stub.code.length = (file.uint32At 12).toNat ∧
      file.length = headerLength + stub.code.length + stub.data.length := by
  obtain ⟨fits, rfl⟩ := parse_eq_ok_iff.mp parsed
  simp only [List.length_take, List.length_drop, headerLength]
  omega

/-- A container is read back as it was written, if its code is not empty and not too long for its header. -/
theorem parse_bytes {stub : Stub} (some : stub.code ≠ []) (small : stub.code.length < 2 ^ 32) :
    parse stub.bytes = .ok stub := by
  have positive := List.length_pos_of_ne_nil some
  have size : stub.bytes.uint32At 12 = UInt32.ofNat stub.code.length := by
    have field := Bytes.uint32At_append (Bytes.ofUInt32 stub.entry ++ Bytes.ofUInt32 stub.paramsStart ++
      Bytes.ofUInt32 stub.dataStart) (stub.code ++ stub.data) (UInt32.ofNat stub.code.length)
    rw [← Bytes.ofNat_eq_ofUInt32 small] at field
    rw [bytes, List.append_assoc]
    exact field
  have count : (stub.bytes.uint32At 12).toNat = stub.code.length := by
    rw [size, UInt32.toNat_ofNat_of_lt' small]
  have rest : stub.bytes.drop 16 = stub.code ++ stub.data := by
    rw [bytes, List.append_assoc]
    exact List.drop_left' rfl
  have long : stub.bytes.length = 16 + (stub.code.length + stub.data.length) := by
    simp [bytes, Bytes.ofUInt32]
    omega
  have entry : stub.bytes.uint32At 0 = stub.entry := Bytes.uint32At_append [] _ stub.entry
  have params : stub.bytes.uint32At 4 = stub.paramsStart :=
    Bytes.uint32At_append (Bytes.ofUInt32 stub.entry) _ stub.paramsStart
  have start : stub.bytes.uint32At 8 = stub.dataStart :=
    Bytes.uint32At_append (Bytes.ofUInt32 stub.entry ++ Bytes.ofUInt32 stub.paramsStart) _ stub.dataStart
  rw [parse_eq_ok_iff, count, rest, entry, params, start, List.take_left, List.drop_left]
  exact ⟨by omega, rfl⟩

end Firmware.Stub

namespace Loader

open Slip.Port

/-- The length in the header of a command is the length of the body modulo 65536. -/
theorem Order.uint16At_frame (order : Order) : (order.frame.uint16At 2).toNat = order.body.length % 65536 := by
  have field : Bytes.slice order.frame 2 2 = Bytes.ofNat 2 order.body.length :=
    Bytes.slice_append [direction, order.op] (Bytes.ofNat 2 order.body.length)
      (Bytes.ofUInt32 order.checksum ++ order.body)
  rw [Bytes.uint16At, field, Bytes.toNat_ofNat]
  exact UInt16.toNat_ofNat_of_lt' (Nat.mod_lt _ (by decide))

theorem bodies_short_iff (stub : Firmware.Stub) (parameter : UInt32) :
    (∀ order ∈ placingOrders stub parameter ++ [launchOrder stub], order.body.length < 65536) ↔
      stub.code.length < 65516 ∧ stub.data.length < 65520 := by
  have segment : ∀ (start : UInt32) (content : Bytes),
      (∀ order ∈ segmentOrders start content, order.body.length < 65536) ↔ content.length < 65520 := by
    intro start content
    simp [segmentOrders, blockHeader, Bytes.ofUInt32]
    omega
  have launch : (launchOrder stub).body.length < 65536 := by
    simp [launchOrder, Bytes.ofUInt32]
  have code : (Bytes.ofUInt32 parameter ++ stub.code).length < 65520 ↔ stub.code.length < 65516 := by
    rw [List.length_append, Bytes.ofUInt32, Bytes.length_ofNat]
    omega
  rw [placingOrders, List.forall_mem_append, List.forall_mem_append, segment, code, List.forall_mem_singleton]
  by_cases none : stub.data = []
  · simp [none, launch]
  · simp [none, launch, segment]

variable {σ : Type} [Peer σ]

def loadingFrames (stub : Firmware.Stub) (parameter : UInt32) (port : Slip.Port σ) :
    List (Except SlipError Bytes) :=
  Slip.decoded ((exchanges
    (port.line.since ((loadStub stub parameter).outcome port).2.line)).map Prod.fst).flatten

theorem loadingFrames_starts (stub : Firmware.Stub) (parameter : UInt32) (port : Slip.Port σ) :
    loadingFrames stub parameter port <+:
        ((placingOrders stub parameter ++ [launchOrder stub]).map Order.frame).map .ok ∧
      (((loadStub stub parameter).outcome port).1 = .ok () →
        loadingFrames stub parameter port =
          ((placingOrders stub parameter ++ [launchOrder stub]).map Order.frame).map .ok) := by
  obtain ⟨events, did, starts, -, succeeds⟩ := loadStub_exchanges stub parameter port
  have taken := List.prefix_iff_eq_take.mp starts
  rw [List.length_map, ← List.map_take] at taken
  rw [loadingFrames, did.since_eq, taken, decoded_packets]
  refine ⟨((List.take_prefix _ _).map _).map _, fun ok => ?_⟩
  rw [(succeeds.mp ok).1, List.take_of_length_le (by rw [List.length_append, List.length_singleton])]

/-- All orders go through if the far side grants everything. -/
theorem giveAll_granted {response : Response} (accepted : response.accepted = true) (orders : List Order)
    {port : Slip.Port (Responder (Slip.encode [response.bytes]))}
    (running : port.line.now + 50 * Line.lastLook commandTimeout ≤ Micros.last) :
    ∃ after, (giveAll orders).outcome port = (.ok (), after) ∧ after.line.now = port.line.now := by
  induction orders generalizing port with
  | nil => exact ⟨port, rfl, rfl⟩
  | cons order rest ih =>
    obtain ⟨reached, ran, now⟩ := command_granted accepted order.op order.body order.checksum running
    obtain ⟨after, others, later⟩ := @ih reached (by rw [now]; exact running)
    rw [giveAll, Action.outcome_bind_ok ran]
    exact ⟨after, others, later.trans now⟩

theorem loadStub_granted {response : Response} (accepted : response.accepted = true) (stub : Firmware.Stub)
    (parameter : UInt32) :
    ∃ port : Slip.Port (Responder (Slip.encode [response.bytes])),
      ((loadStub stub parameter).outcome port).1 = .ok () := by
  have running : (0 + 50 * Line.lastLook commandTimeout : Nat) ≤ Micros.last := by decide
  refine ⟨{ line := { peer := {} } }, ?_⟩
  obtain ⟨placed, ran, now⟩ := @giveAll_granted response accepted (placingOrders stub parameter)
    (Slip.Port.note { line := { peer := {} } } (.loadingStub stub.code.length stub.data.length)) running
  obtain ⟨started, jumped, -⟩ := @command_granted response accepted memEndOp (launchOrder stub).body 0 placed
    (by rw [now]; exact running)
  have ended : (memEnd stub.entry).outcome placed = (.ok (), started) := Action.outcome_bind_ok jumped
  rw [loadStub_eq, Action.outcome_change_bind, Action.outcome_bind_ok ran, launch, Action.outcome_bind,
    Action.outcome_attempt, ended]
  rfl

/-- The length in a command is right exactly for short segments. For a stub from a container that was accepted,
whatever its launch parameter, the header of every command gives the length of the body that follows it, with
any far side, if and only if there are less than 65516 bytes of code and less than 65520 bytes of data; and it
always gives that length modulo 65536. -/
theorem command_lengths_exact_iff {file : Bytes} {stub : Firmware.Stub}
    (parsed : Firmware.Stub.parse file = .ok stub) (parameter : UInt32) :
    ((∀ (σ : Type) [Peer σ] (port : Slip.Port σ) (frame : Bytes),
        .ok frame ∈ loadingFrames stub parameter port →
          (frame.uint16At 2).toNat = (frame.drop 8).length) ↔
      (file.uint32At 12).toNat < 65516 ∧ file.length < 65536 + (file.uint32At 12).toNat) ∧
    ∀ (σ : Type) [Peer σ] (port : Slip.Port σ) (frame : Bytes),
      .ok frame ∈ loadingFrames stub parameter port →
        (frame.uint16At 2).toNat = (frame.drop 8).length % 65536 := by
  obtain ⟨code, whole⟩ := Firmware.Stub.length_of_parse parsed
  have bounds : (file.uint32At 12).toNat < 65516 ∧ file.length < 65536 + (file.uint32At 12).toNat ↔
      stub.code.length < 65516 ∧ stub.data.length < 65520 := by
    rw [← code, whole, Firmware.Stub.headerLength]
    omega
  have ordered : ∀ {σ : Type} [Peer σ] {port : Slip.Port σ} {frame : Bytes},
      .ok frame ∈ loadingFrames stub parameter port →
        ∃ order ∈ placingOrders stub parameter ++ [launchOrder stub], order.frame = frame := by
    intro σ _ port frame member
    obtain ⟨_, inside, same⟩ := List.mem_map.mp ((loadingFrames_starts stub parameter port).1.subset member)
    obtain ⟨order, listed, rfl⟩ := List.mem_map.mp inside
    exact ⟨order, listed, Except.ok.inj same⟩
  rw [bounds, ← bodies_short_iff stub parameter]
  refine ⟨⟨fun exactly order member => ?_, fun short σ _ port frame member => ?_⟩,
    fun σ _ port frame member => ?_⟩
  · -- a far side that grants everything gets all commands, also the one that is too long
    obtain ⟨port, ok⟩ := @loadStub_granted ⟨0, 2, 0, 0, 0⟩ (by decide) stub parameter
    have sent : .ok order.frame ∈ loadingFrames stub parameter port := by
      rw [(loadingFrames_starts stub parameter port).2 ok]
      exact List.mem_map_of_mem (List.mem_map_of_mem member)
    have same := exactly _ port order.frame sent
    rw [order.uint16At_frame, order.drop_frame] at same
    omega
  · obtain ⟨order, own, rfl⟩ := ordered member
    rw [order.uint16At_frame, order.drop_frame, Nat.mod_eq_of_lt (short order own)]
  · obtain ⟨order, -, rfl⟩ := ordered member
    rw [order.uint16At_frame, order.drop_frame]

/-- A stub whose code is one byte too long for the length in its command. -/
def longStub : Firmware.Stub :=
  { entry := 0x40100004, paramsStart := 0x40100000, dataStart := 0x3ffe8000,
    code := List.replicate 65516 0, data := [] }

theorem command_lengths_exact_iff_long :
    Firmware.Stub.parse longStub.bytes = .ok longStub ∧
      ¬∀ (σ : Type) [Peer σ] (port : Slip.Port σ) (frame : Bytes),
        .ok frame ∈ loadingFrames longStub 2000000 port →
          (frame.uint16At 2).toNat = (frame.drop 8).length := by
  have size : longStub.code.length = 65516 := List.length_replicate
  have parsed : Firmware.Stub.parse longStub.bytes = .ok longStub :=
    Firmware.Stub.parse_bytes (List.ne_nil_of_length_pos (by rw [size]; decide)) (by rw [size]; decide)
  refine ⟨parsed, fun exactly => ?_⟩
  obtain ⟨short, -⟩ := (command_lengths_exact_iff parsed 2000000).1.mp exactly
  rw [← (Firmware.Stub.length_of_parse parsed).1, size] at short
  exact absurd short (by decide)

end Loader

end RadioLink
