import RadioLink.Proofs.LoaderExchange

/-!
The stub on its way to RAM. It goes as a sequence of orders, each a command that has to be granted before the
next one is given, but for the last one, which may stay without an answer. Read back from the packets, the
orders say where each segment goes, how long it is, what is in it and where to jump.
-/

namespace RadioLink

namespace Bytes

theorem ofNat_eq_ofUInt32 {n : Nat} (small : n < 2 ^ 32) : ofNat 4 n = ofUInt32 (UInt32.ofNat n) := by
  rw [ofUInt32, UInt32.toNat_ofNat_of_lt' small]

end Bytes

namespace Slip

def decoded (stream : Bytes) : List (Except SlipError Bytes) :=
  (Decoder.events { capacity := stream.length } 0 stream).2.map Prod.snd

theorem events_encoded {capacity : Nat} {decoder : Decoder} (between : decoder.Between capacity)
    (position : Nat) {frames : List Bytes}
    (fit : ∀ frame ∈ frames, frame ≠ [] ∧ frame.length ≤ capacity) :
    (decoder.events position (frames.map fun frame => encode [frame]).flatten).2.map Prod.snd =
      frames.map .ok := by
  induction frames generalizing decoder position with
  | nil => rfl
  | cons frame rest ih =>
    obtain ⟨⟨present, room⟩, others⟩ := List.forall_mem_cons.mp fit
    have packet := @Decoder.events_encode capacity decoder between position [frame] (by simpa using room)
    rw [List.flatten_singleton, if_neg present] at packet
    rw [List.map_cons, List.flatten_cons, Decoder.events_append, packet, List.map_append,
      ih (Decoder.between_afterPacket capacity frame) _ others]
    rfl

/-- Packets that are not empty are decoded as they were. -/
theorem decoded_encoded {frames : List Bytes} (present : ∀ frame ∈ frames, frame ≠ []) :
    decoded (frames.map fun frame => encode [frame]).flatten = frames.map .ok := by
  refine events_encoded (Decoder.between_new _) 0 fun frame member => ⟨present frame member, ?_⟩
  have part : encode [frame] ∈ frames.map fun frame => encode [frame] := List.mem_map_of_mem member
  have long := length_encode [frame]
  rw [List.flatten_singleton] at long
  exact (Nat.le_of_add_right_le long).trans (List.sublist_flatten_of_mem part).length_le

end Slip

namespace Loader

open Slip.Port

inductive Request where
  | memBegin (size blocks blockSize offset : Nat)
  | memData (size seq checksum : Nat) (data : Bytes)
  | memEnd (flag entry : Nat)
  deriving DecidableEq, Repr

def Request.ofBody? (op : UInt8) (checksum : Nat) (body : Bytes) : Option Request :=
  let word (i : Nat) := (body.uint32At i).toNat
  if op = 0x05 ∧ checksum = 0 ∧ body.length = 16 then
    some (.memBegin (word 0) (word 4) (word 8) (word 12))
  else if op = 0x07 ∧ 16 ≤ body.length ∧ body.slice 8 8 = List.replicate 8 0 then
    some (.memData (word 0) (word 4) checksum (body.drop 16))
  else if op = 0x06 ∧ checksum = 0 ∧ body.length = 8 then some (.memEnd (word 0) (word 4))
  else none

/-- Reads a command: direction, operation, two bytes of length that do not matter here, checksum and body. -/
def Request.ofFrame? (frame : Bytes) : Option Request :=
  if frame.length < 8 ∨ frame.byteAt 0 ≠ 0x00 then none
  else Request.ofBody? (frame.byteAt 1) (frame.uint32At 4).toNat (frame.drop 8)

def place (start : UInt32) (content : Bytes) : List Request :=
  [.memBegin content.length 1 content.length start.toNat,
    .memData content.length 0 (content.foldr (· ^^^ ·) 0xef).toNat content]

/-- The requests that place a stub and start it: the parameter and the code, the data if there is any, and the
jump. -/
def plan (stub : Firmware.Stub) (parameter : UInt32) : List Request :=
  place stub.paramsStart (Bytes.ofUInt32 parameter ++ stub.code) ++
    (if stub.data = [] then [] else place stub.dataStart stub.data) ++ [.memEnd 0 stub.entry.toNat]

structure Order where
  op : UInt8
  body : Bytes
  checksum : UInt32

namespace Order

def frame (order : Order) : Bytes := commandHeader order.op order.body order.checksum ++ order.body

def packet (order : Order) : Bytes := Loader.packet order.op order.body order.checksum

theorem packet_eq (order : Order) : order.packet = Slip.encode [order.frame] := by
  simp [packet, Loader.packet, Slip.encode, frame]

variable (order : Order)

theorem length_frame : order.frame.length = 8 + order.body.length := by
  simp [frame, commandHeader, Bytes.ofUInt32]
  omega

theorem drop_frame : order.frame.drop 8 = order.body :=
  List.drop_left' (by simp [commandHeader, Bytes.ofUInt32])

theorem ofFrame?_frame :
    Request.ofFrame? order.frame = Request.ofBody? order.op order.checksum.toNat order.body := by
  have checksum : order.frame.uint32At 4 = order.checksum := Bytes.uint32At_append
    ([direction, order.op] ++ Bytes.ofNat 2 order.body.length) order.body order.checksum
  have known : ¬(order.frame.length < 8 ∨ order.frame.byteAt 0 ≠ 0x00) := by
    rw [length_frame, not_or]
    exact ⟨by omega, fun other => other rfl⟩
  rw [Request.ofFrame?, if_neg known, checksum, drop_frame]
  rfl

end Order

theorem map_packet (orders : List Order) :
    orders.map Order.packet = (orders.map Order.frame).map fun frame => Slip.encode [frame] := by
  rw [List.map_map]
  exact List.map_congr_left fun order _ => order.packet_eq

/-- Orders are decoded as they were given. -/
theorem decoded_packets (orders : List Order) :
    Slip.decoded (orders.map Order.packet).flatten = (orders.map Order.frame).map .ok := by
  rw [map_packet]
  refine Slip.decoded_encoded fun frame member => ?_
  obtain ⟨order, -, rfl⟩ := List.mem_map.mp member
  exact List.ne_nil_of_length_pos (by rw [order.length_frame]; omega)

def segmentOrders (start : UInt32) (content : Bytes) : List Order :=
  let size := UInt32.ofNat content.length
  [⟨memBeginOp, [size, 1, size, start].flatMap Bytes.ofUInt32, 0⟩,
    ⟨memDataOp, blockHeader 0 content ++ content, blockChecksum content⟩]

def placingOrders (stub : Firmware.Stub) (parameter : UInt32) : List Order :=
  segmentOrders stub.paramsStart (Bytes.ofUInt32 parameter ++ stub.code) ++
    if stub.data = [] then [] else segmentOrders stub.dataStart stub.data

def launchOrder (stub : Firmware.Stub) : Order := ⟨memEndOp, List.replicate 4 0 ++ Bytes.ofUInt32 stub.entry, 0⟩

theorem blockChecksum_eq (data : Bytes) :
    (blockChecksum data).toNat = (data.foldr (· ^^^ ·) 0xef).toNat := by
  rw [blockChecksum, UInt8.toNat_toUInt32, List.foldl_eq_foldr]
  rfl

theorem ofBody?_memBegin (size blocks blockSize offset : UInt32) :
    Request.ofBody? memBeginOp 0 ([size, blocks, blockSize, offset].flatMap Bytes.ofUInt32) =
      some (.memBegin size.toNat blocks.toNat blockSize.toNat offset.toNat) := by
  dsimp only [Request.ofBody?]
  rw [if_pos ⟨rfl, rfl, rfl⟩]
  congr 3
  · exact Bytes.uint32At_append [] _ size
  · exact Bytes.uint32At_append (Bytes.ofUInt32 size) _ blocks
  · exact Bytes.uint32At_append (Bytes.ofUInt32 size ++ Bytes.ofUInt32 blocks) _ blockSize
  · exact Bytes.uint32At_append (Bytes.ofUInt32 size ++ Bytes.ofUInt32 blocks ++ Bytes.ofUInt32 blockSize)
      [] offset

theorem ofBody?_memData (checksum : Nat) {content : Bytes} (small : content.length < 2 ^ 32) :
    Request.ofBody? memDataOp checksum (blockHeader 0 content ++ content) =
      some (.memData content.length 0 checksum content) := by
  have size : (Bytes.uint32At (blockHeader 0 content ++ content) 0).toNat = content.length := by
    have field := Bytes.uint32At_append [] (Bytes.ofUInt32 0 ++ List.replicate 8 0 ++ content)
      (UInt32.ofNat content.length)
    rw [← Bytes.ofNat_eq_ofUInt32 small] at field
    exact (congrArg UInt32.toNat field).trans (UInt32.toNat_ofNat_of_lt' small)
  have seq : Bytes.uint32At (blockHeader 0 content ++ content) 4 = 0 :=
    Bytes.uint32At_append (Bytes.ofNat 4 content.length) (List.replicate 8 0 ++ content) 0
  have reserved : Bytes.slice (blockHeader 0 content ++ content) 8 8 = List.replicate 8 0 :=
    Bytes.slice_append (Bytes.ofNat 4 content.length ++ Bytes.ofUInt32 0) (List.replicate 8 0) content
  have data : (blockHeader 0 content ++ content).drop 16 = content := List.drop_left' rfl
  have long : 16 ≤ (blockHeader 0 content ++ content).length := by
    rw [List.length_append]
    exact Nat.le_add_right 16 _
  dsimp only [Request.ofBody?]
  rw [if_neg (by simp [memDataOp]), if_pos ⟨rfl, long, reserved⟩, size, seq, data]
  rfl

theorem ofBody?_memEnd (entry : UInt32) :
    Request.ofBody? memEndOp 0 (List.replicate 4 0 ++ Bytes.ofUInt32 entry) =
      some (.memEnd 0 entry.toNat) := by
  have jump : Bytes.uint32At (List.replicate 4 0 ++ Bytes.ofUInt32 entry) 4 = entry :=
    Bytes.uint32At_append (List.replicate 4 0) [] entry
  dsimp only [Request.ofBody?]
  rw [if_neg (by simp [memEndOp]), if_neg (by simp [memEndOp]), if_pos ⟨rfl, rfl, rfl⟩, jump]
  rfl

theorem ofFrame?_segmentOrders (start : UInt32) {content : Bytes} (small : content.length < 2 ^ 32) :
    (segmentOrders start content).map (fun order => Request.ofFrame? order.frame) =
      (place start content).map some := by
  have size : (UInt32.ofNat content.length).toNat = content.length := UInt32.toNat_ofNat_of_lt' small
  simp only [segmentOrders, place, List.map_cons, List.map_nil, Order.ofFrame?_frame]
  rw [ofBody?_memData _ small, blockChecksum_eq]
  have begins := ofBody?_memBegin (UInt32.ofNat content.length) 1 (UInt32.ofNat content.length) start
  rw [size] at begins
  exact congrArg (· :: _) begins

theorem ofFrame?_launchOrder (stub : Firmware.Stub) :
    Request.ofFrame? (launchOrder stub).frame = some (.memEnd 0 stub.entry.toNat) :=
  (launchOrder stub).ofFrame?_frame.trans (ofBody?_memEnd stub.entry)

/-- How a sequence of orders goes: each is granted before the next one is given. -/
inductive Given : List Order → List Event → Except ProvisionError Unit → Prop where
  | done : Given [] [] (.ok ())
  | next {order : Order} {orders : List Order} {events later : List Event} {response : Response}
      {result : Except ProvisionError Unit}
      (granted : Commanded order.op order.packet events (.ok response)) (rest : Given orders later result) :
      Given (order :: orders) (events ++ later) result
  | stopped {order : Order} {orders : List Order} {events : List Event} {error : ProvisionError}
      (failed : Commanded order.op order.packet events (.error error)) :
      Given (order :: orders) events (.error error)

namespace Given

variable {orders : List Order} {events : List Event} {result : Except ProvisionError Unit}

theorem head_discards (given : Given orders events result) :
    ∀ event ∈ events.head?, event.discards = true := by
  cases given with
  | done => simp
  | next granted => exact granted.head_discards _
  | stopped failed =>
    have drops := failed.head_discards []
    rwa [List.append_nil] at drops

/-- What is written are the first packets of the orders, and all but the last one have been granted. -/
theorem exchanges_starts (given : Given orders events result) :
    (exchanges events).map Prod.fst <+: orders.map Order.packet ∧
      ∀ exchange ∈ (exchanges events).dropLast, (confirmation exchange.2).isSome := by
  induction given with
  | done => exact ⟨List.nil_prefix, by simp [exchanges]⟩
  | @next order orders events later response result granted rest ih =>
    obtain ⟨heard, own, confirmed⟩ := (granted.ok_iff response).mp rfl
    rw [exchanges_append events rest.head_discards, own, List.singleton_append]
    refine ⟨List.prefix_cons_inj _ |>.mpr ih.1, fun exchange member => ?_⟩
    rcases none : exchanges later with - | ⟨first, others⟩
    · rw [none] at member
      cases member
    · rw [none, List.dropLast_cons_cons] at member
      rw [none] at ih
      rcases List.mem_cons.mp member with rfl | member
      · simp [confirmed]
      · exact ih.2 exchange member
  | stopped failed =>
    rcases failed.exchanges_eq with none | ⟨heard, own⟩
    · rw [none]
      exact ⟨List.nil_prefix, by simp⟩
    · rw [own]
      exact ⟨⟨_, rfl⟩, by simp⟩

/-- Orders that all went through have all been written and granted. -/
theorem granted (given : Given orders events (.ok ())) :
    (exchanges events).map Prod.fst = orders.map Order.packet ∧
      (∀ exchange ∈ exchanges events, (confirmation exchange.2).isSome) ∧ Sound events := by
  generalize through : Except.ok () = result at given
  induction given with
  | done => exact ⟨rfl, by simp [exchanges], by simp [Sound]⟩
  | @next order orders events later response result granted rest ih =>
    obtain ⟨heard, own, confirmed⟩ := (granted.ok_iff response).mp rfl
    obtain ⟨all, others, sound⟩ := ih through
    rw [exchanges_append events rest.head_discards, own, List.singleton_append]
    exact ⟨congrArg (order.packet :: ·) all, List.forall_mem_cons.mpr ⟨by simp [confirmed], others⟩,
      granted.sound_of_ok.append sound⟩
  | stopped => cases through

end Given

variable {σ : Type} [Peer σ]

def giveAll : List Order → Step σ Unit
  | [] => pure ()
  | order :: rest => command order.op order.body order.checksum >>= fun _ => giveAll rest

theorem giveAll_given (orders : List Order) (port : Slip.Port σ) :
    ∃ events, Line.Did events port.line ((giveAll orders).outcome port).2.line ∧
      Given orders events ((giveAll orders).outcome port).1 := by
  induction orders generalizing port with
  | nil => exact ⟨[], .refl _, .done⟩
  | cons order rest ih =>
    obtain ⟨events, did, commanded⟩ := command_commanded order.op order.body order.checksum port
    rw [giveAll, Action.outcome_bind]
    generalize (command order.op order.body order.checksum).outcome port = run at did commanded ⊢
    obtain ⟨result, reached⟩ := run
    cases result with
    | error error => exact ⟨events, did, .stopped commanded⟩
    | ok response =>
      obtain ⟨later, more, given⟩ := ih reached
      exact ⟨_, did.append more, .next commanded given⟩

theorem giveAll_append (first second : List Order) :
    (giveAll (first ++ second) : Step σ Unit) = giveAll first >>= fun _ => giveAll second := by
  induction first with
  | nil => simp [giveAll]
  | cons order rest ih => simp [giveAll, ih]

theorem loadSegment_eq (start : UInt32) (content : Bytes) :
    (loadSegment start content : Step σ Unit) = giveAll (segmentOrders start content) := by
  simp [loadSegment, memBegin, memData, segmentOrders, giveAll]

/-- The last order, which may stay without an answer. -/
def launch (stub : Firmware.Stub) : Step σ Unit := do
  match ← Action.attempt (memEnd stub.entry) with
  | .ok () | .error (.responseTimeout _) => pure ()
  | .error error => throw error

theorem loadStub_eq (stub : Firmware.Stub) (parameter : UInt32) :
    (loadStub stub parameter : Step σ Unit) =
      Action.change (Slip.Port.note · (.loadingStub stub.code.length stub.data.length)) >>= fun _ =>
        giveAll (placingOrders stub parameter) >>= fun _ => launch stub := by
  by_cases none : stub.data = []
  · have orders : placingOrders stub parameter =
        segmentOrders stub.paramsStart (Bytes.ofUInt32 parameter ++ stub.code) := by
      rw [placingOrders, if_pos none, List.append_nil]
    rw [loadStub, orders, ← loadSegment_eq, if_neg (not_not.mpr none)]
    rfl
  · rw [loadStub, placingOrders, if_neg none, giveAll_append, ← loadSegment_eq, ← loadSegment_eq, if_pos none]
    simp only [bind_assoc]
    rfl

theorem launch_cases (stub : Firmware.Stub) (port : Slip.Port σ) :
    ∃ events result, Line.Did events port.line ((launch stub).outcome port).2.line ∧
      Commanded memEndOp (launchOrder stub).packet events result ∧
      (((launch stub).outcome port).1 = .ok () ↔
        (∃ response, result = .ok response) ∨ ∃ late, result = .error (.responseTimeout late)) := by
  obtain ⟨events, did, commanded⟩ := command_commanded memEndOp (launchOrder stub).body 0 port
  have ended : (memEnd stub.entry : Step σ Unit) =
      command memEndOp (launchOrder stub).body 0 >>= fun _ => pure () := rfl
  rw [launch, Action.outcome_bind, Action.outcome_attempt, ended, Action.outcome_bind]
  generalize (command memEndOp (launchOrder stub).body 0).outcome port = run at did commanded ⊢
  obtain ⟨result, reached⟩ := run
  refine ⟨events, result, ?_, commanded, ?_⟩
  · rcases result with error | response
    · cases error <;> exact did
    · exact did
  · rcases result with error | response
    · cases error <;> simp
    · simp

/-- The last order is fine exactly if it was written and then granted, or nothing was heard. -/
theorem launch_exchanges (stub : Firmware.Stub) (port : Slip.Port σ) :
    ∃ events, Line.Did events port.line ((launch stub).outcome port).2.line ∧
      (∀ event ∈ events.head?, event.discards = true) ∧
      ((exchanges events = [] ∧ ((launch stub).outcome port).1 ≠ .ok ()) ∨
        ∃ heard, exchanges events = [((launchOrder stub).packet, heard)] ∧
          (((launch stub).outcome port).1 = .ok () ↔
            Sound events ∧ ((confirmation heard).isSome ∨ firstReport? answerRoom heard = none))) := by
  obtain ⟨events, result, did, commanded, launched⟩ := launch_cases stub port
  refine ⟨events, did, by simpa using commanded.head_discards [], ?_⟩
  rw [exists_congr commanded.ok_iff, commanded.timeout_iff] at launched
  rcases commanded.exchanges_eq with none | ⟨heard, own⟩
  · refine .inl ⟨none, fun ok => ?_⟩
    simpa [none] using launched.mp ok
  · refine .inr ⟨heard, own, launched.trans ?_⟩
    constructor
    · rintro (⟨response, _, same, grants⟩ | ⟨quiet, _, same, silent⟩)
      · have through := (commanded.ok_iff response).mpr ⟨_, same, grants⟩
        subst through
        cases own.symm.trans same
        exact ⟨commanded.sound_of_ok, .inl (by simp [grants])⟩
      · cases own.symm.trans same
        exact ⟨quiet, .inr silent⟩
    · rintro ⟨quiet, grants | silent⟩
      · obtain ⟨response, grants⟩ := Option.isSome_iff_exists.mp grants
        exact .inl ⟨response, heard, own, grants⟩
      · exact .inr ⟨quiet, heard, own, silent⟩

/-- All orders of a stub, in the words of the plan. -/
theorem ofFrame?_orders {stub : Firmware.Stub} (parameter : UInt32)
    (code : 4 + stub.code.length < 2 ^ 32) (data : stub.data.length < 2 ^ 32) :
    (placingOrders stub parameter ++ [launchOrder stub]).map (fun order => Request.ofFrame? order.frame) =
      (plan stub parameter).map some := by
  have long : (Bytes.ofUInt32 parameter ++ stub.code).length < 2 ^ 32 := by
    rw [List.length_append, Bytes.ofUInt32, Bytes.length_ofNat]
    exact code
  simp only [placingOrders, plan, List.map_append, List.map_cons, List.map_nil, ofFrame?_launchOrder,
    ofFrame?_segmentOrders stub.paramsStart long]
  by_cases none : stub.data = []
  · simp [none]
  · simp only [if_neg none, ofFrame?_segmentOrders stub.dataStart data]

/-- What is written are the first packets of the orders, each after the one before was granted. All is well if
all of them have been written and the last one, too, was granted or nothing was heard after it. -/
theorem loadStub_exchanges (stub : Firmware.Stub) (parameter : UInt32) (port : Slip.Port σ) :
    ∃ events, Line.Did events port.line ((loadStub stub parameter).outcome port).2.line ∧
      (exchanges events).map Prod.fst <+:
        (placingOrders stub parameter ++ [launchOrder stub]).map Order.packet ∧
      (∀ exchange ∈ (exchanges events).dropLast, (confirmation exchange.2).isSome) ∧
      (((loadStub stub parameter).outcome port).1 = .ok () ↔
        (exchanges events).length = (placingOrders stub parameter).length + 1 ∧ Sound events ∧
          ∀ last ∈ (exchanges events).getLast?,
            (confirmation last.2).isSome ∨ firstReport? answerRoom last.2 = none) := by
  rw [loadStub_eq, Action.outcome_change_bind, Action.outcome_bind]
  obtain ⟨events, did, given⟩ := giveAll_given (placingOrders stub parameter)
    (port.note (.loadingStub stub.code.length stub.data.length))
  generalize (giveAll (placingOrders stub parameter)).outcome
    (port.note (.loadingStub stub.code.length stub.data.length)) = run at did given ⊢
  obtain ⟨error | ⟨⟩, reached⟩ := run
  · obtain ⟨starts, confirmed⟩ := given.exchanges_starts
    -- at least the last order was not given, so it cannot look complete
    have fewer := starts.length_le
    rw [List.length_map, List.length_map] at fewer
    rw [List.map_append]
    exact ⟨events, did, starts.trans (List.prefix_append _ _), confirmed,
      iff_of_false (by simp) fun complete => by omega⟩
  obtain ⟨all, confirmed, sound⟩ := given.granted
  obtain ⟨later, more, drops, last⟩ := launch_exchanges stub reached
  have count := congrArg List.length all
  rw [List.length_map, List.length_map] at count
  refine ⟨events ++ later, did.append more, ?_⟩
  rw [exchanges_append events drops, List.map_append, List.map_append, all]
  rcases last with ⟨none, failed⟩ | ⟨heard, own, launched⟩
  · rw [none, List.append_nil]
    exact ⟨by simp, fun exchange member => confirmed exchange (List.mem_of_mem_dropLast member),
      iff_of_false failed fun complete => by omega⟩
  · rw [own, List.dropLast_concat, List.getLast?_concat, List.length_append, count]
    refine ⟨by simp, confirmed, launched.trans ?_⟩
    constructor
    · rintro ⟨quiet, settled⟩
      exact ⟨rfl, sound.append quiet, by simpa using settled⟩
    · rintro ⟨-, quiet, settled⟩
      exact ⟨(List.forall_mem_append.mp quiet).2, settled _ rfl⟩

/-- A stub is placed as planned. The packets that are written decode to the first requests of the plan, and to
all of them when the operation succeeds. Each one but the last that was written has been granted by the loader.
The operation succeeds exactly if all were written, no call or read failed, and the last one was granted, too, or
nothing at all was heard after it. -/
theorem stub_placed_in_order (stub : Firmware.Stub) (parameter : UInt32)
    (code : 4 + stub.code.length < 2 ^ 32) (data : stub.data.length < 2 ^ 32) (port : Slip.Port σ) :
    ∃ (events : List Event) (frames : List Bytes),
      Line.Did events port.line ((loadStub stub parameter).outcome port).2.line ∧
      (exchanges events).map Prod.fst = frames.map (fun frame => Slip.encode [frame]) ∧
      Slip.decoded ((exchanges events).map Prod.fst).flatten = frames.map .ok ∧
      frames.map Request.ofFrame? <+: (plan stub parameter).map some ∧
      (∀ exchange ∈ (exchanges events).dropLast, (confirmation exchange.2).isSome) ∧
      (((loadStub stub parameter).outcome port).1 = .ok () →
        frames.map Request.ofFrame? = (plan stub parameter).map some) ∧
      (((loadStub stub parameter).outcome port).1 = .ok () ↔
        frames.length = (plan stub parameter).length ∧ Sound events ∧
          ∀ last ∈ (exchanges events).getLast?,
            (confirmation last.2).isSome ∨ firstReport? answerRoom last.2 = none) := by
  obtain ⟨events, did, starts, confirmed, succeeds⟩ := loadStub_exchanges stub parameter port
  have planned := ofFrame?_orders parameter code data
  have orders := congrArg List.length planned
  rw [List.length_map, List.length_map, List.length_append, List.length_singleton] at orders
  generalize placingOrders stub parameter ++ [launchOrder stub] = all at starts planned
  have taken := List.prefix_iff_eq_take.mp starts
  rw [List.length_map, ← List.map_take] at taken
  have requests : ((all.take (exchanges events).length).map Order.frame).map Request.ofFrame? =
      ((plan stub parameter).map some).take (exchanges events).length := by
    rw [List.map_map, ← planned, List.map_take]
    rfl
  have count := congrArg List.length taken
  rw [List.length_map, List.length_map] at count
  rw [orders] at succeeds
  refine ⟨events, (all.take (exchanges events).length).map Order.frame, did, taken.trans (map_packet _), ?_, ?_,
    confirmed, ?_, ?_⟩
  · rw [taken]
    exact decoded_packets _
  · rw [requests]
    exact List.take_prefix _ _
  · intro ok
    rw [requests, (succeeds.mp ok).1, List.take_of_length_le (by rw [List.length_map])]
  · rw [List.length_map, ← count]
    exact succeeds

/-- A stub with the two bytes in its code that are escaped in a packet. -/
def smallStub : Firmware.Stub :=
  { entry := 0x40100004, paramsStart := 0x40100000, dataStart := 0x3ffe8000, code := [0xc0, 0xdb], data := [7] }

/-- The loader grants four commands and then says nothing more. -/
def jumpingPort : Slip.Port Simulation.Script :=
  { line :=
      { peer :=
          { onWrite := [memBeginOp, memDataOp, memBeginOp, memDataOp].map fun op =>
              [{ bytes := Slip.encode [(⟨op, 2, 0, 0, 0⟩ : Response).bytes] }] } } }

theorem stub_placed_in_order_jumping :
    ((loadStub smallStub 2000000).outcome jumpingPort).1 = .ok () ∧
    ∃ (events : List Event) (frames : List Bytes),
      Line.Did events jumpingPort.line ((loadStub smallStub 2000000).outcome jumpingPort).2.line ∧
      Slip.decoded ((exchanges events).map Prod.fst).flatten = frames.map .ok ∧
      frames.map Request.ofFrame? =
        [some (.memBegin 6 1 6 0x40100000), some (.memData 6 0 0xee [0x80, 0x84, 0x1e, 0, 0xc0, 0xdb]),
          some (.memBegin 1 1 1 0x3ffe8000), some (.memData 1 0 0xe8 [7]), some (.memEnd 0 0x40100004)] := by
  have ok : ((loadStub smallStub 2000000).outcome jumpingPort).1 = .ok () := by decide +kernel
  obtain ⟨events, frames, did, -, decodes, -, -, complete, -⟩ :=
    stub_placed_in_order smallStub 2000000 (by decide) (by decide) jumpingPort
  exact ⟨ok, events, frames, did, decodes, (complete ok).trans (by decide)⟩

end Loader

end RadioLink
