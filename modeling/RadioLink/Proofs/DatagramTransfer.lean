import RadioLink.Proofs.BlockReading
import RadioLink.Proofs.LiveRun
import RadioLink.Proofs.MessageLayouts
import RadioLink.Proofs.ReadySignal
import RadioLink.Proofs.Reassembly
import RadioLink.Proofs.Sending
import RadioLink.Simulation.Peer

/-!
A datagram from end to end. What the host writes for a datagram is a sequence of frames, and a
dispatcher that takes these frames in order puts the same datagram together again.
-/

namespace RadioLink

def Event.wrote : Event → Bytes
  | done (.write data) => data
  | _ => []

def writtenBytes (events : List Event) : Bytes := events.flatMap Event.wrote

@[simp] theorem writtenBytes_append (first second : List Event) :
    writtenBytes (first ++ second) = writtenBytes first ++ writtenBytes second :=
  List.flatMap_append

theorem writtenBytes_eq_flatten (events : List Event) :
    writtenBytes events = (events.filterMap Event.sent?).flatten := by
  induction events with
  | nil => rfl
  | cons event rest ih =>
    have first : event.wrote = event.sent?.getD [] := by
      cases event with
      | done c => cases c <;> rfl
      | _ => rfl
    rw [writtenBytes, List.flatMap_cons, first, List.filterMap_cons]
    cases event.sent? with
    | none => exact ih
    | some data => exact congrArg (data ++ ·) ih

theorem Idle.writtenBytes_eq {events : List Event} (idle : Idle events) : writtenBytes events = [] := by
  rw [writtenBytes_eq_flatten, idle.filterMap_sent]
  rfl

namespace Transport

variable {σ : Type}

def Sent (messages : List (UInt8 × Bytes)) (before after : Line σ) : Prop :=
  ∃ events, ∃ parcels : List Parcel, Line.Did events before after ∧
    (parcels.map fun parcel => (parcel.dataId, parcel.payload)) = messages ∧
    writtenBytes events = parcels.flatMap Parcel.wire

theorem Sent.append {first second : List (UInt8 × Bytes)} {before middle after : Line σ}
    (early : Sent first before middle) (late : Sent second middle after) :
    Sent (first ++ second) before after := by
  obtain ⟨events, parcels, did, rfl, wrote⟩ := early
  obtain ⟨more, others, next, rfl, writes⟩ := late
  refine ⟨events ++ more, parcels ++ others, did.append next, List.map_append, ?_⟩
  rw [writtenBytes_append, wrote, writes, List.flatMap_append]

variable [Peer σ]

/-- The far side serves messages that are sent one after the other: for each of them it becomes ready
in time, and no call fails. -/
def Serves : Transport σ → List (UInt8 × Bytes) → Prop
  | _, [] => True
  | transport, (dataId, payload) :: rest =>
    transport.line.ComesReady transport.timeout ∧
    Sound (transport.line.since ((sendBlocking dataId payload).outcome transport).2.line) ∧
    Serves ((sendBlocking dataId payload).outcome transport).2 rest

/-- Once the far side is ready, a blocking send is a send whose failure is reported. -/
theorem sendBlocking_of_ready {dataId : UInt8} {payload : Bytes} {transport ready next : Transport σ}
    {result : Except LinkError Unit}
    (await : transport.awaitReady transport.timeout = (true, ready))
    (sent : (send dataId payload).outcome ready = (result, next)) :
    (sendBlocking dataId payload).outcome transport =
      match result with
      | .ok () => (.ok (), next)
      | .error error => (.error .sendFailed, next.note (.sendFailed dataId error)) := by
  have waited : (Action.total fun transport => transport.awaitReady transport.timeout :
      Action LinkError (Transport σ) Bool).outcome transport = (.ok true, ready) := by
    rw [Action.outcome_total, await]
  have tried : (Action.attempt (send dataId payload) :
      Action LinkError (Transport σ) (Except LinkError Unit)).outcome ready = (.ok result, next) := by
    rw [Action.outcome_attempt, sent]
  rw [sendBlocking, Action.outcome_bind_ok waited, if_neg (by decide), Action.outcome_bind_ok tried]
  cases result <;> rfl

/-- A message that the far side serves goes out. -/
theorem sendBlocking_sent {dataId : UInt8} {payload : Bytes} {transport : Transport σ}
    (fits : payload.length ≤ Frame.maxPayload)
    (ready : transport.line.ComesReady transport.timeout)
    (sound : Sound (transport.line.since ((sendBlocking dataId payload).outcome transport).2.line)) :
    ∃ next, (sendBlocking dataId payload).outcome transport = (.ok (), next) ∧
      Sent [(dataId, payload)] transport.line next.line := by
  obtain ⟨line, noise, waited, up, far, did⟩ := ready.awaitReady
  have await : transport.awaitReady transport.timeout = (true, { transport with line }) := by
    change ((transport.line.awaitReady transport.timeout).1,
      { transport with line := (transport.line.awaitReady transport.timeout).2 }) = _
    rw [waited]
  rcases ran : (send dataId payload).outcome ({ transport with line } : Transport σ) with ⟨result, next⟩
  have tries := send_tries dataId payload ({ transport with line } : Transport σ)
  rw [ran] at tries
  obtain ⟨⟨events, episode, -⟩, -⟩ := tries.sends
  have reported : Line.Did [] next.line ((sendBlocking dataId payload).outcome transport).2.line := by
    rw [sendBlocking_of_ready await ran]
    cases result <;> exact .same rfl
  -- a write that fails would be seen on the line
  rw [((did.append episode.did).append reported).since_eq] at sound
  have fine := sound.of_append.1.of_append.2
  rw [← episode.did.since_eq, ← tries.ok_iff_sound fits up] at fine
  obtain rfl := fine
  have waiting : Sent [] transport.line line := ⟨noise, [], did, rfl, far.idle.writtenBytes_eq⟩
  refine ⟨next, sendBlocking_of_ready await ran, waiting.append
    ⟨events, [transport.nextParcel dataId fits], episode.did, rfl, ?_⟩⟩
  rw [writtenBytes_eq_flatten, ← episode.did.since_eq, tries.sent_of_ok fits]
  rfl

end Transport

namespace Datagram

variable {σ : Type} [Peer σ]

def pieceMessage (piece : Bytes) : UInt8 × Bytes := (Message.datagramDataId, piece)

theorem sendPieces_sent {pieces : List Bytes}
    (fits : ∀ piece ∈ pieces, piece.length ≤ Frame.maxPayload) {transport : Transport σ}
    (serves : transport.Serves (pieces.map pieceMessage)) :
    ∃ next, (sendPieces pieces).outcome transport = (.ok (), next) ∧
      Transport.Sent (pieces.map pieceMessage) transport.line next.line := by
  induction pieces generalizing transport with
  | nil => exact ⟨transport, rfl, [], [], .refl _, rfl, rfl⟩
  | cons piece rest ih =>
    obtain ⟨ready, sound, later⟩ := serves
    obtain ⟨middle, first, sent⟩ := Transport.sendBlocking_sent (fits piece List.mem_cons_self) ready sound
    rw [first] at later
    obtain ⟨next, others, more⟩ := ih (fun other member => fits other (List.mem_cons_of_mem _ member)) later
    exact ⟨next, (Action.outcome_bind_ok first).trans others, sent.append more⟩

def messages (datagram : Datagram) : List (UInt8 × Bytes) :=
  (Message.datagramHeaderId, datagram.header.bytes) ::
    (datagram.data.chunks Frame.maxPayload).map pieceMessage

def Served (datagram : Datagram) (transport : Transport σ) : Prop :=
  (transport.note (.datagramSent datagram.header.len datagram.header.localPort datagram.header.addr
    datagram.header.remotePort)).Serves datagram.messages

theorem Served.sent {datagram : Datagram} {transport : Transport σ} (served : datagram.Served transport) :
    ∃ next, datagram.send.outcome transport = (.ok (), next) ∧
      Transport.Sent datagram.messages transport.line next.line := by
  obtain ⟨ready, sound, later⟩ := served
  have small : datagram.header.bytes.length ≤ Frame.maxPayload := by
    rw [Message.DatagramHeader.length_bytes]
    decide
  obtain ⟨middle, first, announced⟩ := Transport.sendBlocking_sent small ready sound
  rw [first] at later
  have fits : ∀ piece ∈ datagram.data.chunks Frame.maxPayload, piece.length ≤ Frame.maxPayload :=
    fun piece member => (Bytes.length_of_mem_pieces (by decide) member).2
  obtain ⟨next, others, sent⟩ := sendPieces_sent fits later
  refine ⟨next, ?_, announced.append sent⟩
  have begun : ((Transport.sendBlocking Message.datagramHeaderId datagram.header.bytes).mapError
      NetworkError.send).outcome (transport.note (.datagramSent datagram.header.len
        datagram.header.localPort datagram.header.addr datagram.header.remotePort)) =
      (.ok (), middle) := by
    rw [Action.outcome_mapError, first]
    rfl
  rw [send, Action.outcome_change_bind, Action.outcome_bind_ok begun, Action.outcome_mapError, others]
  rfl

end Datagram

namespace Frame

def message (frame : Frame) : UInt8 × Bytes := (frame.dataId, frame.payload)

def takeOff? (bytes : Bytes) : Option (Frame × Bytes) := do
  guard (bytes.headD Control.idle = Control.data)
  let length ← completeLength? bytes
  let (header, payload) ← (decode ((bytes.take length).drop 1)).toOption
  return (⟨header, payload⟩, bytes.drop length)

/-- Reads a byte string as frames, at most `count` of them, with nothing left over. -/
def readUpTo : (count : Nat) → Bytes → Option (List Frame)
  | _, [] => some []
  | 0, _ => none
  | count + 1, bytes => do
    let (frame, rest) ← takeOff? bytes
    return frame :: (← readUpTo count rest)

def readAll (bytes : Bytes) : Option (List Frame) := readUpTo bytes.length bytes

theorem takeOff?_wire (parcel : Parcel) (rest : Bytes) :
    takeOff? (parcel.wire ++ rest) = some (parcel.frame, rest) := by
  have own : (parcel.wire ++ rest).take parcel.wire.length = parcel.wire.take parcel.wire.length := by
    rw [List.take_left, List.take_length]
  have control : (parcel.wire ++ rest).headD Control.idle = Control.data := by
    rw [Parcel.wire_eq]
    rfl
  simp only [takeOff?, control, parcel.completeLength?_append, Option.bind_eq_bind, Option.bind_some,
    own, parcel.decode_wire, List.drop_left]
  rfl

theorem readUpTo_wires {count : Nat} {parcels : List Parcel} (enough : parcels.length ≤ count) :
    readUpTo count (parcels.flatMap Parcel.wire) = some (parcels.map Parcel.frame) := by
  induction parcels generalizing count with
  | nil =>
    rw [List.flatMap_nil, readUpTo]
    rfl
  | cons parcel rest ih =>
    obtain ⟨count, rfl⟩ := Nat.exists_eq_succ_of_ne_zero (Nat.ne_zero_of_lt enough)
    rw [List.flatMap_cons, readUpTo, takeOff?_wire]
    · simp only [Option.bind_eq_bind, Option.bind_some, ih (Nat.le_of_succ_le_succ enough)]
      rfl
    · rw [Parcel.wire_eq]
      exact fun none => List.cons_ne_nil _ _ none

/-- Frames that were written one after the other are read back. -/
theorem readAll_wires (parcels : List Parcel) :
    readAll (parcels.flatMap Parcel.wire) = some (parcels.map Parcel.frame) := by
  refine readUpTo_wires ?_
  rw [List.length_flatMap, ← List.length_map (fun parcel : Parcel => parcel.wire.length)]
  refine List.length_le_sum_of_one_le _ fun length member => ?_
  obtain ⟨parcel, _, rfl⟩ := List.mem_map.mp member
  exact parcel.wire_length_pos

end Frame

namespace Desk

def dispatchAll : List (UInt8 × Bytes) → Action DispatchError Desk Unit
  | [] => pure ()
  | (dataId, payload) :: rest => do
    dispatch .alive dataId payload
    dispatchAll rest

theorem dispatchAll_append {front back : List (UInt8 × Bytes)} {desk next : Desk}
    (taken : (dispatchAll front).outcome desk = (.ok (), next)) :
    (dispatchAll (front ++ back)).outcome desk = (dispatchAll back).outcome next := by
  induction front generalizing desk with
  | nil =>
    obtain rfl : desk = next := (Prod.mk.inj taken).2
    rfl
  | cons message rest ih =>
    obtain ⟨_, middle, first, others⟩ := Action.of_outcome_bind_ok taken
    exact (Action.outcome_bind_ok first).trans (ih others)

variable {desk : Desk} {header : Message.DatagramHeader} {bytes payload : Bytes}

@[simp] theorem dispatcher_note (desk : Desk) (notice : Notice) :
    (desk.note notice).dispatcher = desk.dispatcher := rfl

@[simp] theorem isBusy_note (desk : Desk) (notice : Notice) (port : UInt16) :
    (desk.note notice).isBusy port = desk.isBusy port := rfl

theorem outcome_dispatch_header (payload : Bytes) (desk : Desk) :
    (dispatch .alive Message.datagramHeaderId payload).outcome desk =
      (Action.ofExcept (Message.DatagramHeader.decode payload) >>= onHeader).outcome
        (desk.note (.dispatching Message.datagramHeaderId payload.length)) := rfl

theorem outcome_dispatch_piece (payload : Bytes) (desk : Desk) :
    (dispatch .alive Message.datagramDataId payload).outcome desk =
      (onData payload).outcome (desk.note (.dispatching Message.datagramDataId payload.length)) := rfl

/-- An announcement that can be taken opens a new datagram, whatever was under way before. -/
theorem dispatch_announcement (decoded : Message.DatagramHeader.decode payload = .ok header)
    (positive : 0 < header.len.toNat) (small : header.len.toNat ≤ Datagram.maxLength)
    (free : desk.isBusy header.localPort = false) :
    ∃ next, (dispatch .alive Message.datagramHeaderId payload).outcome desk = (.ok (), next) ∧
      next.dispatcher.receiver = ⟨some (.holding header [])⟩ ∧ next.sink = desk.sink := by
  have taken : desk.dispatcher.receiver.onHeader header false =
      (.ok (), ⟨some { header }⟩, desk.dispatcher.receiver.dropped) := by
    rw [Reassembler.onHeader, if_neg (by decide)]
    dsimp only
    rw [if_neg (Nat.ne_of_gt positive), if_neg (Nat.not_lt.mpr small)]
  generalize desk.dispatcher.receiver.dropped = notices at taken
  obtain ⟨log, told⟩ := notes_eq notices (desk.note (.dispatching Message.datagramHeaderId payload.length))
  rw [outcome_dispatch_header, Action.outcome_bind, Action.outcome_ofExcept, decoded]
  dsimp only
  rw [outcome_onHeader, isBusy_note, free, dispatcher_note, taken]
  dsimp only
  rw [told]
  exact ⟨_, rfl, rfl, rfl⟩

/-- A piece that does not complete the datagram is kept. -/
theorem dispatch_short (held : desk.dispatcher.receiver = ⟨some (.holding header bytes)⟩)
    (room : header.len.toNat ≤ Datagram.maxLength)
    (short : (bytes ++ payload).length < header.len.toNat) :
    ∃ next, (dispatch .alive Message.datagramDataId payload).outcome desk = (.ok (), next) ∧
      next.dispatcher.receiver = ⟨some (.holding header (bytes ++ payload))⟩ ∧
      next.sink = desk.sink := by
  have taken := Reassembler.onData_holding room (Nat.le_of_lt short)
  rw [← held, if_pos short] at taken
  rw [outcome_dispatch_piece, Action.outcome, onData]
  simp only [dispatcher_note, taken]
  exact ⟨_, rfl, rfl, rfl⟩

/-- The piece that completes the datagram hands it over. -/
theorem dispatch_last (held : desk.dispatcher.receiver = ⟨some (.holding header bytes)⟩)
    (room : header.len.toNat ≤ Datagram.maxLength)
    (whole : (bytes ++ payload).length = header.len.toNat)
    (valid : crc16 (bytes ++ payload) = header.crc) :
    ∃ next, (dispatch .alive Message.datagramDataId payload).outcome desk = (.ok (), next) ∧
      next.dispatcher.receiver = {} ∧
      next.sink = (desk.deliver (Reassembly.holding header (bytes ++ payload)).datagram).sink := by
  have taken := Reassembler.onData_holding room whole.le
  rw [← held, if_neg (Nat.not_lt.mpr whole.ge), if_neg (not_not.mpr valid)] at taken
  rw [outcome_dispatch_piece, Action.outcome, onData]
  simp only [dispatcher_note, taken]
  exact ⟨_, rfl, rfl, rfl⟩

/-- Pieces that do not complete the datagram are kept, and nothing is delivered. -/
theorem dispatchAll_pieces (room : header.len.toNat ≤ Datagram.maxLength) {pieces : List Bytes}
    (held : desk.dispatcher.receiver = ⟨some (.holding header bytes)⟩)
    (short : (bytes ++ pieces.flatten).length < header.len.toNat) :
    ∃ next, (dispatchAll (pieces.map Datagram.pieceMessage)).outcome desk = (.ok (), next) ∧
      next.dispatcher.receiver = ⟨some (.holding header (bytes ++ pieces.flatten))⟩ ∧
      next.sink = desk.sink := by
  induction pieces generalizing desk bytes with
  | nil => exact ⟨desk, rfl, by rw [held, List.flatten_nil, List.append_nil], rfl⟩
  | cons piece rest ih =>
    rw [List.flatten_cons, ← List.append_assoc] at short ⊢
    have first : (bytes ++ piece).length < header.len.toNat := by
      rw [List.length_append] at short
      omega
    obtain ⟨middle, taken, holds, sink⟩ := dispatch_short held room first
    obtain ⟨next, others, grown, same⟩ := ih holds short
    exact ⟨next, (Action.outcome_bind_ok taken).trans others, grown, same.trans sink⟩

end Desk

namespace Datagram

variable {datagram : Datagram}

theorem toNat_len_header (small : datagram.data.length ≤ maxLength) :
    datagram.header.len.toNat = datagram.data.length := by
  have bound : datagram.data.length < 65536 := Nat.lt_of_le_of_lt small (by decide)
  exact UInt16.toNat_ofNat_of_lt' bound

/-- As long as pieces are missing, everything that has come in is kept and nothing is delivered. -/
theorem dispatchAll_front (small : datagram.data.length ≤ maxLength) {desk : Desk}
    (free : desk.isBusy datagram.localPort = false) {front back : List Bytes}
    (cut : datagram.data.chunks Frame.maxPayload = front ++ back) (missing : back ≠ []) :
    ∃ next, (Desk.dispatchAll ((Message.datagramHeaderId, datagram.header.bytes) ::
        front.map pieceMessage)).outcome desk = (.ok (), next) ∧
      next.dispatcher.receiver = ⟨some (.holding datagram.header front.flatten)⟩ ∧
      next.sink = desk.sink := by
  have announced := toNat_len_header small
  have short : front.flatten.length < datagram.header.len.toNat := by
    rw [announced]
    exact Bytes.length_front_lt (by decide) cut missing
  obtain ⟨opened, taken, holds, sink⟩ := Desk.dispatch_announcement
    datagram.header.decode_bytes (Nat.zero_lt_of_lt short) (announced.trans_le small) free
  obtain ⟨next, others, grown, same⟩ :=
    Desk.dispatchAll_pieces (announced.trans_le small) holds (by rwa [List.nil_append])
  exact ⟨next, (Action.outcome_bind_ok taken).trans others, grown, same.trans sink⟩

/-- The last piece delivers the datagram. -/
theorem dispatchAll_messages (positive : 1 ≤ datagram.data.length)
    (small : datagram.data.length ≤ maxLength) {desk : Desk}
    (free : desk.isBusy datagram.localPort = false) :
    ∃ next, (Desk.dispatchAll datagram.messages).outcome desk = (.ok (), next) ∧
      next.dispatcher.receiver = {} ∧ next.sink = (desk.deliver datagram).sink := by
  have data := Bytes.flatten_chunks (by decide : 0 < Frame.maxPayload) datagram.data
  have some : datagram.data.chunks Frame.maxPayload ≠ [] := by
    intro none
    rw [none] at data
    rw [← data] at positive
    exact absurd positive (by decide)
  obtain ⟨front, last, cut⟩ := (List.eq_nil_or_concat _).resolve_left some
  rw [List.concat_eq_append] at cut
  obtain ⟨middle, taken, holds, sink⟩ := dispatchAll_front small free cut (List.cons_ne_nil _ _)
  have whole : front.flatten ++ last = datagram.data := by
    rw [← data, cut]
    simp
  have announced := toNat_len_header small
  obtain ⟨next, final, rested, delivered⟩ := Desk.dispatch_last holds (announced.trans_le small)
    (by rw [whole, announced]) (by rw [whole]; rfl)
  have parts : datagram.messages = ((Message.datagramHeaderId, datagram.header.bytes) ::
      front.map pieceMessage) ++ [pieceMessage last] := by
    rw [messages, cut, List.map_append]
    rfl
  refine ⟨next, ?_, rested, ?_⟩
  · rw [parts, Desk.dispatchAll_append taken]
    exact Action.outcome_bind_ok final
  · rw [delivered, whole, Desk.deliver, sink]
    rfl

/-- A datagram is sent, and the frames that were written for it, taken in order by any dispatcher that
has room for the datagram, are all accepted. Nothing is delivered before the last frame, and the last
frame delivers the datagram as it was. -/
theorem reassembled_as_sent {σ : Type} [Peer σ] (datagram : Datagram)
    (positive : 1 ≤ datagram.data.length) (small : datagram.data.length ≤ maxLength)
    (transport : Transport σ) (served : datagram.Served transport) (desk : Desk)
    (free : desk.isBusy datagram.localPort = false) :
    ∃ next frames, datagram.send.outcome transport = (.ok (), next) ∧
      Frame.readAll (writtenBytes (transport.line.since next.line)) = some frames ∧
      (∀ front back, frames = front ++ back → back ≠ [] →
        ∃ halfway, (Desk.dispatchAll (front.map Frame.message)).outcome desk = (.ok (), halfway) ∧
          halfway.sink = desk.sink) ∧
      ∃ final, (Desk.dispatchAll (frames.map Frame.message)).outcome desk = (.ok (), final) ∧
        final.dispatcher.receiver = {} ∧ final.sink = (desk.deliver datagram).sink := by
  obtain ⟨next, ran, events, parcels, did, carried, written⟩ := served.sent
  have carries : (parcels.map Parcel.frame).map Frame.message = datagram.messages := by
    rw [List.map_map]
    exact carried
  refine ⟨next, parcels.map Parcel.frame, ran, ?_, ?_, ?_⟩
  · rw [did.since_eq, written, Frame.readAll_wires]
  · intro front back cut missing
    rw [cut, List.map_append] at carries
    rcases front with - | ⟨announcement, pieces⟩
    · exact ⟨desk, rfl, rfl⟩
    obtain ⟨header, others⟩ := List.cons.inj carries
    obtain ⟨early, late, chunks, taken, left⟩ := List.map_eq_append_iff.mp others.symm
    have more : late ≠ [] := by
      rintro rfl
      exact missing (List.map_eq_nil_iff.mp left.symm)
    obtain ⟨halfway, accepted, _, sink⟩ := dispatchAll_front small free chunks more
    refine ⟨halfway, ?_, sink⟩
    rw [List.map_cons, header, ← taken]
    exact accepted
  · rw [carries]
    exact dispatchAll_messages positive small free

/-- A datagram whose data fills one frame and runs over into a second one. -/
def overflowing : Datagram := ⟨6, 9, ⟨10, 0, 0, 1⟩, List.replicate 129 7⟩

/-- The far side is ready for the first frame, and again some time after each frame. -/
def unhurried : Transport Simulation.Script :=
  { line :=
      { peer := { onWrite := [[{ edge := true, delay := 120 }], [{ edge := true, delay := 1000 }]] }
        ready := ⟨true, true⟩ }
    timeout := 1000 }

/-- A dispatcher in the middle of another datagram, and a socket layer without room for port 7. -/
def occupied : Desk :=
  { dispatcher := { receiver := ⟨some (.holding ⟨⟨10, 0, 0, 2⟩, 5, 9, 3, 0⟩ [1, 2])⟩ }
    sink := some { busy := [7] } }

theorem reassembled_as_sent_overflowing :
    ∃ next frames final, overflowing.send.outcome unhurried = (.ok (), next) ∧
      Frame.readAll (writtenBytes (unhurried.line.since next.line)) = some frames ∧
      (Desk.dispatchAll (frames.map Frame.message)).outcome occupied = (.ok (), final) ∧
      final.sink = some { busy := [7], delivered := [overflowing] } := by
  have pieces : overflowing.data.chunks Frame.maxPayload = [List.replicate 128 7, [7]] := by
    decide +kernel
  have served : overflowing.Served unhurried := by
    rw [Served, messages, pieces]
    exact ⟨⟨0, by decide +kernel, rfl⟩, by decide +kernel,
      ⟨3, by decide +kernel, by decide +kernel⟩, by decide +kernel,
      ⟨20, by decide +kernel, by decide +kernel⟩, by decide +kernel, trivial⟩
  obtain ⟨next, frames, ran, read, _, final, taken, _, sink⟩ :=
    reassembled_as_sent overflowing (by decide +kernel) (by decide +kernel) unhurried served occupied rfl
  exact ⟨next, frames, final, ran, read, taken, sink⟩

end Datagram

end RadioLink
