import RadioLink.Dispatcher
import RadioLink.Proofs.Actions
import RadioLink.Proofs.MessageLayouts

/-!
What a message changes. Each type of message has its own target, and a message that is accepted leaves
everything else alone. One that is refused changes nothing but the datagram under way, and not even that if
it is refused for the state of the link, its length or its type.
-/

namespace RadioLink

namespace Message

def length? (dataId : UInt8) : Option Nat :=
  if dataId = statusId then some Status.length
  else if dataId = infoId then some Info.length
  else if dataId = debugId then some Debug.length
  else if dataId = datagramHeaderId then some DatagramHeader.length
  else none

theorem length?_eq_none_iff (dataId : UInt8) : length? dataId = none ↔
    dataId ≠ statusId ∧ dataId ≠ infoId ∧ dataId ≠ debugId ∧ dataId ≠ datagramHeaderId := by
  unfold length?
  split_ifs <;> simp_all

theorem ofLength_cases {α : Type} (dataId : UInt8) (expected : Nat) (payload : Bytes) (value : α) :
    (payload.length = expected ∧ ofLength dataId expected payload value = .ok value) ∨
      (payload.length ≠ expected ∧ ofLength dataId expected payload value =
        .error (.lengthMismatch dataId expected payload.length)) := by
  unfold ofLength
  split
  next fits => exact .inl ⟨fits, rfl⟩
  next misfit => exact .inr ⟨misfit, rfl⟩

end Message

def Sink.take (sink : Sink) (datagrams : List Datagram) : Sink :=
  { sink with delivered := datagrams ++ sink.delivered }

/-- The configuration after an INFO message: the network identity is written in any case, the device number
if it is new. -/
def ConfigStore.identified (store : ConfigStore) (info : Message.Info) : ConfigStore :=
  { config :=
      { store.config with
        deviceId := info.deviceId
        ip := info.ip
        subnet := info.subnet
        dns := info.dns }
    writes := .network info.ip info.subnet info.dns ::
      ((if store.config.deviceId = info.deviceId then [] else [.deviceId info.deviceId]) ++ store.writes) }

def DispatchError.ofDatagram : DispatchError → Bool
  | .notAlive | .lengthMismatch _ _ _ | .unknownType _ => false
  | _ => true

namespace Desk

/-- What a frame can do; what the log says afterwards is left open. -/
inductive Takes (desk : Desk) (state : LinkState) (dataId : UInt8) (payload : Bytes) :
    Except DispatchError Unit × Desk → Prop where
  | asleep (dead : state ≠ .alive) : Takes desk state dataId payload (.error .notAlive, desk)
  | misfit {expected : Nat} {log : Log} (alive : state = .alive)
      (known : Message.length? dataId = some expected) (length : payload.length ≠ expected) :
      Takes desk state dataId payload
        (.error (.lengthMismatch dataId expected payload.length), { desk with log })
  | status {log : Log} (alive : state = .alive) (id : dataId = Message.statusId)
      (length : payload.length = 1) :
      Takes desk state dataId payload
        (.ok (), { desk with telemetry := { desk.telemetry with statusFlags := payload.byteAt 0 }, log })
  | info {info : Message.Info} {log : Log} (alive : state = .alive) (id : dataId = Message.infoId)
      (decoded : Message.Info.decode payload = .ok info) :
      Takes desk state dataId payload
        (.ok (), { desk with
          telemetry := desk.telemetry.withInfo info, store := desk.store.identified info, log })
  | debug {log : Log} (alive : state = .alive) (id : dataId = Message.debugId)
      (length : payload.length = 2) :
      Takes desk state dataId payload
        (.ok (), { desk with telemetry := { desk.telemetry with freeHeap := payload.uint16At 0 }, log })
  | announced {header : Message.DatagramHeader} {log : Log} (alive : state = .alive)
      (id : dataId = Message.datagramHeaderId)
      (decoded : Message.DatagramHeader.decode payload = .ok header)
      (positive : 0 < header.len.toNat) (small : header.len.toNat ≤ Datagram.maxLength) :
      Takes desk state dataId payload
        (.ok (), { desk with dispatcher := { desk.dispatcher with receiver := ⟨some { header }⟩ }, log })
  | busy {port : UInt16} {log : Log} (alive : state = .alive) (id : dataId = Message.datagramHeaderId) :
      Takes desk state dataId payload (.error (.portBusy port), { desk with log })
  | barred {error : DispatchError} {log : Log} (alive : state = .alive)
      (id : dataId = Message.datagramHeaderId) (own : error.ofDatagram = true) :
      Takes desk state dataId payload
        (.error error, { desk with dispatcher := { desk.dispatcher with receiver := {} }, log })
  | piece {datagram? : Option Datagram} {receiver : Reassembler} {sink : Option Sink} {log : Log}
      (alive : state = .alive) (id : dataId = Message.datagramDataId)
      (taken : desk.dispatcher.receiver.onData payload = (.ok datagram?, receiver))
      (given : sink = desk.sink.map (·.take datagram?.toList)) :
      Takes desk state dataId payload
        (.ok (), { desk with dispatcher := { desk.dispatcher with receiver }, sink, log })
  | spoilt {error : DispatchError} {receiver : Reassembler} {log : Log} (alive : state = .alive)
      (id : dataId = Message.datagramDataId)
      (taken : desk.dispatcher.receiver.onData payload = (.error error, receiver))
      (own : error.ofDatagram = true) :
      Takes desk state dataId payload
        (.error error, { desk with dispatcher := { desk.dispatcher with receiver }, log })
  | handled {handler : Nat} {log : Log} (alive : state = .alive) (other : Message.length? dataId = none)
      (noPiece : dataId ≠ Message.datagramDataId) (registered : desk.dispatcher.handler = some handler) :
      Takes desk state dataId payload
        (.ok (), { desk with handled := ⟨handler, dataId, payload⟩ :: desk.handled, log })
  | unknown {log : Log} (alive : state = .alive) (other : Message.length? dataId = none)
      (noPiece : dataId ≠ Message.datagramDataId) (missing : desk.dispatcher.handler = none) :
      Takes desk state dataId payload (.error (.unknownType dataId), { desk with log })

variable {desk : Desk} {state : LinkState} {dataId : UInt8} {payload : Bytes}

/-- The frame is noted first. -/
theorem Takes.of_note {notice : Notice} {outcome : Except DispatchError Unit × Desk}
    (takes : Takes (desk.note notice) .alive dataId payload outcome) :
    Takes desk .alive dataId payload outcome := by
  cases takes with
  | asleep dead => exact absurd rfl dead
  | misfit _ known length => exact .misfit rfl known length
  | status _ id length => exact .status rfl id length
  | info _ id decoded => exact .info rfl id decoded
  | debug _ id length => exact .debug rfl id length
  | announced _ id decoded positive small => exact .announced rfl id decoded positive small
  | busy _ id => exact .busy rfl id
  | barred _ id own => exact .barred rfl id own
  | piece _ id taken given => exact .piece rfl id taken given
  | spoilt _ id taken own => exact .spoilt rfl id taken own
  | handled _ other noPiece registered => exact .handled rfl other noPiece registered
  | unknown _ other noPiece missing => exact .unknown rfl other noPiece missing

theorem applyStatus_eq (desk : Desk) (status : Message.Status) :
    ∃ log, desk.applyStatus status =
      { desk with telemetry := { desk.telemetry with statusFlags := status.flags }, log } := by
  unfold applyStatus
  dsimp only
  split <;> exact ⟨_, rfl⟩

theorem applyInfo_eq (desk : Desk) (info : Message.Info) :
    ∃ log, desk.applyInfo info =
      { desk with telemetry := desk.telemetry.withInfo info, store := desk.store.identified info, log } := by
  unfold applyInfo ConfigStore.identified
  dsimp only
  split
  next new => exact ⟨_, rfl⟩
  next known =>
    have same : desk.store.config.deviceId = info.deviceId := not_not.mp known
    rw [if_pos same, ← same]
    exact ⟨_, rfl⟩

theorem notes_eq (notices : List Notice) (desk : Desk) :
    ∃ log, notices.foldl note desk = { desk with log } := by
  induction notices generalizing desk with
  | nil => exact ⟨_, rfl⟩
  | cons notice rest ih =>
    obtain ⟨log, told⟩ := ih (desk.note notice)
    exact ⟨log, told⟩

theorem outcome_onHeader (header : Message.DatagramHeader) (desk : Desk) :
    (onHeader header).outcome desk =
      ((desk.dispatcher.receiver.onHeader header (desk.isBusy header.localPort)).1,
        ((desk.dispatcher.receiver.onHeader header (desk.isBusy header.localPort)).2.2.foldl note
          desk).setReceiver
          (desk.dispatcher.receiver.onHeader header (desk.isBusy header.localPort)).2.1) := by
  unfold Action.outcome onHeader
  rcases desk.dispatcher.receiver.onHeader header (desk.isBusy header.localPort) with
    ⟨result, receiver, notices⟩
  cases result <;> rfl

theorem takes_onHeader {header : Message.DatagramHeader}
    (decoded : Message.DatagramHeader.decode payload = .ok header) (desk : Desk) :
    Takes desk .alive Message.datagramHeaderId payload ((onHeader header).outcome desk) := by
  obtain ⟨log, told⟩ := notes_eq desk.dispatcher.receiver.dropped desk
  rw [outcome_onHeader]
  unfold Reassembler.onHeader
  split
  · exact .busy rfl rfl
  dsimp only
  split
  · dsimp only
    rw [told]
    exact .barred rfl rfl rfl
  next positive =>
    split
    · dsimp only
      rw [told]
      exact .barred rfl rfl rfl
    next small =>
      dsimp only
      rw [told]
      exact .announced rfl rfl decoded (Nat.pos_of_ne_zero positive) (Nat.not_lt.mp small)

theorem ofDatagram_onData {receiver : Reassembler} {error : DispatchError}
    (failed : (receiver.onData payload).1 = .error error) : error.ofDatagram = true := by
  unfold Reassembler.onData at failed
  split at failed
  · cases failed
    rfl
  dsimp only at failed
  split at failed
  · cases failed
    rfl
  split at failed
  · cases failed
  split at failed
  · cases failed
    rfl
  · cases failed

theorem takes_piece (payload : Bytes) (desk : Desk) :
    Takes desk .alive Message.datagramDataId payload ((onData payload).outcome desk) := by
  dsimp only [Action.outcome, onData]
  rcases taken : desk.dispatcher.receiver.onData payload with ⟨error | _ | datagram, receiver⟩
  · exact .spoilt rfl rfl taken (ofDatagram_onData (congrArg Prod.fst taken))
  · exact .piece rfl rfl taken Option.map_id'.symm
  · exact .piece rfl rfl taken rfl

theorem takes_handle (other : Message.length? dataId = none) (noPiece : dataId ≠ Message.datagramDataId)
    (desk : Desk) : Takes desk .alive dataId payload ((handle dataId payload).outcome desk) := by
  rcases handler : desk.dispatcher.handler with - | handler
  · simp only [Action.outcome, handle, handler]
    exact .unknown rfl other noPiece handler
  · simp only [Action.outcome, handle, handler]
    exact .handled rfl other noPiece handler

/-- A message of fixed length that has another length changes nothing; otherwise it is up to what is done
with its content. -/
theorem takes_ofLength {α : Type} {expected : Nat} {value : α} {next : α → Action DispatchError Desk Unit}
    (known : Message.length? dataId = some expected)
    (rest : payload.length = expected → Takes desk .alive dataId payload ((next value).outcome desk)) :
    Takes desk .alive dataId payload
      ((Action.ofExcept (Message.ofLength dataId expected payload value) >>= next).outcome desk) := by
  rw [Action.outcome_bind, Action.outcome_ofExcept]
  rcases Message.ofLength_cases dataId expected payload value with ⟨length, read⟩ | ⟨length, read⟩
  · rw [read]
    exact rest length
  · rw [read]
    exact .misfit rfl known length

theorem dispatch_takes (desk : Desk) (state : LinkState) (dataId : UInt8) (payload : Bytes) :
    Takes desk state dataId payload ((dispatch state dataId payload).outcome desk) := by
  rw [dispatch]
  split
  next dead => exact .asleep dead
  next alive =>
    obtain rfl : state = .alive := not_not.mp alive
    rw [Action.outcome_change_bind]
    apply Takes.of_note
    generalize desk.note (.dispatching dataId payload.length) = noted
    -- the types of messages in the order in which they are tried
    split
    next id =>
      subst id
      refine takes_ofLength rfl fun length => ?_
      obtain ⟨log, applied⟩ := applyStatus_eq noted ⟨payload.byteAt 0⟩
      rw [Action.outcome_change, applied]
      exact .status rfl rfl length
    next noStatus =>
    split
    next id =>
      subst id
      refine takes_ofLength rfl fun length => ?_
      rw [Action.outcome_change]
      obtain ⟨log, applied⟩ := applyInfo_eq noted _
      rw [applied]
      exact .info rfl rfl (Message.ofLength_eq_ok.mpr ⟨length, rfl⟩)
    next noInfo =>
    split
    next id =>
      subst id
      exact takes_ofLength rfl fun length => .debug rfl rfl length
    next noDebug =>
    split
    next id =>
      subst id
      exact takes_ofLength rfl fun length =>
        takes_onHeader (Message.ofLength_eq_ok.mpr ⟨length, rfl⟩) noted
    next noHeader =>
    split
    next id =>
      subst id
      exact takes_piece payload noted
    next noPiece =>
      have other : Message.length? dataId = none := by
        rw [Message.length?, if_neg noStatus, if_neg noInfo, if_neg noDebug, if_neg noHeader]
      exact takes_handle other noPiece noted

def Touches (desk : Desk) (dataId : UInt8) (payload : Bytes) (next : Desk) : Prop :=
  if dataId = Message.statusId then
    ∃ log, next =
      { desk with telemetry := { desk.telemetry with statusFlags := payload.byteAt 0 }, log }
  else if dataId = Message.infoId then
    ∃ info log, Message.Info.decode payload = .ok info ∧
      next.telemetry.statusFlags = desk.telemetry.statusFlags ∧
      next.telemetry.freeHeap = desk.telemetry.freeHeap ∧
      next.telemetry.uptime = desk.telemetry.uptime ∧
      next = { desk with
        telemetry := desk.telemetry.withInfo info, store := desk.store.identified info, log }
  else if dataId = Message.debugId then
    ∃ log, next = { desk with telemetry := { desk.telemetry with freeHeap := payload.uint16At 0 }, log }
  else if dataId = Message.datagramHeaderId then
    ∃ header log, Message.DatagramHeader.decode payload = .ok header ∧
      next = { desk with dispatcher := { desk.dispatcher with receiver := ⟨some { header }⟩ }, log }
  else if dataId = Message.datagramDataId then
    ∃ (datagram? : Option Datagram) (receiver : Reassembler) (log : Log),
      desk.dispatcher.receiver.onData payload = (.ok datagram?, receiver) ∧
      next = { desk with
        dispatcher := { desk.dispatcher with receiver }
        sink := desk.sink.map (·.take datagram?.toList)
        log }
  else
    ∃ handler log, desk.dispatcher.handler = some handler ∧
      next = { desk with handled := ⟨handler, dataId, payload⟩ :: desk.handled, log }

variable {next : Desk} {error : DispatchError}

theorem Takes.touches (takes : Takes desk state dataId payload (.ok (), next)) :
    desk.Touches dataId payload next := by
  unfold Touches
  cases takes with
  | status _ id _ =>
    rw [if_pos id]
    exact ⟨_, rfl⟩
  | info _ id decoded =>
    subst id
    rw [if_neg (by decide), if_pos rfl]
    exact ⟨_, _, decoded, rfl, rfl, rfl, rfl⟩
  | debug _ id _ =>
    subst id
    rw [if_neg (by decide), if_neg (by decide), if_pos rfl]
    exact ⟨_, rfl⟩
  | announced _ id decoded _ _ =>
    subst id
    rw [if_neg (by decide), if_neg (by decide), if_neg (by decide), if_pos rfl]
    exact ⟨_, _, decoded, rfl⟩
  | piece _ id taken given =>
    subst id given
    rw [if_neg (by decide), if_neg (by decide), if_neg (by decide), if_neg (by decide), if_pos rfl]
    exact ⟨_, _, _, taken, rfl⟩
  | handled _ other noPiece registered =>
    obtain ⟨noStatus, noInfo, noDebug, noHeader⟩ := (Message.length?_eq_none_iff dataId).mp other
    rw [if_neg noStatus, if_neg noInfo, if_neg noDebug, if_neg noHeader, if_neg noPiece]
    exact ⟨_, _, registered, rfl⟩

theorem Takes.spares (takes : Takes desk state dataId payload (.error error, next)) :
    ∃ receiver log, next = { desk with dispatcher := { desk.dispatcher with receiver }, log } := by
  cases takes with
  | asleep _ => exact ⟨_, _, rfl⟩
  | misfit _ _ _ => exact ⟨_, _, rfl⟩
  | busy _ _ => exact ⟨_, _, rfl⟩
  | barred _ _ _ => exact ⟨_, _, rfl⟩
  | spoilt _ _ _ _ => exact ⟨_, _, rfl⟩
  | unknown _ _ _ _ => exact ⟨_, _, rfl⟩

theorem Takes.spares_pending (takes : Takes desk state dataId payload (.error error, next))
    (early : error.ofDatagram = false) : ∃ log, next = { desk with log } := by
  cases takes with
  | asleep _ => exact ⟨_, rfl⟩
  | misfit _ _ _ => exact ⟨_, rfl⟩
  | busy _ _ => exact ⟨_, rfl⟩
  | barred _ _ own =>
    rw [own] at early
    cases early
  | spoilt _ _ _ own =>
    rw [own] at early
    cases early
  | unknown _ _ _ _ => exact ⟨_, rfl⟩

/-- A message has the length of its type, or if its type has none, there is a handler for it. -/
def Welcomes (desk : Desk) (dataId : UInt8) (payload : Bytes) : Prop :=
  (∀ expected, Message.length? dataId = some expected → payload.length = expected) ∧
    (Message.length? dataId = none → desk.dispatcher.handler ≠ none)

theorem welcomes_of_length {expected : Nat} (known : Message.length? dataId = some expected)
    (length : payload.length = expected) : desk.Welcomes dataId payload := by
  refine ⟨fun other same => ?_, fun none => ?_⟩
  · rw [known] at same
    exact length.trans (Option.some.inj same)
  · rw [known] at none
    cases none

/-- A message that is no part of a datagram is taken while the link is alive, if it can be read at all. -/
theorem Takes.ok_iff {outcome : Except DispatchError Unit × Desk}
    (takes : Takes desk state dataId payload outcome) (noHeader : dataId ≠ Message.datagramHeaderId)
    (noPiece : dataId ≠ Message.datagramDataId) :
    outcome.1 = .ok () ↔ state = .alive ∧ desk.Welcomes dataId payload := by
  have failed (error : DispatchError) : (.error error : Except DispatchError Unit) ≠ .ok () := by simp
  cases takes with
  | asleep dead => exact iff_of_false (failed _) fun both => dead both.1
  | misfit _ known length =>
    exact iff_of_false (failed _) fun both => length (both.2.1 _ known)
  | status alive id length =>
    subst id
    exact iff_of_true rfl ⟨alive, welcomes_of_length rfl length⟩
  | info alive id decoded =>
    subst id
    exact iff_of_true rfl ⟨alive, welcomes_of_length rfl (Message.ofLength_eq_ok.mp decoded).1⟩
  | debug alive id length =>
    subst id
    exact iff_of_true rfl ⟨alive, welcomes_of_length rfl length⟩
  | announced _ id _ _ _ => exact absurd id noHeader
  | busy _ id => exact absurd id noHeader
  | barred _ id _ => exact absurd id noHeader
  | piece _ id _ _ => exact absurd id noPiece
  | spoilt _ id _ _ => exact absurd id noPiece
  | handled alive other _ registered =>
    refine iff_of_true rfl ⟨alive, fun expected known => ?_, fun _ => ?_⟩
    · rw [other] at known
      cases known
    · rw [registered]
      exact Option.some_ne_none _
  | unknown _ other _ missing =>
    exact iff_of_false (failed _) fun both => both.2.2 other missing

/-- A refused message leaves telemetry, configuration, the socket layer and the handler alone, and the
datagram under way too if it is refused for the state of the link, its length or its type. An accepted one
changes its own target and nothing else. Whether a message that is no part of a datagram is accepted depends
on the state of the link, its length and the handler alone. -/
theorem only_target_touched (desk : Desk) (state : LinkState) (dataId : UInt8) (payload : Bytes) :
    let run := (dispatch state dataId payload).outcome desk
    (∀ error, run.1 = .error error →
      (∃ receiver log, run.2 = { desk with dispatcher := { desk.dispatcher with receiver }, log }) ∧
      (error = .notAlive ∨ (∃ id expected got, error = .lengthMismatch id expected got) ∨
        (∃ id, error = .unknownType id) → ∃ log, run.2 = { desk with log })) ∧
    (run.1 = .ok () → desk.Touches dataId payload run.2) ∧
    (dataId ≠ Message.datagramHeaderId → dataId ≠ Message.datagramDataId →
      (run.1 = .ok () ↔ state = .alive ∧ desk.Welcomes dataId payload)) := by
  have takes := dispatch_takes desk state dataId payload
  dsimp only
  generalize (dispatch state dataId payload).outcome desk = run at takes ⊢
  obtain ⟨result, next⟩ := run
  refine ⟨?_, ?_, takes.ok_iff⟩
  · rintro error rfl
    refine ⟨takes.spares, fun early => takes.spares_pending ?_⟩
    rcases early with rfl | ⟨id, expected, got, rfl⟩ | ⟨id, rfl⟩ <;> rfl
  · rintro rfl
    exact takes.touches

end Desk

end RadioLink
