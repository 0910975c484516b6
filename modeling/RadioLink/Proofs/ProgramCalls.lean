import RadioLink.Proofs.FrameGathering
import RadioLink.Proofs.LoaderExchange
import RadioLink.Proofs.Operations
import RadioLink.Simulation.Peer

/-!
Calls of a program and what is taken for their answer. A call is a request, and a request takes the first frame
in the input for its answer. It looks neither at the type of that frame nor at when its bytes came in, so a
frame that the far side sent on its own account answers a call as well as the report of the program does.
-/

namespace RadioLink

namespace Transport

variable {σ : Type} [Peer σ]

theorem request_eq (dataId : UInt8) (payload : Bytes) (room : Nat) (transport : Transport σ) :
    (request dataId payload room).outcome transport =
      match armReceiver.outcome ((exchange dataId payload).outcome transport).2 with
      | (.ok (), after) =>
        (((exchange dataId payload).outcome transport).1.map (·.payload.take room), after)
      | (.error error, after) => (.error error, after) := by
  rw [request, Action.outcome_bind, Action.outcome_attempt]
  dsimp only
  rw [Action.outcome_bind]
  generalize (exchange dataId payload).outcome transport = run
  obtain ⟨result, reached⟩ := run
  dsimp only
  generalize armReceiver.outcome reached = armed
  obtain ⟨done, after⟩ := armed
  cases done with
  | error error => rfl
  | ok => cases result <;> rfl

omit [Peer σ] in
/-- An exchange makes no call but its write. -/
theorem Exchanged.isWrite {dataId : UInt8} {payload : Bytes} {before : Transport σ} {events : List Event}
    {run : Except LinkError Frame × Transport σ} (exchanged : Exchanged dataId payload before events run)
    {event : Event} (member : event ∈ events) {c : Call} (called : event.call? = some c) :
    c.isWrite = true := by
  have listed : c ∈ events.filterMap Event.call? := List.mem_filterMap.mpr ⟨event, member, called⟩
  rcases exchanged.calls with none | ⟨fits, one, -⟩
  · rw [none] at listed
    cases listed
  · rw [one] at listed
    rw [List.mem_singleton.mp listed]
    rfl

omit [Peer σ] in
/-- What an exchange comes to is told by its answer alone. -/
theorem Exchanged.returns_iff {dataId : UInt8} {payload : Bytes} {before : Transport σ} {events : List Event}
    {run : Except LinkError Frame × Transport σ} (exchanged : Exchanged dataId payload before events run)
    (room : Nat) (bytes : Bytes) :
    run.1.map (·.payload.take room) = .ok bytes ↔ ∃ answer header body,
      Answers before.received events answer ∧ Frame.decode answer = .ok (header, body) ∧
        bytes = body.take room := by
  rcases exchanged.judged with ⟨none, ⟨error, failed⟩, -⟩ | ⟨answer, answers, judges⟩
  · rw [failed]
    refine iff_of_false (fun done => by cases done) ?_
    rintro ⟨answer, -, -, answers, -⟩
    exact none answer answers
  rcases decoded : Frame.decode answer with error | ⟨header, body⟩
  · rw [Judges, decoded] at judges
    rw [judges.1]
    refine iff_of_false (fun done => by cases done) ?_
    rintro ⟨other, header, body, found, valid, -⟩
    rw [answers.unique found, decoded] at valid
    cases valid
  · rw [Judges, decoded] at judges
    rw [judges.1]
    constructor
    · intro done
      exact ⟨answer, header, body, answers, decoded, (Except.ok.inj done).symm⟩
    · rintro ⟨other, _, _, found, valid, rfl⟩
      rw [answers.unique found, decoded] at valid
      cases valid
      rfl

/-- A request is an exchange, after which the receiver is armed again; where that fails, so does the request. -/
theorem request_ends (dataId : UInt8) (payload : Bytes) (room : Nat) (transport : Transport σ) :
    let run := (request dataId payload room).outcome transport
    let exchanged := (exchange dataId payload).outcome transport
    ∃ events, Line.Did events transport.line exchanged.2.line ∧
      Exchanged dataId payload transport events exchanged ∧
      ((∃ error, run.1 = .error error) ∧ ¬transport.line.Armable run.2.line ∨
        ∃ arming, Arming arming ∧ transport.line.since run.2.line = events ++ arming ∧
          transport.line.Armable run.2.line ∧ run.1 = exchanged.1.map (·.payload.take room)) := by
  intro run exchange
  obtain ⟨events, did, exchanged⟩ := exchange_exchanged dataId payload transport
  have ran : run = _ := request_eq dataId payload room transport
  refine ⟨events, did, exchanged, ?_⟩
  rcases armReceiver_rearms exchange.2 with ⟨error, after, failed, lost, ended, stuck⟩ | ⟨line, armed, rearms⟩
  · rw [failed] at ran
    rw [ran, Line.Armable, (did.append ended).since_eq]
    refine .inl ⟨⟨error, rfl⟩, ?_⟩
    rintro ⟨clears, strobes⟩
    rw [List.mem_append, not_or] at clears strobes
    exact stuck.elim clears.2 strobes.2
  · rw [armed] at ran
    obtain ⟨arming, arms, strobed⟩ := rearms.episode
    have since : transport.line.since run.2.line = events ++ arming := by
      rw [ran]
      exact (did.append strobed.did).since_eq
    have spared {c : Call} (other : c.isWrite = false) : .failed c ∉ events ++ arming := by
      rw [List.mem_append, not_or]
      refine ⟨fun member => ?_, fun member => by cases arms.sound _ member⟩
      have writes := exchanged.isWrite member rfl
      rw [other] at writes
      cases writes
    refine .inr ⟨arming, arms, since, ?_, by rw [ran]⟩
    rw [Line.Armable, since]
    exact ⟨spared rfl, spared rfl⟩

/-- A request returns exactly where the receiver can be armed again and the answer is a valid frame. -/
theorem request_ok_iff (dataId : UInt8) (payload : Bytes) (room : Nat) (transport : Transport σ)
    (bytes : Bytes) :
    let run := (request dataId payload room).outcome transport
    run.1 = .ok bytes ↔ transport.line.Armable run.2.line ∧ ∃ answer header body,
      Answers transport.received (transport.line.since run.2.line) answer ∧
      Frame.decode answer = .ok (header, body) ∧ bytes = body.take room := by
  intro run
  obtain ⟨events, -, exchanged, ⟨⟨error, failed⟩, lost⟩ | ⟨arming, arms, since, armable, ran⟩⟩ :=
    request_ends dataId payload room transport
  · refine iff_of_false (fun done => ?_) fun found => lost found.1
    cases failed.symm.trans done
  · rw [since, and_iff_right armable, ran]
    simp only [answers_append_arming arms]
    exact exchanged.returns_iff room bytes

/-- A request that returns has read what waited and what arrived, in this order. -/
theorem taken_of_request {dataId : UInt8} {payload : Bytes} {room : Nat} {transport : Transport σ}
    {bytes : Bytes} (done : ((request dataId payload room).outcome transport).1 = .ok bytes) :
    let events := transport.line.since ((request dataId payload room).outcome transport).2.line
    takenBytes events <+: transport.line.waiting ++ arrivedBytes events := by
  obtain ⟨events, did, exchanged, ⟨⟨error, failed⟩, -⟩ | ⟨arming, arms, since, -⟩⟩ :=
    request_ends dataId payload room transport
  · cases failed.symm.trans done
  -- only arming drops input, and it comes after everything that was read
  obtain ⟨others, same, flow⟩ := (steps_exchange dataId payload transport).flows
  obtain rfl : others = events := same.since_eq.symm.trans did.since_eq
  have kept : .done .clear ∉ others := fun member => by cases exchanged.isWrite member rfl
  dsimp only
  rw [since, takenBytes_append, arms.takenBytes_eq, List.append_nil, arrivedBytes_append, ← List.append_assoc,
    flow.balance kept, List.append_assoc]
  exact List.prefix_append _ _

/-- A request that returns has written its frame, and no other. -/
theorem sent_of_request {dataId : UInt8} {payload : Bytes} {room : Nat} {transport : Transport σ}
    {bytes : Bytes} (done : ((request dataId payload room).outcome transport).1 = .ok bytes) :
    ∃ fits : payload.length ≤ Frame.maxPayload,
      (transport.line.since ((request dataId payload room).outcome transport).2.line).filterMap Event.sent? =
        [(transport.nextParcel dataId fits).wire] := by
  obtain ⟨events, -, exchanged, ⟨⟨error, failed⟩, -⟩ | ⟨arming, arms, since, -, ran⟩⟩ :=
    request_ends dataId payload room transport
  · cases failed.symm.trans done
  rw [since, List.filterMap_append, arms.filterMap_sent, List.append_nil]
  rw [ran] at done
  generalize (exchange dataId payload).outcome transport = run at done exchanged
  cases exchanged with
  | unsent | unwritten | unanswered | rejected => cases done
  | accepted wrote =>
    obtain ⟨listening, fits, noise, quiet, rfl⟩ := wrote
    refine ⟨fits, ?_⟩
    rw [List.filterMap_append, quiet.filterMap_sent, List.filterMap_cons, listening.filterMap_sent]
    rfl

/-- All that comes in while something is sent, each byte with whether it arrives after the write: first what is in
the buffer and at the port already. -/
def incoming (transport : Transport σ) (events : List Event) : List (UInt8 × Bool) :=
  (transport.received ++ transport.line.waiting ++
      arrivedBytes (events.takeWhile (·.sent?.isNone))).map (·, false) ++
    (arrivedBytes (events.dropWhile (·.sent?.isNone))).map (·, true)

omit [Peer σ] in
theorem map_fst_incoming (transport : Transport σ) (events : List Event) :
    (transport.incoming events).map Prod.fst =
      transport.received ++ (transport.line.waiting ++ arrivedBytes events) := by
  have tagged (bytes : Bytes) (late : Bool) : (bytes.map (·, late)).map Prod.fst = bytes := by
    rw [List.map_map]
    exact List.map_id bytes
  rw [incoming, List.map_append, tagged, tagged, List.append_assoc, List.append_assoc, ← arrivedBytes_append,
    List.takeWhile_append_dropWhile]

omit [Peer σ] in
/-- What comes first came in after the write exactly if nothing had come in before it. -/
theorem incoming_late_iff {transport : Transport σ} {events : List Event} {length : Nat}
    (some : 0 < length) :
    (∀ entry ∈ (transport.incoming events).take length, entry.2 = true) ↔
      transport.received = [] ∧ transport.line.waiting = [] ∧
        arrivedBytes (events.takeWhile (·.sent?.isNone)) = [] := by
  rw [← List.append_eq_nil_iff, ← List.append_eq_nil_iff, ← List.append_assoc, incoming]
  generalize transport.received ++ transport.line.waiting ++
    arrivedBytes (events.takeWhile (·.sent?.isNone)) = early
  obtain ⟨fewer, rfl⟩ := Nat.exists_eq_add_one.mpr some
  constructor
  · intro late
    cases early with
    | nil => rfl
    | cons first rest => cases late (first, false) List.mem_cons_self
  · rintro rfl entry member
    obtain ⟨byte, -, rfl⟩ := List.mem_map.mp (List.mem_of_mem_take member)
    rfl

/-- What a request returns is the start of the payload of the first frame in its input. -/
theorem request_takes_first {dataId : UInt8} {payload : Bytes} {room : Nat} {transport : Transport σ}
    {bytes : Bytes} (done : ((request dataId payload room).outcome transport).1 = .ok bytes) :
    let input := (transport.incoming
      (transport.line.since ((request dataId payload room).outcome transport).2.line)).map Prod.fst
    ∃ length header body, 0 < length ∧ Frame.completeLength? input = some length ∧
      Frame.decode ((input.take length).drop 1) = .ok (header, body) ∧ bytes = body.take room := by
  intro input
  obtain ⟨-, answer, header, body, ⟨-, -, length, complete, rfl⟩, valid, rfl⟩ :=
    (request_ok_iff dataId payload room transport bytes).mp done
  have starts : transport.received ++
      takenBytes (transport.line.since ((request dataId payload room).outcome transport).2.line) <+: input := by
    have all : input = _ := map_fst_incoming transport _
    rw [all]
    exact (List.prefix_append_right_inj _).mpr (taken_of_request done)
  obtain ⟨whole, rfl⟩ := Frame.complete_of_completeLength? complete
  obtain ⟨more, same⟩ := whole.extend starts
  refine ⟨Frame.extent input, header, body, Nat.lt_of_lt_of_le (by decide) (Nat.le_add_right 6 _), ?_, ?_, rfl⟩
  · rw [Frame.completeLength?_eq_ite, if_pos more]
  · rw [same, valid]

end Transport

namespace Transport

open Loader (Responder)

/-- A read that has room for a frame takes it. -/
theorem pump_granted {reply : Bytes} {transport : Transport (Responder reply)} {parcel : Parcel}
    (there : transport.received ++ transport.line.waiting = parcel.wire) :
    ∃ line, pump.outcome transport = (.ok (), { transport with line, received := parcel.wire }) := by
  have limit : parcel.wire.length ≤ Frame.maxLength := by
    rw [parcel.length_wire]
    exact Nat.add_le_add_left parcel.fits _
  have all : transport.line.waiting.take (Frame.maxLength - transport.received.length) =
      transport.line.waiting := by
    apply List.take_of_length_le
    rw [← there, List.length_append] at limit
    omega
  rw [pump, Action.outcome_get_bind]
  by_cases room : transport.received.length < Frame.maxLength
  · have read := @Line.read_of_grant _ _ (Frame.maxLength - transport.received.length) _ transport.line _ rfl
    rw [Nat.min_self, all] at read
    rw [if_pos room, Action.outcome_bind, device, Action.outcome_within, Action.outcome_mapError, read, ← there]
    exact ⟨_, rfl⟩
  · rw [Nat.sub_eq_zero_of_le (Nat.not_lt.mp room), List.take_zero] at all
    rw [← all, List.append_nil] at there
    rw [if_neg room, ← there]
    exact ⟨transport.line, rfl⟩

theorem awaitAnswer_granted {reply : Bytes} {transport : Transport (Responder reply)} {parcel : Parcel}
    (there : transport.received ++ transport.line.waiting = parcel.wire) (start timeout : Micros) :
    ((awaitAnswer start timeout).outcome transport).1 = .ok ⟨parcel.header, parcel.payload⟩ := by
  obtain ⟨line, read⟩ := pump_granted there
  have gathered : (awaitFrameFrom start timeout (Line.pollCount timeout)).outcome transport =
      (.ok parcel.wire.length, { transport with line, received := parcel.wire }) := by
    rw [Line.pollCount, awaitFrameFrom, Action.outcome_bind_ok read, Action.outcome_get_bind]
    dsimp only
    rw [parcel.completeLength?_wire]
    rfl
  rw [awaitAnswer, Action.outcome_bind_ok gathered, Action.outcome_get_bind, accept]
  dsimp only
  rw [parcel.decode_wire]
  rfl

/-- Whatever a far side says at once counts as the answer to any request, if it completes a frame. -/
theorem request_granted {reply : Bytes} {transport : Transport (Responder reply)} {parcel : Parcel}
    (completes : transport.received ++ transport.line.waiting ++ reply = parcel.wire)
    (ready : transport.isReady = true) (dataId : UInt8) {payload : Bytes}
    (fits : payload.length ≤ Frame.maxPayload) (room : Nat) :
    ((request dataId payload room).outcome transport).1 = .ok (parcel.payload.take room) := by
  have awaited : transport.awaitReadySince transport.now transport.timeout = (true, transport) := by
    have waits : Line.awaitReadyFrom transport.now transport.timeout (Line.pollCount transport.timeout)
        transport.line = (true, transport.line) := by
      rw [Line.pollCount, Line.awaitReadyFrom]
      exact if_pos ready
    exact congrArg (fun run => (run.1, { transport with line := run.2 })) waits
  obtain ⟨sent, ran, there⟩ : ∃ sent, (send dataId payload).outcome transport = (.ok (), sent) ∧
      sent.received ++ sent.line.waiting = parcel.wire := by
    rw [send_of_ready dataId fits ready, ← completes, List.append_assoc]
    exact ⟨_, rfl, congrArg (transport.received ++ ·) (Line.waiting_receive _ _)⟩
  have answered : ((exchange dataId payload).outcome transport).1 = .ok ⟨parcel.header, parcel.payload⟩ := by
    rw [exchange_eq, awaited]
    dsimp only
    rw [if_pos rfl, Action.outcome_bind_ok ran]
    exact awaitAnswer_granted there _ _
  have armed (transport : Transport (Responder reply)) :
      ∃ after, armReceiver.outcome transport = (.ok (), after) := ⟨_, rfl⟩
  obtain ⟨after, arms⟩ := armed ((exchange dataId payload).outcome transport).2
  rw [request_eq, arms, answered]
  rfl

end Transport

namespace Link

open Loader (Responder)
open Transport (Answers)

/-- A call takes the first frame in the input for its answer. It returns exactly if the receiver can be armed
again and that frame is complete in time and valid, and then the start of its payload. The frame is the report of
the program, written after the request, exactly if it has the type of such a report and nothing had come in
before; otherwise the call returns all the same, and every frame, of whatever type and however much of it was
there before, is returned by some call. -/
theorem call_answered_by_first_frame (vm : UInt8) (function : UInt16) (room : Nat) :
    (∀ (σ : Type) [Peer σ] (link : Link σ) (bytes : Bytes),
      let run := (runVm vm function room).outcome link
      let events := link.line.since run.2.line
      let incoming := link.transport.incoming events
      let input := incoming.map Prod.fst
      (run.1 = .ok bytes ↔ link.line.Armable run.2.line ∧ ∃ answer header body,
        Answers link.transport.received events answer ∧ Frame.decode answer = .ok (header, body) ∧
          bytes = body.take room) ∧
      (run.1 = .ok bytes →
        (events.filterMap Event.sent?).map (Frame.bodyOf? Message.runVmId) =
          [some (Message.runVm vm function)] ∧
        ∃ length header body, Frame.completeLength? input = some length ∧
          Frame.decode ((input.take length).drop 1) = .ok (header, body) ∧
          header.check body = header.crc ∧ bytes = body.take room ∧
          ((header.dataId = Message.vmInfoId ∧ ∀ entry ∈ incoming.take length, entry.2 = true) ↔
            header.dataId = Message.vmInfoId ∧ link.transport.received = [] ∧ link.line.waiting = [] ∧
              arrivedBytes (events.takeWhile (·.sent?.isNone)) = []))) ∧
    ∀ (parcel : Parcel) (received waiting reply : Bytes), received ++ waiting ++ reply = parcel.wire →
      ∃ link : Link (Responder reply), link.transport.received = received ∧ link.line.waiting = waiting ∧
        ((runVm vm function room).outcome link).1 = .ok (parcel.payload.take room) := by
  refine ⟨fun σ _ link bytes => ?_, fun parcel received waiting reply completes => ?_⟩
  · intro run events incoming input
    have ran : run = _ := outcome_onTransport _ link
    have exact_iff := Transport.request_ok_iff Message.runVmId (Message.runVm vm function) room link.transport bytes
    dsimp only at exact_iff
    refine ⟨?_, fun done => ?_⟩
    · subst events
      rw [ran]
      exact exact_iff
    have done : ((Transport.request Message.runVmId (Message.runVm vm function) room).outcome
        link.transport).1 = .ok bytes := by
      rw [ran] at done
      exact done
    obtain ⟨fits, sent⟩ := Transport.sent_of_request done
    obtain ⟨length, header, body, some, complete, valid, returned⟩ := Transport.request_takes_first done
    have since : events = link.transport.line.since ((Transport.request Message.runVmId
        (Message.runVm vm function) room).outcome link.transport).2.line := by
      subst events
      rw [ran]
      rfl
    subst incoming input
    rw [← since] at sent complete valid
    obtain ⟨-, -, -, -, check⟩ := Frame.decode_ok valid
    refine ⟨?_, length, header, body, complete, valid, check, returned, ?_⟩
    · rw [sent, List.map_singleton, Parcel.bodyOf?_wire]
      rfl
    · rw [Transport.incoming_late_iff some]
      rfl
  · let transport : Transport (Responder reply) :=
      { line := { peer := {}, waiting, ready := ⟨true, true⟩ }, received, timeout := 0 }
    have short : (Message.runVm vm function).length ≤ Frame.maxPayload := Nat.le_of_ble_eq_true rfl
    have granted := @Transport.request_granted reply transport parcel completes rfl Message.runVmId _ short room
    refine ⟨{ transport, store := { config := {} }, images := .fixed none none }, rfl, rfl, ?_⟩
    rw [runVm, request, outcome_onTransport]
    exact granted

/-- The far side answers with a report, but a status that it sent on its own account has come in before. -/
def crossed : Link Simulation.Script :=
  { transport :=
      { line :=
          { peer := { onWrite := [[{ bytes := [2, 4, 4, 0x22, 0xe6, 0x88, 1, 2, 3, 4] }]] }
            ready := ⟨true, true⟩
            waiting := [2, 1, 1, 1, 0x74, 0x87, 1] }
        timeout := 20000 }
    store := { config := {} }
    images := .fixed none none }

theorem call_answered_by_first_frame_crossed :
    let run := (runVm 1 0x40 16).outcome crossed
    let input := (crossed.transport.incoming (crossed.line.since run.2.line)).map Prod.fst
    run.1 = .ok [1] ∧
    (∃ header body, Frame.decode ((input.take 7).drop 1) = .ok (header, body) ∧
      header.dataId = Message.statusId ∧ ([1] : Bytes) = body.take 16) ∧
    ∃ link : Link (Responder [0xe6, 0x88, 1, 2, 3, 4]), link.transport.received = [2, 4] ∧
      link.line.waiting = [4, 0x22] ∧ ((runVm 1 0x40 3).outcome link).1 = .ok [1, 2, 3] := by
  intro run input
  have returned : run.1 = .ok [1] := by decide +kernel
  have first : Frame.completeLength? input = some 7 := by decide +kernel
  have status : Frame.decode ((input.take 7).drop 1) = .ok (⟨1, 1, Message.statusId, 0x8774⟩, [1]) := by
    decide +kernel
  obtain ⟨any, -⟩ := call_answered_by_first_frame 1 0x40 16
  obtain ⟨-, takes⟩ := any Simulation.Script crossed [1]
  obtain ⟨-, length, header, body, complete, valid, -, starts, -⟩ := takes returned
  obtain rfl : length = 7 := Option.some.inj (complete.symm.trans first)
  obtain ⟨rfl, rfl⟩ := Prod.mk.inj (Except.ok.inj (valid.symm.trans status))
  obtain ⟨-, every⟩ := call_answered_by_first_frame 1 0x40 3
  exact ⟨returned, ⟨_, _, valid, rfl, starts⟩,
    every ⟨4, 0x22, [1, 2, 3, 4], by decide⟩ [2, 4] [4, 0x22] [0xe6, 0x88, 1, 2, 3, 4] (by decide +kernel)⟩

end Link

end RadioLink
