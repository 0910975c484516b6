import RadioLink.Association
import RadioLink.Proofs.FrameCodec
import RadioLink.Proofs.LineEvents

/-!
What sending leaves on the line. All that a send can do is said once, in `send_tries`. The association
manager is the only part of a pass that sends; it writes at most, and the receive side of the transport
stays as it is.
-/

namespace RadioLink

namespace Transport

variable {σ : Type}

def Noted (before after : Transport σ) : Prop :=
  ∃ log, after = { before with line := { before.line with log } }

theorem Noted.events_eq {before after : Transport σ} (noted : Noted before after) :
    before.line.since after.line = [] := by
  obtain ⟨log, rfl⟩ := noted
  exact (Line.Did.same rfl : Line.Did [] before.line _).since_eq

def nextParcel (transport : Transport σ) (dataId : UInt8) {payload : Bytes}
    (fits : payload.length ≤ Frame.maxPayload) : Parcel :=
  ⟨transport.lastId + 1, dataId, payload, fits⟩

inductive Refuses (transport : Transport σ) (payload : Bytes) : LinkError → Prop where
  | tooLarge (large : Frame.maxPayload < payload.length) :
      Refuses transport payload (.payloadTooLarge payload.length)
  | notReady (fits : payload.length ≤ Frame.maxPayload) (unready : transport.isReady = false) :
      Refuses transport payload .notReady

theorem not_refuses {transport : Transport σ} {payload : Bytes} {error : LinkError}
    (fits : payload.length ≤ Frame.maxPayload) (ready : transport.isReady = true) :
    ¬transport.Refuses payload error := by
  intro refuses
  cases refuses with
  | tooLarge large => exact absurd fits (Nat.not_le.mpr large)
  | notReady _ unready =>
    rw [ready] at unready
    cases unready

/-- What becomes of a frame that is to be sent, with the result that is returned. It is refused before
anything is done, or the ready signal is taken down and the frame is written, and then only the write can
fail. -/
inductive Tries (dataId : UInt8) (payload : Bytes) (before : Transport σ) :
    Except LinkError Unit → Transport σ → Prop where
  | refused {error : LinkError} {after : Transport σ} (cause : before.Refuses payload error)
      (noted : Noted before after) : Tries dataId payload before (.error error) after
  | failed {fault : Fault} {crossing : List Event} {line : Line σ}
      (fits : payload.length ≤ Frame.maxPayload) (ready : before.isReady = true) (far : Noise crossing)
      (episode : Line.Episode
        (.lowered :: crossing ++ [.failed (.write (before.nextParcel dataId fits).wire)])
        before.line line) :
      Tries dataId payload before (.error (.io fault)) { before with line, lastId := before.lastId + 1 }
  | sent {crossing noise : List Event} {line : Line σ}
      (fits : payload.length ≤ Frame.maxPayload) (ready : before.isReady = true) (far : Noise crossing)
      (away : Noise noise)
      (episode : Line.Episode
        (.lowered :: crossing ++ .done (.write (before.nextParcel dataId fits).wire) :: noise)
        before.line line) :
      Tries dataId payload before (.ok ()) { before with line, lastId := before.lastId + 1 }

def Sends (before after : Transport σ) : Prop :=
  (∃ events, Line.Episode events before.line after.line ∧ Sending events) ∧
  after.received = before.received ∧ after.commErrors = before.commErrors

theorem Sends.quiet {before after : Transport σ} (history : after.line.history = before.line.history)
    (waiting : after.line.waiting = before.line.waiting) (now : after.line.now = before.line.now)
    (received : after.received = before.received) (errors : after.commErrors = before.commErrors) :
    Sends before after :=
  ⟨⟨[], .quiet history waiting now, by simp [Sending]⟩, received, errors⟩

theorem Sends.trans {before middle after : Transport σ} (early : Sends before middle)
    (late : Sends middle after) : Sends before after := by
  obtain ⟨⟨first, did, sending⟩, received, errors⟩ := early
  obtain ⟨⟨second, next, going⟩, kept, counted⟩ := late
  exact ⟨⟨_, did.append next, sending.append going⟩, kept.trans received, counted.trans errors⟩

instance : IsPreorder (Transport σ) Sends where
  refl _ := .quiet rfl rfl rfl rfl rfl
  trans _ _ _ := .trans

theorem Sends.note (transport : Transport σ) (notice : Notice) :
    transport.Sends (transport.note notice) :=
  .quiet rfl rfl rfl rfl rfl

namespace Tries

variable {dataId : UInt8} {payload : Bytes} {before after : Transport σ}
  {result : Except LinkError Unit}

theorem of_note {notice : Notice} (tries : Tries dataId payload (before.note notice) result after) :
    Tries dataId payload before result after := by
  have told : Line.Episode [] before.line (before.note notice).line := .quiet rfl rfl rfl
  cases tries with
  | refused cause noted =>
    obtain ⟨log, same⟩ := noted
    refine .refused ?_ ⟨log, same⟩
    cases cause with
    | tooLarge large => exact .tooLarge large
    | notReady fits unready => exact .notReady fits unready
  | failed fits ready far episode => exact .failed fits ready far (told.append episode)
  | sent fits ready far away episode => exact .sent fits ready far away (told.append episode)

theorem note (tries : Tries dataId payload before result after) (notice : Notice) :
    Tries dataId payload before result (after.note notice) := by
  cases tries with
  | refused cause noted =>
    obtain ⟨log, rfl⟩ := noted
    exact .refused cause ⟨log.add notice, rfl⟩
  | failed fits ready far episode => exact .failed fits ready far (episode.congr rfl rfl rfl)
  | sent fits ready far away episode => exact .sent fits ready far away (episode.congr rfl rfl rfl)

theorem sends (tries : Tries dataId payload before result after) : before.Sends after := by
  cases tries with
  | refused cause noted =>
    obtain ⟨log, rfl⟩ := noted
    exact .quiet rfl rfl rfl rfl rfl
  | failed fits ready far episode =>
    have write : Sending [.failed (.write (before.nextParcel dataId fits).wire)] := by
      simp [Sending, Event.isSending]
    exact ⟨⟨_, episode, far.lowered.sending.append write⟩, rfl, rfl⟩
  | sent fits ready far away episode =>
    exact ⟨⟨_, episode,
      far.lowered.sending.append (List.forall_mem_cons.mpr ⟨rfl, away.sending⟩)⟩, rfl, rfl⟩

theorem noted_of_refuses {error : LinkError} (tries : Tries dataId payload before result after)
    (refuses : before.Refuses payload error) : Noted before after := by
  cases tries with
  | refused _ noted => exact noted
  | failed fits ready => exact absurd refuses (not_refuses fits ready)
  | sent fits ready => exact absurd refuses (not_refuses fits ready)

theorem written (tries : Tries dataId payload before result after)
    (fits : payload.length ≤ Frame.maxPayload) (ready : before.isReady = true) :
    (before.line.since after.line).filterMap Event.written? =
      [(before.nextParcel dataId fits).wire] := by
  cases tries with
  | refused cause => exact absurd cause (not_refuses fits ready)
  | failed _ _ far episode =>
    rw [episode.did.since_eq, List.filterMap_append, far.lowered.filterMap_written]
    rfl
  | sent _ _ far away episode =>
    rw [episode.did.since_eq, List.filterMap_append, far.lowered.filterMap_written,
      List.filterMap_cons, away.idle.filterMap_written]
    rfl

theorem sent_of_error {error : LinkError} (tries : Tries dataId payload before (.error error) after) :
    (before.line.since after.line).filterMap Event.sent? = [] := by
  cases tries with
  | refused _ noted => rw [noted.events_eq, List.filterMap_nil]
  | failed _ _ far episode =>
    rw [episode.did.since_eq, List.filterMap_append, far.lowered.filterMap_sent]
    rfl

theorem sent_of_ok (tries : Tries dataId payload before (.ok ()) after)
    (fits : payload.length ≤ Frame.maxPayload) :
    (before.line.since after.line).filterMap Event.sent? = [(before.nextParcel dataId fits).wire] := by
  cases tries with
  | sent _ _ far away episode =>
    rw [episode.did.since_eq, List.filterMap_append, far.lowered.filterMap_sent, List.filterMap_cons,
      away.idle.filterMap_sent]
    rfl

/-- A frame goes out when the far side is ready for it and nothing fails. -/
theorem ok_iff_sound (tries : Tries dataId payload before result after)
    (fits : payload.length ≤ Frame.maxPayload) (ready : before.isReady = true) :
    result = .ok () ↔ Sound (before.line.since after.line) := by
  cases tries with
  | refused cause => exact absurd cause (not_refuses fits ready)
  | failed fits _ far episode =>
    rw [episode.did.since_eq]
    refine iff_of_false (fun done => by cases done) fun sound => ?_
    cases sound _ (List.mem_append_right _ List.mem_cons_self)
  | sent _ _ far away episode =>
    rw [episode.did.since_eq]
    exact iff_of_true rfl
      (far.lowered.sound.append (List.forall_mem_cons.mpr ⟨rfl, away.idle.sound⟩))

end Tries

theorem refuses_or_ready (transport : Transport σ) (payload : Bytes) :
    (∃ error, transport.Refuses payload error) ∨
      payload.length ≤ Frame.maxPayload ∧ transport.isReady = true := by
  by_cases large : Frame.maxPayload < payload.length
  · exact .inl ⟨_, .tooLarge large⟩
  · have fits := Nat.not_lt.mp large
    rcases ready : transport.isReady with _ | _
    · exact .inl ⟨_, .notReady fits ready⟩
    · exact .inr ⟨fits, rfl⟩

variable [Peer σ]

theorem send_refused (dataId : UInt8) {payload : Bytes} {transport : Transport σ} {error : LinkError}
    (refuses : transport.Refuses payload error) :
    ∃ log, (send dataId payload).outcome transport =
      (.error error, { transport with line := { transport.line with log } }) := by
  rw [send]
  cases refuses with
  | tooLarge large =>
    rw [if_pos large]
    exact ⟨transport.line.log, rfl⟩
  | notReady fits unready =>
    rw [if_neg (Nat.not_lt.mpr fits), Action.outcome_get_bind, unready]
    exact ⟨_, rfl⟩

/-- A frame goes out in one write, for which the ready signal is taken down. -/
theorem send_of_ready (dataId : UInt8) {payload : Bytes} {transport : Transport σ}
    (fits : payload.length ≤ Frame.maxPayload) (ready : transport.isReady = true) :
    (send dataId payload).outcome transport =
      (device (Line.call (.write (transport.nextParcel dataId fits).wire)) >>=
        fun _ => Action.change (note · (.frameSent (transport.nextParcel dataId fits).wire))).outcome
        { transport with line := transport.line.clearReady, lastId := transport.lastId + 1 } := by
  have encoded := (transport.nextParcel dataId fits).encode_eq
  rw [Parcel.wire_eq, send, if_neg (Nat.not_lt.mpr fits), Action.outcome_get_bind, ready]
  dsimp only [Bool.not_true]
  rw [if_neg (by decide), Action.outcome_change_bind, Action.outcome_get_bind]
  dsimp only
  rw [nextParcel] at encoded ⊢
  rw [encoded]
  rfl

theorem send_tries (dataId : UInt8) (payload : Bytes) (transport : Transport σ) :
    Tries dataId payload transport ((send dataId payload).outcome transport).1
      ((send dataId payload).outcome transport).2 := by
  rcases transport.refuses_or_ready payload with ⟨error, refuses⟩ | ⟨fits, ready⟩
  · obtain ⟨log, ran⟩ := send_refused dataId refuses
    rw [ran]
    exact .refused refuses ⟨log, rfl⟩
  · obtain ⟨crossing, far, lowered⟩ := Line.clearReady_episode transport.line
    rw [send_of_ready dataId fits ready, Action.outcome_bind, device, Action.outcome_within,
      Action.outcome_mapError]
    dsimp only
    rcases Line.call_cases (.write (transport.nextParcel dataId fits).wire) transport.line.clearReady
      with ⟨fault, failed, episode⟩ | ⟨noise, away, done, episode⟩
    · rw [failed]
      exact .failed fits ready far (lowered.append episode)
    · rw [done]
      exact .sent fits ready far away ((lowered.append episode).congr rfl rfl rfl)

theorem sends_send (dataId : UInt8) (payload : Bytes) :
    Action.Keeps Sends (send dataId payload : Action LinkError (Transport σ) Unit) :=
  fun transport => (send_tries dataId payload transport).sends

end Transport

namespace Association

variable {σ : Type} [Peer σ]

section

variable {R : Transport σ → Transport σ → Prop}
  (sent : ∀ dataId payload, Action.Keeps R (Transport.send dataId payload))

include sent

theorem related_send {assoc next : Association σ} {dataId : UInt8} {payload : Bytes}
    {result : Except LinkError Unit} (ran : assoc.send dataId payload = (result, next)) :
    R assoc.transport next.transport := by
  have kept : R assoc.transport (assoc.send dataId payload).2.transport :=
    sent dataId payload assoc.transport
  rwa [ran] at kept

variable [IsPreorder (Transport σ) R]
  (noted : ∀ transport notice, R transport (transport.note notice))

include noted

theorem related_trySlot (assoc : Association σ) (connectTimeout : Micros) :
    R assoc.transport (assoc.trySlot connectTimeout).transport := by
  unfold trySlot
  dsimp only
  split
  · exact refl_of R _
  have told := noted assoc.transport
  split
  next ran => exact trans_of R (told _) (trans_of R (related_send sent ran) (noted _ _))
  next ran => exact trans_of R (told _) (related_send sent ran)

theorem related_startAccessPoint (assoc : Association σ) (credentials : Credentials)
    (connectTimeout : Micros) :
    R assoc.transport (assoc.startAccessPoint credentials connectTimeout).transport := by
  unfold startAccessPoint
  dsimp only
  have told := noted assoc.transport
  split
  next ran => exact trans_of R (told _) (trans_of R (related_send sent ran) (noted _ _))
  next ran => exact trans_of R (told _) (related_send sent ran)

theorem related_offerAccessPoint (assoc : Association σ) (telemetry : Telemetry)
    (connectTimeout : Micros) :
    R assoc.transport (assoc.offerAccessPoint telemetry connectTimeout).transport := by
  unfold offerAccessPoint
  split
  · exact refl_of R _
  dsimp only
  split
  · exact related_startAccessPoint sent noted
      (assoc.setManager { assoc.manager with generatedAp := true }) _ _
  split
  · exact noted _ _
  · exact related_startAccessPoint sent noted
      (assoc.setManager { assoc.manager with generatedAp := false }) _ _

theorem related_pushPorts (assoc : Association σ) : R assoc.transport assoc.pushPorts.transport := by
  unfold pushPorts
  dsimp only
  split
  next ran =>
    have kept := related_send sent ran
    exact kept
  next ran =>
    have kept := related_send sent ran
    exact trans_of R kept (noted _ _)

/-- A step of the association manager sends at most. Whatever every send keeps, it keeps. -/
theorem related_poll (assoc : Association σ) (telemetry : Telemetry) (connectTimeout : Micros) :
    R assoc.transport (assoc.poll telemetry connectTimeout).transport := by
  have same : R assoc.transport assoc.transport := refl_of R _
  have selected : R assoc.transport (assoc.select telemetry connectTimeout).transport := by
    unfold select
    dsimp only
    split
    · exact related_trySlot sent noted assoc connectTimeout
    · exact related_offerAccessPoint sent noted assoc telemetry connectTimeout
  have connected : R assoc.transport (assoc.enterConnected telemetry).transport := by
    unfold enterConnected
    dsimp only
    split <;> exact noted _ _
  unfold poll
  dsimp only
  split
  · split
    · exact connected
    · split
      · exact selected
      · exact same
  · split
    · exact connected
    · split
      · exact noted _ _
      · exact same
  · split
    · exact connected
    · split <;> exact same
  · split
    · exact connected
    · split <;> exact same
  · split
    · exact noted _ _
    · split
      · exact related_pushPorts sent noted assoc
      · exact same

end

/-- A step of the association manager leaves the receiver alone. -/
theorem sends_poll (assoc : Association σ) (telemetry : Telemetry) (connectTimeout : Micros) :
    assoc.transport.Sends (assoc.poll telemetry connectTimeout).transport :=
  related_poll Transport.sends_send Transport.Sends.note assoc telemetry connectTimeout

end Association

end RadioLink
