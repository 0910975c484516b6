import RadioLink.Proofs.FrameNumbering
import RadioLink.Proofs.PacketPort
import RadioLink.Proofs.ResetHandshake

/-!
Requests and their answers. A request waits for the ready signal, writes its frame and reads until a
frame is complete; it can break off at each of these points. The cases of an exchange say how far it
got and what happened on the line until then. Whichever of them it is, the receiver is armed next, and
nothing else follows.
-/

namespace RadioLink

namespace Transport

variable {σ : Type} [Peer σ]

/-- Arming fails with one of its two calls, or it goes through and leaves an empty buffer. -/
theorem armReceiver_rearms (transport : Transport σ) :
    (∃ error after, armReceiver.outcome transport = (.error error, after) ∧
      ∃ events, Line.Did events transport.line after.line ∧
        (.failed .clear ∈ events ∨ .failed .pulse ∈ events)) ∨
    (∃ line, armReceiver.outcome transport = (.ok (), { transport with line, received := [] }) ∧
      transport.line.Rearms line) := by
  rw [armReceiver, resetReceived, Action.outcome_bind, Action.outcome_change_bind, device,
    Action.outcome_within, Action.outcome_mapError]
  dsimp only
  rcases Line.call_cases .clear transport.line with ⟨fault, failed, episode⟩ | ⟨early, _, cleared, dropped⟩
  · rw [failed]
    exact .inl ⟨_, _, rfl, _, episode.did, .inl (List.mem_singleton.mpr rfl)⟩
  rw [cleared]
  dsimp only [Except.mapError]
  rw [device, Action.outcome_within, Action.outcome_mapError]
  dsimp only
  rcases Line.call_cases .pulse ((Line.call .clear).outcome transport.line).2 with
    ⟨fault, failed, episode⟩ | ⟨late, _, strobed, told⟩
  · rw [failed]
    exact .inl ⟨_, _, rfl, _, dropped.did.append episode.did, .inr (by simp)⟩
  · rw [strobed]
    exact .inr ⟨_, rfl, cleared, Prod.ext strobed rfl⟩

inductive FrameAwaited (before : Transport σ) :
    List Event → Except LinkError Nat × Transport σ → Prop where
  | broken {events : List Event} {fault : Fault} {after : Transport σ} (failed : .readFailed ∈ events)
      (counted : after.commErrors = before.commErrors) :
      FrameAwaited before events (.error (.io fault), after)
  | missing {events : List Event} {line : Line σ}
      (missing : Frame.completeLength? (before.received ++ takenBytes events) = none) :
      FrameAwaited before events (.error .responseTimeout,
        { before with line, received := before.received ++ takenBytes events })
  | complete {events : List Event} {line : Line σ} {length : Nat} (sound : .readFailed ∉ events)
      (complete : Frame.completeLength? (before.received ++ takenBytes events) = some length) :
      FrameAwaited before events (.ok length,
        { before with line, received := before.received ++ takenBytes events })

omit [Peer σ] in
/-- The reads before a wait goes on count as its own. -/
theorem FrameAwaited.after {before middle : Transport σ} {early late : List Event}
    {run : Except LinkError Nat × Transport σ} (awaited : FrameAwaited middle late run)
    (sound : .readFailed ∉ early)
    (pumped : ∃ line, middle = { before with line, received := before.received ++ takenBytes early }) :
    FrameAwaited before (early ++ late) run := by
  obtain ⟨line, rfl⟩ := pumped
  cases awaited with
  | broken failed counted => exact .broken (List.mem_append_right _ failed) counted
  | missing missing =>
    dsimp only at missing ⊢
    rw [List.append_assoc, ← takenBytes_append] at missing ⊢
    exact .missing missing
  | complete later complete =>
    dsimp only at complete ⊢
    rw [List.append_assoc, ← takenBytes_append] at complete ⊢
    refine .complete ?_ complete
    rw [List.mem_append]
    exact not_or.mpr ⟨sound, later⟩

theorem awaitFrameFrom_cases (start timeout : Micros) (count : Nat) (transport : Transport σ)
    (looked : count = 0 → Frame.completeLength? transport.received = none) :
    ∃ events, Listening events ∧
      Line.Did events transport.line ((awaitFrameFrom start timeout count).outcome transport).2.line ∧
      FrameAwaited transport events ((awaitFrameFrom start timeout count).outcome transport) := by
  induction count generalizing transport with
  | zero =>
    have missing := looked rfl
    rw [← List.append_nil transport.received] at missing
    have ended : FrameAwaited transport [] (.error .responseTimeout,
        { transport with received := transport.received ++ takenBytes [] }) := .missing missing
    rw [takenBytes_nil, List.append_nil] at ended
    exact ⟨[], .nil, .refl _, ended⟩
  | succ count ih =>
    rw [awaitFrameFrom, Action.outcome_bind]
    rcases pump_cases transport with ⟨fault, line, ran, unread⟩ | ⟨bytes, line, ran, read⟩
    · rw [ran]
      exact ⟨_, by simp [Listening, Event.isListening], unread.did, .broken (by simp) rfl⟩
    rw [ran]
    dsimp only
    rw [Action.outcome_get_bind]
    dsimp only
    have taken := takenBytes_taking bytes
    have quiet : .readFailed ∉ taking bytes := fun member => by cases mem_taking member
    rcases found : Frame.completeLength? (transport.received ++ bytes) with - | length
    · dsimp only
      split
      · have ended := @FrameAwaited.missing σ transport (taking bytes) line (by rw [taken, found])
        rw [taken] at ended
        exact ⟨_, .taking bytes, read.did, ended⟩
      · rw [Action.outcome_change_bind]
        obtain ⟨noise, far, paused, -⟩ := Line.delay_events line Line.pollInterval
        let reached : Transport σ :=
          { transport with
            line := line.delay Line.pollInterval
            received := transport.received ++ bytes }
        obtain ⟨later, listening, did, awaited⟩ := ih reached fun _ => found
        refine ⟨taking bytes ++ noise ++ later,
          ((Listening.taking bytes).append far.listening).append listening,
          (read.did.append paused).append did, awaited.after ?_ ⟨reached.line, ?_⟩⟩
        · rw [List.mem_append]
          exact not_or.mpr ⟨quiet, far.sending.not_mem_readFailed⟩
        · rw [takenBytes_append, taken, far.takenBytes_eq, List.append_nil]
    · have ended := @FrameAwaited.complete σ transport (taking bytes) line length quiet
        (by rw [taken, found])
      rw [taken] at ended
      exact ⟨_, .taking bytes, read.did, ended⟩

def awaitAnswer (start timeout : Micros) : Action LinkError (Transport σ) Frame := do
  let length ← awaitFrameFrom start timeout (Line.pollCount timeout)
  accept (((← get).received.take length).drop 1)

theorem exchange_eq (dataId : UInt8) (payload : Bytes) (transport : Transport σ) :
    (exchange dataId payload).outcome transport =
      if (transport.awaitReadySince transport.now transport.timeout).1 then
        (send dataId payload >>= fun _ => awaitAnswer transport.now transport.timeout).outcome
          (transport.awaitReadySince transport.now transport.timeout).2
      else (.error .timeout, (transport.awaitReadySince transport.now transport.timeout).2) := by
  rw [exchange, Action.outcome_get_bind, Action.outcome_get_bind, Action.outcome_bind,
    Action.outcome_total]
  dsimp only
  generalize transport.awaitReadySince transport.now transport.timeout = run
  obtain ⟨ready, reached⟩ := run
  cases ready <;> rfl

/-- The frame of an exchange was written, and after that the host only listened. -/
structure Wrote (dataId : UInt8) (payload : Bytes) (before : Transport σ) (events heard : List Event) :
    Prop where
  listening : Listening heard
  writes : ∃ (fits : payload.length ≤ Frame.maxPayload) (early : List Event), Idle early ∧
    events = early ++ .done (.write (before.nextParcel dataId fits).wire) :: heard

omit [Peer σ] in
theorem Wrote.hear {dataId : UInt8} {payload : Bytes} {before : Transport σ}
    {events heard more : List Event} (wrote : Wrote dataId payload before events heard)
    (listening : Listening more) : Wrote dataId payload before (events ++ more) (heard ++ more) := by
  obtain ⟨hearing, fits, early, idle, rfl⟩ := wrote
  refine ⟨hearing.append listening, fits, early, idle, ?_⟩
  rw [List.append_assoc, List.cons_append]

inductive Exchanged (dataId : UInt8) (payload : Bytes) (before : Transport σ) :
    List Event → Except LinkError Frame × Transport σ → Prop where
  /-- The far side does not become ready, or the payload is too large. -/
  | unsent {noise : List Event} {error : LinkError} {after : Transport σ} (far : Noise noise)
      (counted : after.commErrors = before.commErrors) :
      Exchanged dataId payload before noise (.error error, after)
  | unwritten {early : List Event} {fault : Fault} {after : Transport σ}
      (fits : payload.length ≤ Frame.maxPayload) (idle : Idle early)
      (counted : after.commErrors = before.commErrors) :
      Exchanged dataId payload before
        (early ++ [.failed (.write (before.nextParcel dataId fits).wire)]) (.error (.io fault), after)
  /-- A read fails, or no frame is complete in time. -/
  | unanswered {events heard : List Event} {error : LinkError} {after : Transport σ}
      (wrote : Wrote dataId payload before events heard) (other : error ≠ .timeout)
      (lacking : .readFailed ∈ heard ∨
        Frame.completeLength? (before.received ++ takenBytes heard) = none)
      (counted : after.commErrors = before.commErrors) :
      Exchanged dataId payload before events (.error error, after)
  | accepted {events heard : List Event} {length : Nat} {header : Frame.Header} {body : Bytes}
      {after : Transport σ} (wrote : Wrote dataId payload before events heard)
      (sound : .readFailed ∉ heard)
      (complete : Frame.completeLength? (before.received ++ takenBytes heard) = some length)
      (valid : Frame.decode (((before.received ++ takenBytes heard).take length).drop 1) =
        .ok (header, body))
      (counted : after.commErrors = before.commErrors) :
      Exchanged dataId payload before events (.ok ⟨header, body⟩, after)
  | rejected {events heard : List Event} {length : Nat} {error : LinkError} {after : Transport σ}
      (wrote : Wrote dataId payload before events heard) (sound : .readFailed ∉ heard)
      (complete : Frame.completeLength? (before.received ++ takenBytes heard) = some length)
      (invalid : Frame.decode (((before.received ++ takenBytes heard).take length).drop 1) =
        .error error)
      (counted : after.commErrors = before.commErrors + 1) :
      Exchanged dataId payload before events (.error error, after)

/-- What is left of an exchange whose frame has been written. -/
theorem awaitAnswer_exchanged (start timeout : Micros) (line : Line σ) {dataId : UInt8}
    {payload : Bytes} {before : Transport σ} {early reaction : List Event}
    (wrote : Wrote dataId payload before early reaction) (far : Noise reaction) :
    let sent : Transport σ := { before with line, lastId := before.lastId + 1 }
    ∃ events, Line.Did events line ((awaitAnswer start timeout).outcome sent).2.line ∧
      Exchanged dataId payload before (early ++ events)
        ((awaitAnswer start timeout).outcome sent) := by
  intro sent
  obtain ⟨events, listening, did, awaited⟩ := awaitFrameFrom_cases start timeout
    (Line.pollCount timeout) sent (fun none => absurd none (Nat.succ_ne_zero _))
  have taken : takenBytes (reaction ++ events) = takenBytes events := by
    rw [takenBytes_append, far.takenBytes_eq, List.nil_append]
  have wrote := wrote.hear listening
  rw [awaitAnswer, Action.outcome_bind]
  generalize (awaitFrameFrom start timeout (Line.pollCount timeout)).outcome sent = run at did awaited ⊢
  cases awaited with
  | broken failed counted =>
    exact ⟨events, did, .unanswered wrote LinkError.noConfusion
      (.inl (List.mem_append_right _ failed)) counted⟩
  | missing missing =>
    exact ⟨events, did, .unanswered wrote LinkError.noConfusion (.inr (by rw [taken]; exact missing)) rfl⟩
  | @complete line length sound complete =>
    have quiet : .readFailed ∉ reaction ++ events := by
      rw [List.mem_append]
      exact not_or.mpr ⟨far.sending.not_mem_readFailed, sound⟩
    dsimp only
    rw [Action.outcome_get_bind, accept]
    dsimp only
    rw [← taken] at complete
    rcases decoded : Frame.decode (((before.received ++ takenBytes events).take length).drop 1) with
      error | ⟨header, body⟩
    · refine ⟨events, ?_, .rejected wrote quiet complete (by rw [taken]; exact decoded) ?_⟩
      · exact did
      · rfl
    · exact ⟨events, did, .accepted wrote quiet complete (by rw [taken]; exact decoded) rfl⟩

theorem exchange_exchanged (dataId : UInt8) (payload : Bytes) (transport : Transport σ) :
    ∃ events, Line.Did events transport.line ((exchange dataId payload).outcome transport).2.line ∧
      Exchanged dataId payload transport events ((exchange dataId payload).outcome transport) := by
  obtain ⟨noise, far, waited⟩ := Line.awaitReadyFrom_noise transport.now transport.timeout
    (Line.pollCount transport.timeout) transport.line
  obtain ⟨looks, ends, -⟩ := Line.awaitReadyFrom_ends transport.now transport.timeout
    (Line.pollCount transport.timeout) transport.line
  rw [exchange_eq]
  change Line.Did noise transport.line
    (transport.awaitReadySince transport.now transport.timeout).2.line at waited
  have awaited : transport.awaitReadySince transport.now transport.timeout =
      ((Line.polled looks transport.line).ready.isSet,
        { transport with line := Line.polled looks transport.line }) :=
    congrArg (fun run => (run.1, { transport with line := run.2 })) ends
  rw [awaited] at waited ⊢
  generalize Line.polled looks transport.line = line at waited ⊢
  dsimp only at waited ⊢
  split
  next up =>
    have tries := send_tries dataId payload { transport with line }
    rcases ran : (send dataId payload).outcome { transport with line } with ⟨result, after⟩
    rw [ran] at tries
    cases tries with
    | refused _ noted =>
      rw [Action.outcome_bind_error ran]
      obtain ⟨log, rfl⟩ := noted
      exact ⟨noise, waited, .unsent far rfl⟩
    | failed fits _ crossing episode =>
      rw [Action.outcome_bind_error ran]
      have did := waited.append episode.did
      rw [← List.append_assoc] at did
      exact ⟨_, did, .unwritten fits (far.idle.append crossing.lowered) rfl⟩
    | sent fits _ crossing near episode =>
      rw [Action.outcome_bind_ok ran]
      have written := waited.append episode.did
      rw [← List.append_assoc] at written
      have wrote : Wrote dataId payload transport _ _ :=
        ⟨near.listening, fits, _, far.idle.append crossing.lowered, rfl⟩
      obtain ⟨events, did, exchanged⟩ :=
        awaitAnswer_exchanged transport.now transport.timeout _ wrote near
      exact ⟨_, written.append did, exchanged⟩
  next => exact ⟨noise, waited, .unsent far rfl⟩

def deliver (result : Except LinkError Frame) (buffer : Bytes) : Except LinkError Nat × Bytes :=
  match result with
  | .ok frame => (.ok (frame.payload.copyOver buffer).1, (frame.payload.copyOver buffer).2)
  | .error error => (.error error, buffer)

theorem requestInto_eq (dataId : UInt8) (payload buffer : Bytes) (transport : Transport σ) :
    (requestInto dataId payload).outcome (buffer, transport) =
      match armReceiver.outcome ((exchange dataId payload).outcome transport).2 with
      | (.ok (), after) =>
        ((deliver ((exchange dataId payload).outcome transport).1 buffer).1,
          (deliver ((exchange dataId payload).outcome transport).1 buffer).2, after)
      | (.error error, after) =>
        (.error error, (deliver ((exchange dataId payload).outcome transport).1 buffer).2, after) := by
  rw [requestInto, Action.outcome_bind, Action.outcome_attempt, Action.outcome_bind, beside,
    Action.outcome_within]
  dsimp only
  generalize (exchange dataId payload).outcome transport = run
  obtain ⟨result, reached⟩ := run
  cases result with
  | error error =>
    dsimp only
    rw [Action.outcome_bind, beside, Action.outcome_within]
    dsimp only
    generalize armReceiver.outcome reached = armed
    obtain ⟨done, after⟩ := armed
    cases done <;> rfl
  | ok frame =>
    dsimp only
    rw [Action.outcome_total, Action.outcome_bind, beside, Action.outcome_within]
    dsimp only
    generalize armReceiver.outcome reached = armed
    obtain ⟨done, after⟩ := armed
    cases done <;> rfl

/-- A request for a number of bytes returns what a request for a buffer of that size leaves in it. -/
theorem request_eq_requestInto (dataId : UInt8) (payload buffer : Bytes) (transport : Transport σ) :
    (request dataId payload buffer.length).outcome transport =
      (((requestInto dataId payload).outcome (buffer, transport)).1.map fun count =>
          ((requestInto dataId payload).outcome (buffer, transport)).2.1.take count,
        ((requestInto dataId payload).outcome (buffer, transport)).2.2) := by
  rw [requestInto_eq, request, Action.outcome_bind, Action.outcome_attempt]
  dsimp only
  rw [Action.outcome_bind]
  generalize (exchange dataId payload).outcome transport = run
  obtain ⟨result, reached⟩ := run
  dsimp only
  generalize armReceiver.outcome reached = armed
  obtain ⟨done, after⟩ := armed
  cases done with
  | error error => rfl
  | ok =>
    cases result with
    | error error => rfl
    | ok frame =>
      have copied : (frame.payload.copyOver buffer).2.take (frame.payload.copyOver buffer).1 =
          frame.payload.take buffer.length := by
        simp [Bytes.copyOver, Nat.min_comm]
      exact Prod.ext (congrArg Except.ok copied.symm) rfl

/-- Where arming does not fail, it is the last thing that a request does. -/
theorem requestInto_armable {dataId : UInt8} {payload buffer : Bytes} {transport : Transport σ}
    (armable : transport.line.Armable
      ((requestInto dataId payload).outcome (buffer, transport)).2.2.line) :
    ∃ line, ((exchange dataId payload).outcome transport).2.line.Rearms line ∧
      (requestInto dataId payload).outcome (buffer, transport) =
        ((deliver ((exchange dataId payload).outcome transport).1 buffer).1,
          (deliver ((exchange dataId payload).outcome transport).1 buffer).2,
          { ((exchange dataId payload).outcome transport).2 with line, received := [] }) := by
  obtain ⟨events, did, -⟩ := exchange_exchanged dataId payload transport
  have ran := requestInto_eq dataId payload buffer transport
  rcases armReceiver_rearms ((exchange dataId payload).outcome transport).2 with
    ⟨error, after, failed, others, lost, stuck⟩ | ⟨line, armed, rearms⟩
  · -- a discard or a strobe that fails is on record
    rw [failed] at ran
    obtain ⟨clears, strobes⟩ := armable
    rw [ran] at clears strobes
    dsimp only at clears strobes
    rw [(did.append lost).since_eq, List.mem_append, not_or] at clears strobes
    exact (stuck.elim clears.2 strobes.2).elim
  · rw [armed] at ran
    exact ⟨line, rearms, ran⟩

/-- Something was written, every read went well, and what was received, before and now, starts with a
complete frame; the answer is that frame without its control byte. -/
structure Answers (received : Bytes) (events : List Event) (answer : Bytes) : Prop where
  written : ∃ data, .done (.write data) ∈ events
  sound : .readFailed ∉ events
  complete : ∃ length, Frame.completeLength? (received ++ takenBytes events) = some length ∧
    answer = ((received ++ takenBytes events).take length).drop 1

theorem Answers.unique {received answer other : Bytes} {events : List Event}
    (first : Answers received events answer) (second : Answers received events other) :
    other = answer := by
  obtain ⟨length, complete, rfl⟩ := first.complete
  obtain ⟨same, again, rfl⟩ := second.complete
  rw [complete] at again
  rw [Option.some.inj again]

/-- Arming the receiver answers nothing. -/
theorem answers_append_arming {received answer : Bytes} {events arming : List Event}
    (armed : Arming arming) :
    Answers received (events ++ arming) answer ↔ Answers received events answer := by
  have taken : takenBytes (events ++ arming) = takenBytes events := by
    rw [takenBytes_append, armed.takenBytes_eq, List.append_nil]
  obtain ⟨early, late, far, away, rfl⟩ := armed
  have quiet : .readFailed ∉ Event.done .clear :: (early ++ .done .pulse :: late) := by
    simp [far.sending.not_mem_readFailed, away.sending.not_mem_readFailed]
  have silent (data : Bytes) :
      .done (.write data) ∉ Event.done .clear :: (early ++ .done .pulse :: late) := by
    simp [far.idle.not_mem_done, away.idle.not_mem_done]
  constructor
  · rintro ⟨⟨data, written⟩, sound, complete⟩
    rw [List.mem_append, or_iff_left (silent data)] at written
    rw [List.mem_append, or_iff_left quiet] at sound
    rw [taken] at complete
    exact ⟨⟨data, written⟩, sound, complete⟩
  · rintro ⟨⟨data, written⟩, sound, complete⟩
    refine ⟨⟨data, List.mem_append_left _ written⟩, ?_, by rwa [taken]⟩
    rwa [List.mem_append, or_iff_left quiet]

section Exchanged

variable {dataId : UInt8} {payload : Bytes} {before : Transport σ} {events heard : List Event}
  {run : Except LinkError Frame × Transport σ}

omit [Peer σ]

theorem Wrote.answers_iff (wrote : Wrote dataId payload before events heard) (received answer : Bytes) :
    Answers received events answer ↔ .readFailed ∉ heard ∧
      ∃ length, Frame.completeLength? (received ++ takenBytes heard) = some length ∧
        answer = ((received ++ takenBytes heard).take length).drop 1 := by
  obtain ⟨-, fits, early, idle, rfl⟩ := wrote
  have taken : takenBytes (early ++ .done (.write (before.nextParcel dataId fits).wire) :: heard) =
      takenBytes heard := by
    simp [idle.takenBytes_eq, Event.taken]
  have quiet : .readFailed ∉ early ++ .done (.write (before.nextParcel dataId fits).wire) :: heard ↔
      .readFailed ∉ heard := by
    simp [idle.sending.not_mem_readFailed]
  constructor
  · rintro ⟨-, sound, complete⟩
    rw [taken] at complete
    exact ⟨quiet.mp sound, complete⟩
  · rintro ⟨sound, complete⟩
    exact ⟨⟨_, List.mem_append_right _ List.mem_cons_self⟩, quiet.mpr sound, by rwa [taken]⟩

theorem Wrote.calls (wrote : Wrote dataId payload before events heard) :
    ∃ fits : payload.length ≤ Frame.maxPayload,
      events.filterMap Event.call? = [.write (before.nextParcel dataId fits).wire] := by
  obtain ⟨listening, fits, early, idle, rfl⟩ := wrote
  refine ⟨fits, ?_⟩
  rw [List.filterMap_append, idle.filterMap_call, List.nil_append, List.filterMap_cons,
    listening.filterMap_call]
  rfl

/-- An exchange makes at most one call, the write of its frame, and none before the far side is ready. -/
theorem Exchanged.calls (exchanged : Exchanged dataId payload before events run) :
    events.filterMap Event.call? = [] ∨
      ∃ fits : payload.length ≤ Frame.maxPayload,
        events.filterMap Event.call? = [.write (before.nextParcel dataId fits).wire] ∧
        run.1 ≠ .error .timeout := by
  cases exchanged with
  | unsent far => exact .inl far.idle.filterMap_call
  | unwritten fits idle =>
    refine .inr ⟨fits, ?_, Except.error.inj.mt LinkError.noConfusion⟩
    rw [List.filterMap_append, idle.filterMap_call]
    rfl
  | unanswered wrote other =>
    obtain ⟨fits, calls⟩ := wrote.calls
    exact .inr ⟨fits, calls, Except.error.inj.mt other⟩
  | accepted wrote =>
    obtain ⟨fits, calls⟩ := wrote.calls
    exact .inr ⟨fits, calls, fun late => by cases late⟩
  | rejected wrote _ _ invalid =>
    obtain ⟨fits, calls⟩ := wrote.calls
    refine .inr ⟨fits, calls, ?_⟩
    rintro late
    obtain rfl := Except.error.inj late
    rcases Frame.decode_error invalid with ⟨_, other⟩ | ⟨_, _, other⟩ | ⟨_, _, other⟩ <;> cases other

def Unanswered (before : Transport σ) (events : List Event)
    (run : Except LinkError Frame × Transport σ) : Prop :=
  (∀ answer, ¬Answers before.received events answer) ∧ (∃ error, run.1 = .error error) ∧
    run.2.commErrors = before.commErrors

def Judges (before : Transport σ) (answer : Bytes) (run : Except LinkError Frame × Transport σ) :
    Prop :=
  match Frame.decode answer with
  | .ok (header, body) => run.1 = .ok ⟨header, body⟩ ∧ run.2.commErrors = before.commErrors
  | .error error => run.1 = .error error ∧ run.2.commErrors = before.commErrors + 1

theorem Exchanged.judged (exchanged : Exchanged dataId payload before events run) :
    Unanswered before events run ∨
      ∃ answer, Answers before.received events answer ∧ Judges before answer run := by
  cases exchanged with
  | unsent far counted =>
    refine .inl ⟨?_, ⟨_, rfl⟩, counted⟩
    rintro answer ⟨⟨data, written⟩, -, -⟩
    exact far.idle.not_mem_done _ written
  | unwritten fits idle counted =>
    refine .inl ⟨?_, ⟨_, rfl⟩, counted⟩
    rintro answer ⟨⟨data, written⟩, -, -⟩
    rcases List.mem_append.mp written with early | last
    · exact idle.not_mem_done _ early
    · cases List.mem_singleton.mp last
  | unanswered wrote other lacking counted =>
    refine .inl ⟨?_, ⟨_, rfl⟩, counted⟩
    intro answer answers
    obtain ⟨sound, length, complete, -⟩ := (wrote.answers_iff _ _).mp answers
    rcases lacking with failed | missing
    · exact sound failed
    · rw [missing] at complete
      cases complete
  | accepted wrote sound complete valid counted =>
    refine .inr ⟨_, (wrote.answers_iff _ _).mpr ⟨sound, _, complete, rfl⟩, ?_⟩
    rw [Judges, valid]
    exact ⟨rfl, counted⟩
  | rejected wrote sound complete invalid counted =>
    refine .inr ⟨_, (wrote.answers_iff _ _).mpr ⟨sound, _, complete, rfl⟩, ?_⟩
    rw [Judges, invalid]
    exact ⟨rfl, counted⟩

end Exchanged

/-- The host makes at most one call before it arms the receiver, the write of its frame, and none
afterwards. -/
def ArmsLast (dataId : UInt8) (payload : Bytes) (before : Transport σ)
    (result : Except LinkError Nat) (after : Line σ) : Prop :=
  ∃ (writes : List Bytes) (exchanged : Line σ),
    (before.line.since exchanged).filterMap Event.call? = writes.map .write ∧
    exchanged.Rearms after ∧
    (before.line.since after).filterMap Event.call? = writes.map .write ++ [.clear, .pulse] ∧
    (writes = [] ∨ ∃ fits : payload.length ≤ Frame.maxPayload,
      writes = [(before.nextParcel dataId fits).wire]) ∧
    (result = .error .timeout ∨ Frame.maxPayload < payload.length → writes = [])

theorem Exchanged.armsLast {dataId : UInt8} {payload : Bytes} {before reached : Transport σ}
    {result : Except LinkError Frame} {events : List Event} {line : Line σ}
    (exchanged : Exchanged dataId payload before events (result, reached))
    (did : Line.Did events before.line reached.line) (rearms : reached.line.Rearms line)
    (buffer : Bytes) : ArmsLast dataId payload before (deliver result buffer).1 line := by
  obtain ⟨arming, armed, strobed⟩ := rearms.episode
  have since : (before.line.since line).filterMap Event.call? =
      events.filterMap Event.call? ++ [.clear, .pulse] := by
    rw [(did.append strobed.did).since_eq, List.filterMap_append, armed.filterMap_call]
  rcases exchanged.calls with none | ⟨fits, one, other⟩
  · rw [none] at since
    refine ⟨[], reached.line, ?_, rearms, since, .inl rfl, fun _ => rfl⟩
    rw [did.since_eq, none]
    rfl
  · rw [one] at since
    refine ⟨[_], reached.line, ?_, rearms, since, .inr ⟨fits, rfl⟩, ?_⟩
    · rw [did.since_eq, one]
      rfl
    · rintro (late | large)
      · cases result with
        | ok frame => cases late
        | error error =>
          cases late
          exact absurd rfl other
      · exact absurd fits (Nat.not_le.mpr large)

structure Orderly (dataId : UInt8) (payload buffer : Bytes) (before : Transport σ)
    (result : Except LinkError Nat) (filled : Bytes) (after : Transport σ) : Prop where
  arms : ArmsLast dataId payload before result after.line
  empty : after.received = []
  /-- Only a frame with a valid check gives a result, which is how much of its payload the buffer has
  taken. -/
  accepts : ∀ count, result = .ok count → ∃ answer header body,
    Answers before.received (before.line.since after.line) answer ∧
    Frame.decode answer = .ok (header, body) ∧ header.check body = header.crc ∧
    count = min body.length buffer.length ∧ filled = body.take count ++ buffer.drop count
  answers : ∀ answer header body, Answers before.received (before.line.since after.line) answer →
    Frame.decode answer = .ok (header, body) → result = .ok (min body.length buffer.length)
  keeps : ∀ error, result = .error error → filled = buffer
  /-- A frame that is rejected is counted, and nothing else is. -/
  counts : ∀ answer error, Answers before.received (before.line.since after.line) answer →
    Frame.decode answer = .error error →
    result = .error error ∧ after.commErrors = before.commErrors + 1
  spares : (∀ answer error, Answers before.received (before.line.since after.line) answer →
    Frame.decode answer ≠ .error error) → after.commErrors = before.commErrors

section Orderly

variable {dataId : UInt8} {payload buffer : Bytes} {before after : Transport σ}

theorem Orderly.of_unanswered {error : LinkError}
    (arms : ArmsLast dataId payload before (.error error) after.line) (empty : after.received = [])
    (none : ∀ answer, ¬Answers before.received (before.line.since after.line) answer)
    (counted : after.commErrors = before.commErrors) :
    Orderly dataId payload buffer before (.error error) buffer after where
  arms := arms
  empty := empty
  accepts _ found := by cases found
  answers answer _ _ found := absurd found (none answer)
  keeps _ _ := rfl
  counts answer _ found := absurd found (none answer)
  spares _ := counted

variable {answer : Bytes} (answers : Answers before.received (before.line.since after.line) answer)

include answers

theorem Orderly.of_rejected {error : LinkError} (invalid : Frame.decode answer = .error error)
    (arms : ArmsLast dataId payload before (.error error) after.line) (empty : after.received = [])
    (counted : after.commErrors = before.commErrors + 1) :
    Orderly dataId payload buffer before (.error error) buffer after where
  arms := arms
  empty := empty
  accepts _ found := by cases found
  answers other _ _ found valid := by
    rw [answers.unique found, invalid] at valid
    cases valid
  keeps _ _ := rfl
  counts other _ found wrong := by
    rw [answers.unique found, invalid] at wrong
    cases wrong
    exact ⟨rfl, counted⟩
  spares spared := absurd invalid (spared answer error answers)

theorem Orderly.of_accepted {header : Frame.Header} {body : Bytes}
    (valid : Frame.decode answer = .ok (header, body))
    (arms : ArmsLast dataId payload before (.ok (body.copyOver buffer).1) after.line)
    (empty : after.received = []) (counted : after.commErrors = before.commErrors) :
    Orderly dataId payload buffer before (.ok (body.copyOver buffer).1) (body.copyOver buffer).2
      after where
  arms := arms
  empty := empty
  accepts count found := by
    obtain ⟨-, -, -, -, check⟩ := Frame.decode_ok valid
    obtain rfl := Except.ok.inj found
    exact ⟨answer, header, body, answers, valid, check, rfl, rfl⟩
  answers other _ _ found again := by
    rw [answers.unique found, valid] at again
    cases again
    rfl
  keeps _ failed := by cases failed
  counts other _ found invalid := by
    rw [answers.unique found, valid] at invalid
    cases invalid
  spares _ := counted

end Orderly

/-- A request arms the receiver exactly once and gives nothing away but the payload of a valid frame.
Where neither the discard nor the strobe fails, they are its last two calls, in this order, after at
most one write; what it returns, what it leaves in the buffer and what it counts follow from the frame
that came in. -/
theorem request_arms_once (dataId : UInt8) (payload buffer : Bytes) (transport : Transport σ)
    (armable : transport.line.Armable
      ((requestInto dataId payload).outcome (buffer, transport)).2.2.line) :
    Orderly dataId payload buffer transport
      ((requestInto dataId payload).outcome (buffer, transport)).1
      ((requestInto dataId payload).outcome (buffer, transport)).2.1
      ((requestInto dataId payload).outcome (buffer, transport)).2.2 := by
  obtain ⟨line, rearms, ran⟩ := requestInto_armable armable
  obtain ⟨events, did, exchanged⟩ := exchange_exchanged dataId payload transport
  obtain ⟨arming, armed, strobed⟩ := rearms.episode
  have since := (did.append strobed.did).since_eq
  rw [ran]
  generalize (exchange dataId payload).outcome transport = run at did rearms exchanged ⊢
  obtain ⟨result, reached⟩ := run
  have arms := exchanged.armsLast did rearms buffer
  have answers_iff (answer : Bytes) : Answers transport.received (transport.line.since line) answer ↔
      Answers transport.received events answer := by
    rw [since]
    exact answers_append_arming armed
  rcases exchanged.judged with ⟨none, ⟨error, failed⟩, counted⟩ | ⟨answer, answers, judges⟩
  · obtain rfl : result = .error error := failed
    exact .of_unanswered arms rfl (fun answer found => none answer ((answers_iff answer).mp found)) counted
  have answered := (answers_iff answer).mpr answers
  rcases decoded : Frame.decode answer with error | ⟨header, body⟩
  · rw [Judges, decoded] at judges
    obtain ⟨failed, counted⟩ := judges
    obtain rfl : result = .error error := failed
    exact .of_rejected answered decoded arms rfl counted
  · rw [Judges, decoded] at judges
    obtain ⟨returned, counted⟩ := judges
    obtain rfl : result = .ok ⟨header, body⟩ := returned
    exact .of_accepted answered decoded arms rfl counted

/-- The far side is ready after 120 µs and answers in two pieces, of which the second one is garbled. The
control byte is there already, a read takes three bytes at most, and the counter is about to wrap. -/
def garbled : Transport Simulation.Script :=
  { line :=
      { peer :=
          { readyPolicy := .never
            readLimit := some 3
            onWrite := [[{ bytes := [1, 2, 0x50, 0xd8], delay := 70 },
              { bytes := [0x33, 0xaa, 0xbc], delay := 130 }]]
            agenda := [⟨120, { edge := true }⟩] }
        ready := { enabled := true } }
    received := [Control.data]
    timeout := 20000
    commErrors := 0xffff }

def garbledRun : Except LinkError Nat × Bytes × Transport Simulation.Script :=
  (requestInto 0x50 [7]).outcome ([9, 9, 9], garbled)

theorem request_arms_once_garbled :
    garbled.line.Armable garbledRun.2.2.line ∧
    ArmsLast 0x50 [7] garbled garbledRun.1 garbledRun.2.2.line ∧
    Answers garbled.received (garbled.line.since garbledRun.2.2.line)
      [1, 2, 0x50, 0xd8, 0x33, 0xaa, 0xbc] ∧
    garbledRun.1 = .error (.crcMismatch 0x33d8 0x433f) ∧ garbledRun.2.1 = [9, 9, 9] ∧
    garbledRun.2.2.commErrors = 0 := by
  have armable : garbled.line.Armable garbledRun.2.2.line := ⟨by decide +kernel, by decide +kernel⟩
  have answers : Answers garbled.received (garbled.line.since garbledRun.2.2.line)
      [1, 2, 0x50, 0xd8, 0x33, 0xaa, 0xbc] :=
    ⟨⟨[Control.data, 1, 1, 0x50, 0x3d, 0xe4, 7], by decide +kernel⟩, by decide +kernel, 8,
      by decide +kernel, by decide +kernel⟩
  have invalid : Frame.decode [1, 2, 0x50, 0xd8, 0x33, 0xaa, 0xbc] =
      .error (.crcMismatch 0x33d8 0x433f) := by decide +kernel
  have wraps : garbled.commErrors + 1 = 0 := by decide
  have orderly : Orderly 0x50 [7] [9, 9, 9] garbled garbledRun.1 garbledRun.2.1 garbledRun.2.2 := by
    rw [garbledRun] at armable ⊢
    exact request_arms_once 0x50 [7] [9, 9, 9] garbled armable
  obtain ⟨failed, counted⟩ := orderly.counts _ _ answers invalid
  exact ⟨armable, orderly.arms, answers, failed, orderly.keeps _ failed, counted.trans wraps⟩

end Transport

end RadioLink
