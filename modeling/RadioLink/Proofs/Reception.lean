import RadioLink.Link.Reception
import RadioLink.Proofs.FrameCodec
import RadioLink.Proofs.Sending

/-!
One pass over a live link, as far as the receiver goes. The receiver is its buffer, its alarm, what
it handed on and what it counted as rejected; a pass without a failing call takes it from one state
to the next in one of six ways, and what happens on the line goes with the way taken.
-/

namespace RadioLink

def Line.Faulty {σ : Type} (before after : Line σ) : Prop :=
  ∃ events, Line.Episode events before after ∧ ∃ event ∈ events, event.isFailure = true

theorem Line.Faulty.of_readFailed {σ : Type} {before after : Line σ}
    (episode : Line.Episode [.readFailed] before after) : Line.Faulty before after :=
  ⟨_, episode, _, List.mem_singleton.mpr rfl, rfl⟩

theorem Line.Faulty.after {σ : Type} {before middle after : Line σ} {events : List Event}
    (early : Line.Episode events before middle) (late : Line.Faulty middle after) :
    Line.Faulty before after := by
  obtain ⟨later, episode, event, member, failed⟩ := late
  exact ⟨_, early.append episode, event, List.mem_append_right _ member, failed⟩

namespace Transport

variable {σ : Type} [Peer σ]

theorem call_cases (c : Call) (transport : Transport σ) :
    (∃ fault line, (device (Line.call c)).outcome transport =
        (.error (.io fault), { transport with line }) ∧ transport.line.Faulty line) ∨
    (∃ noise line, Noise noise ∧
      (device (Line.call c)).outcome transport = (.ok (), { transport with line }) ∧
      Line.Episode (.done c :: noise) transport.line line) := by
  rw [device, Action.outcome_within, Action.outcome_mapError]
  rcases Line.call_cases c transport.line with ⟨fault, failed, episode⟩ | ⟨noise, far, ok, episode⟩
  · refine .inl ⟨fault, _, by rw [failed]; rfl, _, episode, _, List.mem_singleton.mpr rfl, rfl⟩
  · exact .inr ⟨noise, _, far, by rw [ok]; rfl, episode⟩

def Reads (transport : Transport σ) (bytes : Bytes) : Prop :=
  ∃ limit, (transport.received.length < Frame.maxLength →
      (Peer.grant transport.line.peer transport.now
        (Frame.maxLength - transport.received.length)).1 = .ok limit) ∧
    bytes = transport.line.waiting.take (min (Frame.maxLength - transport.received.length) limit)

theorem pump_reads (transport : Transport σ) :
    (∃ fault line, pump.outcome transport = (.error (.io fault), { transport with line }) ∧
      Line.Episode [.readFailed] transport.line line) ∨
    (∃ bytes line, transport.Reads bytes ∧ pump.outcome transport =
        (.ok (), { transport with line, received := transport.received ++ bytes }) ∧
      Line.Episode (taking bytes) transport.line line) := by
  rw [pump, Action.outcome_get_bind]
  by_cases room : transport.received.length < Frame.maxLength
  · rw [if_pos room, Action.outcome_bind, device, Action.outcome_within, Action.outcome_mapError]
    rcases Line.read_cases (Frame.maxLength - transport.received.length) transport.line with
      ⟨fault, failed, episode⟩ | ⟨bytes, ⟨limit, granted, took⟩, ok, episode⟩
    · rw [failed]
      exact .inl ⟨fault, _, rfl, episode⟩
    · rw [ok]
      exact .inr ⟨bytes, _, ⟨limit, fun _ => granted, took⟩, rfl, episode⟩
  · rw [if_neg room]
    have full : Frame.maxLength - transport.received.length = 0 :=
      Nat.sub_eq_zero_of_le (Nat.not_lt.mp room)
    refine .inr ⟨[], transport.line, ⟨0, fun less => absurd less room, ?_⟩, ?_, .refl _⟩
    · rw [full, Nat.zero_min, List.take_zero]
    · rw [List.append_nil]
      rfl

theorem pump_cases (transport : Transport σ) :
    (∃ fault line, pump.outcome transport = (.error (.io fault), { transport with line }) ∧
      Line.Episode [.readFailed] transport.line line) ∨
    (∃ bytes line, pump.outcome transport =
        (.ok (), { transport with line, received := transport.received ++ bytes }) ∧
      Line.Episode (taking bytes) transport.line line) := by
  rcases pump_reads transport with unread | ⟨bytes, line, -, ran, episode⟩
  · exact .inl unread
  · exact .inr ⟨bytes, line, ran, episode⟩

theorem armReceiver_cases (transport : Transport σ) :
    (∃ fault after, armReceiver.outcome transport = (.error (.io fault), after) ∧
      transport.line.Faulty after.line) ∨
    (∃ arming line, Arming arming ∧
      armReceiver.outcome transport = (.ok (), { transport with line, received := [] }) ∧
      Line.Episode arming transport.line line) := by
  rw [armReceiver, resetReceived, Action.outcome_bind, Action.outcome_change_bind]
  rcases call_cases .clear { transport with received := [] } with
    ⟨fault, line, ran, faulty⟩ | ⟨early, line, far, ran, dropped⟩
  · rw [ran]
    exact .inl ⟨fault, _, rfl, faulty⟩
  rw [ran]
  dsimp only
  rcases call_cases .pulse ({ transport with line, received := [] } : Transport σ) with
    ⟨fault, next, ran, faulty⟩ | ⟨late, next, away, ran, strobed⟩
  · rw [ran]
    exact .inl ⟨fault, _, rfl, faulty.after dropped⟩
  · rw [ran]
    exact .inr ⟨_, _, ⟨early, late, far, away, rfl⟩, rfl, dropped.append strobed⟩

inductive Polled (transport : Transport σ) :
    Except LinkError (Option Frame) × Transport σ → Prop where
  | broken {fault : Fault} {after : Transport σ} (faulty : transport.line.Faulty after.line) :
      Polled transport (.error (.io fault), after)
  | incomplete {bytes : Bytes} {line : Line σ} (reads : transport.Reads bytes)
      (missing : Frame.completeLength? (transport.received ++ bytes) = none)
      (episode : Line.Episode (taking bytes) transport.line line) :
      Polled transport (.ok none, { transport with line, received := transport.received ++ bytes })
  | accepted {bytes payload : Bytes} {arming : List Event} {line : Line σ} {length : Nat}
      {header : Frame.Header} (reads : transport.Reads bytes)
      (complete : Frame.completeLength? (transport.received ++ bytes) = some length)
      (valid : Frame.decode (((transport.received ++ bytes).take length).drop 1) =
        .ok (header, payload))
      (armed : Arming arming) (episode : Line.Episode (taking bytes ++ arming) transport.line line) :
      Polled transport (.ok (some ⟨header, payload⟩), { transport with line, received := [] })
  | rejected {bytes : Bytes} {arming : List Event} {line : Line σ} {length : Nat} {error : LinkError}
      (reads : transport.Reads bytes)
      (complete : Frame.completeLength? (transport.received ++ bytes) = some length)
      (invalid : Frame.decode (((transport.received ++ bytes).take length).drop 1) = .error error)
      (armed : Arming arming) (episode : Line.Episode (taking bytes ++ arming) transport.line line) :
      Polled transport (.error error,
        { transport with line, received := [], commErrors := transport.commErrors + 1 })

theorem pollFrame_cases (transport : Transport σ) :
    Polled transport (pollFrame.outcome transport) := by
  rw [pollFrame, Action.outcome_bind]
  rcases pump_reads transport with ⟨fault, line, ran, unread⟩ | ⟨bytes, line, reads, ran, read⟩
  · rw [ran]
    exact .broken (.of_readFailed unread)
  rw [ran]
  dsimp only
  rw [Action.outcome_get_bind]
  dsimp only
  rcases complete : Frame.completeLength? (transport.received ++ bytes) with - | length
  · exact .incomplete reads complete read
  dsimp only
  rw [Action.outcome_bind]
  rcases armReceiver_cases
      ({ transport with line, received := transport.received ++ bytes } : Transport σ) with
    ⟨fault, after, ran, faulty⟩ | ⟨arming, next, armed, ran, strobed⟩
  · rw [ran]
    exact .broken (faulty.after read)
  rw [ran]
  dsimp only
  rw [Action.outcome_change_bind, Action.outcome_map, accept]
  rcases valid : Frame.decode (((transport.received ++ bytes).take length).drop 1) with
    error | ⟨header, payload⟩
  · exact .rejected reads complete valid armed ((read.append strobed).congr rfl rfl rfl)
  · exact .accepted reads complete valid armed ((read.append strobed).congr rfl rfl rfl)

end Transport

theorem Alarm.expired_due (start timeout now : Micros) :
    (Alarm.due start timeout).expired now = true ↔ start.after timeout ≤ now :=
  decide_eq_true_iff

structure Receiver where
  /-- Received bytes from a control byte on. -/
  buffer : Bytes
  alarm : Alarm
  /-- Frames handed to the dispatcher, latest first. -/
  handed : List Frame
  /-- Complete frames that were rejected. -/
  errors : UInt16

namespace Receiver

inductive Advance (now : Micros) (receiver : Receiver) : List Event → Receiver → Prop where
  | waiting {bytes : Bytes} (missing : Frame.completeLength? (receiver.buffer ++ bytes) = none)
      (early : (receiver.alarm.ensure now Link.receiveTimeout).expired now = false) :
      Advance now receiver (taking bytes)
        { receiver with
          buffer := receiver.buffer ++ bytes
          alarm := receiver.alarm.ensure now Link.receiveTimeout }
  | dropped {bytes : Bytes} {arming : List Event}
      (missing : Frame.completeLength? (receiver.buffer ++ bytes) = none)
      (late : (receiver.alarm.ensure now Link.receiveTimeout).expired now = true)
      (armed : Arming arming) :
      Advance now receiver (taking bytes ++ arming) { receiver with buffer := [], alarm := .off }
  | accepted {bytes payload : Bytes} {arming : List Event} {length : Nat} {header : Frame.Header}
      (complete : Frame.completeLength? (receiver.buffer ++ bytes) = some length)
      (valid : Frame.decode (((receiver.buffer ++ bytes).take length).drop 1) =
        .ok (header, payload))
      (armed : Arming arming) :
      Advance now receiver (taking bytes ++ arming)
        { receiver with
          buffer := []
          alarm := .off
          handed := ⟨header, payload⟩ :: receiver.handed }
  | rejected {bytes : Bytes} {arming : List Event} {length : Nat} {error : LinkError}
      (complete : Frame.completeLength? (receiver.buffer ++ bytes) = some length)
      (invalid : Frame.decode (((receiver.buffer ++ bytes).take length).drop 1) = .error error)
      (armed : Arming arming) :
      Advance now receiver (taking bytes ++ arming)
        { receiver with buffer := [], alarm := .off, errors := receiver.errors + 1 }

inductive Pass (now : Micros) (receiver : Receiver) : List Event → Receiver → Prop where
  | idle {bytes : Bytes} (idle : (receiver.buffer ++ bytes).headD Control.idle = Control.idle) :
      Pass now receiver (taking bytes) { receiver with buffer := receiver.buffer ++ bytes }
  | strayed {bytes : Bytes} {arming : List Event}
      (started : (receiver.buffer ++ bytes).headD Control.idle ≠ Control.idle)
      (other : (receiver.buffer ++ bytes).headD Control.idle ≠ Control.data)
      (armed : Arming arming) :
      Pass now receiver (taking bytes ++ arming) { receiver with buffer := [] }
  | framed {bytes : Bytes} {events : List Event} {next : Receiver}
      (data : (receiver.buffer ++ bytes).headD Control.idle = Control.data)
      (advance : Advance now { receiver with buffer := receiver.buffer ++ bytes } events next) :
      Pass now receiver (taking bytes ++ events) next

end Receiver

namespace Link

variable {σ α ε : Type}

def receiver (link : Link σ) : Receiver :=
  ⟨link.transport.received, link.rxAlarm, link.dispatched, link.transport.commErrors⟩

theorem outcome_onTransport (action : Action ε (Transport σ) α) (link : Link σ) :
    (onTransport action).outcome link = ((action.outcome link.transport).1,
      { link with transport := (action.outcome link.transport).2 }) :=
  Action.outcome_within ..

theorem dispatch_receiver (link : Link σ) (frame : Frame) :
    (link.dispatch frame).receiver = { link.receiver with handed := frame :: link.dispatched } := by
  unfold dispatch
  dsimp only
  split <;> rfl

theorem dispatch_episode (link : Link σ) (frame : Frame) :
    Line.Episode [] link.line (link.dispatch frame).line := by
  unfold dispatch
  dsimp only
  split <;> exact .quiet rfl rfl rfl

/-- A run broke off with the device, or it went through and did something of the given kind. -/
inductive Ran (link : Link σ) (kind : List Event → Receiver → Prop) :
    Except LinkError Unit × Link σ → Prop where
  | broken {fault : Fault} {after : Link σ} (faulty : link.line.Faulty after.line) :
      Ran link kind (.error (.io fault), after)
  | through {after : Link σ} {events : List Event}
      (episode : Line.Episode events link.line after.line) (did : kind events after.receiver) :
      Ran link kind (.ok (), after)

theorem Ran.after {link middle : Link σ} {kind whole : List Event → Receiver → Prop}
    {outcome : Except LinkError Unit × Link σ} {early : List Event}
    (reached : Line.Episode early link.line middle.line) (ran : Ran middle kind outcome)
    (joined : ∀ events next, kind events next → whole (early ++ events) next) :
    Ran link whole outcome := by
  cases ran with
  | broken faulty => exact .broken (faulty.after reached)
  | through episode did => exact .through (reached.append episode) (joined _ _ did)

variable [Peer σ]

theorem armReceiver_cases (link : Link σ) :
    Ran link (fun events next => Arming events ∧ next = { link.receiver with buffer := [] })
      ((onTransport Transport.armReceiver).outcome link) := by
  rw [outcome_onTransport]
  rcases Transport.armReceiver_cases link.transport with
    ⟨fault, after, ran, faulty⟩ | ⟨arming, line, armed, ran, episode⟩
  · rw [ran]
    exact .broken faulty
  · rw [ran]
    exact .through episode ⟨armed, rfl⟩

theorem receiveFrame_cases (link : Link σ) :
    Ran link (Receiver.Advance link.line.now link.receiver) (receiveFrame.outcome link) := by
  rw [receiveFrame, Action.outcome_get_bind, Action.outcome_change_bind, Action.outcome_bind,
    Action.outcome_attempt, outcome_onTransport]
  dsimp only
  have polled := Transport.pollFrame_cases link.transport
  generalize Transport.pollFrame.outcome link.transport = run at polled ⊢
  cases polled with
  | broken faulty => exact .broken faulty
  | @incomplete bytes line _ missing episode =>
    dsimp only
    rw [Action.outcome_get_bind]
    dsimp only
    split
    next late =>
      rw [Action.outcome_change_bind]
      let ready : Link σ :=
        { link with
          transport := { link.transport with line, received := link.transport.received ++ bytes }
          rxAlarm := .off }.note .receiveTimeout
      have noted : Line.Episode (taking bytes) link.line ready.line := episode.congr rfl rfl rfl
      refine (armReceiver_cases ready).after noted ?_
      rintro arming next ⟨armed, rfl⟩
      exact .dropped missing late armed
    next early => exact .through episode (.waiting missing (Bool.eq_false_of_not_eq_true early))
  | @accepted bytes payload arming line length header _ complete valid armed episode =>
    let ready : Link σ :=
      { link with transport := { link.transport with line, received := [] }, rxAlarm := .off }
    have quiet := dispatch_episode ready ⟨header, payload⟩
    have all := episode.append quiet
    rw [List.append_nil] at all
    refine .through all ?_
    rw [dispatch_receiver]
    exact .accepted complete valid armed
  | @rejected bytes arming line length error _ complete invalid armed episode =>
    have sound := Frame.decode_not_io invalid
    cases error with
    | io fault => exact absurd rfl (sound fault)
    | _ => exact .through (episode.congr rfl rfl rfl) (.rejected complete invalid armed)

/-- Looking at what has arrived is a pass of the receiver. -/
theorem receive_cases (link : Link σ) :
    Ran link (Receiver.Pass link.line.now link.receiver) (receive.outcome link) := by
  rw [receive, Action.outcome_bind, outcome_onTransport]
  rcases Transport.pump_cases link.transport with ⟨fault, line, ran, unread⟩ | ⟨bytes, line, ran, read⟩
  · rw [ran]
    exact .broken (.of_readFailed unread)
  rw [ran]
  let pumped : Link σ :=
    { link with
      transport := { link.transport with line, received := link.transport.received ++ bytes } }
  dsimp only
  rw [Action.outcome_get_bind]
  dsimp only
  split
  next idle => exact .through read (.idle idle)
  next started =>
    split
    next data =>
      refine (receiveFrame_cases pumped).after read fun events next advance => .framed data ?_
      have instant : pumped.line.now = link.line.now := read.instant
      rw [instant] at advance
      exact advance
    next other =>
      split
      · refine (armReceiver_cases pumped).after read ?_
        rintro arming next ⟨armed, rfl⟩
        exact .strayed started other armed
      · rw [Action.outcome_change_bind]
        let told := pumped.note (.unexpectedControl pumped.transport.controlByte)
        have noted : Line.Episode (taking bytes) link.line told.line := read.congr rfl rfl rfl
        refine (armReceiver_cases told).after noted ?_
        rintro arming next ⟨armed, rfl⟩
        exact .strayed started other armed

/-- A pass of the link: the receiver's pass, and then what the association manager sends. -/
theorem tick_cases (link : Link σ) :
    link.line.Faulty (tick.outcome link).2.line ∨
    (∃ received sent, Line.Episode (received ++ sent) link.line (tick.outcome link).2.line ∧
      Receiver.Pass link.line.now link.receiver received (tick.outcome link).2.receiver ∧
      Sending sent) := by
  rw [tick, Action.outcome_bind, Action.outcome_attempt]
  have ran := receive_cases link
  generalize receive.outcome link = run at ran ⊢
  cases ran with
  | broken faulty => exact .inl faulty
  | @through after events episode pass =>
    dsimp only
    rw [Action.outcome_change_bind, Action.outcome_change]
    obtain ⟨⟨sent, next, sending⟩, received, errors⟩ :=
      Association.sends_poll after.toAssociation after.telemetry after.settings.connectTimeout
    have same : after.associate.countUptime.receiver = after.receiver := by
      simp only [receiver, countUptime, associate, received, errors]
    refine .inr ⟨events, sent, (episode.append next).congr rfl rfl rfl, ?_, sending⟩
    dsimp only
    rw [same]
    exact pass

end Link

end RadioLink
