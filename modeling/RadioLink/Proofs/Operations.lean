import RadioLink.Proofs.LineSteps
import RadioLink.Proofs.LiveRun

/-!
Runs of a link: its owner uses any of its operations, in any order, with passes and pauses in
between. The far side may let every call fail, and a run goes on after a failure.
-/

namespace RadioLink

inductive Operation where
  | move (move : Move)
  | send (dataId : UInt8) (payload : Bytes)
  | sendBlocking (dataId : UInt8) (payload : Bytes)
  | request (dataId : UInt8) (payload : Bytes) (room : Nat)
  | resetVm (vm : UInt32)
  | loadVm (vm : UInt32) (image : Bytes) (size : UInt16)
  | runVm (vm : UInt8) (function : UInt16) (room : Nat)
  | sendDatagram (datagram : Datagram)
  | setPort (protocol : UInt8) (port : UInt16) (wanted : Bool)
  | resetLink
  | handshake
  | enterMode (mode : BootMode)
  /-- Masks or unmasks the ready edge. -/
  | setIrq (enabled : Bool)

def Operation.tick : Operation := .move .tick

namespace Line

variable {σ : Type}

def Flows (events : List Event) (before after : Line σ) : Prop :=
  Did events before after ∧ Flow before.waiting events after.waiting

theorem Episode.flows {events : List Event} {before after : Line σ} (episode : Episode events before after) :
    Flows events before after :=
  ⟨episode.did, episode.flow⟩

variable [Peer σ]

/-- Every step leaves some events behind, which account for the bytes that wait. -/
theorem Step.flows {before after : Line σ} (step : Step before after) : ∃ events, Flows events before after := by
  have called : ∀ (c : Call) (line : Line σ), ∃ events, Flows events line ((Line.call c).outcome line).2 := by
    intro c line
    rcases call_cases c line with ⟨_, _, episode⟩ | ⟨_, _, _, episode⟩
    · exact ⟨_, episode.flows⟩
    · exact ⟨_, episode.flows⟩
  obtain ⟨crossing, _, lowered⟩ := clearReady_episode before
  have writes (data : Bytes) :
      ∃ events, Flows events before ((Line.call (.write data)).outcome before.clearReady).2 := by
    obtain ⟨events, did, flow⟩ := called (.write data) before.clearReady
    exact ⟨_, lowered.did.append did, lowered.flow.append flow⟩
  cases step with
  | log log => exact ⟨[], .same rfl, .done _⟩
  | @call c _ => exact called c before
  | read room =>
    rcases read_cases room before with ⟨_, _, episode⟩ | ⟨_, _, _, episode⟩
    · exact ⟨_, episode.flows⟩
    · exact ⟨_, episode.flows⟩
  | delay span =>
    obtain ⟨noise, _, did, flow, _⟩ := delay_events before span
    exact ⟨noise, did, flow⟩
  | irq enabled => exact ⟨_, .record before (.irq enabled), .other rfl (.done _)⟩
  | clearReady => exact ⟨_, lowered.flows⟩
  | reset => exact writes [Control.reset]
  | frame parcel _ => exact writes parcel.wire

theorem Steps.flows {before after : Line σ} (steps : Steps before after) :
    ∃ events, Flows events before after := by
  induction steps with
  | refl => exact ⟨[], .refl before, .done _⟩
  | tail _ step ih =>
    obtain ⟨early, did, flow⟩ := ih
    obtain ⟨late, next, flows⟩ := step.flows
    exact ⟨early ++ late, did.append next, flow.append flows⟩

theorem Steps.did {before after : Line σ} (steps : Steps before after) : ∃ events, Did events before after := by
  obtain ⟨events, did, -⟩ := steps.flows
  exact ⟨events, did⟩

end Line

namespace Transport

variable {σ : Type} [Peer σ]

structure PartsKeep (R : Transport σ → Transport σ → Prop) : Prop where
  note (transport : Transport σ) (notice : Notice) : R transport (transport.note notice)
  delay (transport : Transport σ) (span : Micros) : R transport (transport.delay span)
  irq (transport : Transport σ) (enabled : Bool) : R transport (transport.onLine (·.setIrq enabled))
  clearReady (transport : Transport σ) : R transport (transport.onLine Line.clearReady)
  awaitReady (transport : Transport σ) (start timeout : Micros) :
    R transport (transport.awaitReadySince start timeout).2
  call {c : Call} (other : c.isWrite = false) :
    Action.Keeps R (device (Line.call c) : Action LinkError (Transport σ) Unit)
  resetReceived : Action.Keeps R (resetReceived : Action LinkError (Transport σ) Unit)
  resetLink : Action.Keeps R (resetLink : Action LinkError (Transport σ) Unit)
  send (dataId : UInt8) (payload : Bytes) :
    Action.Keeps R (send dataId payload : Action LinkError (Transport σ) Unit)
  request (dataId : UInt8) (payload : Bytes) (room : Nat) :
    Action.Keeps R (request dataId payload room : Action LinkError (Transport σ) Bytes)

namespace PartsKeep

variable {R : Transport σ → Transport σ → Prop} [IsPreorder (Transport σ) R] (parts : PartsKeep R)

include parts

theorem sendBlocking (dataId : UInt8) (payload : Bytes) :
    Action.Keeps R (sendBlocking dataId payload : Action LinkError (Transport σ) Unit) := by
  refine .bind (.total fun transport => parts.awaitReady transport _ _) fun ready => ?_
  split
  · exact .throw _
  refine .bind (.attempt (parts.send dataId payload)) fun result => ?_
  split
  · exact .pure _
  · exact .bind (.change fun _ => parts.note _ _) fun _ => .throw _

theorem sendPieces (pieces : List Bytes) :
    Action.Keeps R (Datagram.sendPieces pieces : Action LinkError (Transport σ) Unit) := by
  induction pieces with
  | nil => exact .pure _
  | cons piece rest ih => exact .bind (parts.sendBlocking _ piece) fun _ => ih

theorem sendDatagram (datagram : Datagram) :
    Action.Keeps R (datagram.send : Action NetworkError (Transport σ) Unit) :=
  .bind (.change fun _ => parts.note _ _) fun _ => .bind (.mapError (parts.sendBlocking _ _)) fun _ =>
    .mapError (parts.sendPieces _)

end PartsKeep

theorem partsKeep_steps : PartsKeep (Steps : Transport σ → Transport σ → Prop) where
  note := steps_note
  delay transport span := (Line.Step.delay transport.line span).steps
  irq transport enabled := (Line.Step.irq transport.line enabled).steps
  clearReady transport := (Line.Step.clearReady transport.line).steps
  awaitReady := steps_awaitReadySince
  call other := steps_device (Line.steps_call other)
  resetReceived := steps_resetReceived
  resetLink := steps_resetLink
  send := steps_send
  request := steps_request

end Transport

namespace Link

variable {σ α ε : Type}

def Via (R : Transport σ → Transport σ → Prop) (before after : Link σ) : Prop :=
  after.rxAlarm = before.rxAlarm ∧ R before.transport after.transport

instance {R : Transport σ → Transport σ → Prop} [IsPreorder (Transport σ) R] :
    IsPreorder (Link σ) (Via R) where
  refl link := ⟨rfl, refl_of R link.transport⟩
  trans _ _ _ early late := ⟨late.1.trans early.1, trans_of R early.2 late.2⟩

theorem via_onTransport {R : Transport σ → Transport σ → Prop} {action : Action ε (Transport σ) α}
    (kept : Action.Keeps R action) : Action.Keeps (Via R) (onTransport action) :=
  kept.within fun _ _ related => ⟨rfl, related⟩

variable [Peer σ]

section

variable {R : Transport σ → Transport σ → Prop} (parts : Transport.PartsKeep R)

include parts

theorem via_note (link : Link σ) (notice : Notice) : Via R link (link.note notice) :=
  ⟨rfl, parts.note _ _⟩

theorem via_delay (link : Link σ) (span : Micros) : Via R link (link.onLine (·.delay span)) :=
  ⟨rfl, parts.delay _ _⟩

theorem via_setIrq (link : Link σ) (enabled : Bool) : Via R link (link.onLine (·.setIrq enabled)) :=
  ⟨rfl, parts.irq _ _⟩

theorem via_device {c : Call} (other : c.isWrite = false) :
    Action.Keeps (Via R) (device (Line.call c) : Action LinkError (Link σ) Unit) :=
  via_onTransport (parts.call other)

variable [IsPreorder (Transport σ) R]

theorem via_enterMode (mode : BootMode) :
    Action.Keeps (Via R) (enterMode mode : Action LinkError (Link σ) Unit) := by
  refine .bind .get fun link => ?_
  exact .bind (.change fun _ => via_setIrq parts _ _) fun _ => .bind (via_device parts rfl) fun _ =>
    .bind (via_device parts rfl) fun _ => .bind (.change fun _ => via_delay parts _ _) fun _ =>
    .bind (via_device parts rfl) fun _ => .bind (.change fun _ => via_delay parts _ _) fun _ =>
    .bind (via_device parts rfl) fun _ => via_onTransport parts.resetReceived

theorem via_handshake : Action.Keeps (Via R) (handshake : Action LinkError (Link σ) Bool) := by
  refine .bind (.change fun _ => ⟨rfl, parts.clearReady _⟩) fun _ =>
    .bind (.change fun _ => via_delay parts _ _) fun _ =>
    .bind (.change fun _ => via_setIrq parts _ _) fun _ =>
    .bind (via_onTransport parts.resetLink) fun _ =>
    .bind (via_onTransport (.total fun _ => parts.awaitReady _ _ _)) fun acknowledged => ?_
  split
  · exact .bind (via_onTransport (.bind parts.resetReceived fun _ => parts.call rfl)) fun _ => .pure _
  · exact .pure _

theorem via_sendBlocking (dataId : UInt8) (payload : Bytes) :
    Action.Keeps (Via R) (sendBlocking dataId payload : Action LinkError (Link σ) Unit) :=
  via_onTransport (parts.sendBlocking dataId payload)

theorem via_resetVm (vm : UInt32) :
    Action.Keeps (Via R) (resetVm vm : Action LinkError (Link σ) Unit) :=
  .bind (.change fun _ => via_note parts _ _) fun _ => via_sendBlocking parts _ _

theorem via_loadVmFrom (vm : UInt32) (size offset : UInt16) (pieces : List (Except Fault Bytes)) :
    Action.Keeps (Via R) (loadVmFrom vm size offset pieces : Action LinkError (Link σ) Unit) := by
  induction pieces generalizing offset with
  | nil => exact via_sendBlocking parts _ _
  | cons piece rest ih =>
    cases piece with
    | error fault => exact .throw _
    | ok piece => exact .bind (via_sendBlocking parts _ _) fun _ => ih _

theorem via_loadProgram (vm : UInt32) (reader : Reader) (size : UInt16) :
    Action.Keeps (Via R) (loadProgram vm reader size : Action LinkError (Link σ) Unit) :=
  .bind (.change fun _ => via_note parts _ _) fun _ => via_loadVmFrom parts _ _ _ _

theorem via_sendDatagram (datagram : Datagram) :
    Action.Keeps (Via R) (sendDatagram datagram : Action NetworkError (Link σ) Unit) := by
  refine .bind .get fun link => ?_
  split
  · exact .throw _
  · exact via_onTransport (parts.sendDatagram datagram)

theorem via_setPort (link : Link σ) (protocol : UInt8) (port : UInt16) (wanted : Bool) :
    Via R link (link.setPort protocol port wanted) := by
  have same : ∀ ports, Via R link { link with ports } := fun _ => ⟨rfl, refl_of R link.transport⟩
  unfold setPort
  split
  · exact refl_of (Via R) link
  split
  · exact same _
  split
  · exact same _
  next ports _ => exact trans_of (Via R) (same ports) (via_note parts _ _)

end

def perform (link : Link σ) : Operation → Link σ
  | .move move => link.move move
  | .send dataId payload => ((send dataId payload).outcome link).2
  | .sendBlocking dataId payload => ((sendBlocking dataId payload).outcome link).2
  | .request dataId payload room => ((request dataId payload room).outcome link).2
  | .resetVm vm => ((resetVm vm).outcome link).2
  | .loadVm vm image size => ((loadVm vm image size).outcome link).2
  | .runVm vm function room => ((runVm vm function room).outcome link).2
  | .sendDatagram datagram => ((sendDatagram datagram).outcome link).2
  | .setPort protocol port wanted => link.setPort protocol port wanted
  | .resetLink => ((onTransport Transport.resetLink).outcome link).2
  | .handshake => (handshake.outcome link).2
  | .enterMode mode => ((enterMode mode).outcome link).2
  | .setIrq enabled => link.onLine (·.setIrq enabled)

def performAll (link : Link σ) (operations : List Operation) : Link σ := operations.foldl perform link

def trace (link : Link σ) (operations : List Operation) : List Event :=
  link.line.since (link.performAll operations).line

theorem performAll_append (link : Link σ) (first second : List Operation) :
    link.performAll (first ++ second) = (link.performAll first).performAll second :=
  List.foldl_append

theorem performAll_concat (link : Link σ) (operations : List Operation) (operation : Operation) :
    link.performAll (operations ++ [operation]) = (link.performAll operations).perform operation :=
  performAll_append link operations [operation]

/-- Whatever the parts keep, every operation but a pass keeps, and the alarm stays as it is. -/
theorem via_perform {R : Transport σ → Transport σ → Prop} [IsPreorder (Transport σ) R]
    (parts : Transport.PartsKeep R) (link : Link σ) {operation : Operation} (other : operation ≠ .tick) :
    Via R link (link.perform operation) := by
  cases operation with
  | move move =>
    cases move with
    | tick => exact absurd rfl other
    | pause span => exact via_delay parts link span
  | send dataId payload => exact via_onTransport (parts.send dataId payload) link
  | sendBlocking dataId payload => exact via_sendBlocking parts dataId payload link
  | request dataId payload room => exact via_onTransport (parts.request dataId payload room) link
  | resetVm vm => exact via_resetVm parts vm link
  | loadVm vm image size => exact via_loadProgram parts vm { content := image } size link
  | runVm vm function room => exact via_onTransport (parts.request _ _ room) link
  | sendDatagram datagram => exact via_sendDatagram parts datagram link
  | setPort protocol port wanted => exact via_setPort parts link protocol port wanted
  | resetLink => exact via_onTransport parts.resetLink link
  | handshake => exact via_handshake parts link
  | enterMode mode => exact via_enterMode parts mode link
  | setIrq enabled => exact via_setIrq parts link enabled

theorem steps_perform (link : Link σ) (operation : Operation) : link.Steps (link.perform operation) := by
  by_cases pass : operation = .tick
  · rw [pass]
    exact steps_tick link
  · exact (via_perform Transport.partsKeep_steps link pass).2

theorem steps_performAll (link : Link σ) (operations : List Operation) :
    link.Steps (link.performAll operations) := by
  induction operations generalizing link with
  | nil => exact refl_of Steps link
  | cons operation rest ih => exact trans_of Steps (steps_perform link operation) (ih _)

theorem did_trace (link : Link σ) (operations : List Operation) :
    Line.Did (link.trace operations) link.line (link.performAll operations).line := by
  obtain ⟨events, did⟩ := (steps_performAll link operations).did
  rw [trace, did.since_eq]
  exact did

theorem trace_append (link : Link σ) (first second : List Operation) :
    link.trace (first ++ second) = link.trace first ++ (link.performAll first).trace second := by
  have did := (did_trace link first).append (did_trace (link.performAll first) second)
  rw [← performAll_append] at did
  exact did.since_eq

end Link

end RadioLink
