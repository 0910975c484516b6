import RadioLink.Link.Reception
import RadioLink.Proofs.ReadySignal
import RadioLink.Proofs.Sending

/-!
What the operations of a link can do to its line, said once. Each of them is a series of a few kinds
of steps. Only two kinds write, a frame and the byte that asks for a link reset, and both take the
ready signal down first; a frame needs the signal to be up. What every step keeps, every operation
keeps.
-/

namespace RadioLink

def Call.isWrite : Call → Bool
  | .write _ => true
  | _ => false

namespace Line

variable {σ : Type} [Peer σ]

inductive Step : Line σ → Line σ → Prop where
  | log (line : Line σ) (log : Log) : Step line { line with log }
  | call (line : Line σ) {c : Call} (other : c.isWrite = false) :
      Step line ((Line.call c).outcome line).2
  | read (line : Line σ) (room : Nat) : Step line ((Line.read room).outcome line).2
  | delay (line : Line σ) (span : Micros) : Step line (line.delay span)
  | irq (line : Line σ) (enabled : Bool) : Step line (line.setIrq enabled)
  | clearReady (line : Line σ) : Step line line.clearReady
  | reset (line : Line σ) :
      Step line ((Line.call (.write [Control.reset])).outcome line.clearReady).2
  | frame (line : Line σ) (parcel : Parcel) (ready : line.ready.isSet = true) :
      Step line ((Line.call (.write parcel.wire)).outcome line.clearReady).2

def Steps : Line σ → Line σ → Prop := Relation.ReflTransGen Step

theorem Step.steps {before after : Line σ} (step : Step before after) : Steps before after :=
  .single step

instance : IsPreorder (Line σ) Steps where
  refl _ := .refl
  trans _ _ _ := .trans

theorem steps_call {c : Call} (other : c.isWrite = false) :
    Action.Keeps Steps (call c : Action Fault (Line σ) Unit) :=
  fun line => (Step.call line other).steps

theorem steps_read (room : Nat) : Action.Keeps Steps (read room : Action Fault (Line σ) Bytes) :=
  fun line => (Step.read line room).steps

theorem steps_awaitReadyFrom (start timeout : Micros) (count : Nat) (line : Line σ) :
    line.Steps (awaitReadyFrom start timeout count line).2 :=
  related_awaitReadyFrom (fun line => (Step.delay line pollInterval).steps) start timeout count line

end Line

namespace Transport

variable {σ α : Type} [Peer σ]

def Steps (before after : Transport σ) : Prop := before.line.Steps after.line

instance : IsPreorder (Transport σ) Steps where
  refl transport := refl_of Line.Steps transport.line
  trans _ _ _ early late := trans_of Line.Steps early late

theorem Steps.same {before after : Transport σ} (line : after.line = before.line) :
    Steps before after := by
  rw [Steps, line]
  exact .refl

theorem steps_note (transport : Transport σ) (notice : Notice) :
    Steps transport (transport.note notice) :=
  (Line.Step.log transport.line _).steps

theorem steps_device {action : Action Fault (Line σ) α} (kept : Action.Keeps Line.Steps action) :
    Action.Keeps Steps (device action) :=
  kept.mapError.within fun _ _ steps => steps

theorem steps_resetReceived : Action.Keeps Steps (resetReceived : Action LinkError (Transport σ) Unit) :=
  .bind (.change fun _ => .same rfl) fun _ => steps_device (Line.steps_call rfl)

theorem steps_armReceiver : Action.Keeps Steps (armReceiver : Action LinkError (Transport σ) Unit) :=
  .bind steps_resetReceived fun _ => steps_device (Line.steps_call rfl)

theorem steps_resetLink : Action.Keeps Steps (resetLink : Action LinkError (Transport σ) Unit) := by
  refine .bind steps_resetReceived fun _ transport => ?_
  rw [Action.outcome_change_bind, device, Action.outcome_within, Action.outcome_mapError]
  exact (Line.Step.reset transport.line).steps

theorem steps_awaitReadySince (transport : Transport σ) (start timeout : Micros) :
    transport.Steps (transport.awaitReadySince start timeout).2 :=
  Line.steps_awaitReadyFrom start timeout (Line.pollCount timeout) transport.line

theorem steps_send (dataId : UInt8) (payload : Bytes) :
    Action.Keeps Steps (send dataId payload : Action LinkError (Transport σ) Unit) := by
  intro transport
  rcases transport.refuses_or_ready payload with ⟨error, refuses⟩ | ⟨fits, ready⟩
  · obtain ⟨log, ran⟩ := send_refused dataId refuses
    rw [ran]
    exact (Line.Step.log transport.line log).steps
  · have written := (Line.Step.frame transport.line (transport.nextParcel dataId fits) ready).steps
    rw [send_of_ready dataId fits ready, Action.outcome_bind, device, Action.outcome_within,
      Action.outcome_mapError]
    dsimp only
    generalize (Line.call _).outcome transport.line.clearReady = run at written ⊢
    obtain ⟨result, line⟩ := run
    cases result with
    | error fault => exact written
    | ok => exact written.tail (.log line _)

theorem steps_pump : Action.Keeps Steps (pump : Action LinkError (Transport σ) Unit) := by
  refine .bind .get fun transport => ?_
  split
  · exact .bind (steps_device (Line.steps_read _)) fun _ => .change fun _ => .same rfl
  · exact .pure _

theorem steps_accept (frame : Bytes) :
    Action.Keeps Steps (accept frame : Action LinkError (Transport σ) Frame) := by
  unfold accept
  split
  · exact .pure _
  · exact .bind (.change fun _ => steps_note _ _) fun _ => .throw _

theorem steps_awaitFrameFrom (start timeout : Micros) (count : Nat) :
    Action.Keeps Steps (awaitFrameFrom start timeout count : Action LinkError (Transport σ) Nat) := by
  induction count with
  | zero => exact .throw _
  | succ count ih =>
    refine .bind steps_pump fun _ => .bind .get fun transport => ?_
    split
    · exact .pure _
    split
    · exact .throw _
    · exact .bind (.change fun transport => (Line.Step.delay transport.line _).steps) fun _ => ih

theorem steps_exchange (dataId : UInt8) (payload : Bytes) :
    Action.Keeps Steps (exchange dataId payload : Action LinkError (Transport σ) Frame) := by
  refine .bind .get fun _ => .bind .get fun _ =>
    .bind (.total fun transport => steps_awaitReadySince transport _ _) fun ready => ?_
  split
  · exact .throw _
  · exact .bind (steps_send dataId payload) fun _ => .bind (steps_awaitFrameFrom _ _ _) fun _ =>
      .bind .get fun _ => steps_accept _

theorem steps_request (dataId : UInt8) (payload : Bytes) (room : Nat) :
    Action.Keeps Steps (request dataId payload room : Action LinkError (Transport σ) Bytes) :=
  .bind (.attempt (steps_exchange dataId payload)) fun _ => .bind steps_armReceiver fun _ =>
    .bind (.ofExcept _) fun _ => .pure _

theorem steps_pollFrame :
    Action.Keeps Steps (pollFrame : Action LinkError (Transport σ) (Option Frame)) := by
  refine .bind steps_pump fun _ => .bind .get fun transport => ?_
  dsimp only
  split
  · exact .pure _
  · exact .bind steps_armReceiver fun _ => .bind (.change fun _ => steps_note _ _) fun _ =>
      .map (steps_accept _)

end Transport

namespace Link

variable {σ α ε : Type} [Peer σ]

structure ReceptionKeeps (R : Link σ → Link σ → Prop) : Prop where
  alarm (link : Link σ) (alarm : Alarm) : R link { link with rxAlarm := alarm }
  note (link : Link σ) (notice : Notice) : R link (link.note notice)
  dispatch (link : Link σ) (frame : Frame) : R link (link.dispatch frame)
  pump : Action.Keeps R (onTransport Transport.pump : Action LinkError (Link σ) Unit)
  arm : Action.Keeps R (onTransport Transport.armReceiver : Action LinkError (Link σ) Unit)
  poll : Action.Keeps R (onTransport Transport.pollFrame : Action LinkError (Link σ) (Option Frame))

namespace ReceptionKeeps

variable {R : Link σ → Link σ → Prop} [IsPreorder (Link σ) R] (parts : ReceptionKeeps R)

include parts

theorem receiveFrame : Action.Keeps R (receiveFrame : Action LinkError (Link σ) Unit) := by
  have told : ∀ notice link, R link ({ link with rxAlarm := .off }.note notice) := fun notice link =>
    trans_of R (parts.alarm link .off) (parts.note _ notice)
  refine .bind .get fun _ => .bind (.change fun link => parts.alarm link _) fun _ =>
    .bind (.attempt parts.poll) fun result => ?_
  split
  · exact .change fun link => trans_of R (parts.alarm link .off) (parts.dispatch _ _)
  · refine .bind .get fun link => ?_
    split
    · exact .bind (.change (told _)) fun _ => parts.arm
    · exact .pure _
  · exact .throw _
  · exact .change (told _)

theorem receive : Action.Keeps R (receive : Action LinkError (Link σ) Unit) := by
  refine .bind parts.pump fun _ => .bind .get fun link => ?_
  dsimp only
  split
  · exact .pure _
  split
  · exact parts.receiveFrame
  split
  · exact parts.arm
  · exact .bind (.change fun link => parts.note link _) fun _ => parts.arm

theorem tick (associated : ∀ link, R link link.associate) (counted : ∀ link, R link link.countUptime) :
    Action.Keeps R (tick : Action LinkError (Link σ) Unit) := by
  have rest : Action.Keeps R (Action.change associate >>= fun _ => Action.change countUptime :
      Action LinkError (Link σ) Unit) :=
    .bind (.change associated) fun _ => .change counted
  refine .bind (.attempt parts.receive) fun result => ?_
  split
  · exact rest
  · exact .throw _
  · exact .bind (.change fun link => parts.note link _) fun _ => rest

end ReceptionKeeps

def Steps (before after : Link σ) : Prop := before.line.Steps after.line

instance : IsPreorder (Link σ) Steps where
  refl link := refl_of Line.Steps link.line
  trans _ _ _ early late := trans_of Line.Steps early late

theorem Steps.same {before after : Link σ} (line : after.line = before.line) :
    Steps before after := by
  rw [Steps, line]
  exact .refl

theorem steps_note (link : Link σ) (notice : Notice) : Steps link (link.note notice) :=
  (Line.Step.log link.line _).steps

theorem steps_onTransport {action : Action ε (Transport σ) α}
    (kept : Action.Keeps Transport.Steps action) : Action.Keeps Steps (onTransport action) :=
  kept.within fun _ _ steps => steps

theorem steps_dispatch (link : Link σ) (frame : Frame) : Steps link (link.dispatch frame) := by
  unfold dispatch
  dsimp only
  split <;> exact (Line.Step.log link.line _).steps

theorem receptionKeeps_steps : ReceptionKeeps (Steps : Link σ → Link σ → Prop) where
  alarm _ _ := .same rfl
  note := steps_note
  dispatch := steps_dispatch
  pump := steps_onTransport Transport.steps_pump
  arm := steps_onTransport Transport.steps_armReceiver
  poll := steps_onTransport Transport.steps_pollFrame

theorem steps_associate (link : Link σ) : Steps link link.associate :=
  Association.related_poll (R := Transport.Steps) Transport.steps_send Transport.steps_note
    link.toAssociation link.telemetry link.settings.connectTimeout

theorem steps_tick : Action.Keeps Steps (tick : Action LinkError (Link σ) Unit) :=
  receptionKeeps_steps.tick steps_associate fun _ => .same rfl

end Link

end RadioLink
