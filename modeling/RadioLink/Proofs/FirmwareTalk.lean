import RadioLink.Proofs.AliveStage

/-!
Talks with firmware that runs. Provisioning, the request for a link reset and a pass over a live link
read, write and change the baud rate; none of them touches the reset line, the boot strap or the mask
of the ready edge. A live link writes frames and nothing else.
-/

namespace RadioLink

namespace Flasher

variable {σ : Type} [Peer σ]

open Slip.Port

theorem keeps_sendCommand (command : UInt8) (arguments : List UInt32) :
    Action.Keeps (Talks fun _ => True) (sendCommand command arguments : Step σ Unit) :=
  .bind keeps_discard.mapError fun _ =>
    .bind (Action.Keeps.mapError (keeps_writePacket trivial)) fun _ =>
    Action.Keeps.mapError (keeps_writePacket trivial)

theorem keeps_digest (address length : UInt32) :
    Action.Keeps (Talks fun _ => True) (digest address length : Step σ Digest) := by
  refine .bind (keeps_sendCommand _ _) fun _ => .bind (keeps_readPacket _ _) fun packet => ?_
  cases packet with
  | none => exact .throw _
  | some packet =>
    dsimp only
    split
    · exact .pure _
    · exact .throw _

theorem keeps_writeImage (address : UInt32) (image : Firmware.Image) (length : UInt32) :
    Action.Keeps (Talks fun _ => True) (writeImage address image length : Step σ Unit) :=
  .bind (keeps_sendCommand _ _) fun _ => keeps_stream image length

end Flasher

namespace Provisioning

variable {σ α : Type}

open Workbench

def Workbench.Talks (before after : Workbench σ) : Prop :=
  Slip.Port.Talks (fun _ => True) before.port after.port

instance : IsPreorder (Workbench σ) Workbench.Talks where
  refl bench := refl_of (Slip.Port.Talks _) bench.port
  trans _ _ _ early late := trans_of (Slip.Port.Talks _) early late

theorem Workbench.keeps_onPort {action : Action ProvisionError (Slip.Port σ) α}
    (kept : Action.Keeps (Slip.Port.Talks fun _ => True) action) :
    Action.Keeps Workbench.Talks (onPort action) :=
  kept.within fun _ _ talks => talks

theorem Workbench.keeps_quiet {f : Workbench σ → Workbench σ}
    (same : ∀ bench, (f bench).port.line.history = bench.port.line.history ∧
      (f bench).port.line.now = bench.port.line.now) :
    Action.Keeps Workbench.Talks (Action.change f : Action ProvisionError (Workbench σ) Unit) :=
  .change fun bench => .same (same bench).1 (same bench).2

variable [Peer σ]

theorem keeps_flash (image : Firmware.Image) (expected : FirmwareDescriptor) :
    Action.Keeps Workbench.Talks
      (flash image expected : Action ProvisionError (Workbench σ) Outcome) := by
  unfold flash
  dsimp only
  split
  · exact .throw _
  refine .bind (keeps_quiet fun _ => ⟨rfl, rfl⟩) fun _ => .bind (.ofExcept _) fun _ =>
    .bind (keeps_onPort (Flasher.keeps_writeImage _ _ _)) fun _ =>
    .bind (keeps_onPort (Flasher.keeps_digest _ _)) fun written => ?_
  split
  · exact .throw _
  · exact .bind (keeps_quiet fun _ => ⟨rfl, rfl⟩) fun _ => .pure _

theorem keeps_actOn (verdict : Verdict) (image : Firmware.Image) (expected : FirmwareDescriptor) :
    Action.Keeps Workbench.Talks
      (actOn verdict image expected : Action ProvisionError (Workbench σ) Outcome) := by
  cases verdict with
  | flashFromFile =>
    unfold actOn
    exact keeps_flash image expected
  | adoptFileDigest =>
    exact .bind (keeps_quiet fun _ => ⟨rfl, rfl⟩) fun _ =>
      .bind (keeps_quiet fun _ => ⟨rfl, rfl⟩) fun _ => .pure _
  | _ => exact .bind (keeps_quiet fun _ => ⟨rfl, rfl⟩) fun _ => .pure _

/-- A provisioning cycle is a talk with the boot loader and the stub. -/
theorem keeps_run (settings : Settings) (image : Firmware.Image) (stub : Firmware.Stub) :
    Action.Keeps Workbench.Talks
      (run settings image stub : Action ProvisionError (Workbench σ) Outcome) := by
  have started : Action.Keeps (Slip.Port.Talks fun _ => True)
      (startStub settings stub : Action ProvisionError (Slip.Port σ) Unit) := by
    intro port
    obtain ⟨⟨events, did, talks⟩, ages⟩ := keeps_startStub settings stub port
    exact ⟨⟨events, did, fun event member => (talks event member).mono fun _ _ => trivial⟩, ages⟩
  exact .bind (keeps_onPort started) fun _ => .bind .get fun _ =>
    .bind (keeps_onPort (Flasher.keeps_digest _ _)) fun _ => .bind (.ofExcept _) fun _ =>
    .bind (keeps_quiet fun _ => ⟨rfl, rfl⟩) fun _ => keeps_actOn _ _ _

end Provisioning

variable {σ α ε : Type} {allowed : Bytes → Prop}

theorem Event.talks_of_isReceiving {event : Event} (receiving : event.isReceiving = true) :
    event.Talks allowed := by
  cases event with
  | done c | failed c => cases c <;> simp [isReceiving, Talks] at receiving ⊢
  | irq => simp [isReceiving] at receiving
  | _ => trivial

theorem Line.Receives.talks {before after : Line σ} (receives : before.Receives after) :
    before.Does (Event.Talks allowed) after := by
  obtain ⟨events, did, receiving⟩ := receives
  exact ⟨events, did, fun event member => Event.talks_of_isReceiving (receiving event member)⟩

namespace Transport

def Talks (allowed : Bytes → Prop) (before after : Transport σ) : Prop :=
  before.line.Does (Event.Talks allowed) after.line

instance : IsPreorder (Transport σ) (Talks allowed) where
  refl _ := .same rfl
  trans _ _ _ := .trans

variable [Peer σ]

theorem talks_call {c : Call} (talks : (Event.done c).Talks allowed) :
    Action.Keeps (Talks allowed) (device (Line.call c) : Action LinkError (Transport σ) Unit) :=
  .within (Q := Line.Does (Event.Talks allowed))
    (Action.Keeps.mapError (Line.Does.call talks talks.failed Event.talks_of_isFarSide))
    fun _ _ does => does

theorem talks_resetReceived :
    Action.Keeps (Talks allowed) (resetReceived : Action LinkError (Transport σ) Unit) :=
  .bind (.change fun _ => .same rfl) fun _ => talks_call trivial

theorem talks_armReceiver :
    Action.Keeps (Talks allowed) (armReceiver : Action LinkError (Transport σ) Unit) :=
  .bind talks_resetReceived fun _ => talks_call trivial

theorem talks_resetLink :
    Action.Keeps (Talks (· = [Control.reset])) (resetLink : Action LinkError (Transport σ) Unit) :=
  .bind talks_resetReceived fun _ =>
    .bind (.change fun transport => .clearReady trivial Event.talks_of_isFarSide transport.line) fun _ =>
    talks_call rfl

theorem talks_awaitReadyFrom (start timeout : Micros) (count : Nat) (line : Line σ) :
    line.Does (Event.Talks allowed) (Line.awaitReadyFrom start timeout count line).2 :=
  Line.related_awaitReadyFrom (fun line => .delay Event.talks_of_isFarSide line _) start timeout count line

theorem talks_awaitReady (timeout : Micros) (transport : Transport σ) :
    Talks allowed transport (transport.awaitReady timeout).2 :=
  talks_awaitReadyFrom transport.now timeout (Line.pollCount timeout) transport.line

/-- Frames are all that a send writes. -/
theorem talks_send (dataId : UInt8) (payload : Bytes) :
    Action.Keeps (Talks fun data => ∃ parcel : Parcel, data = parcel.wire)
      (send dataId payload : Action LinkError (Transport σ) Unit) := by
  intro before
  have talks {events : List Event} (idle : Idle events) :
      ∀ event ∈ events, event.Talks fun data => ∃ parcel : Parcel, data = parcel.wire :=
    fun event member => Event.talks_of_isIdle event (idle event member)
  have tries := send_tries dataId payload before
  generalize ((send dataId payload).outcome before).1 = result at tries
  generalize ((send dataId payload).outcome before).2 = after at tries ⊢
  cases tries with
  | refused _ noted =>
    obtain ⟨log, rfl⟩ := noted
    exact .same rfl
  | failed fits _ far episode =>
    have frame : ∃ parcel : Parcel, (before.nextParcel dataId fits).wire = parcel.wire := ⟨_, rfl⟩
    exact ⟨_, episode.did,
      List.forall_mem_append.mpr ⟨talks far.lowered, List.forall_mem_singleton.mpr frame⟩⟩
  | sent fits _ far away episode =>
    have frame : ∃ parcel : Parcel, (before.nextParcel dataId fits).wire = parcel.wire := ⟨_, rfl⟩
    exact ⟨_, episode.did,
      List.forall_mem_append.mpr ⟨talks far.lowered, List.forall_mem_cons.mpr ⟨frame, talks away.idle⟩⟩⟩

end Transport

namespace Link

def Talks (allowed : Bytes → Prop) (before after : Link σ) : Prop :=
  before.line.Does (Event.Talks allowed) after.line

instance : IsPreorder (Link σ) (Talks allowed) where
  refl _ := .same rfl
  trans _ _ _ := .trans

theorem talks_onTransport {action : Action ε (Transport σ) α}
    (kept : Action.Keeps (Transport.Talks allowed) action) :
    Action.Keeps (Talks allowed) (onTransport action) :=
  kept.within fun _ _ talks => talks

variable [Peer σ]

theorem talks_runProvisioning (image : Firmware.Image) (stub : Firmware.Stub) :
    Action.Keeps (Talks fun _ => True)
      (runProvisioning image stub : Action ProvisionError (Link σ) Provisioning.Outcome) :=
  .bind .get fun _ =>
    Action.Keeps.within (Provisioning.keeps_run _ image stub) fun _ _ talks => talks.does

theorem receptionKeeps_talks : ReceptionKeeps (Talks allowed : Link σ → Link σ → Prop) where
  alarm _ _ := .same rfl
  note _ _ := .same rfl
  dispatch link frame := (receptionKeeps_receives.dispatch link frame).talks
  pump link := (receptionKeeps_receives.pump link).talks
  arm link := (receptionKeeps_receives.arm link).talks
  poll link := (receptionKeeps_receives.poll link).talks

/-- A pass over a live link writes frames and nothing else. -/
theorem talks_tick :
    Action.Keeps (Talks fun data => ∃ parcel : Parcel, data = parcel.wire)
      (tick : Action LinkError (Link σ) Unit) := by
  apply receptionKeeps_talks.tick
  · intro link
    exact Association.related_poll Transport.talks_send (fun _ _ => .same rfl) link.toAssociation
      link.telemetry link.settings.connectTimeout
  · intro link
    exact .same rfl

end Link

end RadioLink
