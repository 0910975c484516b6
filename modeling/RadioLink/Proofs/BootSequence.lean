import RadioLink.Lifecycle
import RadioLink.Proofs.Reception

/-!
Starting firmware. Reset and handshake go through the transport alone and touch nothing else of the
link, and a handshake that was answered leaves an empty receive buffer. A provisioning cycle that has
something to provision with resets into the boot loader and works on the line from there.
-/

namespace RadioLink

def Firmware.Offer.image? (offer : Firmware.Offer) : Option Firmware.Image :=
  match offer.firmware with
  | .ok (some (.ok bytes)) =>
    (Firmware.Image.ofFile bytes).toOption.map fun image => { image with fault := offer.fault }
  | _ => none

/-- A link reset fails when the input cannot be discarded, and comes down to one write otherwise. -/
theorem Transport.resetLink_cases {σ : Type} [Peer σ] (transport : Transport σ) :
    (∃ fault, ((Line.call .clear).outcome transport.line).1 = .error fault ∧
      resetLink.outcome transport = (.error (.io fault), { transport with
        received := [], line := ((Line.call .clear).outcome transport.line).2 })) ∨
    (((Line.call .clear).outcome transport.line).1 = .ok () ∧
      resetLink.outcome transport = (device (Line.call (.write [Control.reset]))).outcome { transport with
        received := [], line := ((Line.call .clear).outcome transport.line).2.clearReady }) := by
  rw [resetLink, resetReceived, Action.outcome_bind, Action.outcome_change_bind, device,
    Action.outcome_within, Action.outcome_mapError]
  dsimp only
  rcases (Line.call .clear).outcome transport.line with ⟨fault | done, line⟩
  · exact .inl ⟨fault, rfl, rfl⟩
  · exact .inr ⟨rfl, rfl⟩

namespace Link

variable {σ α ε : Type}

def OnlyTransport (before after : Link σ) : Prop :=
  after = { before with transport := after.transport }

instance : IsPreorder (Link σ) OnlyTransport where
  refl _ := rfl
  trans _ _ _ early late := late.trans (by rw [early])

theorem onlyTransport_onTransport (action : Action ε (Transport σ) α) :
    Action.Keeps OnlyTransport (onTransport action) :=
  fun link => by rw [outcome_onTransport]; rfl

theorem onlyTransport_notes (notices : List Notice) (link : Link σ) :
    OnlyTransport link (notices.foldl note link) := by
  induction notices generalizing link with
  | nil => exact refl_of OnlyTransport link
  | cons notice rest ih =>
    have noted : OnlyTransport link (link.note notice) := rfl
    exact trans_of OnlyTransport noted (ih (link.note notice))

/-- The link at the beginning of a provisioning cycle, with what getting at the images had to say. -/
def briefed (link : Link σ) : Link σ :=
  (link.images.offer link.cycles).notices.foldl note { link with cycles := link.cycles + 1 }

theorem onlyTransport_briefed (link : Link σ) :
    OnlyTransport { link with cycles := link.cycles + 1 } link.briefed :=
  onlyTransport_notes _ _

/-- Notices go to the log and leave the line alone otherwise. -/
theorem line_briefed (link : Link σ) : ∃ log, link.briefed.line = { link.line with log } := by
  have noted : ∀ (notices : List Notice) (link : Link σ),
      ∃ log, (notices.foldl note link).line = { link.line with log } := by
    intro notices
    induction notices with
    | nil => exact fun link => ⟨link.line.log, rfl⟩
    | cons notice rest ih => exact fun link => ih (link.note notice)
  exact noted _ _

theorem history_briefed (link : Link σ) : link.briefed.line.history = link.line.history := by
  obtain ⟨log, same⟩ := line_briefed link
  rw [same]

theorem now_briefed (link : Link σ) : link.briefed.line.now = link.line.now := by
  obtain ⟨log, same⟩ := line_briefed link
  rw [same]

variable [Peer σ]

theorem onlyTransport_enterMode (mode : BootMode) :
    Action.Keeps OnlyTransport (enterMode mode : Action LinkError (Link σ) Unit) := by
  refine .bind .get fun link => ?_
  exact .bind (.change fun _ => rfl) fun _ => .bind (onlyTransport_onTransport _) fun _ =>
    .bind (onlyTransport_onTransport _) fun _ => .bind (.change fun _ => rfl) fun _ =>
    .bind (onlyTransport_onTransport _) fun _ => .bind (.change fun _ => rfl) fun _ =>
    .bind (onlyTransport_onTransport _) fun _ => onlyTransport_onTransport _

theorem onlyTransport_handshake :
    Action.Keeps OnlyTransport (handshake : Action LinkError (Link σ) Bool) := by
  refine .bind (.change fun _ => rfl) fun _ => .bind (.change fun _ => rfl) fun _ =>
    .bind (.change fun _ => rfl) fun _ => .bind (onlyTransport_onTransport _) fun _ =>
    .bind (onlyTransport_onTransport _) fun acknowledged => ?_
  split
  · exact .bind (onlyTransport_onTransport _) fun _ => .pure _
  · exact .pure _

theorem onlyTransport_holdReset :
    Action.Keeps OnlyTransport (holdReset : Action LinkError (Link σ) Unit) :=
  .bind (.change fun _ => rfl) fun _ => onlyTransport_onTransport _

theorem received_of_handshake {link ready : Link σ} (ran : handshake.outcome link = (.ok true, ready)) :
    ready.transport.received = [] := by
  rw [handshake, Action.outcome_change_bind, Action.outcome_change_bind,
    Action.outcome_change_bind] at ran
  obtain ⟨_, reset, -, ran⟩ := Action.of_outcome_bind_ok ran
  obtain ⟨acknowledged, awaited, -, ran⟩ := Action.of_outcome_bind_ok ran
  cases acknowledged with
  | false => cases (Prod.mk.inj ran).1
  | true =>
    obtain ⟨_, armed, strobed, done⟩ := Action.of_outcome_bind_ok ran
    obtain ⟨-, rfl⟩ := Prod.mk.inj done
    rw [outcome_onTransport] at strobed
    rcases Transport.armReceiver_cases awaited.transport with
      ⟨fault, after, failed, -⟩ | ⟨_, line, -, through, -⟩
    · rw [failed] at strobed
      cases (Prod.mk.inj strobed).1
    · rw [through] at strobed
      obtain ⟨-, rfl⟩ := Prod.mk.inj strobed
      rfl

inductive Cycle (link : Link σ) :
    Except ProvisionError (Option Provisioning.Outcome) × Link σ → Prop where
  | imageless (lacking : (link.images.offer link.cycles).firmware = .ok none) :
      Cycle link (.ok none, link.briefed)
  | stubless (lacking : (link.images.offer link.cycles).stub = .ok none) :
      Cycle link (.ok none, link.briefed.note .noStub)
  /-- The image or the stub is there and cannot be read. -/
  | unread (error : ProvisionError) : Cycle link (.error error, link.briefed)
  /-- The reset into the boot loader fails. -/
  | stuck {error : LinkError} {after : Link σ}
      (entered : (enterMode .rom).outcome link.briefed = (.error error, after)) :
      Cycle link (.error (.link error), after)
  | ran {image : Firmware.Image} {reached : Link σ} (stub : Firmware.Stub)
      (offered : (link.images.offer link.cycles).image? = some image)
      (entered : (enterMode .rom).outcome link.briefed = (.ok (), reached)) :
      Cycle link ((some <$> runProvisioning image stub).outcome reached)

theorem provision_cycle (link : Link σ) : Cycle link (provision.outcome link) := by
  rw [provision, Action.outcome_get_bind, Action.outcome_get_bind, Action.outcome_change_bind,
    Action.outcome_change_bind, ← briefed, Action.outcome_bind, Action.outcome_ofExcept]
  rcases firmware : (link.images.offer link.cycles).firmware with fault | - | file
  · exact .unread _
  · exact .imageless firmware
  dsimp only [Except.mapError]
  rw [Action.outcome_bind, Action.outcome_ofExcept]
  rcases stubs : (link.images.offer link.cycles).stub with error | - | stub
  · exact .unread _
  · exact .stubless stubs
  dsimp only
  rw [Action.outcome_bind, Action.outcome_ofExcept]
  rcases file with fault | bytes
  · exact .unread _
  dsimp only [Except.mapError]
  rw [Action.outcome_bind, Action.outcome_ofExcept]
  rcases read : Firmware.Image.ofFile bytes with error | image
  · exact .unread _
  have offered : (link.images.offer link.cycles).image? =
      some { image with fault := (link.images.offer link.cycles).fault } := by
    simp only [Firmware.Offer.image?, firmware, read]
    rfl
  dsimp only
  rw [Action.outcome_bind, Action.outcome_mapError]
  rcases entered : (enterMode .rom).outcome link.briefed with ⟨error | done, reached⟩
  · exact .stuck entered
  · exact .ran stub offered entered

end Link

namespace Lifecycle

variable {σ : Type} [Peer σ]

theorem onlyTransport_bootApplication :
    Action.Keeps Link.OnlyTransport (bootApplication : Action LinkError (Link σ) Bool) :=
  .bind (Link.onlyTransport_enterMode .application) fun _ => Link.onlyTransport_handshake

/-- After an answered handshake the receiver starts afresh. -/
theorem receiver_of_bootApplication {link ready : Link σ}
    (booted : bootApplication.outcome link.resetSession = (.ok true, ready)) :
    ready.receiver.buffer = [] ∧ ready.receiver.alarm = .off := by
  have same := onlyTransport_bootApplication link.resetSession
  rw [booted] at same
  obtain ⟨_, entered, -, shaken⟩ := Action.of_outcome_bind_ok booted
  exact ⟨Link.received_of_handshake shaken, congrArg Link.rxAlarm same⟩

end Lifecycle

end RadioLink
