import RadioLink.Proofs.LiveRun
import RadioLink.Proofs.RetryPolicy

/-!
A live link is lost through the device alone. Reception reads, drops its input and strobes, and does
nothing else on the line; it ends with an error exactly if one of these failed. What the association
manager sends may fail without a consequence, and nothing that the far side sends makes a pass fail.
So the alive stage goes on for as long as the device works.
-/

namespace RadioLink

namespace Event

def isReceiving : Event → Bool
  | took _ | readFailed | done .clear | failed .clear | done .pulse | failed .pulse => true
  | edge _ | arrived _ => true
  | _ => false

def losesLink : Event → Bool
  | readFailed | failed .clear | failed .pulse => true
  | _ => false

variable {event : Event}

theorem isReceiving_of_isFarSide (far : event.isFarSide = true) : event.isReceiving = true := by
  cases event <;> simp [isFarSide, isReceiving] at far ⊢

theorem losesLink_of_isReceiving (receiving : event.isReceiving = true)
    (failure : event.isFailure = true) : event.losesLink = true := by
  cases event with
  | failed call => cases call <;> simp [isReceiving, losesLink] at receiving ⊢
  | readFailed => rfl
  | _ => simp [isFailure] at failure

theorem losesLink_of_not_isFailure (fine : event.isFailure = false) : event.losesLink = false := by
  cases event <;> simp [isFailure, losesLink] at fine ⊢

theorem losesLink_of_isSending (sending : event.isSending = true) : event.losesLink = false := by
  cases event with
  | failed call => cases call <;> simp [isSending, losesLink] at sending ⊢
  | readFailed => simp [isSending] at sending
  | _ => rfl

end Event

def LosesLink (events : List Event) : Prop := ∃ event ∈ events, event.losesLink = true

instance (events : List Event) : Decidable (LosesLink events) :=
  inferInstanceAs (Decidable (∃ event ∈ events, event.losesLink = true))

theorem losesLink_append {first second : List Event} :
    LosesLink (first ++ second) ↔ LosesLink first ∨ LosesLink second := by
  simp only [LosesLink, List.mem_append, or_and_right, exists_or]

theorem Sending.not_losesLink {events : List Event} (sending : Sending events) :
    ¬LosesLink events := by
  rintro ⟨event, member, loses⟩
  rw [Event.losesLink_of_isSending (sending event member)] at loses
  contradiction

theorem Noise.not_losesLink {events : List Event} (noise : Noise events) : ¬LosesLink events :=
  noise.sending.not_losesLink

theorem Sound.not_losesLink {events : List Event} (sound : Sound events) : ¬LosesLink events := by
  rintro ⟨event, member, loses⟩
  rw [Event.losesLink_of_not_isFailure (sound event member)] at loses
  contradiction

theorem not_losesLink_taking (bytes : Bytes) : ¬LosesLink (taking bytes) := by
  rintro ⟨event, member, loses⟩
  rw [mem_taking member] at loses
  contradiction

theorem Arming.not_losesLink {events : List Event} (arming : Arming events) : ¬LosesLink events := by
  obtain ⟨early, late, far, away, rfl⟩ := arming
  have first := far.not_losesLink
  have second := away.not_losesLink
  have split : .done .clear :: (early ++ .done .pulse :: late) =
      [.done .clear] ++ (early ++ ([.done .pulse] ++ late)) := rfl
  have cleared : ¬LosesLink [.done .clear] := by decide
  have strobed : ¬LosesLink [.done .pulse] := by decide
  simp only [split, losesLink_append, not_or]
  exact ⟨cleared, first, strobed, second⟩

namespace Receiver

variable {now : Micros} {receiver next : Receiver} {events : List Event}

theorem not_losesLink_taking_append {arming : List Event} (armed : Arming arming) (bytes : Bytes) :
    ¬LosesLink (taking bytes ++ arming) := by
  rw [losesLink_append, not_or]
  exact ⟨not_losesLink_taking bytes, armed.not_losesLink⟩

theorem Advance.not_losesLink (advance : Advance now receiver events next) :
    ¬LosesLink events := by
  cases advance with
  | waiting => exact not_losesLink_taking _
  | dropped _ _ armed => exact not_losesLink_taking_append armed _
  | accepted _ _ armed => exact not_losesLink_taking_append armed _
  | rejected _ _ armed => exact not_losesLink_taking_append armed _

/-- Whatever has arrived, a pass of the receiver that goes through does not lose the link. -/
theorem Pass.not_losesLink (pass : Pass now receiver events next) : ¬LosesLink events := by
  cases pass with
  | idle => exact not_losesLink_taking _
  | strayed _ _ armed => exact not_losesLink_taking_append armed _
  | framed _ advance =>
    rw [losesLink_append, not_or]
    exact ⟨not_losesLink_taking _, advance.not_losesLink⟩

end Receiver

variable {σ α ε : Type}

def Line.Receives (before after : Line σ) : Prop :=
  ∃ events, Did events before after ∧ ∀ event ∈ events, event.isReceiving = true

namespace Line.Receives

theorem same {before after : Line σ} (history : after.history = before.history) :
    before.Receives after :=
  Does.same history

theorem trans {before middle after : Line σ} (early : before.Receives middle)
    (late : middle.Receives after) : before.Receives after :=
  Does.trans early late

instance : IsPreorder (Line σ) Receives where
  refl _ := .same rfl
  trans _ _ _ := .trans

variable [Peer σ]

theorem call {c : Call} (finished : (Event.done c).isReceiving = true)
    (broken : (Event.failed c).isReceiving = true) :
    Action.Keeps Receives (Line.call c : Action Fault (Line σ) Unit) :=
  Does.call finished broken fun _ => Event.isReceiving_of_isFarSide

theorem read (room : Nat) : Action.Keeps Receives (Line.read room : Action Fault (Line σ) Bytes) := by
  intro line
  rcases read_cases room line with ⟨_, _, episode⟩ | ⟨bytes, _, _, episode⟩
  · exact ⟨_, episode.did, by simp [Event.isReceiving]⟩
  · refine ⟨_, episode.did, fun event member => ?_⟩
    rw [mem_taking member]
    rfl

end Line.Receives

namespace Transport

def Receives (before after : Transport σ) : Prop := before.line.Receives after.line

instance : IsPreorder (Transport σ) Receives where
  refl transport := refl_of Line.Receives transport.line
  trans _ _ _ early late := trans_of Line.Receives early late

theorem receives_device {action : Action Fault (Line σ) α}
    (kept : Action.Keeps Line.Receives action) : Action.Keeps Receives (device action) :=
  kept.mapError.within fun _ _ receives => receives

variable [Peer σ]

theorem receives_pump : Action.Keeps Receives (pump : Action LinkError (Transport σ) Unit) := by
  refine .bind .get fun transport => ?_
  split
  · exact .bind (receives_device (.read _)) fun _ => .change fun _ => .same rfl
  · exact .pure _

theorem receives_armReceiver :
    Action.Keeps Receives (armReceiver : Action LinkError (Transport σ) Unit) := by
  have dropped : Action.Keeps Receives (resetReceived : Action LinkError (Transport σ) Unit) :=
    .bind (.change fun _ => .same rfl) fun _ => receives_device (.call rfl rfl)
  exact .bind dropped fun _ => receives_device (.call rfl rfl)

theorem receives_pollFrame :
    Action.Keeps Receives (pollFrame : Action LinkError (Transport σ) (Option Frame)) := by
  refine .bind receives_pump fun _ => .bind .get fun transport => ?_
  dsimp only
  split
  · exact .pure _
  refine .bind receives_armReceiver fun _ => .bind (.change fun _ => .same rfl) fun _ => .map ?_
  unfold accept
  split
  · exact .pure _
  · exact .bind (.change fun _ => .same rfl) fun _ => .throw _

end Transport

namespace Link

def Receives (before after : Link σ) : Prop := before.line.Receives after.line

instance : IsPreorder (Link σ) Receives where
  refl link := refl_of Line.Receives link.line
  trans _ _ _ early late := trans_of Line.Receives early late

theorem receives_onTransport {action : Action ε (Transport σ) α}
    (kept : Action.Keeps Transport.Receives action) : Action.Keeps Receives (onTransport action) :=
  kept.within fun _ _ receives => receives

variable [Peer σ]

theorem receptionKeeps_receives : ReceptionKeeps (Receives : Link σ → Link σ → Prop) where
  alarm _ _ := .same rfl
  note _ _ := .same rfl
  dispatch link frame := by
    obtain ⟨quiet, -, -⟩ := dispatch_episode link frame
    exact ⟨[], quiet, by simp⟩
  pump := receives_onTransport Transport.receives_pump
  arm := receives_onTransport Transport.receives_armReceiver
  poll := receives_onTransport Transport.receives_pollFrame

inductive Ends (link : Link σ) : Except LinkError Unit × Link σ → Prop where
  | lost {fault : Fault} {after : Link σ} {events : List Event}
      (did : Line.Did events link.line after.line) (loses : LosesLink events) :
      Ends link (.error (.io fault), after)
  | through {after : Link σ} {events : List Event} (did : Line.Did events link.line after.line)
      (kept : ¬LosesLink events) : Ends link (.ok (), after)

theorem receive_ends (link : Link σ) : Ends link (receive.outcome link) := by
  obtain ⟨events, did, receiving⟩ := receptionKeeps_receives.receive link
  have ran := receive_cases link
  generalize receive.outcome link = run at ran did
  cases ran with
  | broken faulty =>
    obtain ⟨others, episode, event, member, failure⟩ := faulty
    have same : others = events := by rw [← episode.did.since_eq, did.since_eq]
    rw [same] at member
    exact .lost did ⟨event, member, Event.losesLink_of_isReceiving (receiving event member) failure⟩
  | through episode pass => exact .through episode.did pass.not_losesLink

/-- A pass fails through a failure of the device, and only through one that reception met with. -/
theorem tick_ends (link : Link σ) : Ends link (tick.outcome link) := by
  rw [tick, Action.outcome_bind, Action.outcome_attempt]
  have received := receive_ends link
  generalize receive.outcome link = run at received ⊢
  cases received with
  | lost did loses => exact .lost did loses
  | @through after events did kept =>
    dsimp only
    rw [Action.outcome_change_bind, Action.outcome_change]
    obtain ⟨⟨sent, next, sending⟩, -, -⟩ :=
      Association.sends_poll after.toAssociation after.telemetry after.settings.connectTimeout
    refine .through (did.append next.did) ?_
    rw [losesLink_append, not_or]
    exact ⟨kept, sending.not_losesLink⟩

end Link

namespace Lifecycle

theorem did_entering (cycle : Lifecycle σ) (entered : Bool) :
    Line.Did [] cycle.link.line (cycle.entering entered).line := by
  cases entered <;> exact .same rfl

variable [Peer σ]

def pass? (cycle : Lifecycle σ) : Option (Except LinkError Unit) :=
  match cycle.stage with
  | .alive entered =>
    if cycle.shutdownRequested then none else some (Link.tick.outcome (cycle.entering entered)).1
  | _ => none

inductive Living (cycle : Lifecycle σ) : Prop where
  | asked (requested : cycle.shutdownRequested = true)
      (stage : cycle.step.stage = .shutdown false false) (kept : ¬LosesLink cycle.stepEvents)
  | lost {fault : Fault} (calm : cycle.shutdownRequested = false)
      (pass : cycle.pass? = some (.error (.io fault))) (stage : cycle.step.stage = .error)
      (loses : LosesLink cycle.stepEvents)
  | on (calm : cycle.shutdownRequested = false) (pass : cycle.pass? = some (.ok ()))
      (stage : cycle.step.stage = .alive true) (kept : ¬LosesLink cycle.stepEvents)

variable {cycle : Lifecycle σ} {entered : Bool}

theorem pass?_of_alive (alive : cycle.stage = .alive entered)
    (calm : cycle.shutdownRequested = false) :
    cycle.pass? = some (Link.tick.outcome (cycle.entering entered)).1 := by
  simp [pass?, alive, calm]

theorem living (alive : cycle.stage = .alive entered) : Living cycle := by
  have announced := did_entering cycle entered
  have ends := Link.tick_ends (cycle.entering entered)
  have stepped := step_cases cycle
  rw [alive] at stepped
  generalize next : cycle.step = after at stepped
  cases stepped with
  | asked requested =>
    refine .asked requested (by rw [next]) ?_
    rw [stepEvents, next, (Line.Did.refl cycle.link.line).since_eq]
    exact Noise.nil.not_losesLink
  | @passed _ link calm ran =>
    have made := pass?_of_alive alive calm
    rw [ran] at made ends
    cases ends with
    | @through _ events did kept =>
      obtain ⟨noise, far, paused, -⟩ := Line.delay_events link.line alivePause
      have whole : Line.Did (events ++ noise) cycle.link.line cycle.step.link.line := by
        rw [next]
        exact announced.append (did.append paused)
      refine .on calm made (by rw [next]) ?_
      rw [stepEvents, whole.since_eq, losesLink_append, not_or]
      exact ⟨kept, far.not_losesLink⟩
  | lost calm ran noted =>
    have made := pass?_of_alive alive calm
    obtain ⟨log, rfl⟩ := noted
    rw [ran] at made ends
    cases ends with
    | @lost fault _ events did loses =>
      have whole : Line.Did events cycle.link.line cycle.step.link.line := by
        rw [next]
        exact announced.append did
      refine .lost calm made (by rw [next]) ?_
      rw [stepEvents, whole.since_eq]
      exact loses

section

variable {start : Lifecycle σ} {requests : Nat → Bool} {n : Nat}

/-- One step after the other, the stage is alive, and every pass has gone through. -/
theorem alive_after (alive : (start.trail requests n).stage = .alive entered) (count : Nat)
    (calm : ∀ k, n ≤ k → k < n + count → (start.trail requests k).shutdownRequested = false)
    (kept : ∀ k, n ≤ k → k < n + count → ¬LosesLink (start.trail requests k).stepEvents) :
    (∃ passed, (start.trail requests (n + count)).stage = .alive passed) ∧
      ∀ k, n ≤ k → k < n + count → (start.trail requests k).pass? = some (.ok ()) := by
  induction count with
  | zero => exact ⟨⟨entered, alive⟩, fun k low high => by omega⟩
  | succ count ih =>
    obtain ⟨⟨passed, still⟩, all⟩ :=
      ih (fun k low high => calm k low (by omega)) fun k low high => kept k low (by omega)
    have asks := calm (n + count) (by omega) (by omega)
    have keeps := kept (n + count) (by omega) (by omega)
    cases living still with
    | asked requested => simp [asks] at requested
    | lost _ _ _ loses => exact absurd loses keeps
    | on _ pass stage _ =>
      refine ⟨⟨true, (trail_stage start requests (n + count)).trans stage⟩, fun k low high => ?_⟩
      by_cases earlier : k < n + count
      · exact all k low earlier
      · rw [show k = n + count by omega]
        exact pass

/-- No traffic takes a live link down. Whatever the far side sends, and whenever it gets ready, the
alive stage goes on and every pass goes through as long as no call fails and no shutdown is asked for.
It is left for the error stage in exactly those steps in which a read, a discard or a strobe fails. -/
theorem alive_while_device_works (alive : (start.trail requests n).stage = .alive entered) :
    (∀ m, n ≤ m →
      (∀ k, n ≤ k → k < m → (start.trail requests k).shutdownRequested = false ∧
        Sound (start.trail requests k).stepEvents) →
      (∃ passed, (start.trail requests m).stage = .alive passed) ∧
        ∀ k, n ≤ k → k < m → (start.trail requests k).pass? = some (.ok ())) ∧
    ((start.trail requests (n + 1)).stage = .error ↔
      LosesLink (start.trail requests n).stepEvents) ∧
    ((start.trail requests (n + 1)).stage = .alive true ↔
      (start.trail requests n).shutdownRequested = false ∧
        ¬LosesLink (start.trail requests n).stepEvents) := by
  refine ⟨fun m order fine => ?_, ?_⟩
  · obtain ⟨count, rfl⟩ := Nat.exists_eq_add_of_le order
    exact alive_after alive count (fun k low high => (fine k low high).1)
      fun k low high => (fine k low high).2.not_losesLink
  · rw [trail_stage]
    cases living alive with
    | asked requested stage kept => simp [requested, stage, kept]
    | lost calm _ stage loses => simp [stage, loses]
    | on calm _ stage kept => simp [calm, stage, kept]

end

/-- A far side that answers each strobe with something out of place: a stray control byte, a frame
with a wrong check, one with a length beyond the bound, an unknown message, a piece of a datagram that
was not announced, and a question. The seventh strobe fails. -/
def pestering : Simulation.Script :=
  { onPulse := [[{ bytes := [0x55, 1, 2] }],
      [{ bytes := [Control.data, 1, 2, 0x50, 0, 0, 0xaa, 0xbb] }],
      [{ bytes := [Control.data, 2, 0xff, 0x50, 0, 0] ++ List.replicate Frame.maxPayload 7 }],
      [{ bytes := (Parcel.mk 3 0x99 [0xaa] (by decide)).wire }],
      [{ bytes := (Parcel.mk 4 Message.datagramDataId [0xaa] (by decide)).wire }],
      [{ bytes := [Control.queryReady] }]]
    failures := [(.pulse, 6)] }

def pesteredStart : Lifecycle Simulation.Script :=
  { link := Link.start { peer := pestering } {} {} (.fixed none none) none }

theorem alive_while_device_works_pestered :
    (pesteredStart.trail (fun _ => false) 2).stage = .alive false ∧
    (pesteredStart.trail (fun _ => false) 6).pass? = some (.ok ()) ∧
    (pesteredStart.trail (fun _ => false) 7).link.transport.commErrors = 2 ∧
    (pesteredStart.trail (fun _ => false) 8).stage = .error := by
  have alive : (pesteredStart.trail (fun _ => false) 2).stage = .alive false := by decide +kernel
  have fine : ∀ k, 2 ≤ k → k < 7 → (pesteredStart.trail (fun _ => false) k).shutdownRequested = false ∧
      Sound (pesteredStart.trail (fun _ => false) k).stepEvents := by decide +kernel
  obtain ⟨⟨passed, still⟩, all⟩ := (alive_while_device_works alive).1 7 (by decide) fine
  have broken : LosesLink (pesteredStart.trail (fun _ => false) 7).stepEvents := by decide +kernel
  exact ⟨alive, all 6 (by decide) (by decide), by decide +kernel,
    (alive_while_device_works still).2.1.mpr broken⟩

end Lifecycle

end RadioLink
