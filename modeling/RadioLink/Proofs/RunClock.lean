import RadioLink.Proofs.FirmwareTalk

/-!
The clock over a run. It never runs backwards, whatever a step does. A start of the application
firmware is over within half a second, and neither a pass over a live link nor holding the
co-processor in reset takes any time.
-/

namespace RadioLink

namespace Line

variable {σ : Type} {before after : Line σ}

theorem Ages.le (ages : before.Ages after) (running : after.now < Micros.last) :
    before.now ≤ after.now := by
  have order : ∀ first second last : Nat, min (first + 0) last ≤ min (second + 0) last →
      second < last → first ≤ second := by omega
  exact order before.now after.now Micros.last (ages 0) running

variable [Peer σ]

theorem ages_awaitReadyFrom (start timeout : Micros) (count : Nat) (line : Line σ) :
    line.Ages (awaitReadyFrom start timeout count line).2 :=
  related_awaitReadyFrom (fun line => .delay line pollInterval) start timeout count line

/-- A wait for the ready signal ends one look after its bound at the latest. -/
theorem now_awaitReadyFrom_le (start timeout : Micros) (count : Nat) (line : Line σ) :
    (awaitReadyFrom start timeout count line).2.now ≤
      max line.now (start + timeout + pollInterval) := by
  induction count generalizing line with
  | zero => exact Nat.le_max_left _ _
  | succ count ih =>
    rw [awaitReadyFrom]
    split
    · exact Nat.le_max_left _ _
    split
    · exact Nat.le_max_left _ _
    next early =>
      have looked : (line.delay pollInterval).now ≤ line.now + pollInterval := by
        rw [now_delay]
        exact Micros.after_le_add _ _
      have bound : ∀ now start timeout interval delayed final : Nat, ¬timeout ≤ now - start →
          delayed ≤ now + interval → final ≤ max delayed (start + timeout + interval) →
          final ≤ max now (start + timeout + interval) := by omega
      exact bound _ _ _ _ _ _ early looked (ih _)

theorem now_awaitReady_le (line : Line σ) (timeout : Micros) :
    (line.awaitReady timeout).2.now ≤ line.now + (timeout + pollInterval) := by
  have bound := now_awaitReadyFrom_le line.now timeout (pollCount timeout) line
  have sum : ∀ now timeout interval final : Nat, final ≤ max now (now + timeout + interval) →
      final ≤ now + (timeout + interval) := by omega
  exact sum _ _ _ _ bound

end Line

namespace Link

variable {σ α β ε : Type} {span : Micros}

/-- Every run of the operation takes at most this long, also one that fails. -/
def Takes (span : Micros) (action : Action ε (Link σ) α) : Prop :=
  ∀ link, link.line.Ages (action.outcome link).2.line ∧
    (action.outcome link).2.line.now ≤ link.line.now + span

namespace Takes

theorem mono {longer : Micros} {action : Action ε (Link σ) α} (takes : Takes span action)
    (le : span ≤ longer) : Takes longer action :=
  fun link => ⟨(takes link).1, Nat.le_trans (takes link).2 (Nat.add_le_add_left le _)⟩

theorem bind {more : Micros} {action : Action ε (Link σ) α} {next : α → Action ε (Link σ) β}
    (first : Takes span action) (rest : ∀ a, Takes more (next a)) :
    Takes (span + more) (action >>= next) := by
  intro link
  obtain ⟨ages, soon⟩ := first link
  rw [Action.outcome_bind]
  rcases ran : action.outcome link with ⟨result, middle⟩
  rw [ran] at ages soon
  have sum : ∀ start span more middle final : Nat, middle ≤ start + span →
      final ≤ middle + more → final ≤ start + (span + more) := by omega
  cases result with
  | error e => exact ⟨ages, sum _ _ more _ _ soon (Nat.le_add_right _ _)⟩
  | ok a =>
    obtain ⟨later, ends⟩ := rest a middle
    exact ⟨trans_of Line.Ages ages later, sum _ _ _ _ _ soon ends⟩

/-- Two operations that take no time. -/
theorem seq {action : Action ε (Link σ) α} {next : α → Action ε (Link σ) β} (first : Takes 0 action)
    (rest : ∀ a, Takes 0 (next a)) : Takes 0 (action >>= next) :=
  first.bind rest

theorem instantly {action : Action ε (Link σ) α}
    (now : ∀ link, (action.outcome link).2.line.now = link.line.now) : Takes 0 action :=
  fun link => ⟨.same (now link), (now link).le⟩

theorem get : Takes 0 (MonadState.get : Action ε (Link σ) (Link σ)) := instantly fun _ => rfl

theorem pure (a : α) : Takes 0 (Pure.pure a : Action ε (Link σ) α) := instantly fun _ => rfl

theorem change {f : Link σ → Link σ} (now : ∀ link, (f link).line.now = link.line.now) :
    Takes 0 (Action.change f : Action ε (Link σ) Unit) :=
  instantly now

variable [Peer σ]

theorem call (c : Call) :
    Takes 0 (onTransport (Transport.device (Line.call c)) : Action LinkError (Link σ) Unit) := by
  apply instantly
  intro link
  rw [outcome_onTransport, Transport.device, Action.outcome_within, Action.outcome_mapError]
  exact Line.now_call c link.line

theorem delayMs (ms : Nat) :
    Takes (.ofMillis ms) (Action.change (Link.delayMs · ms) : Action ε (Link σ) Unit) :=
  fun link => ⟨.delay link.line _, (Line.now_delay link.line _).trans_le (Micros.after_le_add _ _)⟩

theorem resetReceived :
    Takes 0 (onTransport Transport.resetReceived : Action LinkError (Link σ) Unit) :=
  fun link => call .clear { link with transport := { link.transport with received := [] } }

end Takes

theorem onTransport_bind (first : Action ε (Transport σ) α) (next : α → Action ε (Transport σ) β) :
    onTransport (first >>= next) = (onTransport first >>= fun a => onTransport (next a)) := by
  funext link
  simp only [onTransport, Action.within, bind, EStateM.bind]
  cases first link.transport <;> rfl

variable [Peer σ]

theorem takes_armReceiver :
    Takes 0 (onTransport Transport.armReceiver : Action LinkError (Link σ) Unit) := by
  rw [Transport.armReceiver, onTransport_bind]
  exact .seq .resetReceived fun _ => .call .pulse

theorem takes_resetLink :
    Takes 0 (onTransport Transport.resetLink : Action LinkError (Link σ) Unit) := by
  rw [Transport.resetLink, onTransport_bind]
  refine .seq .resetReceived fun _ => ?_
  rw [onTransport_bind]
  exact .seq (.change fun link => Line.now_clearReady link.line) fun _ => .call _

theorem takes_awaitReady (timeout : Micros) :
    Takes (timeout + Line.pollInterval)
      (onTransport (Action.total (·.awaitReady timeout)) : Action LinkError (Link σ) Bool) :=
  fun link => ⟨Line.ages_awaitReadyFrom link.line.now timeout (Line.pollCount timeout) link.line,
    Line.now_awaitReady_le link.line timeout⟩

theorem takes_enterMode (mode : BootMode) :
    Takes 80000 (enterMode mode : Action LinkError (Link σ) Unit) := by
  cases mode <;>
  · refine .mono (.bind .get fun _ => .bind (.change fun _ => rfl) fun _ => .bind (.call _) fun _ =>
      .bind (.call _) fun _ => .bind (.delayMs _) fun _ => .bind (.call _) fun _ =>
      .bind (.delayMs _) fun _ => .bind (.call _) fun _ => .resetReceived) ?_
    decide

theorem takes_handshake : Takes 400050 (handshake : Action LinkError (Link σ) Bool) := by
  refine .mono (.bind (.change fun link => Line.now_clearReady link.line) fun _ =>
    .bind (.delayMs _) fun _ => .bind (.change fun _ => rfl) fun _ => .bind takes_resetLink fun _ =>
    .bind (takes_awaitReady _) fun acknowledged => (?_ : Takes 0 _)) ?_
  · split
    · exact .seq takes_armReceiver fun _ => .pure _
    · exact .pure _
  · decide

theorem now_holdReset (link : Link σ) : (holdReset.outcome link).2.line.now = link.line.now := by
  rw [holdReset, Action.outcome_change_bind, device, outcome_onTransport, Transport.device,
    Action.outcome_within, Action.outcome_mapError]
  exact Line.now_call (.reset true) (link.line.setIrq false)

/-- What a provisioning cycle leaves as it was: the alarm that counts the seconds. The clock goes on
meanwhile. -/
theorem provision_ages (link : Link σ) :
    link.line.Ages (provision.outcome link).2.line ∧
      (provision.outcome link).2.uptime = link.uptime := by
  obtain ⟨ages, -⟩ := takes_enterMode .rom link.briefed
  have only := onlyTransport_enterMode .rom link.briefed
  have told : link.briefed.uptime = link.uptime := by rw [onlyTransport_briefed link]
  have cycle := provision_cycle link
  generalize provision.outcome link = run at cycle
  cases cycle with
  | imageless lacking => exact ⟨.same (now_briefed link), told⟩
  | stubless lacking => exact ⟨.same (now_briefed link), told⟩
  | unread error => exact ⟨.same (now_briefed link), told⟩
  | stuck entered =>
    rw [entered] at ages only
    exact ⟨trans_of Line.Ages (.same (now_briefed link)) ages,
      (congrArg Link.uptime only).trans told⟩
  | @ran image reached stub offered entered =>
    rw [entered] at ages only
    have run := Provisioning.keeps_run reached.settings image stub
      { port := { line := reached.transport.line }, store := reached.store,
        verdict := reached.verdict }
    rw [Action.outcome_map, runProvisioning, Action.outcome_get_bind, Action.outcome_within]
    refine ⟨trans_of Line.Ages (.same (now_briefed link)) (trans_of Line.Ages ages run.ages), ?_⟩
    exact (congrArg Link.uptime only).trans told

end Link

namespace Lifecycle

variable {σ : Type} [Peer σ]

theorem takes_bootApplication :
    Link.Takes 480050 (bootApplication : Action LinkError (Link σ) Bool) :=
  .bind (Link.takes_enterMode .application) fun _ => Link.takes_handshake

end Lifecycle

end RadioLink
