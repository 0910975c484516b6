import RadioLink.Proofs.BootSequence
import RadioLink.Proofs.DatagramTransfer
import RadioLink.Simulation.Peer

/-!
The reset handshake. The ready signal is taken down right before the reset byte is written, and from then
to the end of the wait nothing takes it down again. So it is up at a look exactly when an edge was heard
since, and what the far side did earlier, masked or not, does not count. An edge that comes in between
taking the signal down and the write does count.
-/

namespace RadioLink

namespace Link

variable {σ : Type} [Peer σ]

/-- The line of a handshake when the application firmware has had its time to start and the ready edge
has just been unmasked. -/
def unmasked (link : Link σ) : Line σ :=
  (link.line.clearReady.delayMs applicationBootMs).setIrq true

/-- The line of a handshake when what came in has been dropped and the ready signal is to be taken down. -/
def emptied (link : Link σ) : Line σ := ((Line.call .clear).outcome link.unmasked).2

def poised (link : Link σ) : Line σ := link.emptied.clearReady

def asked (link : Link σ) : Line σ :=
  ((Line.call (.write [Control.reset])).outcome link.poised).2

/-- An edge was heard from some moment before the reset byte was written up to some look of a wait that
ends with the first look at or after its timeout. -/
def AnsweredInTime (link : Link σ) (start : Line σ) : Prop :=
  ∃ looks, (∀ look < looks, (Line.polled look link.asked).now < link.asked.now + handshakeTimeout) ∧
    .edge true ∈ start.since (Line.polled looks link.asked)

/-- The reset byte went out right after the signal was taken down, and before that the far side had its
say masked and unmasked. -/
structure Asks (link : Link σ) : Prop where
  before : ∃ masked unmasked, Noise masked ∧ Noise unmasked ∧
    Line.Did (.lowered :: masked ++ .irq true :: .done .clear :: unmasked) link.line link.emptied
  written : ∃ crossing noise, Noise crossing ∧ Noise noise ∧
    Line.Did (.lowered :: crossing ++ .done (.write [Control.reset]) :: noise) link.emptied link.asked

structure Waits (link : Link σ) (looks : Nat) : Prop where
  asks : link.Asks
  early : ∀ look < looks, (Line.polled look link.asked).elapsed link.asked.now < handshakeTimeout
  ends : link.asked.awaitReady handshakeTimeout =
    ((Line.polled looks link.asked).ready.isSet, Line.polled looks link.asked)

/-- Up to the end of the wait the host does not strobe. -/
theorem Waits.did {link : Link σ} {looks : Nat} (waits : link.Waits looks) :
    ∃ events, Line.Did events link.line (Line.polled looks link.asked) ∧ pulseCount events = 0 := by
  obtain ⟨⟨masked, unmasked, far, away, before⟩, crossing, noise, early, reaction, written⟩ := waits.asks
  obtain ⟨more, answer, watched⟩ := Line.did_polled looks link.asked
  refine ⟨_, (before.append written).append watched, ?_⟩
  have silent : ∀ {events}, Noise events → pulseCount events = 0 := fun far => far.sending.pulseCount_eq
  have first := silent far
  have second := silent away
  have third := silent early
  have fourth := silent reaction
  have fifth := silent answer
  simp only [pulseCount, List.count_append, List.count_cons] at first second third fourth fifth ⊢
  simp [first, second, third, fourth, fifth]

inductive Shakes (link : Link σ) : Except LinkError Bool × Link σ → Prop where
  | broken {error : LinkError} {after : Link σ} {events : List Event}
      (did : Line.Did events link.line after.line) (failed : ∃ event ∈ events, event.isFailure = true) :
      Shakes link (.error error, after)
  | unanswered {looks : Nat} {after : Link σ} (waits : link.Waits looks)
      (down : (Line.polled looks link.asked).ready.isSet = false)
      (line : after.line = Line.polled looks link.asked) : Shakes link (.ok false, after)
  | answered {looks : Nat} {after : Link σ} {early late : List Event} (waits : link.Waits looks)
      (up : (Line.polled looks link.asked).ready.isSet = true) (pulsing : Transport σ)
      (empty : pulsing.received = []) (far : Noise early) (away : Noise late)
      (cleared : Line.Did (.done .clear :: early) (Line.polled looks link.asked) pulsing.line)
      (pulsed : Line.Did (.done .pulse :: late) pulsing.line after.line)
      (ran : (Transport.device (Line.call .pulse)).outcome pulsing = (.ok (), after.transport)) :
      Shakes link (.ok true, after)

def awaitAnswer : Action LinkError (Link σ) Bool := do
  let acknowledged ← onTransport (Action.total (·.awaitReady handshakeTimeout))
  if acknowledged then onTransport Transport.armReceiver
  pure acknowledged

theorem handshake_eq (link : Link σ) :
    handshake.outcome link = (onTransport Transport.resetLink >>= fun _ => awaitAnswer).outcome
      { link with transport := { link.transport with line := link.unmasked } } := by
  rw [handshake, Action.outcome_change_bind, Action.outcome_change_bind, Action.outcome_change_bind]
  rfl

theorem awaitAnswer_shakes {link sent : Link σ} (asks : link.Asks) (line : sent.line = link.asked) :
    Shakes link (awaitAnswer.outcome sent) := by
  obtain ⟨looks, ends, early⟩ := Line.awaitReadyFrom_ends link.asked.now handshakeTimeout
    (Line.pollCount handshakeTimeout) link.asked
  have waits : link.Waits looks := ⟨asks, early, ends⟩
  have awaited : sent.transport.awaitReady handshakeTimeout =
      ((Line.polled looks link.asked).ready.isSet,
        { sent.transport with line := Line.polled looks link.asked }) := by
    have moment : sent.transport.line = link.asked := line
    rw [Transport.awaitReady, Transport.awaitReadySince, Transport.now, moment]
    exact congrArg (fun run => (run.1, { sent.transport with line := run.2 })) waits.ends
  rw [awaitAnswer, Action.outcome_bind, outcome_onTransport, Action.outcome_total, awaited]
  dsimp only
  cases shown : (Line.polled looks link.asked).ready.isSet with
  | false => exact .unanswered waits shown rfl
  | true =>
    obtain ⟨events, did, -⟩ := waits.did
    rw [if_pos rfl, Action.outcome_bind, outcome_onTransport, Transport.armReceiver,
      Transport.resetReceived, Action.outcome_bind, Action.outcome_change_bind]
    rcases Transport.call_cases .clear ({ sent.transport with
        line := Line.polled looks link.asked, received := [] } : Transport σ) with
      ⟨fault, stuck, ran, others, episode, event, member, failed⟩ | ⟨first, cleared, far, ran, dropped⟩
    · rw [ran]
      exact .broken (did.append episode.did) ⟨event, List.mem_append_right _ member, failed⟩
    rw [ran]
    dsimp only
    rcases Transport.call_cases .pulse ({ sent.transport with
        line := cleared, received := [] } : Transport σ) with
      ⟨fault, stuck, ran, others, episode, event, member, failed⟩ | ⟨late, strobed, away, ran, pulsed⟩
    · rw [ran]
      exact .broken ((did.append dropped.did).append episode.did)
        ⟨event, List.mem_append_right _ member, failed⟩
    · rw [ran]
      exact .answered waits shown _ rfl far away dropped.did pulsed.did ran

theorem handshake_shakes (link : Link σ) : Shakes link (handshake.outcome link) := by
  rw [handshake_eq, Action.outcome_bind, outcome_onTransport]
  dsimp only
  obtain ⟨first, at_once, start⟩ := Line.clearReady_episode link.line
  obtain ⟨later, meanwhile, waited, -⟩ :=
    Line.delay_events link.line.clearReady (.ofMillis applicationBootMs)
  have opened : Line.Did (.lowered :: (first ++ later) ++ [.irq true]) link.line link.unmasked :=
    (start.did.append waited).append (.record _ _)
  rcases Transport.resetLink_cases ({ link.transport with line := link.unmasked } : Transport σ) with
    ⟨fault, failed, ran⟩ | ⟨done, ran⟩
  · rw [ran]
    rcases Line.call_cases .clear link.unmasked with ⟨_, _, episode⟩ | ⟨_, _, done, _⟩
    · exact .broken (opened.append episode.did) ⟨.failed .clear, by simp, rfl⟩
    · rw [failed] at done
      cases done
  rw [ran]
  rcases Line.call_cases .clear link.unmasked with ⟨_, failed, _⟩ | ⟨unmasked, away, _, dropped⟩
  · rw [failed] at done
    cases done
  have before : Line.Did (.lowered :: (first ++ later) ++ .irq true :: .done .clear :: unmasked)
      link.line link.emptied := by
    have did := opened.append dropped.did
    rwa [List.append_assoc] at did
  obtain ⟨crossing, early, lowered⟩ := Line.clearReady_episode link.emptied
  rcases Line.call_cases (.write [Control.reset]) link.poised with
    ⟨fault, failed, episode⟩ | ⟨noise, reaction, wrote, episode⟩
  · rw [Transport.device, Action.outcome_within, Action.outcome_mapError]
    rw [poised, emptied] at failed
    dsimp only
    rw [failed]
    exact .broken (before.append (lowered.append episode).did)
      ⟨.failed (.write [Control.reset]), by simp, rfl⟩
  · have asks : link.Asks :=
      ⟨⟨first ++ later, unmasked, at_once.append meanwhile, away, before⟩,
        crossing, noise, early, reaction, (lowered.append episode).did⟩
    rw [Transport.device, Action.outcome_within, Action.outcome_mapError]
    rw [poised, emptied] at wrote
    dsimp only
    rw [wrote]
    exact awaitAnswer_shakes asks rfl

/-- The signal is up at a look exactly when an edge was heard since it was taken down. -/
theorem up_iff_heard (link : Link σ) (looks : Nat) :
    (Line.polled looks link.asked).ready.isSet = true ↔
      .edge true ∈ link.emptied.since (Line.polled looks link.asked) := by
  obtain ⟨crossing, -, lowered, raised⟩ := Line.clearReady_hears link.emptied
  have hears : link.poised.Hears (Line.polled looks link.asked) :=
    trans_of Line.Hears (Line.hears_call _ link.poised) (Line.hears_polled looks link.asked)
  obtain ⟨events, did, -, up⟩ := hears
  have since := (lowered.append did).since_eq
  rw [up, poised, raised, since]
  simp

theorem now_asked {link : Link σ} (running : link.line.now + 300000 ≤ Micros.last) :
    link.asked.now = link.line.now + 300000 := by
  calc link.asked.now
      = link.poised.now := Line.now_call _ link.poised
    _ = link.emptied.now := Line.now_clearReady link.emptied
    _ = link.unmasked.now := Line.now_call .clear link.unmasked
    _ = link.line.clearReady.now.after 300000 := Line.now_delay link.line.clearReady _
    _ = link.line.now.after 300000 := by rw [Line.now_clearReady]
    _ = link.line.now + 300000 := Nat.min_eq_left running

/-- A wait goes on for every look that comes before the timeout. -/
theorem Waits.up_iff {link : Link σ} {looks : Nat} (waits : link.Waits looks)
    (running : link.asked.now + handshakeTimeout ≤ Micros.last) :
    (Line.polled looks link.asked).ready.isSet = true ↔ link.AnsweredInTime link.emptied := by
  have sooner : ∀ now start : Nat, now - start < 100000 ↔ now < start + 100000 := by omega
  constructor
  · intro up
    exact ⟨looks, fun look before => (sooner _ _).mp (waits.early look before),
      (up_iff_heard link looks).mp up⟩
  · rintro ⟨others, early, heard⟩
    -- the looks are 50 µs apart and the clock does not stop, so the time is over after 2000 of them
    have enough : others ≤ 2000 := by
      by_contra more
      have late := early 2000 (Nat.not_le.mp more)
      rw [Line.now_polled running] at late
      exact absurd late (Nat.lt_irrefl _)
    have count : others ≤ Line.pollCount handshakeTimeout := enough.trans (by decide)
    have waiting : ∀ look < others,
        (Line.polled look link.asked).elapsed link.asked.now < handshakeTimeout :=
      fun look before => (sooner _ _).mpr (early look before)
    obtain ⟨next, _, ready, _⟩ := Line.awaitReadyFrom_ready count waiting
      ((up_iff_heard link others).mpr heard)
    have ended : link.asked.awaitReady handshakeTimeout = (true, next) := ready
    rw [waits.ends] at ended
    exact (Prod.mk.inj ended).1

def StrobedOnce (link after : Link σ) : Prop :=
  pulseCount (link.line.since after.line) = 1 ∧
  ∃ pulsing : Transport σ, pulsing.received = [] ∧ .edge true ∈ link.emptied.since pulsing.line ∧
    (Transport.device (Line.call .pulse)).outcome pulsing = (.ok (), after.transport)

/-- Without a failing call and before the clock stops a handshake returns whether an edge was heard from
taking the signal down right before the reset byte is written up to the first look at or after the
timeout; what was on the ready signal before, or came in before that, does not matter. If it was
answered, the far side is told once that it may send, otherwise not at all. -/
theorem handshake_counts_since_lowered (link : Link σ)
    (sound : Sound (link.line.since (handshake.outcome link).2.line))
    (running : link.line.now + 400000 ≤ Micros.last) :
    link.Asks ∧ link.asked.now = link.line.now + 300000 ∧
    ∃ acknowledged after, handshake.outcome link = (.ok acknowledged, after) ∧
      (acknowledged = true ↔ link.AnsweredInTime link.emptied) ∧
      (acknowledged = true → link.StrobedOnce after) ∧
      (acknowledged = false → pulseCount (link.line.since after.line) = 0) := by
  have soon : ∀ now : Nat, now + 400000 ≤ Micros.last → now + 300000 ≤ Micros.last := by omega
  have moment := now_asked (soon _ running)
  have time : link.asked.now + handshakeTimeout ≤ Micros.last := by
    rw [moment, Nat.add_assoc]
    exact running
  have shakes := handshake_shakes link
  generalize handshake.outcome link = run at sound shakes
  -- a handshake that ends with an error has a failed call in its trace
  cases shakes with
  | broken did failed =>
    obtain ⟨event, member, failure⟩ := failed
    rw [did.since_eq] at sound
    rw [sound event member] at failure
    cases failure
  | @unanswered looks after waits down line =>
    obtain ⟨events, did, none⟩ := waits.did
    refine ⟨waits.asks, moment, false, after, rfl, ?_, Bool.noConfusion, fun _ => ?_⟩
    · rw [← waits.up_iff time, down]
    · rw [line, did.since_eq]
      exact none
  | @answered looks after early late waits up pulsing empty far away cleared pulsed ran =>
    obtain ⟨events, did, none⟩ := waits.did
    refine ⟨waits.asks, moment, true, after, rfl, ?_, fun _ => ⟨?_, pulsing, empty, ?_, ran⟩, ?_⟩
    · rw [← waits.up_iff time, up]
    · have arming : Arming (.done .clear :: (early ++ .done .pulse :: late)) :=
        ⟨early, late, far, away, rfl⟩
      have whole := did.append (cleared.append pulsed)
      rw [whole.since_eq, pulseCount_append, none]
      exact (Nat.zero_add _).trans arming.pulseCount_eq
    · have heard := (up_iff_heard link looks).mp up
      obtain ⟨crossing, noise, -, -, written⟩ := waits.asks.written
      obtain ⟨more, -, watched⟩ := Line.did_polled looks link.asked
      have since := (written.append watched).append cleared
      rw [(written.append watched).since_eq] at heard
      rw [since.since_eq]
      exact List.mem_append_left _ heard
    · exact fun no => Bool.noConfusion no

/-- A link whose ready signal is still up from an earlier session, with one edge that comes while it is
masked and one 2 ms after the reset byte is written. -/
def stale : Link Simulation.Script :=
  let reply : Simulation.Reply := [{ edge := true, delay := 2000 }]
  let early : Simulation.Scheduled := ⟨150000, { edge := true }⟩
  Link.start
    { peer := { readyPolicy := .never, onWrite := [reply], agenda := [early] }, ready := ⟨true, false⟩ }
    {} {} (.fixed none none) none

/-- The handshake waits for the second of the two edges. -/
theorem handshake_counts_since_lowered_stale :
    Sound (stale.line.since (handshake.outcome stale).2.line) ∧
    stale.line.now + 400000 ≤ Micros.last ∧
    stale.AnsweredInTime stale.emptied ∧ stale.StrobedOnce (handshake.outcome stale).2 ∧
    (handshake.outcome stale).2.line.now = 302000 := by
  have sound : Sound (stale.line.since (handshake.outcome stale).2.line) := by decide +kernel
  have running : stale.line.now + 400000 ≤ Micros.last := by decide +kernel
  have done : (handshake.outcome stale).1.toOption = some true := by decide +kernel
  have moment : (handshake.outcome stale).2.line.now = 302000 := by decide +kernel
  obtain ⟨-, -, acknowledged, after, ran, answer, strobed, -⟩ :=
    handshake_counts_since_lowered stale sound running
  have last : (handshake.outcome stale).2 = after := congrArg Prod.snd ran
  rw [ran] at done
  have yes : acknowledged = true := Option.some.inj done
  rw [← last] at strobed
  exact ⟨sound, running, answer.mp yes, strobed yes, moment⟩

end Link

/-- Nothing comes from a far side that has nothing planned. -/
theorem Line.history_polled {line : Line Simulation.Script} (idle : line.peer.agenda = []) (looks : Nat) :
    (Line.polled looks line).history = line.history := by
  induction looks generalizing line with
  | zero => rfl
  | succ looks ih =>
    have silent (now : Micros) : line.peer.elapse now = ({}, line.peer) := by
      simp only [Simulation.Script.elapse, idle, List.takeWhile_nil, List.dropWhile_nil, List.foldl_nil]
      rw [← idle]
    have paused : line.delay Line.pollInterval =
        { line with now := line.now.after Line.pollInterval } := by
      simp only [Line.delay, Peer.elapse, silent]
      rfl
    rw [Line.polled, paused]
    exact ih idle

namespace Link

/-- A far side that is ready in between taking the signal down and the write of the reset byte, and never
afterwards. -/
def premature : Link Simulation.Script :=
  Link.start { peer := { readyPolicy := .never, crossings := [false, true] } }
    {} {} (.fixed none none) none

theorem handshake_counts_premature_edge :
    Sound (premature.line.since (handshake.outcome premature).2.line) ∧
    premature.line.now + 400000 ≤ Micros.last ∧
    (handshake.outcome premature).1.toOption = some true ∧
    ¬premature.AnsweredInTime premature.poised := by
  refine ⟨by decide +kernel, by decide +kernel, by decide +kernel, ?_⟩
  rintro ⟨looks, -, heard⟩
  have silent : premature.asked.peer.agenda = [] := by decide +kernel
  have written : premature.poised.since premature.asked = [.done (.write [Control.reset])] := by
    decide +kernel
  rw [Line.since, Line.history_polled silent looks, ← Line.since, written] at heard
  exact absurd heard (by decide)

end Link

end RadioLink
