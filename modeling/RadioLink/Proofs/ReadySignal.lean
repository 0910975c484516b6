import RadioLink.Proofs.LineEvents

/-!
The ready signal and the waits for it. Until the host takes the signal down, it is up exactly if it was up
before or an edge was heard since. A wait looks at it every 50 µs and ends at the first look that finds it
up or the timeout over.
-/

namespace RadioLink

namespace Line

variable {σ : Type}

/-- Between two moments the host leaves the ready signal alone: it is up at the end if it was up at first
or an edge was heard meanwhile. -/
def Hears (before after : Line σ) : Prop :=
  ∃ events, Did events before after ∧ .lowered ∉ events ∧
    (after.ready.isSet = true ↔ before.ready.isSet = true ∨ .edge true ∈ events)

theorem Hears.quiet {before after : Line σ} (signal : after.ready = before.ready)
    (history : after.history = before.history) : Hears before after := by
  refine ⟨[], .same history, by simp, ?_⟩
  simp [signal]

theorem Hears.event {before after : Line σ} {event : Event} (did : Did [event] before after)
    (other : event ≠ .edge true) (kept : event ≠ .lowered)
    (signal : after.ready.isSet = before.ready.isSet) : Hears before after := by
  refine ⟨[event], did, by simpa using kept.symm, ?_⟩
  simp [signal, other.symm]

instance : IsPreorder (Line σ) Hears where
  refl _ := .quiet rfl rfl
  trans := by
    rintro before middle after ⟨first, did, kept, up⟩ ⟨second, next, held, later⟩
    refine ⟨first ++ second, did.append next, ?_, ?_⟩
    · rw [List.mem_append]
      exact not_or.mpr ⟨kept, held⟩
    · rw [later, up, List.mem_append, or_assoc]

theorem hears_accept (line : Line σ) (arrival : Arrival) : line.Hears (line.accept arrival) := by
  have bytesIn : line.Hears (line.receive arrival.bytes) := by
    unfold receive
    split
    · exact .quiet rfl rfl
    · exact .event (.record line _) Event.noConfusion Event.noConfusion rfl
  unfold accept
  dsimp only
  split
  · have raised : (line.receive arrival.bytes).Hears (line.receive arrival.bytes).raiseEdge := by
      refine ⟨[.edge (line.receive arrival.bytes).ready.enabled], .record _ _, by simp, ?_⟩
      have up : (line.receive arrival.bytes).raiseEdge.ready.isSet =
          ((line.receive arrival.bytes).ready.isSet ||
            (line.receive arrival.bytes).ready.enabled) := rfl
      rw [up, Bool.or_eq_true, List.mem_singleton, Event.edge.injEq]
      exact or_congr_right eq_comm
    exact trans_of Hears bytesIn raised
  · exact bytesIn

theorem hears_setIrq (line : Line σ) (enabled : Bool) : line.Hears (line.setIrq enabled) :=
  .event (.record line _) Event.noConfusion Event.noConfusion rfl

variable [Peer σ]

/-- The signal goes down, and only an edge that comes at once has it up again. -/
theorem clearReady_hears (line : Line σ) :
    ∃ crossing, Noise crossing ∧ Did (.lowered :: crossing) line line.clearReady ∧
      (line.clearReady.ready.isSet = true ↔ .edge true ∈ crossing) := by
  obtain ⟨crossing, far, episode⟩ := clearReady_episode line
  let lowered : Line σ :=
    { line.record .lowered with
      peer := (Peer.crosses line.peer line.now).2
      ready := line.ready.clear }
  obtain ⟨events, did, -, up⟩ := hears_accept lowered { edge := (Peer.crosses line.peer line.now).1 }
  have start : Did [.lowered] line lowered := .record line _
  have same := (start.append did).since_eq.symm.trans episode.did.since_eq
  obtain rfl : events = crossing := (List.cons.inj same).2
  refine ⟨events, far, episode.did, up.trans ?_⟩
  simp [lowered, ReadySignal.clear]

theorem hears_call (c : Call) (line : Line σ) : line.Hears ((call c).outcome line).2 := by
  rcases answer : Peer.answer line.peer line.now c with ⟨result, peer⟩
  have asked : line.Hears { line with peer } := .quiet rfl rfl
  cases result with
  | error fault =>
    simp only [Action.outcome, call, answer]
    exact trans_of Hears asked (.event (.record _ _) Event.noConfusion Event.noConfusion rfl)
  | ok arrival =>
    have carried : ({ line with peer }.record (.done c)).Hears
        (({ line with peer }.record (.done c)).carryOut c) := by
      cases c <;> exact .quiet rfl rfl
    simp only [Action.outcome, call, answer]
    exact trans_of Hears asked
      (trans_of Hears (.event (.record _ _) Event.noConfusion Event.noConfusion rfl)
        (trans_of Hears carried (hears_accept _ arrival)))

theorem hears_read (room : Nat) (line : Line σ) : line.Hears ((read room).outcome line).2 := by
  rcases grant : Peer.grant line.peer line.now room with ⟨result, peer⟩
  cases result with
  | error fault =>
    simp only [Action.outcome, read, grant]
    exact .event (.record line _) Event.noConfusion Event.noConfusion rfl
  | ok limit =>
    rw [read_of_grant grant]
    dsimp only
    split
    · exact .quiet rfl rfl
    · exact .event (.record line _) Event.noConfusion Event.noConfusion rfl

theorem hears_delay (line : Line σ) (span : Micros) : line.Hears (line.delay span) :=
  trans_of Hears (.quiet rfl rfl) (hears_accept { line with
    now := line.now.after span
    peer := (Peer.elapse line.peer (line.now.after span)).2 } _)

def polled : Nat → Line σ → Line σ
  | 0, line => line
  | looks + 1, line => polled looks (line.delay pollInterval)

/-- What every pause keeps, all of them keep. -/
theorem related_polled {R : Line σ → Line σ → Prop} [IsPreorder (Line σ) R]
    (paused : ∀ line : Line σ, R line (line.delay pollInterval)) (looks : Nat) (line : Line σ) :
    R line (polled looks line) := by
  induction looks generalizing line with
  | zero => exact refl_of R line
  | succ looks ih => exact trans_of R (paused line) (ih _)

theorem hears_polled (looks : Nat) (line : Line σ) : line.Hears (polled looks line) :=
  related_polled (fun line => hears_delay line pollInterval) looks line

theorem did_polled (looks : Nat) (line : Line σ) :
    ∃ noise, Noise noise ∧ Did noise line (polled looks line) := by
  induction looks generalizing line with
  | zero => exact ⟨[], .nil, .refl line⟩
  | succ looks ih =>
    obtain ⟨noise, far, did, -⟩ := delay_events line pollInterval
    obtain ⟨more, away, next⟩ := ih (line.delay pollInterval)
    exact ⟨noise ++ more, far.append away, did.append next⟩

theorem now_polled_le (looks : Nat) (line : Line σ) :
    (polled looks line).now ≤ line.now + pollInterval * looks := by
  induction looks generalizing line with
  | zero => exact le_rfl
  | succ looks ih =>
    obtain ⟨_, _, _, _, moment⟩ := delay_events line pollInterval
    calc (polled looks (line.delay pollInterval)).now
        ≤ (line.delay pollInterval).now + pollInterval * looks := ih _
      _ ≤ line.now + pollInterval + pollInterval * looks := by
        rw [moment]
        exact Nat.add_le_add_right (Nat.min_le_left _ _) _
      _ = line.now + pollInterval * (looks + 1) := by ring

theorem now_polled {looks : Nat} {line : Line σ}
    (running : line.now + pollInterval * looks ≤ Micros.last) :
    (polled looks line).now = line.now + pollInterval * looks := by
  induction looks generalizing line with
  | zero => rfl
  | succ looks ih =>
    have step : (line.delay pollInterval).now = line.now + pollInterval := by
      rw [now_delay]
      have fits : ∀ now interval total last : Nat, now + interval * (total + 1) ≤ last →
          min (now + interval) last = now + interval := by
        intro now interval total last bound
        rw [Nat.mul_add] at bound
        omega
      exact fits _ _ _ _ running
    have sum : line.now + pollInterval * (looks + 1) = line.now + pollInterval + pollInterval * looks := by
      ring
    rw [polled, ih, step, sum]
    rw [step, ← sum]
    exact running

theorem awaitReadyFrom_ready {start timeout : Micros} {looks count : Nat} (enough : looks ≤ count)
    {line : Line σ} (early : ∀ look < looks, (polled look line).elapsed start < timeout)
    (up : (polled looks line).ready.isSet = true) :
    ∃ next noise, awaitReadyFrom start timeout count line = (true, next) ∧
      next.ready.isSet = true ∧ Noise noise ∧ Did noise line next := by
  induction count generalizing looks line with
  | zero =>
    obtain rfl := Nat.le_zero.mp enough
    have set : line.ready.isSet = true := up
    exact ⟨line, [], by rw [awaitReadyFrom, set], set, .nil, .refl line⟩
  | succ count ih =>
    rw [awaitReadyFrom]
    split
    next set => exact ⟨line, [], rfl, set, .nil, .refl line⟩
    next unset =>
      cases looks with
      | zero => exact absurd up unset
      | succ looks =>
        have waits : line.elapsed start < timeout := early 0 (Nat.succ_pos looks)
        rw [if_neg (Nat.not_le.mpr waits)]
        obtain ⟨noise, far, paused, _⟩ := delay_events line pollInterval
        obtain ⟨next, more, waited, set, farther, did⟩ := ih (Nat.le_of_succ_le_succ enough)
          (fun look before => early (look + 1) (Nat.succ_lt_succ before)) up
        exact ⟨next, noise ++ more, waited, set, far.append farther, paused.append did⟩

/-- A wait ends at one of its looks, with what the ready signal shows there. Every earlier look found
the time not yet over. -/
theorem awaitReadyFrom_ends (start timeout : Micros) (count : Nat) (line : Line σ) :
    ∃ looks, awaitReadyFrom start timeout count line =
        ((polled looks line).ready.isSet, polled looks line) ∧
      ∀ look < looks, (polled look line).elapsed start < timeout := by
  induction count generalizing line with
  | zero => exact ⟨0, rfl, fun look before => absurd before (Nat.not_lt_zero look)⟩
  | succ count ih =>
    rw [awaitReadyFrom]
    split
    next up => exact ⟨0, by rw [polled, up], fun look before => absurd before (Nat.not_lt_zero look)⟩
    next down =>
      split
      next late =>
        refine ⟨0, ?_, fun look before => absurd before (Nat.not_lt_zero look)⟩
        rw [polled, Bool.eq_false_of_not_eq_true down]
      next early =>
        obtain ⟨looks, ends, waits⟩ := ih (line.delay pollInterval)
        refine ⟨looks + 1, ends, fun look before => ?_⟩
        cases look with
        | zero => exact Nat.not_le.mp early
        | succ look => exact waits look (Nat.lt_of_succ_lt_succ before)

theorem related_awaitReadyFrom {R : Line σ → Line σ → Prop} [IsPreorder (Line σ) R]
    (paused : ∀ line : Line σ, R line (line.delay pollInterval)) (start timeout : Micros) (count : Nat)
    (line : Line σ) : R line (awaitReadyFrom start timeout count line).2 := by
  obtain ⟨looks, ends, -⟩ := awaitReadyFrom_ends start timeout count line
  rw [ends]
  exact related_polled paused looks line

theorem awaitReadyFrom_noise (start timeout : Micros) (count : Nat) (line : Line σ) :
    ∃ noise, Noise noise ∧ Did noise line (awaitReadyFrom start timeout count line).2 := by
  obtain ⟨looks, ends, -⟩ := awaitReadyFrom_ends start timeout count line
  rw [ends]
  exact did_polled looks line

/-- The ready signal is up at one of the looks of a wait. The last look is the first one that finds
the timeout over. -/
def ComesReady (line : Line σ) (timeout : Micros) : Prop :=
  ∃ looks : Nat, pollInterval * looks < timeout + pollInterval ∧ (polled looks line).ready.isSet = true

/-- A wait for a far side that becomes ready in time ends with the signal up. -/
theorem ComesReady.awaitReady {line : Line σ} {timeout : Micros} (ready : line.ComesReady timeout) :
    ∃ next noise, line.awaitReady timeout = (true, next) ∧ next.ready.isSet = true ∧
      Noise noise ∧ Did noise line next := by
  obtain ⟨looks, inTime, up⟩ := ready
  -- The clock may stand still at its end, so the time that passed is only bounded from above.
  have enough : ∀ span : Nat, 50 * looks < span + 50 → looks ≤ span / 50 + 2 := by omega
  have soon : ∀ look now start span : Nat, look < looks → now ≤ start + 50 * look →
      50 * looks < span + 50 → now - start < span := by omega
  exact awaitReadyFrom_ready (enough timeout inTime)
    (fun look before => soon look _ _ _ before (now_polled_le look line) inTime) up

end Line

end RadioLink
