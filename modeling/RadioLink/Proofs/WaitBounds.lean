import RadioLink.Proofs.RequestAnswer

/-!
When waits end. A wait looks at its start and every 50 µs from then on, and it gives up with the first
look at or after its timeout, so it is over less than one interval after that. The two waits of a
request count from one start: the second one goes on with the looks where the first one has left off.
-/

namespace RadioLink

namespace Line

variable {σ : Type}

/-- The number of the first look at or after a timeout; the look at the start has number zero. -/
def lastLook (timeout : Micros) : Nat := (timeout + 49) / 50

theorem isLeast_lastLook (timeout : Micros) :
    IsLeast {look : Nat | timeout ≤ pollInterval * look} (lastLook timeout) := by
  have reached : ∀ span : Nat, span ≤ 50 * ((span + 49) / 50) := by omega
  have least : ∀ span look : Nat, span ≤ 50 * look → (span + 49) / 50 ≤ look := by omega
  exact ⟨reached timeout, fun look late => least timeout look late⟩

theorem lt_lastLook_iff {timeout : Micros} {look : Nat} :
    look < lastLook timeout ↔ pollInterval * look < timeout := by
  have before : ∀ span look : Nat, look < (span + 49) / 50 ↔ 50 * look < span := by omega
  exact before timeout look

theorem lastLook_lt (timeout : Micros) :
    pollInterval * lastLook timeout < timeout + pollInterval := by
  have soon : ∀ span : Nat, 50 * ((span + 49) / 50) < span + 50 := by omega
  exact soon timeout

theorem lastLook_lt_pollCount (timeout : Micros) : lastLook timeout < pollCount timeout := by
  have fewer : ∀ span : Nat, (span + 49) / 50 < span / 50 + 2 := by omega
  exact fewer timeout

theorem look_le_last {start timeout : Micros} {look : Nat}
    (running : start + pollInterval * lastLook timeout ≤ Micros.last) (inTime : look ≤ lastLook timeout) :
    start + pollInterval * look ≤ Micros.last :=
  Nat.le_trans (Nat.add_le_add_left (Nat.mul_le_mul_left _ inTime) _) running

theorem elapsed_of_look {line : Line σ} {start : Micros} {look : Nat}
    (moment : line.now = start + pollInterval * look) : line.elapsed start = pollInterval * look := by
  rw [elapsed, moment, Micros.elapsed, Nat.add_sub_cancel_left]

variable [Peer σ]

/-- The ready signal is down at every look of a wait, the first one at or after the timeout included. -/
def StaysDown (line : Line σ) (timeout : Micros) : Prop :=
  ∀ look ≤ lastLook timeout, (polled look line).ready.isSet = false

theorem now_delay_look {line : Line σ} {start : Micros} {look : Nat}
    (moment : line.now = start + pollInterval * look)
    (running : start + pollInterval * (look + 1) ≤ Micros.last) :
    (line.delay pollInterval).now = start + pollInterval * (look + 1) := by
  have next : start + pollInterval * look + pollInterval = start + pollInterval * (look + 1) := by ring
  rw [now_delay, moment, Micros.after, next]
  exact Nat.min_eq_left running

section

variable {line : Line σ} {timeout : Micros}
  (running : line.now + pollInterval * lastLook timeout ≤ Micros.last)

include running

theorem now_look {look : Nat} (inTime : look ≤ lastLook timeout) :
    (polled look line).now = line.now + pollInterval * look :=
  now_polled (look_le_last running inTime)

theorem elapsed_look {look : Nat} (inTime : look ≤ lastLook timeout) :
    (polled look line).elapsed line.now = pollInterval * look :=
  elapsed_of_look (now_look running inTime)

/-- A wait ends at one of its looks, with what the ready signal shows there. -/
theorem awaitReady_ends : ∃ look ≤ lastLook timeout,
    line.awaitReady timeout = ((polled look line).ready.isSet, polled look line) := by
  obtain ⟨looks, ends, early⟩ := awaitReadyFrom_ends line.now timeout (pollCount timeout) line
  refine ⟨looks, Nat.not_lt.mp fun more => ?_, ends⟩
  have sooner := early (lastLook timeout) more
  rw [elapsed_look running le_rfl] at sooner
  exact Nat.not_le.mpr sooner (isLeast_lastLook timeout).1

theorem awaitReady_eq_false_iff : (line.awaitReady timeout).1 = false ↔ line.StaysDown timeout := by
  obtain ⟨final, inTime, ends⟩ := awaitReady_ends running
  constructor
  · intro down look before
    -- the first look with the signal up would have ended the wait in time
    by_contra up
    have enough : look ≤ pollCount timeout := before.trans (lastLook_lt_pollCount timeout).le
    have early : ∀ sooner < look, (polled sooner line).elapsed line.now < timeout := by
      intro sooner earlier
      rw [elapsed_look running (earlier.le.trans before)]
      exact lt_lastLook_iff.mp (earlier.trans_le before)
    obtain ⟨next, _, ready, _⟩ := awaitReadyFrom_ready enough early (Bool.eq_true_of_not_eq_false up)
    change line.awaitReady timeout = (true, next) at ready
    rw [ready] at down
    cases down
  · intro down
    rw [ends]
    exact down final inTime

end

end Line

namespace Transport

variable {σ : Type} [Peer σ]

def LookedInVain (moment : Micros) (looked : Transport σ) : Prop :=
  ∃ waiting : Transport σ, waiting.now = moment ∧ pump.outcome waiting = (.ok (), looked) ∧
    Frame.completeLength? looked.received = none

/-- The second wait of a request goes on with look number `look` and ends at one of the looks, the last one
if it was in vain. -/
theorem awaitFrameFrom_ends {start timeout : Micros} {count look : Nat} {transport : Transport σ}
    (moment : transport.now = start + Line.pollInterval * look)
    (inTime : look ≤ Line.lastLook timeout) (enough : Line.lastLook timeout < look + count)
    (running : start + Line.pollInterval * Line.lastLook timeout ≤ Micros.last) :
    ∃ final ≤ Line.lastLook timeout,
      ((awaitFrameFrom start timeout count).outcome transport).2.now =
        start + Line.pollInterval * final ∧
      (((awaitFrameFrom start timeout count).outcome transport).1 = .error .responseTimeout →
        LookedInVain (start + Line.pollInterval * Line.lastLook timeout)
          ((awaitFrameFrom start timeout count).outcome transport).2) := by
  -- the looks are numbered from the start of the request, so a later start of this wait leaves fewer
  induction count generalizing look transport with
  | zero => exact absurd inTime (Nat.not_le.mpr enough)
  | succ count ih =>
    rw [awaitFrameFrom, Action.outcome_bind]
    rcases pump_cases transport with ⟨fault, line, ran, unread⟩ | ⟨bytes, line, ran, read⟩
    · rw [ran]
      exact ⟨look, inTime, unread.instant.trans moment, fun late => by cases late⟩
    have instant : line.now = start + Line.pollInterval * look := read.instant.trans moment
    rw [ran]
    dsimp only
    rw [Action.outcome_get_bind]
    dsimp only
    rcases found : Frame.completeLength? (transport.received ++ bytes) with - | length
    · dsimp only
      rw [Line.elapsed_of_look instant]
      split
      next late =>
        have last : look = Line.lastLook timeout :=
          Nat.le_antisymm inTime ((Line.isLeast_lastLook timeout).2 late)
        rw [last] at moment
        exact ⟨look, inTime, instant, fun _ => ⟨transport, moment, ran, found⟩⟩
      next early =>
        have another : look + 1 ≤ Line.lastLook timeout := Line.lt_lastLook_iff.mpr (Nat.not_le.mp early)
        rw [Action.outcome_change_bind]
        exact ih (Line.now_delay_look instant (Line.look_le_last running another)) another (by omega)
    · exact ⟨look, inTime, instant, fun late => by cases late⟩

theorem awaitAnswer_ends {start timeout : Micros} {look : Nat} {transport : Transport σ}
    (moment : transport.now = start + Line.pollInterval * look)
    (inTime : look ≤ Line.lastLook timeout)
    (running : start + Line.pollInterval * Line.lastLook timeout ≤ Micros.last) :
    ∃ final ≤ Line.lastLook timeout,
      ((awaitAnswer start timeout).outcome transport).2.now = start + Line.pollInterval * final ∧
      ((awaitAnswer start timeout).outcome transport).1 ≠ .error .timeout ∧
      (((awaitAnswer start timeout).outcome transport).1 = .error .responseTimeout →
        LookedInVain (start + Line.pollInterval * Line.lastLook timeout)
          ((awaitAnswer start timeout).outcome transport).2) := by
  have enough : Line.lastLook timeout < look + Line.pollCount timeout :=
    Nat.lt_add_left look (Line.lastLook_lt_pollCount timeout)
  obtain ⟨final, ended, instant, vain⟩ := awaitFrameFrom_ends moment inTime enough running
  obtain ⟨events, -, -, awaited⟩ := awaitFrameFrom_cases start timeout (Line.pollCount timeout) transport
    (fun none => absurd none (Nat.succ_ne_zero _))
  rw [awaitAnswer, Action.outcome_bind]
  generalize (awaitFrameFrom start timeout (Line.pollCount timeout)).outcome transport = run
    at instant vain awaited ⊢
  cases awaited with
  | broken => exact ⟨final, ended, instant, (fun late => by cases late), fun late => by cases late⟩
  | missing => exact ⟨final, ended, instant, (fun late => by cases late), fun _ => vain rfl⟩
  | @complete line length =>
    dsimp only
    rw [Action.outcome_get_bind, accept]
    dsimp only
    rcases decoded : Frame.decode (((transport.received ++ takenBytes events).take length).drop 1) with
      error | read
    · refine ⟨final, ended, instant, fun late => ?_, fun late => ?_⟩
      all_goals
        obtain rfl : error = _ := Except.error.inj late
        rcases Frame.decode_error decoded with ⟨_, other⟩ | ⟨_, _, other⟩ | ⟨_, _, other⟩ <;> cases other
    · exact ⟨final, ended, instant, (fun late => by cases late), fun late => by cases late⟩

/-- A wait for the ready signal ends at one of its looks. -/
theorem awaitReady_look {transport : Transport σ} {timeout : Micros}
    (running : transport.now + Line.pollInterval * Line.lastLook timeout ≤ Micros.last) :
    ∃ look ≤ Line.lastLook timeout, ∃ line : Line σ,
      transport.awaitReady timeout = (line.ready.isSet, { transport with line }) ∧
      line.now = transport.now + Line.pollInterval * look ∧
      (line.ready.isSet = false ↔ transport.line.StaysDown timeout) := by
  obtain ⟨look, inTime, ends⟩ := Line.awaitReady_ends running
  have down := Line.awaitReady_eq_false_iff running
  rw [ends] at down
  exact ⟨look, inTime, _, congrArg (fun run => (run.1, { transport with line := run.2 })) ends,
    Line.now_look running inTime, down⟩

section

variable (dataId : UInt8) (payload : Bytes) {transport : Transport σ}
  (running : transport.now + Line.pollInterval * Line.lastLook transport.timeout ≤ Micros.last)

include running

theorem sendBlocking_ends : ∃ final ≤ Line.lastLook transport.timeout,
    ((sendBlocking dataId payload).outcome transport).2.now =
      transport.now + Line.pollInterval * final ∧
    (((sendBlocking dataId payload).outcome transport).1 = .error .timeout ↔
      transport.line.StaysDown transport.timeout) := by
  obtain ⟨look, inTime, line, awaited, moment, down⟩ := awaitReady_look running
  cases shown : line.ready.isSet with
  | false =>
    rw [sendBlocking, Action.outcome_bind, Action.outcome_total, awaited, shown]
    exact ⟨look, inTime, moment, iff_of_true rfl (down.mp shown)⟩
  | true =>
    have up : ¬transport.line.StaysDown transport.timeout := by
      rw [← down, shown]
      exact Bool.noConfusion
    obtain ⟨⟨_, episode, _⟩, -⟩ := sends_send dataId payload ({ transport with line } : Transport σ)
    rw [shown] at awaited
    rcases ran : (send dataId payload).outcome ({ transport with line } : Transport σ) with ⟨result, next⟩
    rw [ran] at episode
    have instant := episode.instant.trans moment
    rw [sendBlocking_of_ready awaited ran]
    cases result with
    | ok => exact ⟨look, inTime, instant, iff_of_false (fun late => by cases late) up⟩
    | error => exact ⟨look, inTime, instant, iff_of_false (fun late => by cases late) up⟩

theorem exchange_ends : ∃ final ≤ Line.lastLook transport.timeout,
    ((exchange dataId payload).outcome transport).2.now =
      transport.now + Line.pollInterval * final ∧
    (((exchange dataId payload).outcome transport).1 = .error .timeout ↔
      transport.line.StaysDown transport.timeout) ∧
    (((exchange dataId payload).outcome transport).1 = .error .responseTimeout →
      LookedInVain (transport.now + Line.pollInterval * Line.lastLook transport.timeout)
        ((exchange dataId payload).outcome transport).2) := by
  obtain ⟨look, inTime, line, awaited, moment, down⟩ := awaitReady_look running
  change transport.awaitReadySince transport.now transport.timeout = _ at awaited
  rw [exchange_eq, awaited]
  dsimp only
  cases shown : line.ready.isSet with
  | false => exact ⟨look, inTime, moment, iff_of_true rfl (down.mp shown), fun late => by cases late⟩
  | true =>
    have up : ¬transport.line.StaysDown transport.timeout := by
      rw [← down, shown]
      exact Bool.noConfusion
    rw [if_pos rfl, Action.outcome_bind]
    have tries := send_tries dataId payload ({ transport with line } : Transport σ)
    obtain ⟨⟨_, episode, _⟩, -⟩ := tries.sends
    generalize (send dataId payload).outcome ({ transport with line } : Transport σ) = run
      at episode tries ⊢
    obtain ⟨result, next⟩ := run
    have instant := episode.instant.trans moment
    cases tries with
    | sent =>
      obtain ⟨final, ended, final_now, other, vain⟩ := awaitAnswer_ends instant inTime running
      exact ⟨final, ended, final_now, iff_of_false other up, vain⟩
    | refused cause =>
      refine ⟨look, inTime, instant, iff_of_false (fun late => ?_) up, fun late => ?_⟩ <;>
        cases late <;> cases cause
    | failed =>
      exact ⟨look, inTime, instant, iff_of_false (fun late => by cases late) up,
        fun late => by cases late⟩

end

theorem deliver_eq_error_iff {result : Except LinkError Frame} {buffer : Bytes} {error : LinkError} :
    (deliver result buffer).1 = .error error ↔ result = .error error := by
  cases result with
  | ok frame => simp [deliver]
  | error other => simp [deliver]

/-- An operation that waits for the ready signal from now on is over within 50 µs of the timeout, and it
ends unready exactly when the signal is down at every look. -/
def EndsInTime (transport : Transport σ) (timeout : Micros) (unready : Prop) (after : Transport σ) :
    Prop :=
  after.now < transport.now + timeout + 50 ∧ (unready ↔ transport.line.StaysDown timeout)

theorem EndsInTime.of_look {transport after : Transport σ} {timeout : Micros} {unready : Prop}
    {look : Nat} (inTime : look ≤ Line.lastLook timeout)
    (moment : after.now = transport.now + Line.pollInterval * look)
    (down : unready ↔ transport.line.StaysDown timeout) :
    transport.EndsInTime timeout unready after := by
  refine ⟨?_, down⟩
  calc after.now
      = transport.now + Line.pollInterval * look := moment
    _ ≤ transport.now + Line.pollInterval * Line.lastLook timeout :=
      Nat.add_le_add_left (Nat.mul_le_mul_left _ inTime) _
    _ < transport.now + (timeout + Line.pollInterval) :=
      Nat.add_lt_add_left (Line.lastLook_lt timeout) _
    _ = transport.now + timeout + 50 := (Nat.add_assoc ..).symm

/-- Waits end on time, exactly. Before the clock stops, a wait for the ready signal, a blocking send and a
request are over less than 50 µs after the timeout, counted from their start, the two waits of a request
together; and they fail for want of the ready signal exactly when it is down at every look, up to and
including the first look at or after the timeout. A request gives up waiting for its answer only with
that look, when it has found no complete frame. -/
theorem waits_end_on_time (transport : Transport σ) (timeout : Micros) (dataId : UInt8)
    (payload buffer : Bytes) (running : transport.now + timeout + 50 < 2 ^ 64)
    (armable : transport.line.Armable ((requestInto dataId payload).outcome
      (buffer, { transport with timeout })).2.2.line) :
    IsLeast {look : Nat | timeout ≤ 50 * look} (Line.lastLook timeout) ∧
    (∀ look ≤ Line.lastLook timeout,
      (Line.polled look transport.line).now = transport.now + 50 * look) ∧
    transport.EndsInTime timeout ((transport.awaitReady timeout).1 = false)
      (transport.awaitReady timeout).2 ∧
    transport.EndsInTime timeout
      (((sendBlocking dataId payload).outcome { transport with timeout }).1 = .error .timeout)
      ((sendBlocking dataId payload).outcome { transport with timeout }).2 ∧
    transport.EndsInTime timeout
      (((requestInto dataId payload).outcome (buffer, { transport with timeout })).1 = .error .timeout)
      ((requestInto dataId payload).outcome (buffer, { transport with timeout })).2.2 ∧
    (((requestInto dataId payload).outcome (buffer, { transport with timeout })).1 =
        .error .responseTimeout →
      ∃ looked, LookedInVain (transport.now + 50 * Line.lastLook timeout) looked ∧
        (exchange dataId payload).outcome { transport with timeout } =
          (.error .responseTimeout, looked) ∧
        looked.line.Rearms
          ((requestInto dataId payload).outcome (buffer, { transport with timeout })).2.2.line) := by
  have going : transport.now + Line.pollInterval * Line.lastLook timeout ≤ Micros.last := by
    have fits : ∀ now span looks : Nat, looks < span + 50 → now + span + 50 < 2 ^ 64 →
        now + looks ≤ 2 ^ 64 - 1 := by omega
    exact fits _ _ _ (Line.lastLook_lt timeout) running
  obtain ⟨look, waited, line, awaited, moment, down⟩ := awaitReady_look going
  obtain ⟨sent, posted, sending, unsent⟩ :=
    @sendBlocking_ends σ _ dataId payload { transport with timeout } going
  obtain ⟨final, ended, ending, unready, vain⟩ :=
    @exchange_ends σ _ dataId payload { transport with timeout } going
  obtain ⟨armed, rearms, ran⟩ :=
    @requestInto_armable σ _ dataId payload buffer { transport with timeout } armable
  refine ⟨Line.isLeast_lastLook timeout, fun look inTime => Line.now_look going inTime, ?_,
    .of_look posted sending unsent, ?_, ?_⟩
  · rw [awaited]
    exact .of_look waited moment down
  · rw [ran]
    obtain ⟨arming, -, strobed⟩ := rearms.episode
    exact .of_look ended (strobed.instant.trans ending) (deliver_eq_error_iff.trans unready)
  · rw [ran]
    intro late
    have unanswered := deliver_eq_error_iff.mp late
    exact ⟨_, vain unanswered, Prod.ext unanswered rfl, rearms⟩

/-- The ready edge comes with the very last look of a wait of 130 µs, and no answer does. -/
def tardy : Transport Simulation.Script :=
  { line :=
      { peer := { readyPolicy := .never, agenda := [⟨150, { edge := true }⟩] }
        ready := { enabled := true } }
    timeout := 130 }

def tardyRun : Except LinkError Nat × Bytes × Transport Simulation.Script :=
  (requestInto 0x50 [7]).outcome ([9, 9], { tardy with timeout := 130 })

theorem waits_end_on_time_tardy :
    tardy.line.Armable tardyRun.2.2.line ∧ ¬tardy.line.StaysDown 130 ∧
    (tardy.awaitReady 130).1 = true ∧ tardyRun.1 = .error .responseTimeout ∧
    tardyRun.2.2.now < 180 ∧ ∃ looked : Transport Simulation.Script, LookedInVain 150 looked := by
  have armable : tardy.line.Armable tardyRun.2.2.line := ⟨by decide +kernel, by decide +kernel⟩
  have late : tardyRun.1 = .error .responseTimeout := by decide +kernel
  have up : (tardy.awaitReady 130).1 = true := by decide +kernel
  have runs := waits_end_on_time tardy 130 0x50 [7] [9, 9] (by decide)
  rw [← tardyRun] at runs
  obtain ⟨-, -, waits, -, requests, gaveUp⟩ := runs armable
  obtain ⟨looked, vain, -⟩ := gaveUp late
  refine ⟨armable, ?_, up, late, requests.1, looked, vain⟩
  rw [← waits.2, up]
  exact Bool.noConfusion

end Transport

end RadioLink
