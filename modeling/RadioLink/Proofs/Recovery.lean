import RadioLink.Proofs.LiveRun
import RadioLink.Simulation.Peer

/-!
Recovery from junk. Between two passes the receiver is clear, or waits for the rest of a frame under
a deadline, or is stuck behind an idle byte that came where a control byte was due. A clear receiver
and one under a deadline come back to clear once the line falls silent; a stuck one never does.
-/

namespace RadioLink

namespace Receiver

def Clear (receiver : Receiver) : Prop := receiver.buffer = [] ∧ receiver.alarm = .off

/-- A frame has begun, and `start` set its deadline. -/
def Pending (receiver : Receiver) (start : Micros) : Prop :=
  receiver.buffer.head? = some Control.data ∧ receiver.alarm = .due start Link.receiveTimeout

/-- An idle byte stands where a control byte is due. -/
def Stuck (receiver : Receiver) : Prop := receiver.buffer.head? = some Control.idle

variable {now start : Micros} {receiver next : Receiver} {events : List Event}

theorem head?_append_of_head? {buffer : Bytes} {control : UInt8} (head : buffer.head? = some control)
    (bytes : Bytes) : (buffer ++ bytes).head? = some control := by
  rw [List.head?_append, head]
  rfl

theorem headD_of_head? {buffer : Bytes} {control : UInt8} (head : buffer.head? = some control) :
    buffer.headD Control.idle = control := by
  rw [List.headD_eq_head?_getD, head]
  rfl

theorem Stuck.pass (stuck : receiver.Stuck) (pass : Pass now receiver events next) :
    next.Stuck ∧ pulseCount events = 0 := by
  have same : ∀ bytes, (receiver.buffer ++ bytes).headD Control.idle = Control.idle :=
    fun bytes => headD_of_head? (head?_append_of_head? stuck bytes)
  cases pass with
  | @idle bytes _ => exact ⟨head?_append_of_head? stuck bytes, pulseCount_taking bytes⟩
  | @strayed bytes _ started _ _ => exact absurd (same bytes) started
  | @framed bytes _ _ data _ => exact absurd (data.symm.trans (same bytes)) Control.data_ne_idle

theorem Pending.not_ended (pending : receiver.Pending start) :
    ¬(receiver.Clear ∨ receiver.Stuck) := by
  have begun := pending.1
  rintro (⟨empty, -⟩ | stuck)
  · rw [empty] at begun
    cases begun
  · exact Control.data_ne_idle (Option.some.inj (begun.symm.trans stuck))

/-- A frame that has begun stays under its deadline, or is done with and leaves the receiver clear. -/
theorem Advance.pending (advance : Advance now receiver events next)
    (begun : receiver.buffer.head? = some Control.data)
    (due : receiver.alarm.ensure now Link.receiveTimeout = .due start Link.receiveTimeout) :
    (next.Pending start ∧ pulseCount events = 0 ∧ now < start.after Link.receiveTimeout) ∨
    (next.Clear ∧ pulseCount events = 1) := by
  cases advance with
  | @waiting bytes _ early =>
    left
    rw [due, ← Bool.not_eq_true, Alarm.expired_due, Nat.not_le] at early
    exact ⟨⟨head?_append_of_head? begun bytes, due⟩, pulseCount_taking bytes, early⟩
  | dropped _ _ armed | accepted _ _ armed | rejected _ _ armed =>
    exact .inr ⟨⟨rfl, rfl⟩, armed.pulseCount_taking_append _⟩

theorem Pending.pass (pending : receiver.Pending start) (pass : Pass now receiver events next) :
    (next.Pending start ∧ pulseCount events = 0 ∧ now < start.after Link.receiveTimeout) ∨
    (next.Clear ∧ pulseCount events = 1) := by
  obtain ⟨begun, armed⟩ := pending
  have same : ∀ bytes, (receiver.buffer ++ bytes).headD Control.idle = Control.data :=
    fun bytes => headD_of_head? (head?_append_of_head? begun bytes)
  cases pass with
  | @idle bytes idle => exact absurd ((same bytes).symm.trans idle) Control.data_ne_idle
  | @strayed bytes _ _ other _ => exact absurd (same bytes) other
  | @framed bytes later next _ advance =>
    rw [pulseCount_append, pulseCount_taking, Nat.zero_add]
    exact advance.pending (head?_append_of_head? begun bytes) (by dsimp only; rw [armed]; rfl)

/-- What becomes of a clear receiver depends on the first byte that it reads. -/
theorem Clear.pass (clear : receiver.Clear) (pass : Pass now receiver events next) :
    (takenBytes events = [] ∧ next.Clear ∧ pulseCount events = 0) ∨
    ((takenBytes events).head? = some Control.idle ∧ next.Stuck ∧ pulseCount events = 0) ∨
    (takenBytes events ≠ [] ∧ (takenBytes events).head? ≠ some Control.idle ∧
      ((next.Pending now ∧ pulseCount events = 0) ∨ (next.Clear ∧ pulseCount events = 1))) := by
  obtain ⟨buffer, alarm, handed, errors⟩ := receiver
  obtain ⟨rfl, rfl⟩ : buffer = [] ∧ alarm = .off := clear
  cases pass with
  | @idle bytes idle =>
    rw [takenBytes_taking]
    rcases bytes with - | ⟨control, bytes⟩
    · exact .inl ⟨rfl, ⟨rfl, rfl⟩, rfl⟩
    · obtain rfl : control = Control.idle := idle
      exact .inr (.inl ⟨rfl, rfl, pulseCount_taking _⟩)
  | @strayed bytes arming started other armed =>
    rcases bytes with - | ⟨control, bytes⟩
    · exact absurd rfl started
    · rw [armed.takenBytes_taking_append, armed.pulseCount_taking_append]
      have junk : some control ≠ some Control.idle := fun same => started (Option.some.inj same)
      exact .inr (.inr ⟨by simp, junk, .inr ⟨⟨rfl, rfl⟩, rfl⟩⟩)
  | @framed bytes later next data advance =>
    rcases bytes with - | ⟨control, bytes⟩
    · exact absurd data.symm Control.data_ne_idle
    · obtain rfl : control = Control.data := data
      rw [takenBytes_append, takenBytes_taking, pulseCount_append, pulseCount_taking, Nat.zero_add]
      have other : some Control.data ≠ some Control.idle := by decide
      refine .inr (.inr ⟨by simp, other, ?_⟩)
      rcases advance.pending rfl rfl with ⟨pending, none, -⟩ | done
      · exact .inl ⟨pending, none⟩
      · exact .inr done

end Receiver

namespace Link

variable {σ : Type} [Peer σ]

/-- In a run of `moves` the pass after `past` reads an idle byte where a control byte is due. -/
def Wedges (start : Link σ) (moves past : List Move) : Prop :=
  past ++ [Move.tick] <+: moves ∧ (start.after past).transport.received = [] ∧
    ((start.after past).taken [Move.tick]).head? = some Control.idle

inductive Outlook (start : Link σ) (moves : List Move) : Prop where
  | clear (never : ∀ past, ¬start.Wedges moves past) (clear : (start.after moves).receiver.Clear)
  | pending (never : ∀ past, ¬start.Wedges moves past) {begun : List Move}
      (earlier : begun ++ [Move.tick] <+: moves) (reads : (start.after begun).taken [Move.tick] ≠ [])
      (pending : (start.after moves).receiver.Pending (start.after begun).line.now)
  | stuck {past : List Move} (wedges : start.Wedges moves past)
      (stuck : (start.after moves).receiver.Stuck)

theorem Wedges.append {start : Link σ} {moves past : List Move} (wedges : start.Wedges moves past)
    (more : List Move) : start.Wedges (moves ++ more) past :=
  ⟨wedges.1.trans (List.prefix_append _ _), wedges.2⟩

theorem not_wedges_concat {start : Link σ} {moves : List Move} (move : Move)
    (never : ∀ past, ¬start.Wedges moves past)
    (harmless : move = .tick → (start.after moves).transport.received = [] →
      ((start.after moves).taken [Move.tick]).head? ≠ some Control.idle) (past : List Move) :
    ¬start.Wedges (moves ++ [move]) past := by
  rintro ⟨begun, empty, idle⟩
  rcases List.prefix_concat_iff.mp begun with last | earlier
  · obtain ⟨rfl, same⟩ := List.append_inj' last rfl
    exact harmless (List.cons.inj same).1.symm empty idle
  · exact never past ⟨earlier, empty, idle⟩

namespace Outlook

variable {start : Link σ} {moves : List Move}

theorem pause (outlook : Outlook start moves) (span : Micros) :
    Outlook start (moves ++ [Move.pause span]) := by
  obtain ⟨-, reached, -⟩ := paused (start.after moves) span
  rw [← after_concat] at reached
  cases outlook with
  | clear never clear => exact .clear (not_wedges_concat _ never nofun) (reached ▸ clear)
  | pending never earlier reads pending =>
    exact .pending (not_wedges_concat _ never nofun) (earlier.trans (List.prefix_append _ _)) reads
      (reached ▸ pending)
  | stuck wedges stuck => exact .stuck (wedges.append _) (reached ▸ stuck)

theorem tick (outlook : Outlook start moves) (sound : Sound ((start.after moves).events [Move.tick])) :
    Outlook start (moves ++ [Move.tick]) := by
  obtain ⟨received, sent, -, -, read, -, pass, -⟩ := passed (start.after moves) sound
  rw [← after_concat] at pass
  cases outlook with
  | clear never clear =>
    rcases clear.pass pass with ⟨none, still, -⟩ | ⟨idle, stuck, -⟩ | ⟨some, other, busy⟩
    · refine .clear (not_wedges_concat _ never fun _ _ => ?_) still
      rw [read, none]
      simp
    · rw [← read] at idle
      exact .stuck ⟨List.prefix_refl _, clear.1, idle⟩ stuck
    · rw [← read] at some other
      have harmless := not_wedges_concat .tick never fun _ _ => other
      rcases busy with ⟨pending, -⟩ | ⟨done, -⟩
      · exact .pending harmless (List.prefix_refl _) some pending
      · exact .clear harmless done
  | pending never earlier reads pending =>
    have harmless := not_wedges_concat .tick never fun _ empty => by
      have begun := pending.1
      rw [show (start.after moves).receiver.buffer = [] from empty] at begun
      cases begun
    rcases pending.pass pass with ⟨still, -⟩ | ⟨done, -⟩
    · exact .pending harmless (earlier.trans (List.prefix_append _ _)) reads still
    · exact .clear harmless done
  | stuck wedges stuck => exact .stuck (wedges.append _) (stuck.pass pass).1

end Outlook

theorem outlook_after {start : Link σ} (clear : start.receiver.Clear) (moves : List Move)
    (sound : Sound (start.events moves)) : Outlook start moves := by
  -- From the end, since `Outlook` looks back at the passes made so far.
  induction moves using List.reverseRecOn with
  | nil =>
    refine .clear (fun past wedges => ?_) clear
    have begun := wedges.1
    simp at begun
  | append_singleton moves move ih =>
    rw [events_append] at sound
    obtain ⟨before, last⟩ := sound.of_append
    cases move with
    | pause span => exact (ih before).pause span
    | tick => exact (ih before).tick last

/-- A stuck receiver stays stuck, and the far side gets no pulse any more. -/
theorem stuck_after {link : Link σ} (stuck : link.receiver.Stuck) (moves : List Move)
    (sound : Sound (link.events moves)) :
    (link.after moves).receiver.Stuck ∧ pulseCount (link.events moves) = 0 := by
  induction moves generalizing link with
  | nil => exact ⟨stuck, by rw [events_nil, pulseCount_nil]⟩
  | cons move rest ih =>
    rw [events_cons] at sound ⊢
    obtain ⟨first, later⟩ := sound.of_append
    have step : (link.move move).receiver.Stuck ∧ pulseCount (link.events [move]) = 0 := by
      cases move with
      | pause span =>
        obtain ⟨far, same, -⟩ := paused link span
        exact ⟨same ▸ stuck, far.sending.pulseCount_eq⟩
      | tick =>
        obtain ⟨_, _, -, -, -, pulses, pass, -⟩ := passed link first
        rw [pulses]
        exact stuck.pass pass
    obtain ⟨still, none⟩ := ih step.1 later
    refine ⟨still, ?_⟩
    rw [pulseCount_append, step.2, none]

/-- Without a pulse a frame that has begun is still there. -/
theorem pending_after {link : Link σ} {begun : Micros} (pending : link.receiver.Pending begun)
    (moves : List Move) (sound : Sound (link.events moves))
    (none : pulseCount (link.events moves) = 0) : (link.after moves).receiver.Pending begun := by
  induction moves generalizing link with
  | nil => exact pending
  | cons move rest ih =>
    rw [events_cons] at sound none
    rw [pulseCount_append, Nat.add_eq_zero_iff] at none
    obtain ⟨first, later⟩ := sound.of_append
    refine ih ?_ later none.2
    cases move with
    | pause span =>
      obtain ⟨-, same, -⟩ := paused link span
      exact same ▸ pending
    | tick =>
      obtain ⟨_, _, -, -, -, pulses, pass, -⟩ := passed link first
      rcases pending.pass pass with ⟨still, -⟩ | ⟨-, one⟩
      · exact still
      · have zero := none.1
        rw [pulses, one] at zero
        cases zero

/-- Time does not run backwards; a start past the end of the clock falls back to the end. -/
theorem now_after (link : Link σ) (moves : List Move) (sound : Sound (link.events moves)) :
    min link.line.now Micros.last ≤ (link.after moves).line.now := by
  induction moves generalizing link with
  | nil => exact Nat.min_le_left ..
  | cons move rest ih =>
    rw [events_cons] at sound
    obtain ⟨first, later⟩ := sound.of_append
    refine Nat.le_trans ?_ (ih (link.move move) later)
    cases move with
    | pause span =>
      obtain ⟨-, -, later⟩ := paused link span
      rw [later, Micros.after]
      omega
    | tick =>
      obtain ⟨_, _, -, -, -, -, -, instant⟩ := passed link first
      rw [instant]

theorem taken_tick_eq_nil {start : Link σ} {past moves : List Move}
    (begun : past ++ [Move.tick] <+: moves) (none : start.taken moves = []) :
    (start.after past).taken [Move.tick] = [] := by
  obtain ⟨more, rfl⟩ := begun
  rw [taken_append, taken_append, List.append_eq_nil_iff, List.append_eq_nil_iff] at none
  exact none.1.2

/-- A pass that reads something comes before the line falls silent. -/
theorem prefix_of_reads {start : Link σ} {early late begun : List Move}
    (silent : (start.after early).taken late = []) (earlier : begun ++ [Move.tick] <+: early ++ late)
    (reads : (start.after begun).taken [Move.tick] ≠ []) : begun ++ [Move.tick] <+: early := by
  rcases List.prefix_or_prefix_of_prefix earlier (List.prefix_append early late) with within | past
  · exact within
  rcases List.prefix_concat_iff.mp past with rfl | ⟨middle, rfl⟩
  · exact List.prefix_refl _
  · rw [List.append_assoc, List.prefix_append_right_inj] at earlier
    have none := taken_tick_eq_nil earlier silent
    rw [← after_append] at none
    exact absurd none reads

/-- Long after the line fell silent every deadline is over. -/
theorem deadline_le {start : Link σ} {early late begun : List Move}
    (sound : Sound (start.events early)) (within : begun ++ [Move.tick] <+: early)
    (settled : early ≠ [] → (start.after early).line.now + receiveTimeout ≤
      (start.after (early ++ late)).line.now) :
    (start.after begun).line.now.after receiveTimeout ≤ (start.after (early ++ late)).line.now := by
  obtain ⟨more, rfl⟩ := within
  have passed : min (start.after begun).line.now Micros.last ≤
      (start.after (begun ++ [Move.tick] ++ more)).line.now := by
    rw [List.append_assoc, after_append]
    rw [List.append_assoc, events_append] at sound
    exact now_after _ _ sound.of_append.2
  exact Micros.after_le passed (settled (by simp))

/-- After the last pass the receiver is clear, unless an idle byte got it stuck. -/
theorem settles {start : Link σ} {early late : List Move} (clear : start.receiver.Clear)
    (sound : Sound (start.events (early ++ late ++ [Move.tick])))
    (silent : (start.after early).taken (late ++ [Move.tick]) = [])
    (settled : early ≠ [] → (start.after early).line.now + receiveTimeout ≤
      (start.after (early ++ late)).line.now) :
    ((∀ past, ¬start.Wedges (early ++ late ++ [Move.tick]) past) ∧
      (start.after (early ++ late ++ [Move.tick])).receiver.Clear) ∨
    ((∃ past, start.Wedges (early ++ late ++ [Move.tick]) past) ∧
      (start.after (early ++ late ++ [Move.tick])).receiver.Stuck) := by
  have both := sound
  rw [events_append] at both
  obtain ⟨before, last⟩ := both.of_append
  obtain ⟨_, _, -, -, read, -, pass, -⟩ := passed (start.after (early ++ late)) last
  have quiet : (start.after (early ++ late)).taken [Move.tick] = [] := by
    rw [taken_append, List.append_eq_nil_iff, ← after_append] at silent
    exact silent.2
  have harmless : ∀ never : ∀ past, ¬start.Wedges (early ++ late) past,
      ∀ past, ¬start.Wedges (early ++ late ++ [Move.tick]) past := fun never =>
    not_wedges_concat .tick never fun _ _ => by rw [quiet]; simp
  rw [← after_concat] at pass
  cases outlook_after clear (early ++ late) before with
  | clear never clear =>
    rw [read] at quiet
    rcases clear.pass pass with ⟨-, still, -⟩ | ⟨idle, -⟩ | ⟨some, -⟩
    · exact .inl ⟨harmless never, still⟩
    · rw [quiet] at idle
      cases idle
    · exact absurd quiet some
  | pending never earlier reads pending =>
    -- The frame began before the line fell silent, so this pass comes after its deadline.
    rw [taken_append, List.append_eq_nil_iff] at silent
    have within := prefix_of_reads silent.1 earlier reads
    rw [events_append] at before
    have due := deadline_le before.of_append.1 within settled
    rcases pending.pass pass with ⟨-, -, early⟩ | ⟨done, -⟩
    · exact absurd due (Nat.not_le_of_lt early)
    · exact .inl ⟨harmless never, done⟩
  | stuck wedges stuck => exact .inr ⟨⟨_, wedges.append _⟩, (stuck.pass pass).1⟩

/-- A run whose first byte is read by this pass gives a pulse from there on exactly when that byte
is not an idle one. -/
theorem pulse_iff {start : Link σ} {before rest : List Move} (clear : start.receiver.Clear)
    (sound : Sound (start.events (before ++ Move.tick :: rest))) (none : start.taken before = [])
    (reads : (start.after before).taken [Move.tick] ≠ [])
    (ended : (start.after (before ++ Move.tick :: rest)).receiver.Clear ∨
      (start.after (before ++ Move.tick :: rest)).receiver.Stuck) :
    0 < pulseCount ((start.after before).events (Move.tick :: rest)) ↔
      ((start.after before).taken [Move.tick]).head? ≠ some Control.idle := by
  rw [events_append] at sound
  obtain ⟨first, later⟩ := sound.of_append
  rw [after_append] at ended
  rw [events_cons] at later ⊢
  obtain ⟨one, rest⟩ := later.of_append
  rw [pulseCount_append]
  obtain ⟨_, _, -, -, read, pulses, pass, -⟩ := passed (start.after before) one
  have unread : (start.after before).receiver.Clear := by
    cases outlook_after clear before first with
    | clear _ clear => exact clear
    | pending _ earlier some _ => exact absurd (taken_tick_eq_nil earlier none) some
    | stuck wedges _ =>
      have idle := wedges.2.2
      rw [taken_tick_eq_nil wedges.1 none] at idle
      cases idle
  rw [pulses]
  rw [read] at reads ⊢
  rcases unread.pass pass with ⟨no, -⟩ | ⟨idle, stuck, none⟩ | ⟨-, other, busy⟩
  · exact absurd no reads
  · refine iff_of_false ?_ (not_not.mpr idle)
    rw [none, (stuck_after stuck _ rest).2]
    exact Nat.lt_irrefl 0
  · -- Without a pulse the frame would still be there at the end.
    refine iff_of_true (Nat.pos_of_ne_zero fun zero => ?_) other
    obtain ⟨now, silent⟩ := Nat.add_eq_zero_iff.mp zero
    rcases busy with ⟨pending, -⟩ | ⟨-, pulse⟩
    · exact (pending_after pending _ rest silent).not_ended ended
    · rw [pulse] at now
      cases now

/-- Junk gets the receiver stuck in one way only. Some time after the line fell silent the receive
buffer is empty, unless a pass read an idle byte where a control byte was due. The pass that reads
the very first byte gives a pulse or is followed by one, unless that byte is an idle one. -/
theorem recovers_unless_idle_control (start : Link σ) (early late : List Move)
    (empty : start.transport.received = []) (off : start.rxAlarm = .off)
    (sound : Sound (start.events (early ++ late ++ [Move.tick])))
    (gone : (start.after early).line.waiting = [])
    (silent : arrivedBytes ((start.after early).events (late ++ [Move.tick])) = [])
    (settled : early ≠ [] → (start.after early).line.now + receiveTimeout ≤
      (start.after (early ++ late)).line.now) :
    ((start.after (early ++ late ++ [Move.tick])).transport.received = [] ↔
      ∀ past, ¬start.Wedges (early ++ late ++ [Move.tick]) past) ∧
    ∀ before rest, early ++ late ++ [Move.tick] = before ++ Move.tick :: rest →
      start.taken before = [] → (start.after before).taken [Move.tick] ≠ [] →
      (0 < pulseCount ((start.after before).events (Move.tick :: rest)) ↔
        ((start.after before).taken [Move.tick]).head? ≠ some Control.idle) := by
  have clear : start.receiver.Clear := ⟨empty, off⟩
  have flow := flow_events (start.after early) (late ++ [Move.tick])
  have unread := flow.silent gone silent
  have ended := settles clear sound unread settled
  constructor
  · rcases ended with ⟨never, clear⟩ | ⟨⟨past, wedges⟩, stuck⟩
    · exact iff_of_true clear.1 never
    · refine iff_of_false (fun none => ?_) fun never => never past wedges
      rw [Receiver.Stuck, show (start.after _).receiver.buffer = [] from none] at stuck
      cases stuck
  · intro before rest same none reads
    rw [same] at sound ended
    exact pulse_iff clear sound none reads (ended.imp And.right And.right)

def junked (bytes : Bytes) : Link Simulation.Script :=
  (Link.start { peer := {}, waiting := bytes } {} {} (.fixed none none) none).setState .alive

/-- A frame that breaks off is got rid of; an idle byte stays. -/
theorem recovers_unless_idle_control_junked :
    0 < pulseCount ((junked [0x02, 0x01]).events [.tick, .pause 20000, .tick]) ∧
    ((junked [0xff]).after [.tick, .pause 20000, .tick]).transport.received ≠ [] := by
  constructor
  · have recovers := recovers_unless_idle_control (junked [0x02, 0x01]) [.tick] [.pause 20000]
      rfl rfl (by decide +kernel) (by decide +kernel) (by decide +kernel) fun _ => by decide +kernel
    exact (recovers.2 [] _ rfl (by decide +kernel) (by decide +kernel)).mpr (by decide +kernel)
  · have recovers := recovers_unless_idle_control (junked [0xff]) [.tick] [.pause 20000]
      rfl rfl (by decide +kernel) (by decide +kernel) (by decide +kernel) fun _ => by decide +kernel
    intro none
    exact recovers.1.mp none [] ⟨List.prefix_append _ _, rfl, by decide +kernel⟩

end Link

end RadioLink
