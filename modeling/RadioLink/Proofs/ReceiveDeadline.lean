import RadioLink.Proofs.Operations
import RadioLink.Proofs.Recovery

/-!
The deadline of an incomplete frame. The receive alarm is set by the pass that first finds the control
byte of a frame and stopped by the pass that is done with the frame. Operations other than passes may
drop what has been received, too, and leave the alarm running: then the next frame is under the
deadline of the frame that was abandoned.
-/

namespace RadioLink

namespace Receiver

variable {now : Micros} {receiver next : Receiver} {events : List Event}

theorem headD_eq_of_head? {buffer : Bytes} {control : UInt8} (started : control ≠ Control.idle)
    (head : buffer.headD Control.idle = control) : buffer.head? = some control := by
  cases buffer with
  | nil => exact absurd head.symm started
  | cons first rest => exact congrArg some head

/-- A pass that finds no frame leaves the alarm alone. -/
theorem Pass.without_frame (pass : Pass now receiver events next)
    (none : (receiver.buffer ++ takenBytes events).head? ≠ some Control.data) :
    next.alarm = receiver.alarm ∧ next.buffer.head? ≠ some Control.data := by
  cases pass with
  | @idle bytes _ =>
    rw [takenBytes_taking] at none
    exact ⟨rfl, none⟩
  | strayed _ _ _ => exact ⟨rfl, fun begun => by cases begun⟩
  | @framed bytes later next data _ =>
    have begun := head?_append_of_head? (headD_eq_of_head? Control.data_ne_idle data)
      (takenBytes later)
    rw [takenBytes_append, takenBytes_taking, ← List.append_assoc] at none
    exact absurd begun none

/-- A pass that finds a frame is done with it, or waits for the rest of it under the alarm. -/
theorem Pass.with_frame (pass : Pass now receiver events next)
    (found : (receiver.buffer ++ takenBytes events).head? = some Control.data) :
    (next.buffer = [] ∧ next.alarm = .off ∧
      (Frame.completeLength? (receiver.buffer ++ takenBytes events) = none →
        (receiver.alarm.ensure now Link.receiveTimeout).expired now = true)) ∨
    (next.buffer = receiver.buffer ++ takenBytes events ∧
      next.alarm = receiver.alarm.ensure now Link.receiveTimeout ∧
      (receiver.alarm.ensure now Link.receiveTimeout).expired now = false) := by
  cases pass with
  | @idle bytes idle =>
    rw [takenBytes_taking] at found
    exact absurd ((headD_of_head? found).symm.trans idle) Control.data_ne_idle
  | @strayed bytes arming _ other armed =>
    rw [armed.takenBytes_taking_append] at found
    exact absurd (headD_of_head? found) other
  | @framed bytes later next data advance =>
    rw [takenBytes_append, takenBytes_taking, ← List.append_assoc]
    cases advance with
    | @waiting more missing early =>
      rw [takenBytes_taking]
      exact .inr ⟨rfl, rfl, early⟩
    | @dropped more arming missing late armed => exact .inl ⟨rfl, rfl, fun _ => late⟩
    | accepted complete _ armed | rejected complete _ armed =>
      rw [armed.takenBytes_taking_append]
      exact .inl ⟨rfl, rfl, fun missing => by rw [missing] at complete; cases complete⟩

end Receiver

namespace Transport

variable {σ α : Type}

def Retains (before after : Transport σ) : Prop :=
  after.received = before.received ∨ after.received = []

instance : IsPreorder (Transport σ) Retains where
  refl _ := .inl rfl
  trans _ _ _ early late := by
    rcases late with same | empty
    · rw [Retains, same]
      exact early
    · exact .inr empty

theorem Retains.empty {before after : Transport σ} (retains : before.Retains after)
    (empty : before.received = []) : after.received = [] :=
  retains.elim (·.trans empty) id

theorem retains_device (action : Action Fault (Line σ) α) : Action.Keeps Retains (device action) :=
  fun transport => by
    rw [device, Action.outcome_within]
    exact .inl rfl

variable [Peer σ]

theorem received_resetReceived (transport : Transport σ) :
    (resetReceived.outcome transport).2.received = [] := by
  rw [resetReceived, Action.outcome_change_bind]
  exact (retains_device (Line.call .clear) { transport with received := [] }).empty rfl

theorem received_armReceiver (transport : Transport σ) :
    (armReceiver.outcome transport).2.received = [] := by
  have emptied := received_resetReceived transport
  rw [armReceiver, Action.outcome_bind]
  rcases ran : resetReceived.outcome transport with ⟨result, reached⟩
  rw [ran] at emptied
  cases result with
  | error error => exact emptied
  | ok => exact (retains_device (Line.call .pulse) reached).empty emptied

/-- A request leaves an empty receive buffer, whatever it found there. -/
theorem received_request (dataId : UInt8) (payload : Bytes) (room : Nat) (transport : Transport σ) :
    ((request dataId payload room).outcome transport).2.received = [] := by
  rw [request, Action.outcome_bind, Action.outcome_attempt]
  dsimp only
  have emptied := received_armReceiver ((exchange dataId payload).outcome transport).2
  rw [Action.outcome_bind]
  rcases ran : armReceiver.outcome ((exchange dataId payload).outcome transport).2 with
    ⟨result, reached⟩
  rw [ran] at emptied
  cases result with
  | error error => exact emptied
  | ok =>
    have kept : Action.Keeps Retains (Action.ofExcept ((exchange dataId payload).outcome transport).1 >>=
        fun frame => pure (frame.payload.take room) : Action LinkError (Transport σ) Bytes) :=
      .bind (.ofExcept _) fun _ => .pure _
    exact (kept reached).empty emptied

theorem partsKeep_retains : PartsKeep (Retains : Transport σ → Transport σ → Prop) where
  note _ _ := .inl rfl
  delay _ _ := .inl rfl
  irq _ _ := .inl rfl
  clearReady _ := .inl rfl
  awaitReady _ _ _ := .inl rfl
  call _ := retains_device _
  resetReceived transport := .inr (received_resetReceived transport)
  resetLink := .bind (fun transport => .inr (received_resetReceived transport)) fun _ =>
    .bind (.change fun _ => .inl rfl) fun _ => retains_device _
  send dataId payload transport := .inl (sends_send dataId payload transport).2.1
  request dataId payload room transport := .inr (received_request dataId payload room transport)

end Transport

namespace Link

variable {σ : Type} [Peer σ]

def FindsIncomplete (link : Link σ) : Prop :=
  (link.transport.received ++ link.taken [Move.tick]).head? = some Control.data ∧
    Frame.completeLength? (link.transport.received ++ link.taken [Move.tick]) = none

/-- The pass after `past` reads the control byte of a frame into an empty receive buffer. -/
def Begins (start : Link σ) (past : List Operation) : Prop :=
  (start.performAll past).transport.received = [] ∧
    ((start.performAll past).taken [Move.tick]).head? = some Control.data

/-- The frame that begins with the pass after `seen` is the one that the pass after `past` finds. -/
def Found (start : Link σ) (seen past : List Operation) : Prop :=
  start.Begins seen ∧ seen ++ [.tick] <+: past ++ [.tick] ∧
    ∀ between, seen ++ [.tick] <+: between → between <+: past →
      (start.performAll between).transport.received ≠ []

/-- After the pass that follows `armed`, and still in `past`, an operation that is not a pass drops an
incomplete frame. -/
def Abandons (start : Link σ) (armed past : List Operation) : Prop :=
  ∃ cut operation, armed ++ [.tick] <+: cut ∧ cut ++ [operation] <+: past ∧ operation ≠ .tick ∧
    (start.performAll cut).transport.received.head? = some Control.data ∧
    (start.performAll (cut ++ [operation])).transport.received = []

theorem Abandons.append {start : Link σ} {armed past : List Operation}
    (abandons : start.Abandons armed past) (more : List Operation) :
    start.Abandons armed (past ++ more) := by
  obtain ⟨cut, operation, later, within, rest⟩ := abandons
  exact ⟨cut, operation, later, within.trans (List.prefix_append _ _), rest⟩

/-- A frame that is first found by the pass after `seen` is under the deadline that the pass after
`armed` has set: its own, or that of a frame which was abandoned before. -/
def TimedBy (start : Link σ) (armed seen : List Operation) : Prop :=
  start.Begins armed ∧ (armed = seen ∨ start.Abandons armed seen)

inductive Watch (start : Link σ) (past : List Operation) : Prop where
  | resting (none : (start.performAll past).transport.received.head? ≠ some Control.data)
      (off : (start.performAll past).rxAlarm = .off)
  | stale (none : (start.performAll past).transport.received.head? ≠ some Control.data)
      {armed : List Operation} (begins : start.Begins armed) (abandons : start.Abandons armed past)
      (due : (start.performAll past).rxAlarm = .due (start.performAll armed).line.now receiveTimeout)
  | pending (begun : (start.performAll past).transport.received.head? = some Control.data)
      {armed seen : List Operation} (within : seen ++ [.tick] <+: past) (found : start.Found seen past)
      (timed : start.TimedBy armed seen)
      (due : (start.performAll past).rxAlarm = .due (start.performAll armed).line.now receiveTimeout)

/-- A frame that begins with a pass is found by that pass. -/
theorem Begins.found {start : Link σ} {past : List Operation} (begins : start.Begins past) :
    start.Found past past := by
  refine ⟨begins, List.prefix_refl _, fun between later within => ?_⟩
  have longer := (later.trans within).length_le
  rw [List.length_append] at longer
  exact absurd longer (Nat.not_succ_le_self _)

/-- A frame stays the same as long as the buffer is not empty. -/
theorem Found.concat {start : Link σ} {seen past : List Operation} (found : start.Found seen past)
    {operation : Operation} (within : seen ++ [.tick] <+: past ++ [operation])
    (still : (start.performAll (past ++ [operation])).transport.received ≠ []) :
    start.Found seen (past ++ [operation]) := by
  obtain ⟨begins, -, same⟩ := found
  refine ⟨begins, within.trans (List.prefix_append _ _), fun between later earlier => ?_⟩
  rcases List.prefix_concat_iff.mp earlier with rfl | before
  · exact still
  · exact same between later before

theorem ne_nil_of_head? {buffer : Bytes} {control : UInt8} (begun : buffer.head? = some control) :
    buffer ≠ [] := by
  rintro rfl
  cases begun

/-- A frame that a pass is the first to find begins with that pass. -/
theorem begins_of_head? {start : Link σ} {past : List Operation}
    (none : (start.performAll past).transport.received.head? ≠ some Control.data)
    (found : ((start.performAll past).transport.received ++
      (start.performAll past).taken [Move.tick]).head? = some Control.data) : start.Begins past := by
  rcases empty : (start.performAll past).transport.received with - | ⟨first, rest⟩
  · rw [empty] at found
    exact ⟨empty, found⟩
  · rw [empty] at none found
    exact absurd found none

namespace Watch

variable {start : Link σ} {past : List Operation}

/-- The deadline of a frame that the next pass finds. -/
theorem timed (watch : Watch start past)
    (head : ((start.performAll past).transport.received ++
      (start.performAll past).taken [Move.tick]).head? = some Control.data) :
    ∃ armed seen, start.Found seen past ∧ start.TimedBy armed seen ∧
      (start.performAll past).rxAlarm.ensure (start.performAll past).line.now receiveTimeout =
        .due (start.performAll armed).line.now receiveTimeout := by
  cases watch with
  | resting none off =>
    have begins := begins_of_head? none head
    exact ⟨past, past, begins.found, ⟨begins, .inl rfl⟩, by rw [off]; rfl⟩
  | @stale none armed begins abandons due =>
    exact ⟨armed, past, (begins_of_head? none head).found, ⟨begins, .inr abandons⟩, by rw [due]; rfl⟩
  | @pending begun armed seen within found timed due =>
    exact ⟨armed, seen, found, timed, by rw [due]; rfl⟩

theorem tick (watch : Watch start past) (sound : Sound ((start.performAll past).events [Move.tick])) :
    Watch start (past ++ [.tick]) := by
  obtain ⟨received, sent, -, -, read, -, pass, -⟩ := passed (start.performAll past) sound
  have reached : (start.performAll (past ++ [.tick])).receiver =
      ((start.performAll past).move .tick).receiver := by
    rw [performAll_concat]
    rfl
  rw [← reached] at pass
  by_cases head : ((start.performAll past).transport.received ++
      (start.performAll past).taken [Move.tick]).head? = some Control.data
  · obtain ⟨armed, seen, found, timed, due⟩ := watch.timed head
    rw [read] at head
    rcases pass.with_frame head with ⟨empty, off, -⟩ | ⟨grown, alarm, -⟩
    · exact .resting (fun begun => ne_nil_of_head? begun empty) off
    · have begun : (start.performAll (past ++ [.tick])).transport.received.head? =
          some Control.data := (congrArg List.head? grown).trans head
      exact .pending begun found.2.1 (found.concat found.2.1 (ne_nil_of_head? begun)) timed
        (alarm.trans due)
  · have unfound := head
    rw [read] at head
    obtain ⟨alarm, none⟩ := pass.without_frame head
    cases watch with
    | resting _ off => exact .resting none (alarm.trans off)
    | stale _ begins abandons due => exact .stale none begins (abandons.append _) (alarm.trans due)
    | pending begun _ _ _ _ => exact absurd (Receiver.head?_append_of_head? begun _) unfound

/-- An operation that is not a pass keeps a frame under way with its deadline, or abandons it. -/
theorem other (watch : Watch start past) {operation : Operation} (other : operation ≠ .tick) :
    Watch start (past ++ [operation]) := by
  obtain ⟨alarm, retains⟩ :=
    via_perform Transport.partsKeep_retains (start.performAll past) other
  rw [← performAll_concat] at alarm retains
  have none : (start.performAll past).transport.received.head? ≠ some Control.data →
      (start.performAll (past ++ [operation])).transport.received.head? ≠ some Control.data := by
    intro none
    rcases retains with same | empty
    · rwa [same]
    · exact fun begun => ne_nil_of_head? begun empty
  cases watch with
  | resting unbegun off => exact .resting (none unbegun) (alarm.trans off)
  | stale unbegun begins abandons due =>
    exact .stale (none unbegun) begins (abandons.append _) (alarm.trans due)
  | @pending begun armed seen within found timed due =>
    rcases retains with same | empty
    · have still := (congrArg List.head? same).trans begun
      have further := within.trans (List.prefix_append past [operation])
      exact .pending still further (found.concat further (ne_nil_of_head? still)) timed
        (alarm.trans due)
    · obtain ⟨begins, origin⟩ := timed
      have earlier : armed ++ [.tick] <+: past := by
        rcases origin with rfl | ⟨cut, _, later, before, -⟩
        · exact within
        · exact later.trans ((List.prefix_append _ _).trans
            (before.trans ((List.prefix_append _ _).trans within)))
      exact .stale (fun begun => ne_nil_of_head? begun empty) begins
        ⟨past, operation, earlier, List.prefix_refl _, other, begun, empty⟩ (alarm.trans due)

end Watch

theorem watch_performAll {start : Link σ} (empty : start.transport.received = [])
    (off : start.rxAlarm = .off) (past : List Operation) (sound : Sound (start.trace past)) :
    Watch start past := by
  -- From the end, since `Watch` looks back at the passes made so far.
  induction past using List.reverseRecOn with
  | nil => exact .resting (fun begun => ne_nil_of_head? begun empty) off
  | append_singleton past operation ih =>
    rw [trace_append] at sound
    obtain ⟨before, last⟩ := sound.of_append
    by_cases pass : operation = .tick
    · rw [pass] at last ⊢
      exact (ih before).tick last
    · exact (ih before).other pass

/-- A pass that finds an incomplete frame drops it exactly when the deadline of that frame is over. The
deadline lies twenty milliseconds, but not past the end of the clock, after the first pass that found
the control byte of the frame, unless a frame was abandoned since the alarm was set: then it lies as
long after the first pass that found the control byte of an earlier frame. -/
theorem incomplete_frame_dropped_iff (start : Link σ) (empty : start.transport.received = [])
    (off : start.rxAlarm = .off) (past : List Operation)
    (sound : Sound (start.trace (past ++ [.tick])))
    (incomplete : (start.performAll past).FindsIncomplete) :
    ∃ armed seen, start.Found seen past ∧ start.TimedBy armed seen ∧
      ((start.performAll (past ++ [.tick])).transport.received = [] ↔
        (start.performAll armed).line.now.after receiveTimeout ≤ (start.performAll past).line.now) := by
  obtain ⟨head, missing⟩ := incomplete
  rw [trace_append] at sound
  obtain ⟨before, last⟩ := sound.of_append
  obtain ⟨armed, seen, found, timed, due⟩ := (watch_performAll empty off past before).timed head
  refine ⟨armed, seen, found, timed, ?_⟩
  obtain ⟨received, sent, -, -, read, -, pass, -⟩ := passed (start.performAll past) last
  rw [performAll_concat, ← Alarm.expired_due, ← due]
  rw [read] at head missing
  rcases pass.with_frame head with ⟨dropped, -, late⟩ | ⟨grown, -, early⟩
  · exact iff_of_true dropped (late missing)
  · refine iff_of_false (fun dropped => ?_) (Bool.eq_false_iff.mp early)
    have begun := (congrArg List.head? grown).trans head
    exact ne_nil_of_head? begun dropped

/-- A live link that has begun to receive a frame when the answer to a request comes in. Almost twenty
milliseconds after the request the far side begins with another frame. -/
def interrupted : Link Simulation.Script :=
  (Link.start
    { peer :=
        { onWrite := [[{ bytes := [0x02, 0x50, 0xd8, 0x33, 0xaa, 0xbb] }]]
          onPulse := [[{ bytes := [0x02, 0x01], delay := 19990 }]] }
      waiting := [0x02, 0x01]
      ready := { isSet := true, enabled := true } } {} {} (.fixed none none) none).setState .alive

def untilSecondFrame : List Operation := [.tick, .request 0x50 [] 8, .move (.pause 19990)]

def untilDrop : List Operation := untilSecondFrame ++ [.tick, .move (.pause 10)]

/-- The second frame is dropped ten microseconds after the first pass that found its control byte, at
the deadline of the frame that the request has abandoned. -/
theorem incomplete_frame_dropped_iff_interrupted :
    interrupted.Begins untilSecondFrame ∧
    (interrupted.performAll untilDrop).line.now =
      (interrupted.performAll untilSecondFrame).line.now + 10 ∧
    (interrupted.performAll (untilDrop ++ [.tick])).transport.received = [] ∧
    ∃ armed seen, interrupted.Found seen untilDrop ∧ interrupted.TimedBy armed seen ∧
      (interrupted.performAll armed).line.now.after receiveTimeout ≤
        (interrupted.performAll untilDrop).line.now := by
  have begins : interrupted.Begins untilSecondFrame := ⟨by decide +kernel, by decide +kernel⟩
  have dropped : (interrupted.performAll (untilDrop ++ [.tick])).transport.received = [] := by
    decide +kernel
  obtain ⟨armed, seen, found, timed, iff⟩ := incomplete_frame_dropped_iff interrupted rfl rfl
    untilDrop (by decide +kernel) ⟨by decide +kernel, by decide +kernel⟩
  exact ⟨begins, by decide +kernel, dropped, armed, seen, found, timed, iff.mp dropped⟩

end Link

end RadioLink
