import RadioLink.Proofs.BootSequence
import RadioLink.Proofs.LiveRun
import RadioLink.Simulation.Peer

/-!
Flow control on the way in. A far side that sends one frame per pulse, in whatever pieces, has every
frame handed on exactly once and in order, as long as no frame is still incomplete when its deadline
is over. A pass gathers some more of the frame under way or completes it; the run lemma adds up what
the passes gather.
-/

namespace RadioLink

namespace Receiver

/-- What a pass does for a frame that has arrived in part, and how many pulses it gives: it has read
more of the frame, or all of it and handed it on. -/
inductive Gathered (parcel : Parcel) (now : Micros) (receiver : Receiver) (bytes : Bytes) :
    Nat → Receiver → Prop where
  | more (short : (receiver.buffer ++ bytes).length < parcel.wire.length) :
      Gathered parcel now receiver bytes 0
        { receiver with
          buffer := receiver.buffer ++ bytes
          alarm :=
            if receiver.buffer ++ bytes = [] then receiver.alarm
            else receiver.alarm.ensure now Link.receiveTimeout }
  | whole (all : receiver.buffer ++ bytes = parcel.wire) :
      Gathered parcel now receiver bytes 1
        { receiver with buffer := [], alarm := .off, handed := parcel.frame :: receiver.handed }

/-- Two reads of a pass count as one. -/
theorem Gathered.after {parcel : Parcel} {now : Micros} {receiver next : Receiver}
    {first second : Bytes} {pulses : Nat}
    (gathered : Gathered parcel now { receiver with buffer := receiver.buffer ++ first } second
      pulses next) :
    Gathered parcel now receiver (first ++ second) pulses next := by
  cases gathered with
  | more short =>
    simp only [List.append_assoc] at short ⊢
    exact .more short
  | whole all =>
    rw [List.append_assoc] at all
    exact .whole all

variable {parcel : Parcel} {now : Micros} {receiver next : Receiver} {events sent : List Event}
  {before after : Bytes}

/-- What has been read of a part of a frame is a part of it, too. -/
theorem front_part {buffer bytes queue wire : Bytes} (part : buffer ++ (bytes ++ queue) <+: wire) :
    buffer ++ bytes <+: wire := by
  rw [← List.append_assoc] at part
  exact (List.prefix_append _ _).trans part

theorem Advance.gathered (advance : Advance now receiver events next) (sending : Sending sent)
    (flow : Flow before (events ++ sent) after) (started : receiver.buffer ≠ [])
    (part : receiver.buffer ++ before <+: parcel.wire)
    (timely : (receiver.alarm.ensure now Link.receiveTimeout).expired now = true →
      parcel.wire.length ≤ (receiver.buffer ++ takenBytes events).length) :
    before ++ arrivedBytes (events ++ sent) = takenBytes events ++ after ∧
      Gathered parcel now receiver (takenBytes events) (pulseCount events) next := by
  have busy : ∀ bytes : Bytes, receiver.buffer ++ bytes ≠ [] := by simp [started]
  cases advance with
  | @waiting bytes missing _ =>
    obtain ⟨queue, rfl, rest⟩ := flow.of_taking_append
    have short := parcel.short_of_incomplete (front_part part) missing
    have arrived := sending.flow rest
    rw [takenBytes_taking, pulseCount_taking]
    refine ⟨by simp [arrived], ?_⟩
    have gathered : Gathered parcel now receiver bytes 0 _ := .more short
    rwa [if_neg (busy bytes)] at gathered
  | @dropped bytes arming missing late armed =>
    rw [List.append_assoc] at flow
    obtain ⟨queue, rfl, -⟩ := flow.of_taking_append
    have short := parcel.short_of_incomplete (front_part part) missing
    have long := timely late
    rw [armed.takenBytes_taking_append] at long
    omega
  | @accepted bytes payload arming length header complete valid armed =>
    rw [List.append_assoc] at flow
    obtain ⟨queue, rfl, rest⟩ := flow.of_taking_append
    obtain ⟨all, rfl⟩ := parcel.whole_of_complete (front_part part) complete
    -- The far side may not send on before the pulse, so the discard finds nothing to drop.
    have empty : queue = [] := by
      rw [← List.append_assoc, all] at part
      simpa using part.length_le
    rw [all, parcel.decode_wire] at valid
    obtain ⟨rfl, rfl⟩ := Prod.mk.inj (Except.ok.inj valid)
    have arrived := armed.flow sending rest
    rw [armed.takenBytes_taking_append, armed.pulseCount_taking_append]
    exact ⟨by simp [arrived, empty], .whole all⟩
  | @rejected bytes arming length error complete invalid armed =>
    rw [List.append_assoc] at flow
    obtain ⟨queue, rfl, -⟩ := flow.of_taking_append
    obtain ⟨all, rfl⟩ := parcel.whole_of_complete (front_part part) complete
    rw [all, parcel.decode_wire] at invalid
    cases invalid

theorem Pass.gathered (pass : Pass now receiver events next) (sending : Sending sent)
    (flow : Flow before (events ++ sent) after) (part : receiver.buffer ++ before <+: parcel.wire)
    (timely : (receiver.alarm.ensure now Link.receiveTimeout).expired now = true →
      receiver.buffer ++ takenBytes events ≠ [] →
      parcel.wire.length ≤ (receiver.buffer ++ takenBytes events).length) :
    before ++ arrivedBytes (events ++ sent) = takenBytes events ++ after ∧
      Gathered parcel now receiver (takenBytes events) (pulseCount events) next := by
  cases pass with
  | @idle bytes idle =>
    obtain ⟨queue, rfl, rest⟩ := flow.of_taking_append
    have arrived := sending.flow rest
    have empty : receiver.buffer ++ bytes = [] := by
      by_contra started
      exact Control.data_ne_idle ((parcel.headD_eq started (front_part part)).symm.trans idle)
    rw [takenBytes_taking, pulseCount_taking]
    refine ⟨by simp [arrived], ?_⟩
    have short : (receiver.buffer ++ bytes).length < parcel.wire.length := by
      rw [empty]
      exact parcel.wire_length_pos
    have gathered : Gathered parcel now receiver bytes 0 _ := .more short
    rwa [if_pos empty] at gathered
  | @strayed bytes arming started other armed =>
    rw [List.append_assoc] at flow
    obtain ⟨queue, rfl, -⟩ := flow.of_taking_append
    have busy : receiver.buffer ++ bytes ≠ [] := by
      intro empty
      rw [empty] at started
      exact started rfl
    exact absurd (parcel.headD_eq busy (front_part part)) other
  | @framed bytes later next data advance =>
    rw [List.append_assoc] at flow
    obtain ⟨queue, rfl, rest⟩ := flow.of_taking_append
    have busy : receiver.buffer ++ bytes ≠ [] := by
      intro empty
      rw [empty] at data
      exact Control.data_ne_idle data.symm
    rw [← List.append_assoc] at part
    rw [takenBytes_append, takenBytes_taking, ← List.append_assoc] at timely
    obtain ⟨kept, gathered⟩ := advance.gathered sending rest busy part
      fun late => timely late (List.append_ne_nil_of_left_ne_nil busy _)
    have pulses : pulseCount (taking bytes ++ later) = pulseCount later := by
      rw [pulseCount_append, pulseCount_taking, Nat.zero_add]
    rw [pulses, takenBytes_append, takenBytes_taking]
    exact ⟨by simp [← kept], gathered.after⟩

end Receiver

def stream (frames : Nat → Parcel) (count : Nat) : Bytes :=
  (List.range count).flatMap fun k => (frames k).wire

theorem stream_succ (frames : Nat → Parcel) (count : Nat) :
    stream frames (count + 1) = stream frames count ++ (frames count).wire := by
  rw [stream, List.range_succ, List.flatMap_append, List.flatMap_singleton]
  rfl

/-- The far side sends each frame after a pulse of its own. It was given one before the run and has
sent these bytes since. -/
def Paced (frames : Nat → Parcel) (sent : Bytes) (events : List Event) : Prop :=
  ∀ past, past <+: events → sent ++ arrivedBytes past <+: stream frames (1 + pulseCount past)

instance (frames : Nat → Parcel) (sent : Bytes) (events : List Event) :
    Decidable (Paced frames sent events) :=
  decidable_of_iff
    (∀ past ∈ events.inits, sent ++ arrivedBytes past <+: stream frames (1 + pulseCount past))
    (forall_congr' fun past => imp_congr_left (List.mem_inits past events))

namespace Link

variable {σ : Type} [Peer σ]

/-- A pass that gets to see a part of a frame and no more gathers it, and no byte is lost. -/
theorem tick_gathered (link : Link σ) (parcel : Parcel) (sound : Sound (link.events [Move.tick]))
    (part : link.receiver.buffer ++ link.line.waiting <+: parcel.wire)
    (timely : (link.receiver.alarm.ensure link.line.now receiveTimeout).expired link.line.now = true →
      link.receiver.buffer ++ link.taken [Move.tick] ≠ [] →
      parcel.wire.length ≤ (link.receiver.buffer ++ link.taken [Move.tick]).length) :
    link.line.waiting ++ arrivedBytes (link.events [Move.tick]) =
      link.taken [Move.tick] ++ (link.move .tick).line.waiting ∧
    Receiver.Gathered parcel link.line.now link.receiver (link.taken [Move.tick])
      (pulseCount (link.events [Move.tick])) (link.move .tick).receiver := by
  have flow := flow_events link [Move.tick]
  obtain ⟨received, sent, trace, sending, read, pulses, pass, -⟩ := passed link sound
  rw [trace] at flow
  rw [read] at timely
  rw [read, pulses, trace]
  exact pass.gathered sending flow part timely

def Sees (frames : Nat → Parcel) (start : Link σ) (moves : List Move) (k : Nat) : Prop :=
  (start.taken moves).length ≤ (stream frames k).length ∧
    (stream frames k).length < (start.taken (moves ++ [Move.tick])).length

/-- No pass finds a frame incomplete once the deadline that its control byte has set is over. -/
def Punctual (frames : Nat → Parcel) (deadline : Micros → Micros) (start : Link σ)
    (moves : List Move) : Prop :=
  ∀ k seen late, seen ++ [Move.tick] <+: moves → late ++ [Move.tick] <+: moves →
    start.Sees frames seen k → deadline (start.after seen).line.now ≤ (start.after late).line.now →
    (stream frames (k + 1)).length ≤ (start.taken (late ++ [Move.tick])).length

def Alarmed (frames : Nat → Parcel) (start : Link σ) (moves : List Move) (k : Nat) (alarm : Alarm) :
    Prop :=
  ∃ seen, seen ++ [Move.tick] <+: moves ∧ start.Sees frames seen k ∧
    alarm = .due (start.after seen).line.now receiveTimeout

theorem Alarmed.append {frames : Nat → Parcel} {start : Link σ} {moves : List Move} {k : Nat}
    {alarm : Alarm} (alarmed : start.Alarmed frames moves k alarm) (more : List Move) :
    start.Alarmed frames (moves ++ more) k alarm := by
  obtain ⟨seen, earlier, sees, due⟩ := alarmed
  exact ⟨seen, earlier.trans (List.prefix_append _ _), sees, due⟩

/-- Where a paced run stands: so many frames are through, and the buffer holds a part of the next. -/
structure Standing (frames : Nat → Parcel) (start : Link σ) (moves : List Move) (count : Nat) :
    Prop where
  pulses : pulseCount (start.events moves) = count
  taken : start.taken moves = stream frames count ++ (start.after moves).receiver.buffer
  kept : start.line.waiting ++ arrivedBytes (start.events moves) =
    start.taken moves ++ (start.after moves).line.waiting
  short : (start.after moves).receiver.buffer.length < (frames count).wire.length
  alarm : (start.after moves).receiver.buffer = [] ∧ (start.after moves).receiver.alarm = .off ∨
    start.Alarmed frames moves count (start.after moves).receiver.alarm
  handed : (start.after moves).receiver.handed =
    ((List.range count).map fun k => (frames k).frame).reverse ++ start.receiver.handed
  errors : (start.after moves).receiver.errors = start.receiver.errors

namespace Standing

variable {frames : Nat → Parcel} {start : Link σ} {moves : List Move} {count : Nat}

theorem initial (empty : start.receiver.buffer = []) (off : start.receiver.alarm = .off) :
    Standing frames start [] 0 where
  pulses := by rw [events_nil, pulseCount_nil]
  taken := by rw [Link.taken, events_nil, takenBytes_nil]; exact empty.symm
  kept := by rw [Link.taken, events_nil]; exact List.append_nil _
  short := by
    rw [show (start.after []).receiver.buffer = [] from empty]
    exact (frames 0).wire_length_pos
  alarm := .inl ⟨empty, off⟩
  handed := rfl
  errors := rfl

/-- What was sent and not handed on is a part of the next frame. -/
theorem part (standing : Standing frames start moves count)
    (paced : Paced frames start.line.waiting (start.events moves)) :
    (start.after moves).receiver.buffer ++ (start.after moves).line.waiting <+:
      (frames count).wire := by
  have sent := paced _ (List.prefix_refl _)
  rwa [standing.kept, standing.taken, standing.pulses, Nat.add_comm, stream_succ, List.append_assoc,
    List.prefix_append_right_inj] at sent

/-- No byte is lost if the next move loses none. -/
theorem kept_append (standing : Standing frames start moves count) (move : Move)
    (step : (start.after moves).line.waiting ++ arrivedBytes ((start.after moves).events [move]) =
      (start.after moves).taken [move] ++ ((start.after moves).move move).line.waiting) :
    start.line.waiting ++ arrivedBytes (start.events (moves ++ [move])) =
      start.taken (moves ++ [move]) ++ (start.after (moves ++ [move])).line.waiting := by
  rw [events_append, arrivedBytes_append, ← List.append_assoc, standing.kept, taken_append,
    after_append, List.append_assoc, step, ← List.append_assoc]
  rfl

theorem pause (standing : Standing frames start moves count) (span : Micros) :
    Standing frames start (moves ++ [Move.pause span]) count := by
  obtain ⟨far, reached, -⟩ := paused (start.after moves) span
  have none : (start.after moves).taken [Move.pause span] = [] := far.takenBytes_eq
  have queue := far.sending.flow (flow_events (start.after moves) [Move.pause span])
  rw [← after_concat] at reached
  constructor
  case pulses =>
    rw [events_append, pulseCount_append, far.sending.pulseCount_eq, standing.pulses, Nat.add_zero]
  case taken => rw [taken_append, none, List.append_nil, reached, standing.taken]
  case kept => exact standing.kept_append _ (by rw [none]; exact queue.symm)
  case short => rw [reached]; exact standing.short
  case alarm =>
    rw [reached]
    exact standing.alarm.imp_right (·.append _)
  case handed => rw [reached, standing.handed]
  case errors => rw [reached, standing.errors]

/-- As soon as a pass has read something of a frame, the alarm is that of the first such pass. -/
theorem armed (standing : Standing frames start moves count)
    (some : (start.after moves).receiver.buffer ++ (start.after moves).taken [Move.tick] ≠ []) :
    start.Alarmed frames (moves ++ [Move.tick]) count
      ((start.after moves).receiver.alarm.ensure (start.after moves).line.now receiveTimeout) := by
  rcases standing.alarm with ⟨empty, off⟩ | ⟨seen, earlier, sees, armed⟩
  · refine ⟨moves, List.prefix_refl _, ⟨?_, ?_⟩, by rw [off]; rfl⟩
    · rw [standing.taken, empty, List.append_nil]
    · have more := List.length_pos_of_ne_nil some
      rw [taken_append, standing.taken, List.append_assoc, List.length_append]
      omega
  · exact ⟨seen, earlier.trans (List.prefix_append _ _), sees, by rw [armed]; rfl⟩

theorem timely (standing : Standing frames start moves count)
    (punctual : start.Punctual frames (Micros.after · receiveTimeout) (moves ++ [Move.tick]))
    (late : ((start.after moves).receiver.alarm.ensure (start.after moves).line.now
      receiveTimeout).expired (start.after moves).line.now = true)
    (some : (start.after moves).receiver.buffer ++ (start.after moves).taken [Move.tick] ≠ []) :
    (frames count).wire.length ≤
      ((start.after moves).receiver.buffer ++ (start.after moves).taken [Move.tick]).length := by
  obtain ⟨seen, earlier, sees, armed⟩ := standing.armed some
  rw [armed, Alarm.expired_due] at late
  have complete := punctual count seen moves earlier (List.prefix_refl _) sees late
  rw [taken_append, standing.taken, stream_succ, List.append_assoc, List.length_append,
    List.length_append] at complete
  omega

/-- A pass gathers some more of the next frame or all of it. -/
theorem gather (standing : Standing frames start moves count)
    (step : (start.after moves).line.waiting ++ arrivedBytes ((start.after moves).events [Move.tick]) =
      (start.after moves).taken [Move.tick] ++ ((start.after moves).move .tick).line.waiting)
    (gathered : Receiver.Gathered (frames count) (start.after moves).line.now
      (start.after moves).receiver ((start.after moves).taken [Move.tick])
      (pulseCount ((start.after moves).events [Move.tick])) ((start.after moves).move .tick).receiver) :
    ∃ next, Standing frames start (moves ++ [Move.tick]) next := by
  have kept := standing.kept_append .tick step
  have pulses : pulseCount (start.events (moves ++ [Move.tick])) =
      count + pulseCount ((start.after moves).events [Move.tick]) := by
    rw [events_append, pulseCount_append, standing.pulses]
  have taken : start.taken (moves ++ [Move.tick]) = stream frames count ++
      ((start.after moves).receiver.buffer ++ (start.after moves).taken [Move.tick]) := by
    rw [taken_append, standing.taken, List.append_assoc]
  have reached := congrArg Link.receiver (after_concat start moves .tick)
  generalize ((start.after moves).move .tick).receiver = next at gathered reached
  generalize pulseCount ((start.after moves).events [Move.tick]) = strobes at gathered pulses
  cases gathered with
  | more short =>
    refine ⟨count, pulses, by rw [taken, reached], kept, by rwa [reached], ?_, ?_, ?_⟩
    · rw [reached]
      dsimp only
      split
      next none =>
        rcases standing.alarm with ⟨-, off⟩ | alarmed
        · exact .inl ⟨none, off⟩
        · exact .inr (alarmed.append _)
      next some => exact .inr (standing.armed some)
    · rw [reached, ← standing.handed]
    · rw [reached, ← standing.errors]
  | whole all =>
    refine ⟨count + 1, pulses, ?_, kept, ?_, ?_, ?_, ?_⟩
    · rw [taken, reached, all, stream_succ, List.append_nil]
    · rw [reached]
      exact (frames (count + 1)).wire_length_pos
    · rw [reached]
      exact .inl ⟨rfl, rfl⟩
    · rw [reached, List.range_succ, List.map_append, List.reverse_append, List.append_assoc,
        ← standing.handed]
      rfl
    · rw [reached, ← standing.errors]

/-- Where the run stands after one more move. -/
theorem step (standing : Standing frames start moves count) (move : Move)
    (sound : Sound ((start.after moves).events [move]))
    (paced : Paced frames start.line.waiting (start.events moves))
    (punctual : start.Punctual frames (Micros.after · receiveTimeout) (moves ++ [move])) :
    ∃ next, Standing frames start (moves ++ [move]) next := by
  cases move with
  | pause span => exact ⟨count, standing.pause span⟩
  | tick =>
    obtain ⟨kept, gathered⟩ := tick_gathered (start.after moves) (frames count) sound
      (standing.part paced) (standing.timely punctual)
    exact standing.gather kept gathered

end Standing

/-- Where a run stands at its end. -/
theorem standing_after {frames : Nat → Parcel} (start : Link σ) (empty : start.receiver.buffer = [])
    (off : start.receiver.alarm = .off) (moves : List Move) (sound : Sound (start.events moves))
    (paced : Paced frames start.line.waiting (start.events moves))
    (punctual : start.Punctual frames (Micros.after · receiveTimeout) moves) :
    ∃ count, Standing frames start moves count := by
  -- From the end, since the deadlines look back at the passes made so far.
  induction moves using List.reverseRecOn with
  | nil => exact ⟨0, .initial empty off⟩
  | append_singleton moves move ih =>
    rw [events_append] at sound paced
    obtain ⟨before, last⟩ := sound.of_append
    have earlier : Paced frames start.line.waiting (start.events moves) :=
      fun past begun => paced past (begun.trans (List.prefix_append _ _))
    obtain ⟨count, standing⟩ := ih before earlier fun k seen late first second =>
        punctual k seen late (first.trans (List.prefix_append _ _))
          (second.trans (List.prefix_append _ _))
    exact standing.step move last earlier punctual

/-- No frame can be late in a run that is over before any deadline. -/
theorem Punctual.of_brief {frames : Nat → Parcel} {deadline : Micros → Micros} {start : Link σ}
    {moves : List Move}
    (brief : ∀ seen ∈ moves.inits, ∀ late ∈ moves.inits,
      (start.after late).line.now < deadline (start.after seen).line.now) :
    start.Punctual frames deadline moves := by
  intro k seen late first second _ due
  have before : ∀ past, past ++ [Move.tick] <+: moves → past ∈ moves.inits := fun past begun =>
    (List.mem_inits _ _).mpr ((List.prefix_append _ _).trans begun)
  exact absurd due (Nat.not_le_of_lt (brief seen (before seen first) late (before late second)))

end Link

namespace Lifecycle

variable {σ : Type} [Peer σ]

def JustAlive (start : Link σ) : Prop :=
  ∃ link ready : Link σ, bootApplication.outcome link.resetSession = (.ok true, ready) ∧
    start = announce ready .alive .alive

/-- The bytes that the far side sent were read or wait to be read. What was read is some whole frames,
each of them handed on once, in order, and answered with one pulse, and a part of the next one. No
frame was counted as rejected. -/
def Delivered (frames : Nat → Parcel) (start : Link σ) (moves : List Move) : Prop :=
  ∃ count rest,
    start.line.waiting ++ arrivedBytes (start.events moves) =
      start.taken moves ++ (start.after moves).line.waiting ∧
    start.taken moves = stream frames count ++ rest ∧
    rest <+: (frames count).wire ∧ rest ≠ (frames count).wire ∧
    ((start.after moves).dispatched.map fun frame => (frame.dataId, frame.payload)) =
      ((List.range count).map fun k => ((frames k).dataId, (frames k).payload)).reverse ++
        start.dispatched.map (fun frame => (frame.dataId, frame.payload)) ∧
    pulseCount (start.events moves) = count ∧
    (start.after moves).transport.commErrors = start.transport.commErrors

/-- No frame is lost, duplicated or reordered under the link's own flow control. -/
theorem frames_handed_in_order {start : Link σ} (fresh : JustAlive start) (frames : Nat → Parcel)
    (moves : List Move) (sound : Sound (start.events moves))
    (paced : Paced frames start.line.waiting (start.events moves))
    (punctual : start.Punctual frames (Micros.after · Link.receiveTimeout) moves) :
    Delivered frames start moves := by
  obtain ⟨link, ready, booted, rfl⟩ := fresh
  obtain ⟨empty, off⟩ := receiver_of_bootApplication booted
  obtain ⟨count, standing⟩ := Link.standing_after (announce ready .alive .alive) empty off moves
    sound paced punctual
  have part := (List.prefix_append _ _).trans (standing.part paced)
  refine ⟨count, _, standing.kept, standing.taken, part, ?_, ?_, standing.pulses, standing.errors⟩
  · intro whole
    have short := standing.short
    rw [whole] at short
    exact Nat.lt_irrefl _ short
  · have handed := congrArg (List.map fun frame : Frame => (frame.dataId, frame.payload))
      standing.handed
    rw [List.map_append, List.map_reverse, List.map_map] at handed
    exact handed

def revive (line : Line Simulation.Script) : Link Simulation.Script :=
  announce (bootApplication.outcome (Link.start line {} {} (.fixed none none) none).resetSession).2
    .alive .alive

theorem justAlive_revive (line : Line Simulation.Script)
    (answered : (bootApplication.outcome
      (Link.start line {} {} (.fixed none none) none).resetSession).1 = .ok true) :
    JustAlive (revive line) :=
  ⟨_, _, Prod.ext answered rfl, rfl⟩

def pingPong (k : Nat) : Parcel :=
  if k % 2 = 0 then ⟨1, 0x50, [0xaa, 0xbb], by decide⟩ else ⟨2, 0x51, [], by decide⟩

/-- The far side sends its first frame in two pieces, and a read returns three bytes at most. -/
def trickling : Link Simulation.Script :=
  revive { peer :=
    { readLimit := some 3
      onPulse := [[{ bytes := (pingPong 0).wire.take 2 },
          { bytes := (pingPong 0).wire.drop 2, delay := 1500 }],
        [{ bytes := (pingPong 1).wire, delay := 500 }]] } }

def passes : List Move :=
  [.tick, .pause 1000, .tick, .pause 1000, .tick, .tick, .pause 1000, .tick, .tick]

theorem frames_handed_in_order_trickling :
    JustAlive trickling ∧ pulseCount (trickling.events passes) = 2 ∧
      Delivered pingPong trickling passes := by
  have fresh : JustAlive trickling := justAlive_revive _ (by decide +kernel)
  have brief : ∀ seen ∈ passes.inits, ∀ late ∈ passes.inits, (trickling.after late).line.now <
      (trickling.after seen).line.now.after Link.receiveTimeout := by decide +kernel
  exact ⟨fresh, by decide +kernel, frames_handed_in_order fresh pingPong passes (by decide +kernel)
    (by decide +kernel) (.of_brief brief)⟩

/-- The clock stops ten microseconds after the handshake, in the middle of the first frame. -/
def stopping : Link Simulation.Script :=
  revive
    { now := Micros.last - 340010
      peer := { onPulse := [[{ bytes := (pingPong 0).wire.take 2 }],
        [{ bytes := (pingPong 0).wire.drop 2 }]] } }

/-- A deadline cannot lie past the end of the clock, so a frame can be dropped there although no pass
comes twenty milliseconds after its control byte. -/
theorem frame_dropped_at_clock_end :
    JustAlive stopping ∧ Sound (stopping.events passes) ∧
    Paced pingPong stopping.line.waiting (stopping.events passes) ∧
    stopping.Punctual pingPong (· + Link.receiveTimeout) passes ∧
    ¬Delivered pingPong stopping passes := by
  have brief : ∀ seen ∈ passes.inits, ∀ late ∈ passes.inits, (stopping.after late).line.now <
      (stopping.after seen).line.now + Link.receiveTimeout := by decide +kernel
  refine ⟨justAlive_revive _ (by decide +kernel), by decide +kernel, by decide +kernel,
    .of_brief brief, ?_⟩
  rintro ⟨count, rest, -, -, -, -, handed, pulses, -⟩
  have none : (stopping.after passes).dispatched.length = 0 := by decide +kernel
  have two : pulseCount (stopping.events passes) = 2 := by decide +kernel
  have lengths := congrArg List.length handed
  simp only [List.length_map, List.length_append, List.length_reverse, List.length_range] at lengths
  omega

end Lifecycle

end RadioLink
