import RadioLink.Proofs.RequestAnswer

/-!
Frames that come in pieces. The bytes of a frame reach the host in any number of portions, and a poll may
read fewer than wait. What counts is how much of the stream has been read: until that holds a complete
frame, polls give nothing and make no call, and the poll that completes one gives what the stream alone
decides. The receive buffer is the part that has been read.
-/

namespace RadioLink

theorem Arming.filterMap_call_taking_append {events : List Event} (arming : Arming events)
    (bytes : Bytes) : (taking bytes ++ events).filterMap Event.call? = [.clear, .pulse] := by
  rw [List.filterMap_append, (Listening.taking bytes).filterMap_call, arming.filterMap_call,
    List.nil_append]

namespace Transport

variable {σ : Type}

structure Gathers (before after : Transport σ) (events : List Event) : Prop where
  flow : Flow before.line.waiting events after.line.waiting
  buffer : after.received = before.received ++ takenBytes events
  calls : events.filterMap Event.call? = []
  counted : after.commErrors = before.commErrors

theorem Gathers.append {before middle after : Transport σ} {first second : List Event}
    (early : before.Gathers middle first) (late : middle.Gathers after second) :
    before.Gathers after (first ++ second) where
  flow := early.flow.append late.flow
  buffer := by rw [late.buffer, early.buffer, takenBytes_append, List.append_assoc]
  calls := by rw [List.filterMap_append, early.calls, late.calls, List.append_nil]
  counted := late.counted.trans early.counted

theorem Gathers.of_noise {before after : Transport σ} {noise : List Event} (far : Noise noise)
    (flow : Flow before.line.waiting noise after.line.waiting)
    (buffer : after.received = before.received) (counted : after.commErrors = before.commErrors) :
    before.Gathers after noise where
  flow := flow
  buffer := by rw [buffer, far.takenBytes_eq, List.append_nil]
  calls := far.listening.filterMap_call
  counted := counted

/-- No byte that came in is lost. -/
theorem Gathers.balance {before after : Transport σ} {events : List Event}
    (gathers : before.Gathers after events) :
    before.line.waiting ++ arrivedBytes events = takenBytes events ++ after.line.waiting := by
  refine gathers.flow.balance fun member => ?_
  have none := List.filterMap_eq_nil_iff.mp gathers.calls _ member
  cases none

def Fits (before after : Transport σ) : Prop :=
  before.received.length ≤ Frame.maxLength → after.received.length ≤ Frame.maxLength

instance : IsPreorder (Transport σ) Fits where
  refl _ fits := fits
  trans _ _ _ early late fits := late (early fits)

theorem fits_device {α : Type} (action : Action Fault (Line σ) α) :
    Action.Keeps Fits (device action) := by
  intro transport fits
  rw [device, Action.outcome_within]
  exact fits

inductive Turn where
  /-- The far side acts, whatever the time is. -/
  | arrive (arrival : Arrival)
  | pause (span : Micros)
  | poll
  deriving DecidableEq

variable [Peer σ]

def Turn.apply : Turn → Transport σ → Transport σ
  | .arrive arrival, transport => transport.onLine (·.accept arrival)
  | .pause span, transport => transport.delay span
  | .poll, transport => (pollFrame.outcome transport).2

def afterTurns (transport : Transport σ) (turns : List Turn) : Transport σ :=
  turns.foldl (fun reached turn => turn.apply reached) transport

def during (transport : Transport σ) (turns : List Turn) : List Event :=
  transport.line.since (transport.afterTurns turns).line

def gathered (transport : Transport σ) (turns : List Turn) : Bytes :=
  takenBytes (transport.during turns)

def stream (transport : Transport σ) (turns : List Turn) : Bytes :=
  transport.line.waiting ++ arrivedBytes (transport.during turns)

theorem Turn.did (turn : Turn) (transport : Transport σ) :
    ∃ events, Line.Did events transport.line (turn.apply transport).line := by
  cases turn with
  | arrive arrival =>
    obtain ⟨noise, -, episode⟩ := Line.accept_episode transport.line arrival
    exact ⟨noise, episode.did⟩
  | pause span =>
    obtain ⟨noise, -, did, -⟩ := Line.delay_events transport.line span
    exact ⟨noise, did⟩
  | poll =>
    have polled := pollFrame_cases transport
    rw [apply]
    generalize pollFrame.outcome transport = run at polled ⊢
    cases polled with
    | broken faulty =>
      obtain ⟨events, episode, -⟩ := faulty
      exact ⟨events, episode.did⟩
    | incomplete _ _ episode => exact ⟨_, episode.did⟩
    | accepted _ _ _ _ episode => exact ⟨_, episode.did⟩
    | rejected _ _ _ _ episode => exact ⟨_, episode.did⟩

theorem afterTurns_concat (transport : Transport σ) (turns : List Turn) (turn : Turn) :
    transport.afterTurns (turns ++ [turn]) = turn.apply (transport.afterTurns turns) :=
  List.foldl_append

theorem did_during (transport : Transport σ) (turns : List Turn) :
    Line.Did (transport.during turns) transport.line (transport.afterTurns turns).line := by
  have some_did : ∃ events, Line.Did events transport.line (transport.afterTurns turns).line := by
    induction turns using List.reverseRecOn with
    | nil => exact ⟨[], .refl _⟩
    | append_singleton turns turn ih =>
      obtain ⟨early, did⟩ := ih
      obtain ⟨late, next⟩ := turn.did (transport.afterTurns turns)
      rw [afterTurns_concat]
      exact ⟨_, did.append next⟩
  obtain ⟨events, did⟩ := some_did
  rw [during, did.since_eq]
  exact did

theorem during_concat (transport : Transport σ) (turns : List Turn) (turn : Turn) :
    transport.during (turns ++ [turn]) =
      transport.during turns ++ (transport.afterTurns turns).during [turn] := by
  have both := (did_during transport turns).append (did_during (transport.afterTurns turns) [turn])
  change Line.Did _ transport.line (turn.apply (transport.afterTurns turns)).line at both
  rw [during, afterTurns_concat, both.since_eq]

theorem gathered_concat (transport : Transport σ) (turns : List Turn) (turn : Turn) :
    transport.gathered (turns ++ [turn]) =
      transport.gathered turns ++ (transport.afterTurns turns).gathered [turn] := by
  rw [gathered, during_concat, takenBytes_append]
  rfl

/-- A poll that has read these bytes goes by them: without a complete frame it gives nothing and makes no
call, and otherwise it arms the receiver and judges this frame. -/
structure Heeds (before : Transport σ) (buffer frame : Bytes)
    (result : Except LinkError (Option Frame)) (after : Transport σ) : Prop where
  waits : ¬Frame.Complete buffer → result = .ok none ∧ after.received = buffer ∧
    (before.line.since after.line).filterMap Event.call? = [] ∧
    after.commErrors = before.commErrors
  judges : Frame.Complete buffer →
    result = (Frame.decode frame).map (fun read => some ⟨read.1, read.2⟩) ∧ after.received = [] ∧
    (before.line.since after.line).filterMap Event.call? = [.clear, .pulse] ∧
    after.commErrors = before.commErrors + if result.isOk then 0 else 1

/-- A poll in which no call fails reads on, and goes by what it has then. -/
theorem pollFrame_heeds (transport : Transport σ) (sound : Sound (transport.during [.poll])) :
    transport.Reads (transport.gathered [.poll]) ∧
    transport.Heeds (transport.received ++ transport.gathered [.poll])
      (((transport.received ++ transport.gathered [.poll]).take
        (Frame.extent (transport.received ++ transport.gathered [.poll]))).drop 1)
      (pollFrame.outcome transport).1 (pollFrame.outcome transport).2 ∧
    (¬Frame.Complete (transport.received ++ transport.gathered [.poll]) →
      transport.Gathers (pollFrame.outcome transport).2 (transport.during [.poll])) := by
  have polled := pollFrame_cases transport
  have trace : transport.during [.poll] =
      transport.line.since (pollFrame.outcome transport).2.line := rfl
  rw [gathered]
  rw [trace] at sound ⊢
  generalize pollFrame.outcome transport = run at polled sound ⊢
  cases polled with
  | broken faulty =>
    obtain ⟨events, episode, event, member, failed⟩ := faulty
    rw [episode.did.since_eq] at sound
    rw [sound event member] at failed
    cases failed
  | incomplete reads missing episode =>
    dsimp only
    rw [episode.did.since_eq, takenBytes_taking]
    have absent := Frame.not_complete_of_completeLength? missing
    refine ⟨reads, ⟨fun _ => ⟨rfl, rfl, ?_, rfl⟩, fun complete => absurd complete absent⟩, fun _ => ?_⟩
    · rw [episode.did.since_eq, (Listening.taking _).filterMap_call]
    · exact ⟨episode.flow, by rw [takenBytes_taking], (Listening.taking _).filterMap_call, rfl⟩
  | accepted reads found valid armed episode =>
    dsimp only
    rw [episode.did.since_eq, armed.takenBytes_taking_append]
    obtain ⟨complete, rfl⟩ := Frame.complete_of_completeLength? found
    refine ⟨reads, ⟨fun absent => absurd complete absent, fun _ => ⟨?_, rfl, ?_, ?_⟩⟩,
      fun absent => absurd complete absent⟩
    · rw [valid]
      rfl
    · rw [episode.did.since_eq, armed.filterMap_call_taking_append]
    · exact (UInt16.add_zero _).symm
  | rejected reads found invalid armed episode =>
    dsimp only
    rw [episode.did.since_eq, armed.takenBytes_taking_append]
    obtain ⟨complete, rfl⟩ := Frame.complete_of_completeLength? found
    refine ⟨reads, ⟨fun absent => absurd complete absent, fun _ => ⟨?_, rfl, ?_, rfl⟩⟩,
      fun absent => absurd complete absent⟩
    · rw [invalid]
      rfl
    · rw [episode.did.since_eq, armed.filterMap_call_taking_append]

/-- As long as no frame is complete, a turn in which no call fails gathers bytes. -/
theorem gathers_turn (turn : Turn) (transport : Transport σ) (sound : Sound (transport.during [turn]))
    (missing : ¬Frame.Complete (transport.received ++ transport.gathered [turn])) :
    transport.Gathers (turn.apply transport) (transport.during [turn]) := by
  cases turn with
  | arrive arrival =>
    obtain ⟨noise, far, episode⟩ := Line.accept_episode transport.line arrival
    have trace : transport.during [.arrive arrival] = noise := episode.did.since_eq
    rw [trace]
    exact .of_noise far episode.flow rfl rfl
  | pause span =>
    obtain ⟨noise, far, did, flow, -⟩ := Line.delay_events transport.line span
    have trace : transport.during [.pause span] = noise := did.since_eq
    rw [trace]
    exact .of_noise far flow rfl rfl
  | poll => exact (pollFrame_heeds transport sound).2.2 missing

/-- As long as no frame is complete, the buffer is what has been read. -/
theorem gathers_turns {transport : Transport σ} (empty : transport.received = []) {turns : List Turn}
    (sound : Sound (transport.during turns)) (missing : ¬Frame.Complete (transport.gathered turns)) :
    transport.Gathers (transport.afterTurns turns) (transport.during turns) := by
  induction turns using List.reverseRecOn with
  | nil =>
    have none : transport.during [] = [] := (Line.Did.refl transport.line).since_eq
    rw [none]
    exact ⟨.done _, (List.append_nil _).symm, rfl, rfl⟩
  | append_singleton turns turn ih =>
    rw [during_concat] at sound ⊢
    rw [gathered_concat] at missing
    obtain ⟨early, late⟩ := sound.of_append
    -- a frame that was complete before this turn would be so after it
    have before : ¬Frame.Complete (transport.gathered turns) := fun complete =>
      missing (complete.extend (List.prefix_append _ _)).1
    have gathers := ih early before
    have buffer : (transport.afterTurns turns).received = transport.gathered turns := by
      rw [gathers.buffer, empty, List.nil_append]
      rfl
    rw [afterTurns_concat]
    refine gathers.append (gathers_turn turn _ late ?_)
    rwa [buffer]

theorem fits_pump : Action.Keeps Fits (pump : Action LinkError (Transport σ) Unit) := by
  intro transport fits
  rcases pump_reads transport with ⟨_, _, ran, -⟩ | ⟨_, _, ⟨_, -, rfl⟩, ran, -⟩
  · rw [ran]
    exact fits
  · rw [ran]
    simp only [List.length_append, List.length_take]
    omega

theorem fits_armReceiver : Action.Keeps Fits (armReceiver : Action LinkError (Transport σ) Unit) :=
  .bind (.bind (.change fun _ _ => Nat.zero_le _) fun _ => fits_device _) fun _ => fits_device _

theorem fits_pollFrame :
    Action.Keeps Fits (pollFrame : Action LinkError (Transport σ) (Option Frame)) := by
  refine .bind fits_pump fun _ => .bind .get fun transport => ?_
  dsimp only
  split
  · exact .pure _
  refine .bind fits_armReceiver fun _ => .bind (.change fun _ fits => fits) fun _ => .map ?_
  unfold accept
  split
  · exact .pure _
  · exact .bind (.change fun _ fits => fits) fun _ => .throw _

theorem fits_afterTurns (transport : Transport σ) (turns : List Turn) :
    transport.Fits (transport.afterTurns turns) := by
  induction turns using List.reverseRecOn with
  | nil => exact fun fits => fits
  | append_singleton turns turn ih =>
    intro fits
    rw [afterTurns_concat]
    cases turn with
    | arrive | pause => exact ih fits
    | poll => exact fits_pollFrame _ (ih fits)

/-- How bytes come in pieces does not matter. From an empty buffer on, with no call failing, the bytes that
have been read are the start of all that came in, each poll adding as many as there is room for and as it
is granted. While they hold no complete frame, a poll gives nothing and makes no call; the first poll that
finds one complete discards the input, strobes, and gives what the frame at the start of the stream
decodes to. -/
theorem receiving_ignores_fragmentation (transport : Transport σ) (turns : List Turn)
    (empty : transport.received = []) (sound : Sound (transport.during (turns ++ [.poll])))
    (missing : ¬Frame.Complete (transport.gathered turns)) :
    (∀ others, (transport.afterTurns others).received.length ≤ 134) ∧
    transport.gathered turns ++ (transport.afterTurns turns).line.waiting = transport.stream turns ∧
    (transport.afterTurns turns).received = transport.gathered turns ∧
    (transport.afterTurns turns).commErrors = transport.commErrors ∧
    (∃ portion, (transport.afterTurns turns).Reads portion ∧
      transport.gathered (turns ++ [.poll]) = transport.gathered turns ++ portion) ∧
    (transport.afterTurns turns).Heeds (transport.gathered (turns ++ [.poll]))
      (((transport.stream turns).take (Frame.extent (transport.stream turns))).drop 1)
      (pollFrame.outcome (transport.afterTurns turns)).1
      (pollFrame.outcome (transport.afterTurns turns)).2 := by
  rw [during_concat] at sound
  obtain ⟨early, late⟩ := sound.of_append
  have gathers := gathers_turns empty early missing
  have balance : transport.stream turns =
      transport.gathered turns ++ (transport.afterTurns turns).line.waiting := gathers.balance
  have buffer : (transport.afterTurns turns).received = transport.gathered turns := by
    rw [gathers.buffer, empty, List.nil_append]
    rfl
  obtain ⟨reads, heeds, -⟩ := pollFrame_heeds _ late
  rw [buffer, ← gathered_concat] at heeds
  have bounded (others : List Turn) : (transport.afterTurns others).received.length ≤ 134 := by
    refine fits_afterTurns transport others ?_
    rw [empty]
    exact Nat.zero_le _
  refine ⟨bounded, balance.symm, buffer, gathers.counted, ⟨_, reads, gathered_concat ..⟩, heeds.waits, ?_⟩
  intro complete
  have part : transport.gathered (turns ++ [.poll]) <+: transport.stream turns := by
    obtain ⟨limit, -, took⟩ := reads
    rw [gathered_concat, took, balance]
    exact (List.prefix_append_right_inj _).mpr (List.take_prefix _ _)
  rw [(complete.extend part).2]
  exact heeds.judges complete

/-- A read takes three bytes at most, and the rest of a frame comes a while after its first two bytes. -/
def slow : Transport Simulation.Script :=
  { line :=
      { peer := { readLimit := some 3, agenda := [⟨50, { bytes := [1, 0x50, 0x3d, 0xe4] }⟩] }
        waiting := [Control.data, 1] }
    timeout := 20000 }

/-- The last byte of the frame comes with the start of something else. -/
def slowTurns : List Turn := [.poll, .pause 60, .poll, .arrive { bytes := [7, 0xff, 2] }]

theorem receiving_ignores_fragmentation_slow :
    Sound (slow.during (slowTurns ++ [.poll])) ∧ ¬Frame.Complete (slow.gathered slowTurns) ∧
    slow.gathered slowTurns = [Control.data, 1, 1, 0x50, 0x3d] ∧
    slow.gathered (slowTurns ++ [.poll]) = [Control.data, 1, 1, 0x50, 0x3d, 0xe4, 7, 0xff] ∧
    (pollFrame.outcome (slow.afterTurns slowTurns)).1 =
      .ok (some ⟨⟨1, 1, 0x50, 0xe43d⟩, [7]⟩) := by
  have sound : Sound (slow.during (slowTurns ++ [.poll])) := by decide +kernel
  have missing : ¬Frame.Complete (slow.gathered slowTurns) := by decide +kernel
  have before : slow.gathered slowTurns = [Control.data, 1, 1, 0x50, 0x3d] := by decide +kernel
  have after : slow.gathered (slowTurns ++ [.poll]) =
      [Control.data, 1, 1, 0x50, 0x3d, 0xe4, 7, 0xff] := by decide +kernel
  have stream : slow.stream slowTurns = [Control.data, 1, 1, 0x50, 0x3d, 0xe4, 7, 0xff, 2] := by
    decide +kernel
  have heeds := (receiving_ignores_fragmentation slow slowTurns rfl sound missing).2.2.2.2.2
  rw [after, stream] at heeds
  refine ⟨sound, missing, before, after, ?_⟩
  rw [(heeds.judges (by decide +kernel)).1]
  decide +kernel

end Transport

end RadioLink
