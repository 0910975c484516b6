import RadioLink.Proofs.Reception

/-!
Runs of a live link: its owner makes passes and lets time go by in between. Without a failing call
each move is a pass of the receiver followed by sending, or a pause in which only the far side acts.
-/

namespace RadioLink

inductive Move where
  | tick
  | pause (span : Micros)

namespace Link

variable {σ : Type} [Peer σ]

def move (link : Link σ) : Move → Link σ
  | .tick => (tick.outcome link).2
  | .pause span => link.onLine (·.delay span)

def after (link : Link σ) (moves : List Move) : Link σ := moves.foldl move link

def events (link : Link σ) (moves : List Move) : List Event :=
  link.line.since (link.after moves).line

theorem after_append (link : Link σ) (first second : List Move) :
    link.after (first ++ second) = (link.after first).after second :=
  List.foldl_append

theorem after_concat (link : Link σ) (moves : List Move) (move : Move) :
    link.after (moves ++ [move]) = (link.after moves).move move :=
  after_append link moves [move]

theorem move_trace (link : Link σ) (move : Move) :
    ∃ events, Line.Did events link.line (link.move move).line ∧
      Flow link.line.waiting events (link.move move).line.waiting := by
  cases move with
  | tick =>
    rcases tick_cases link with ⟨events, episode, _⟩ | ⟨received, sent, episode, _, _⟩
    · exact ⟨events, episode.did, episode.flow⟩
    · exact ⟨_, episode.did, episode.flow⟩
  | pause span =>
    obtain ⟨noise, _, did, flow, _⟩ := Line.delay_events link.line span
    exact ⟨noise, did, flow⟩

theorem after_trace (link : Link σ) (moves : List Move) :
    ∃ events, Line.Did events link.line (link.after moves).line ∧
      Flow link.line.waiting events (link.after moves).line.waiting := by
  induction moves generalizing link with
  | nil => exact ⟨[], .refl _, .done _⟩
  | cons move rest ih =>
    obtain ⟨first, did, flow⟩ := move_trace link move
    obtain ⟨second, later, on⟩ := ih (link.move move)
    exact ⟨first ++ second, did.append later, flow.append on⟩

theorem did_events (link : Link σ) (moves : List Move) :
    Line.Did (link.events moves) link.line (link.after moves).line := by
  obtain ⟨events, did, _⟩ := after_trace link moves
  rw [Link.events, did.since_eq]
  exact did

theorem flow_events (link : Link σ) (moves : List Move) :
    Flow link.line.waiting (link.events moves) (link.after moves).line.waiting := by
  obtain ⟨events, did, flow⟩ := after_trace link moves
  rw [Link.events, did.since_eq]
  exact flow

@[simp] theorem events_nil (link : Link σ) : link.events [] = [] :=
  (Line.Did.refl link.line).since_eq

theorem events_append (link : Link σ) (first second : List Move) :
    link.events (first ++ second) = link.events first ++ (link.after first).events second := by
  have did := (did_events link first).append (did_events (link.after first) second)
  rw [← after_append] at did
  exact did.since_eq

theorem events_cons (link : Link σ) (move : Move) (rest : List Move) :
    link.events (move :: rest) = link.events [move] ++ (link.move move).events rest :=
  events_append link [move] rest

def taken (link : Link σ) (moves : List Move) : Bytes := takenBytes (link.events moves)

theorem taken_append (link : Link σ) (first second : List Move) :
    link.taken (first ++ second) = link.taken first ++ (link.after first).taken second := by
  rw [taken, events_append, takenBytes_append]
  rfl

/-- A pass without a failing call is one of the receiver, and then something is sent. -/
theorem passed (link : Link σ) (sound : Sound (link.events [Move.tick])) :
    ∃ received sent, link.events [Move.tick] = received ++ sent ∧ Sending sent ∧
      link.taken [Move.tick] = takenBytes received ∧
      pulseCount (link.events [Move.tick]) = pulseCount received ∧
      Receiver.Pass link.line.now link.receiver received (link.move .tick).receiver ∧
      (link.move .tick).line.now = link.line.now := by
  rcases tick_cases link with
    ⟨events, episode, event, member, failed⟩ | ⟨received, sent, episode, pass, sending⟩
  · have trace : link.events [Move.tick] = events := episode.did.since_eq
    rw [trace] at sound
    rw [sound event member] at failed
    contradiction
  · have trace : link.events [Move.tick] = received ++ sent := episode.did.since_eq
    refine ⟨received, sent, trace, sending, ?_, ?_, pass, episode.instant⟩
    · rw [taken, trace, takenBytes_append, sending.takenBytes_eq, List.append_nil]
    · rw [trace, pulseCount_append, sending.pulseCount_eq, Nat.add_zero]

/-- In a pause only the far side acts. -/
theorem paused (link : Link σ) (span : Micros) :
    Noise (link.events [Move.pause span]) ∧ (link.move (.pause span)).receiver = link.receiver ∧
      (link.move (.pause span)).line.now = link.line.now.after span := by
  obtain ⟨noise, far, did, _, later⟩ := Line.delay_events link.line span
  have trace : link.events [Move.pause span] = noise := did.since_eq
  rw [trace]
  exact ⟨far, rfl, later⟩

end Link

end RadioLink
