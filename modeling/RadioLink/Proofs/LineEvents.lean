import RadioLink.Proofs.Actions
import RadioLink.Proofs.EventKinds

/-!
What an operation of the line adds to the history, and what that says about the bytes waiting to be
read: bytes join the queue when they arrive, leave it from the front when they are read, and are
lost only when the host discards its input.
-/

namespace RadioLink

/-- How the bytes waiting to be read change along a list of events. -/
inductive Flow : Bytes → List Event → Bytes → Prop where
  | done (waiting : Bytes) : Flow waiting [] waiting
  | arrived {waiting bytes after : Bytes} {events : List Event}
      (rest : Flow (waiting ++ bytes) events after) : Flow waiting (.arrived bytes :: events) after
  | took {waiting bytes after : Bytes} {events : List Event} (rest : Flow waiting events after) :
      Flow (bytes ++ waiting) (.took bytes :: events) after
  | cleared {waiting after : Bytes} {events : List Event} (rest : Flow [] events after) :
      Flow waiting (.done .clear :: events) after
  | other {waiting after : Bytes} {event : Event} {events : List Event}
      (neutral : event.isNeutral = true) (rest : Flow waiting events after) :
      Flow waiting (event :: events) after

namespace Flow

theorem append {before middle after : Bytes} {first second : List Event}
    (early : Flow before first middle) (late : Flow middle second after) :
    Flow before (first ++ second) after := by
  induction early with
  | done waiting => exact late
  | arrived _ ih => exact .arrived (ih late)
  | took _ ih => exact .took (ih late)
  | cleared _ ih => exact .cleared (ih late)
  | other neutral _ ih => exact .other neutral (ih late)

theorem split {before after : Bytes} {first second : List Event}
    (flow : Flow before (first ++ second) after) :
    ∃ middle, Flow before first middle ∧ Flow middle second after := by
  induction first generalizing before with
  | nil => exact ⟨before, .done before, flow⟩
  | cons event rest ih =>
    cases flow with
    | arrived tail =>
      obtain ⟨middle, early, late⟩ := ih tail
      exact ⟨middle, .arrived early, late⟩
    | took tail =>
      obtain ⟨middle, early, late⟩ := ih tail
      exact ⟨middle, .took early, late⟩
    | cleared tail =>
      obtain ⟨middle, early, late⟩ := ih tail
      exact ⟨middle, .cleared early, late⟩
    | other neutral tail =>
      obtain ⟨middle, early, late⟩ := ih tail
      exact ⟨middle, .other neutral early, late⟩

/-- Without a discard no byte gets lost: what waited and what arrived was read or waits still. -/
theorem balance {before after : Bytes} {events : List Event} (flow : Flow before events after)
    (kept : .done .clear ∉ events) :
    before ++ arrivedBytes events = takenBytes events ++ after := by
  induction flow with
  | done waiting => simp
  | arrived _ ih =>
    have rest := ih (fun member => kept (List.mem_cons_of_mem _ member))
    simpa [Event.taken, Event.delivered] using rest
  | took _ ih =>
    have rest := ih (fun member => kept (List.mem_cons_of_mem _ member))
    simpa [Event.taken, Event.delivered] using rest
  | cleared _ _ => exact absurd (List.mem_cons_self) kept
  | @other _ _ event _ neutral _ ih =>
    have rest := ih (fun member => kept (List.mem_cons_of_mem _ member))
    have takes : event.taken = [] := by cases event <;> simp [Event.isNeutral, Event.taken] at neutral ⊢
    have brings : event.delivered = [] := by
      cases event <;> simp [Event.isNeutral, Event.delivered] at neutral ⊢
    simpa [takes, brings] using rest

/-- What is read at first comes off the front of the queue. -/
theorem of_taking_append {before bytes after : Bytes} {events : List Event}
    (flow : Flow before (taking bytes ++ events) after) :
    ∃ middle, before = bytes ++ middle ∧ Flow middle events after := by
  obtain ⟨middle, early, late⟩ := flow.split
  have kept : .done .clear ∉ taking bytes := by
    intro member
    have took := mem_taking member
    contradiction
  have queue := early.balance kept
  rw [arrivedBytes_taking, takenBytes_taking, List.append_nil] at queue
  exact ⟨middle, queue, late⟩

/-- With nothing waiting and nothing coming in there is nothing to read. -/
theorem silent {before after : Bytes} {events : List Event} (flow : Flow before events after)
    (empty : before = []) (none : arrivedBytes events = []) : takenBytes events = [] := by
  induction flow with
  | done waiting => rfl
  | arrived _ ih =>
    obtain ⟨no, more⟩ := List.append_eq_nil_iff.mp none
    exact ih (List.append_eq_nil_iff.mpr ⟨empty, no⟩) more
  | took _ ih =>
    obtain ⟨no, rest⟩ := List.append_eq_nil_iff.mp empty
    exact List.append_eq_nil_iff.mpr ⟨no, ih rest none⟩
  | cleared _ ih => exact ih rfl none
  | @other _ _ event _ neutral _ ih =>
    have rest := ih empty (List.append_eq_nil_iff.mp none).2
    cases event <;> simp [Event.isNeutral, Event.taken, rest] at neutral ⊢

end Flow

/-- What arrives while the host sends joins the queue. -/
theorem Sending.flow {events : List Event} {before after : Bytes} (sending : Sending events)
    (flow : Flow before events after) : after = before ++ arrivedBytes events := by
  have kept : .done .clear ∉ events := by
    intro member
    cases sending _ member
  rw [flow.balance kept, sending.takenBytes_eq, List.nil_append]

/-- Only what arrives after the discard waits to be read. -/
theorem Arming.flow {events sent : List Event} {before after : Bytes} (arming : Arming events)
    (sending : Sending sent) (flow : Flow before (events ++ sent) after) :
    after = arrivedBytes (events ++ sent) := by
  obtain ⟨early, late, far, away, rfl⟩ := arming
  cases flow with
  | other neutral _ => simp [Event.isNeutral] at neutral
  | cleared rest =>
    have apart : Flow [] (early ++ .done .pulse :: (late ++ sent)) after := by simpa using rest
    obtain ⟨middle, first, second⟩ := apart.split
    cases second with
    | other _ rest =>
      have later := (away.sending.append sending).flow rest
      have sooner := far.sending.flow first
      simp [later, sooner, Event.delivered]

namespace Line

variable {σ : Type}

/-- These events happened between two moments, in this order, and no others. -/
def Did (events : List Event) (before after : Line σ) : Prop :=
  ∃ entries : List Entry, after.history = entries ++ before.history ∧
    (entries.map Entry.event).reverse = events

def since (before after : Line σ) : List Event :=
  ((after.history.take (after.history.length - before.history.length)).map Entry.event).reverse

theorem Did.same {before after : Line σ} (same : after.history = before.history) :
    Did [] before after := ⟨[], same, rfl⟩

theorem Did.refl (line : Line σ) : Did [] line line := .same rfl

theorem Did.append {first second : List Event} {before middle after : Line σ}
    (early : Did first before middle) (late : Did second middle after) :
    Did (first ++ second) before after := by
  obtain ⟨old, history, rfl⟩ := early
  obtain ⟨new, later, rfl⟩ := late
  refine ⟨new ++ old, ?_, ?_⟩
  · rw [later, history, List.append_assoc]
  · rw [List.map_append, List.reverse_append]

theorem Did.since_eq {events : List Event} {before after : Line σ} (did : Did events before after) :
    before.since after = events := by
  obtain ⟨entries, history, rfl⟩ := did
  have count : after.history.length - before.history.length = entries.length := by
    rw [history, List.length_append, Nat.add_sub_cancel]
  rw [since, count, history, List.take_left]

theorem Did.record (line : Line σ) (event : Event) : Did [event] line (line.record event) :=
  ⟨[⟨line.now, event⟩], rfl, rfl⟩

def Does (kind : Event → Prop) (before after : Line σ) : Prop :=
  ∃ events, Did events before after ∧ ∀ event ∈ events, kind event

theorem Does.same {kind : Event → Prop} {before after : Line σ}
    (same : after.history = before.history) : Does kind before after :=
  ⟨[], .same same, by simp⟩

theorem Does.trans {kind : Event → Prop} {before middle after : Line σ}
    (early : Does kind before middle) (late : Does kind middle after) : Does kind before after := by
  obtain ⟨first, did, fits⟩ := early
  obtain ⟨second, next, suits⟩ := late
  exact ⟨first ++ second, did.append next, List.forall_mem_append.mpr ⟨fits, suits⟩⟩

instance (kind : Event → Prop) : IsPreorder (Line σ) (Does kind) where
  refl _ := .same rfl
  trans _ _ _ := .trans

/-- The clock does not run backwards: what is due some time after one moment is not due later than the
same time after the other. -/
def Ages (before after : Line σ) : Prop := ∀ span, before.now.after span ≤ after.now.after span

theorem Ages.same {before after : Line σ} (now : after.now = before.now) : Ages before after := by
  intro span
  rw [now]

instance : IsPreorder (Line σ) Ages where
  refl _ := .same rfl
  trans _ _ _ early late span := Nat.le_trans (early span) (late span)

/-- What happens on the line at one moment. -/
structure Episode (events : List Event) (before after : Line σ) : Prop where
  did : Did events before after
  flow : Flow before.waiting events after.waiting
  instant : after.now = before.now

namespace Episode

theorem quiet {before after : Line σ} (history : after.history = before.history)
    (waiting : after.waiting = before.waiting) (now : after.now = before.now) :
    Episode [] before after :=
  ⟨.same history, waiting ▸ .done _, now⟩

theorem refl (line : Line σ) : Episode [] line line := quiet rfl rfl rfl

theorem append {first second : List Event} {before middle after : Line σ}
    (early : Episode first before middle) (late : Episode second middle after) :
    Episode (first ++ second) before after :=
  ⟨early.did.append late.did, early.flow.append late.flow, late.instant.trans early.instant⟩

/-- The log and the far side do not matter. -/
theorem congr {events : List Event} {before after other : Line σ}
    (episode : Episode events before after) (history : other.history = after.history)
    (waiting : other.waiting = after.waiting) (now : other.now = after.now) :
    Episode events before other := by
  obtain ⟨did, flow, instant⟩ := episode
  refine ⟨?_, waiting ▸ flow, now.trans instant⟩
  obtain ⟨entries, grown, order⟩ := did
  exact ⟨entries, history.trans grown, order⟩

end Episode

/-- Bytes and the ready edge come in as noise, which moves the queue along. -/
theorem accept_episode (line : Line σ) (arrival : Arrival) :
    ∃ noise, Noise noise ∧ Episode noise line (line.accept arrival) := by
  have bytesIn : ∃ noise, Noise noise ∧ Episode noise line (line.receive arrival.bytes) := by
    unfold receive
    split
    · exact ⟨[], .nil, .refl line⟩
    · refine ⟨[.arrived arrival.bytes], by simp [Noise, Event.isFarSide], .record line _, ?_, rfl⟩
      exact .arrived (.done _)
  obtain ⟨noise, far, first⟩ := bytesIn
  by_cases edge : arrival.edge = true
  · have second : Episode [.edge (line.receive arrival.bytes).ready.enabled]
        (line.receive arrival.bytes) (line.receive arrival.bytes).raiseEdge :=
      ⟨.record _ _, .other rfl (.done _), rfl⟩
    have alone : Noise [.edge (line.receive arrival.bytes).ready.enabled] := by
      simp [Noise, Event.isFarSide]
    refine ⟨_, far.append alone, ?_⟩
    simpa only [accept, if_pos edge] using first.append second
  · refine ⟨noise, far, ?_⟩
    simpa only [accept, if_neg edge] using first

theorem waiting_receive (line : Line σ) (bytes : Bytes) :
    (line.receive bytes).waiting = line.waiting ++ bytes := by
  unfold receive
  split
  next none => rw [none, List.append_nil]
  next => rfl

variable [Peer σ]

/-- The ready signal is taken down, and an edge may come at once. -/
theorem clearReady_episode (line : Line σ) :
    ∃ crossing, Noise crossing ∧ Episode (.lowered :: crossing) line line.clearReady := by
  obtain ⟨crossing, far, episode⟩ := accept_episode
    { line.record .lowered with
      peer := (Peer.crosses line.peer line.now).2
      ready := line.ready.clear }
    { edge := (Peer.crosses line.peer line.now).1 }
  have lowered : Episode [.lowered] line
      { line.record .lowered with
        peer := (Peer.crosses line.peer line.now).2
        ready := line.ready.clear } :=
    ⟨.record line _, .other rfl (.done _), rfl⟩
  exact ⟨crossing, far, lowered.append episode⟩

/-- A call fails and does nothing, or it is done and the far side may react to it. -/
theorem call_cases (c : Call) (line : Line σ) :
    (∃ fault, ((call c).outcome line).1 = .error fault ∧
      Episode [.failed c] line ((call c).outcome line).2) ∨
    (∃ noise, Noise noise ∧ ((call c).outcome line).1 = .ok () ∧
      Episode (.done c :: noise) line ((call c).outcome line).2) := by
  rcases answer : Peer.answer line.peer line.now c with ⟨result, peer⟩
  cases result with
  | error fault =>
    left
    have ran : (call c).outcome line = (.error fault, { line with peer }.record (.failed c)) := by
      simp only [Action.outcome, call, answer]
    rw [ran]
    exact ⟨fault, rfl, .record line _, .other rfl (.done _), rfl⟩
  | ok arrival =>
    right
    have ran : (call c).outcome line =
        (.ok (), (({ line with peer }.record (.done c)).carryOut c).accept arrival) := by
      simp only [Action.outcome, call, answer]
    obtain ⟨noise, far, reaction⟩ :=
      accept_episode (({ line with peer }.record (.done c)).carryOut c) arrival
    have carried : Episode [.done c] line (({ line with peer }.record (.done c)).carryOut c) := by
      cases c with
      | clear => exact ⟨.record line _, .cleared (.done _), rfl⟩
      | _ => exact ⟨.record line _, .other rfl (.done _), rfl⟩
    rw [ran]
    exact ⟨noise, far, rfl, carried.append reaction⟩

theorem read_of_grant {room limit : Nat} {line : Line σ} {peer : σ}
    (granted : Peer.grant line.peer line.now room = (.ok limit, peer)) :
    (read room).outcome line =
      (.ok (line.waiting.take (min room limit)),
        if line.waiting.take (min room limit) = [] then
          { line with peer, waiting := line.waiting.drop (min room limit) }
        else { line with peer, waiting := line.waiting.drop (min room limit) }.record
          (.took (line.waiting.take (min room limit)))) := by
  simp only [Action.outcome, read, granted]

/-- A read fails, or it takes as many bytes off the front of the queue as there is room for and as it is
granted. -/
theorem read_cases (room : Nat) (line : Line σ) :
    (∃ fault, ((read room).outcome line).1 = .error fault ∧
      Episode [.readFailed] line ((read room).outcome line).2) ∨
    (∃ bytes, (∃ limit, (Peer.grant line.peer line.now room).1 = .ok limit ∧
        bytes = line.waiting.take (min room limit)) ∧
      ((read room).outcome line).1 = .ok bytes ∧
      Episode (taking bytes) line ((read room).outcome line).2) := by
  rcases grant : Peer.grant line.peer line.now room with ⟨result, peer⟩
  cases result with
  | error fault =>
    left
    have ran : (read room).outcome line = (.error fault, { line with peer }.record .readFailed) := by
      simp only [Action.outcome, read, grant]
    rw [ran]
    exact ⟨fault, rfl, .record line _, .other rfl (.done _), rfl⟩
  | ok limit =>
    right
    rw [read_of_grant grant]
    refine ⟨_, ⟨limit, rfl, rfl⟩, rfl, ?_⟩
    have queue := List.take_append_drop (min room limit) line.waiting
    by_cases none : line.waiting.take (min room limit) = []
    · rw [none, List.nil_append] at queue
      simp only [taking, if_pos none]
      exact .quiet rfl queue rfl
    · simp only [taking, if_neg none]
      refine ⟨.record line _, ?_, rfl⟩
      have flow : Flow (line.waiting.take (min room limit) ++ line.waiting.drop (min room limit))
          [.took (line.waiting.take (min room limit))]
          (line.waiting.drop (min room limit)) := .took (.done _)
      rwa [queue] at flow

/-- While time passes only the far side acts. -/
theorem delay_events (line : Line σ) (span : Micros) :
    ∃ noise, Noise noise ∧ Did noise line (line.delay span) ∧
      Flow line.waiting noise (line.delay span).waiting ∧
      (line.delay span).now = line.now.after span := by
  obtain ⟨noise, far, episode⟩ := accept_episode
    { line with now := line.now.after span, peer := (Peer.elapse line.peer (line.now.after span)).2 }
    (Peer.elapse line.peer (line.now.after span)).1
  exact ⟨noise, far, episode.did, episode.flow, episode.instant⟩

theorem now_call (c : Call) (line : Line σ) : ((call c).outcome line).2.now = line.now := by
  rcases call_cases c line with ⟨_, _, episode⟩ | ⟨_, _, _, episode⟩
  · exact episode.instant
  · exact episode.instant

theorem now_read (room : Nat) (line : Line σ) : ((read room).outcome line).2.now = line.now := by
  rcases read_cases room line with ⟨_, _, episode⟩ | ⟨_, _, _, episode⟩
  · exact episode.instant
  · exact episode.instant

theorem now_delay (line : Line σ) (span : Micros) : (line.delay span).now = line.now.after span := by
  obtain ⟨_, _, _, _, now⟩ := delay_events line span
  exact now

theorem now_clearReady (line : Line σ) : line.clearReady.now = line.now := by
  obtain ⟨_, _, episode⟩ := clearReady_episode line
  exact episode.instant

namespace Ages

theorem call (c : Call) (line : Line σ) : Ages line ((Line.call c).outcome line).2 :=
  .same (now_call c line)

theorem read (room : Nat) (line : Line σ) : Ages line ((Line.read room).outcome line).2 :=
  .same (now_read room line)

theorem delay (line : Line σ) (span : Micros) : Ages line (line.delay span) := by
  intro more
  rw [now_delay]
  exact Micros.after_le_after_after line.now span more

end Ages

namespace Does

variable {kind : Event → Prop}

theorem call {c : Call} (finished : kind (.done c)) (broken : kind (.failed c))
    (reaction : ∀ event, event.isFarSide = true → kind event) (line : Line σ) :
    Does kind line ((Line.call c).outcome line).2 := by
  rcases call_cases c line with ⟨_, _, episode⟩ | ⟨noise, far, _, episode⟩
  · exact ⟨_, episode.did, by simpa using broken⟩
  · exact ⟨_, episode.did,
      List.forall_mem_cons.mpr ⟨finished, fun event member => reaction event (far event member)⟩⟩

theorem delay (reaction : ∀ event, event.isFarSide = true → kind event) (line : Line σ)
    (span : Micros) : Does kind line (line.delay span) := by
  obtain ⟨noise, far, did, _⟩ := delay_events line span
  exact ⟨noise, did, fun event member => reaction event (far event member)⟩

theorem clearReady (lowers : kind .lowered) (reaction : ∀ event, event.isFarSide = true → kind event)
    (line : Line σ) : Does kind line line.clearReady := by
  obtain ⟨crossing, far, episode⟩ := clearReady_episode line
  exact ⟨_, episode.did,
    List.forall_mem_cons.mpr ⟨lowers, fun event member => reaction event (far event member)⟩⟩

end Does

/-- The host discards its input and then strobes, both go well, and it does nothing else. -/
structure Rearms (before after : Line σ) : Prop where
  cleared : ((call .clear).outcome before).1 = .ok ()
  strobed : (call .pulse).outcome ((call .clear).outcome before).2 = (.ok (), after)

theorem Rearms.episode {before after : Line σ} (rearms : before.Rearms after) :
    ∃ arming, Arming arming ∧ Episode arming before after := by
  obtain ⟨cleared, strobed⟩ := rearms
  rcases call_cases .clear before with ⟨_, failed, _⟩ | ⟨early, far, _, dropped⟩
  · rw [cleared] at failed
    cases failed
  rcases call_cases .pulse ((call .clear).outcome before).2 with
    ⟨_, failed, _⟩ | ⟨late, away, _, told⟩
  · rw [strobed] at failed
    cases failed
  · rw [strobed] at told
    exact ⟨_, ⟨early, late, far, away, rfl⟩, dropped.append told⟩

def Armable (before after : Line σ) : Prop :=
  .failed .clear ∉ before.since after ∧ .failed .pulse ∉ before.since after

end Line

end RadioLink
