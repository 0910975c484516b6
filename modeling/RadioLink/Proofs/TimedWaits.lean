import RadioLink.Proofs.PacketReading

/-!
Waits on the packet port, with the times at which things happened. A call and a read put what they record at
one moment, and while time passes only the far side is recorded. So the history tells when a wait for bytes
has taken what, that it has ended with the read that made its step function report, and how long it has
lasted otherwise.
-/

namespace RadioLink

def stamped (time : Micros) (events : List Event) : List Entry := events.map (Entry.mk time)

@[simp] theorem map_event_stamped (time : Micros) (events : List Event) :
    (stamped time events).map Entry.event = events := by
  rw [stamped, List.map_map]
  exact List.map_id events

namespace Line

variable {σ : Type}

def Adds (entries : List Entry) (before after : Line σ) : Prop :=
  after.history = entries.reverse ++ before.history

def Stamps (time : Micros) (before after : Line σ) : Prop :=
  ∃ entries : List Entry, after.history = entries ++ before.history ∧
    ∀ entry ∈ entries, entry.time = time

namespace Adds

variable {before middle after : Line σ} {entries first second : List Entry}

theorem same (history : after.history = before.history) : Adds [] before after := history

theorem append (early : Adds first before middle) (late : Adds second middle after) :
    Adds (first ++ second) before after := by
  rw [Adds, late, early, List.reverse_append, List.append_assoc]

end Adds

variable {before after : Line σ} {events : List Event}

theorem Did.adds (did : Did events before after) :
    ∃ entries, Adds entries before after ∧ entries.map Entry.event = events := by
  obtain ⟨entries, history, rfl⟩ := did
  refine ⟨entries.reverse, ?_, List.map_reverse⟩
  rw [Adds, List.reverse_reverse, history]

theorem Adds.did {entries : List Entry} (adds : Adds entries before after) :
    Did (entries.map Entry.event) before after :=
  ⟨entries.reverse, adds, by rw [← List.map_reverse, List.reverse_reverse]⟩

/-- The events of one moment are all that there is to tell about it. -/
theorem Did.stamped {time : Micros} (did : Did events before after) (stamps : Stamps time before after) :
    Adds (stamped time events) before after := by
  obtain ⟨entries, history, rfl⟩ := did
  obtain ⟨others, same, times⟩ := stamps
  obtain rfl : entries = others := List.append_cancel_right (history.symm.trans same)
  have own : entries.map (fun entry => Entry.mk time entry.event) = entries := by
    refine (List.map_congr_left fun entry member => ?_).trans (List.map_id entries)
    rw [← times entry member]
    rfl
  rw [Adds, RadioLink.stamped, List.map_reverse, List.reverse_reverse, List.map_map]
  exact history.trans (congrArg (· ++ before.history) own.symm)

theorem stamps_accept (line : Line σ) (arrival : Arrival) : Stamps line.now line (line.accept arrival) := by
  have came : Stamps line.now line (line.receive arrival.bytes) ∧
      (line.receive arrival.bytes).now = line.now := by
    unfold receive
    split
    · exact ⟨⟨[], rfl, by simp⟩, rfl⟩
    · exact ⟨⟨[⟨line.now, .arrived arrival.bytes⟩], rfl, by simp⟩, rfl⟩
  obtain ⟨⟨entries, history, times⟩, now⟩ := came
  unfold accept
  split
  · refine ⟨⟨line.now, .edge (line.receive arrival.bytes).ready.enabled⟩ :: entries, ?_, ?_⟩
    · simp only [raiseEdge, record, history, now, List.cons_append]
    · exact List.forall_mem_cons.mpr ⟨rfl, times⟩
  · exact ⟨entries, history, times⟩

variable [Peer σ]

theorem stamps_call (c : Call) (line : Line σ) : Stamps line.now line ((call c).outcome line).2 := by
  rcases answer : Peer.answer line.peer line.now c with ⟨fault | arrival, peer⟩
  · have ran : (call c).outcome line = (.error fault, { line with peer }.record (.failed c)) := by
      simp only [Action.outcome, call, answer]
    rw [ran]
    exact ⟨[⟨line.now, .failed c⟩], rfl, by simp⟩
  · have ran : (call c).outcome line =
        (.ok (), (({ line with peer }.record (.done c)).carryOut c).accept arrival) := by
      simp only [Action.outcome, call, answer]
    have carried : (({ line with peer }.record (.done c)).carryOut c).history =
        ⟨line.now, .done c⟩ :: line.history ∧
        (({ line with peer }.record (.done c)).carryOut c).now = line.now := by
      cases c <;> exact ⟨rfl, rfl⟩
    obtain ⟨entries, history, times⟩ :=
      stamps_accept (({ line with peer }.record (.done c)).carryOut c) arrival
    rw [carried.1] at history
    rw [carried.2] at times
    rw [ran]
    refine ⟨entries ++ [⟨line.now, .done c⟩], ?_, ?_⟩
    · rw [history, List.append_assoc, List.singleton_append]
    · exact List.forall_mem_append.mpr ⟨times, by simp⟩

theorem stamps_read (room : Nat) (line : Line σ) : Stamps line.now line ((read room).outcome line).2 := by
  rcases grant : Peer.grant line.peer line.now room with ⟨fault | limit, peer⟩
  · have ran : (read room).outcome line = (.error fault, { line with peer }.record .readFailed) := by
      simp only [Action.outcome, read, grant]
    rw [ran]
    exact ⟨[⟨line.now, .readFailed⟩], rfl, by simp⟩
  · rw [read_of_grant grant]
    dsimp only
    split
    · exact ⟨[], rfl, by simp⟩
    · exact ⟨[⟨line.now, .took _⟩], rfl, by simp⟩

/-- While time passes only the far side is recorded, at the end of that time. -/
theorem delay_adds (line : Line σ) (span : Micros) :
    ∃ noise, Noise noise ∧ Adds (RadioLink.stamped (line.now.after span) noise) line (line.delay span) := by
  obtain ⟨noise, far, did, -⟩ := delay_events line span
  refine ⟨noise, far, did.stamped ?_⟩
  exact stamps_accept
    { line with now := line.now.after span, peer := (Peer.elapse line.peer (line.now.after span)).2 }
    (Peer.elapse line.peer (line.now.after span)).1

end Line

def Event.isIncoming : Event → Bool
  | took _ | edge _ | arrived _ => true
  | _ => false

def Attentive (events : List Event) : Prop := ∀ event ∈ events, event.isIncoming = true

theorem Attentive.listening {events : List Event} (attentive : Attentive events) : Listening events := by
  intro event member
  have incoming := attentive event member
  cases event <;> simp [Event.isIncoming, Event.isListening] at incoming ⊢

def Attends (bound : Micros) (entries : List Entry) : Prop :=
  ∀ entry ∈ entries, entry.event.isIncoming = true ∧ entry.time ≤ bound

def heardBytes (entries : List Entry) : Bytes := takenBytes (entries.map Entry.event)

@[simp] theorem heardBytes_append (first second : List Entry) :
    heardBytes (first ++ second) = heardBytes first ++ heardBytes second := by
  rw [heardBytes, List.map_append, takenBytes_append]
  rfl

@[simp] theorem heardBytes_stamped (time : Micros) (events : List Event) :
    heardBytes (stamped time events) = takenBytes events := by
  rw [heardBytes, map_event_stamped]

namespace Attends

variable {bound : Micros}

theorem nil : Attends bound [] := by simp [Attends]

theorem append {first second : List Entry} (left : Attends bound first) (right : Attends bound second) :
    Attends bound (first ++ second) :=
  List.forall_mem_append.mpr ⟨left, right⟩

theorem stamped {time : Micros} {events : List Event} (inTime : time ≤ bound)
    (incoming : Attentive events) : Attends bound (stamped time events) := by
  intro entry member
  obtain ⟨event, own, rfl⟩ := List.mem_map.mp member
  exact ⟨incoming event own, inTime⟩

theorem attentive {entries : List Entry} (attends : Attends bound entries) :
    Attentive (entries.map Entry.event) := by
  intro event member
  obtain ⟨entry, own, rfl⟩ := List.mem_map.mp member
  exact (attends entry own).1

end Attends

theorem Noise.incoming {events : List Event} (noise : Noise events) : Attentive events := by
  intro event member
  have far := noise event member
  cases event <;> simp [Event.isFarSide, Event.isIncoming] at far ⊢

namespace Slip.Port

variable {σ δ β : Type}

/-- How a look at the port goes: the bytes read ahead and then block after block until the step function
reports. -/
inductive Looked (step : δ → UInt8 → δ × Option β) :
    δ → Bytes → List Event → Except Fault (δ × Option β) → Prop where
  | here {state next : δ} {ahead rest : Bytes} {report : β}
      (found : scan step state ahead = (next, rest, some report)) :
      Looked step state ahead [] (.ok (next, some report))
  | dry {state next : δ} {ahead : Bytes} (silent : scan step state ahead = (next, [], none)) :
      Looked step state ahead [] (.ok (next, none))
  | broken {state next : δ} {ahead : Bytes} {fault : Fault}
      (silent : scan step state ahead = (next, [], none)) :
      Looked step state ahead [.readFailed] (.error fault)
  | more {state next : δ} {ahead block : Bytes} {events : List Event}
      {result : Except Fault (δ × Option β)} (silent : scan step state ahead = (next, [], none))
      (rest : Looked step next block events result) :
      Looked step state ahead (.took block :: events) result

variable [Peer σ]

theorem readBlock_adds (port : Port σ) :
    (∃ fault reached, readBlock.outcome port = (.error fault, reached) ∧
      Line.Adds [⟨port.line.now, .readFailed⟩] port.line reached.line ∧
      reached.line.now = port.line.now) ∨
    (∃ bytes line, readBlock.outcome port = (.ok bytes, { line, block := bytes, ahead := bytes }) ∧
      Line.Adds (stamped port.line.now (taking bytes)) port.line line ∧ line.now = port.line.now ∧
      port.line.waiting = bytes ++ line.waiting) := by
  have stamps := Line.stamps_read readAhead port.line
  rw [outcome_readBlock]
  rcases Line.read_cases readAhead port.line with ⟨fault, failed, episode⟩ | ⟨bytes, -, ok, episode⟩
  · rcases ran : (Line.read readAhead).outcome port.line with ⟨result, line⟩
    rw [ran] at failed episode stamps
    subst failed
    exact .inl ⟨fault, _, rfl, episode.did.stamped stamps, episode.instant⟩
  · rcases ran : (Line.read readAhead).outcome port.line with ⟨result, line⟩
    rw [ran] at ok episode stamps
    subst ok
    have queue := episode.flow.balance (fun member => by cases mem_taking member)
    rw [arrivedBytes_taking, takenBytes_taking, List.append_nil] at queue
    exact .inr ⟨bytes, line, rfl, episode.did.stamped stamps, episode.instant, queue⟩

/-- A look happens at one moment. -/
theorem scanWaiting_looked (step : δ → UInt8 → δ × Option β) (state : δ) (count : Nat) (port : Port σ)
    (enough : port.line.waiting.length < count) :
    ∃ events, Line.Adds (stamped port.line.now events) port.line
        ((scanWaiting step state count).outcome port).2.line ∧
      ((scanWaiting step state count).outcome port).2.line.now = port.line.now ∧
      Looked step state port.ahead events ((scanWaiting step state count).outcome port).1 ∧
      ∀ next, ((scanWaiting step state count).outcome port).1 = .ok (next, none) →
        ((scanWaiting step state count).outcome port).2.ahead = [] := by
  induction count generalizing state port with
  | zero => exact absurd enough (Nat.not_lt_zero _)
  | succ count ih =>
    rw [scanWaiting_succ]
    rcases scanned : scan step state port.ahead with ⟨next, rest, report⟩
    cases report with
    | some report => exact ⟨[], .same rfl, rfl, .here scanned, fun _ silent => by cases silent⟩
    | none =>
      obtain rfl := rest_of_silent scanned
      simp only [Option.isSome_none, Bool.false_eq_true, if_false]
      rcases readBlock_adds { port with ahead := [] } with ⟨fault, reached, ran, adds, instant⟩ |
        ⟨bytes, line, ran, adds, instant, queue⟩
      · rw [Action.outcome_bind_error ran]
        exact ⟨[.readFailed], adds, instant, .broken scanned, fun _ silent => by cases silent⟩
      · rw [Action.outcome_bind_ok ran]
        by_cases empty : bytes = []
        · rw [if_pos empty]
          rw [empty] at adds
          exact ⟨[], adds, instant, .dry scanned, fun _ _ => empty⟩
        · rw [if_neg empty]
          have fewer : line.waiting.length < count := by
            have shorter := congrArg List.length queue
            have some := List.length_pos_iff.mpr empty
            rw [List.length_append] at shorter
            change port.line.waiting.length < count + 1 at enough
            dsimp only at shorter
            omega
          obtain ⟨events, later, still, looked, used⟩ :=
            ih next { line, block := bytes, ahead := bytes } fewer
          refine ⟨.took bytes :: events, ?_, still.trans instant, .more scanned looked, used⟩
          rw [taking, if_neg empty] at adds
          dsimp only at later
          rw [instant] at later
          exact adds.append later

section

variable {step : δ → UInt8 → δ × Option β} {bound late : Micros} {state mid : δ} {ahead : Bytes}

/-- How a wait goes that starts with nothing read ahead. It ends with the read that makes the step function
report, with a read that fails, or late. -/
inductive Waited (step : δ → UInt8 → δ × Option β) (bound late : Micros) (state : δ) :
    List Entry → Except Fault (Option β) → Micros → Prop where
  | found {mid next : δ} {heard : List Entry} {time : Micros} {block rest : Bytes} {report : β}
      (attends : Attends bound heard) (silent : scan step state (heardBytes heard) = (mid, [], none))
      (inTime : time ≤ bound) (reports : scan step mid block = (next, rest, some report)) :
      Waited step bound late state (heard ++ [⟨time, .took block⟩]) (.ok (some report)) time
  | missed {next : δ} {heard : List Entry} {time : Micros} (attends : Attends bound heard)
      (silent : scan step state (heardBytes heard) = (next, [], none)) (inTime : time ≤ bound)
      (lapsed : late ≤ time) :
      Waited step bound late state heard (.ok none) time
  | broken {next : δ} {heard : List Entry} {time : Micros} {fault : Fault}
      (attends : Attends bound heard) (silent : scan step state (heardBytes heard) = (next, [], none))
      (inTime : time ≤ bound) :
      Waited step bound late state (heard ++ [⟨time, .readFailed⟩]) (.error fault) time

omit [Peer σ] in
theorem Waited.after {first entries : List Entry} {result : Except Fault (Option β)} {time : Micros}
    (waited : Waited step bound late mid entries result time) (attends : Attends bound first)
    (silent : scan step state (heardBytes first) = (mid, [], none)) :
    Waited step bound late state (first ++ entries) result time := by
  have whole : ∀ {heard : List Entry} {next : δ}, scan step mid (heardBytes heard) = (next, [], none) →
      scan step state (heardBytes (first ++ heard)) = (next, [], none) := by
    intro heard next rest
    rw [heardBytes_append, scan_append step _ silent, rest]
  cases waited with
  | found more quiet inTime reports =>
    rw [← List.append_assoc]
    exact .found (attends.append more) (whole quiet) inTime reports
  | missed more quiet inTime late => exact .missed (attends.append more) (whole quiet) inTime late
  | broken more quiet inTime =>
    rw [← List.append_assoc]
    exact .broken (attends.append more) (whole quiet) inTime

/-- What a look means for the wait that it is part of: the wait is over, or it goes on in a new state. -/
def Concludes (step : δ → UInt8 → δ × Option β) (bound late time : Micros) (state : δ)
    (entries : List Entry) : Except Fault (δ × Option β) → Prop
  | .ok (next, none) => Attends bound entries ∧ scan step state (heardBytes entries) = (next, [], none)
  | .ok (_, some report) => Waited step bound late state entries (.ok (some report)) time
  | .error fault => Waited step bound late state entries (.error fault) time

omit [Peer σ] in
theorem Looked.taking {time : Micros} {events : List Event} {result : Except Fault (δ × Option β)}
    (looked : Looked step state ahead events result) (inTime : time ≤ bound) :
    Concludes step bound late time state (stamped time (.took ahead :: events)) result := by
  have alone : ∀ block : Bytes, Attends bound (stamped time [.took block]) := fun block =>
    .stamped inTime (by simp [Attentive, Event.isIncoming])
  have own : ∀ block : Bytes, heardBytes (stamped time [.took block]) = block := fun block => by
    simp [Event.taken]
  induction looked with
  | here found => exact @Waited.found δ β step bound late _ _ _ [] time _ _ _ .nil rfl inTime found
  | @dry state next ahead silent =>
    refine ⟨alone ahead, ?_⟩
    rw [own, silent]
  | @broken state next ahead fault silent =>
    exact @Waited.broken δ β step bound late _ _ (stamped time [.took ahead]) time fault (alone ahead)
      ((congrArg _ (own ahead)).trans silent) inTime
  | @more state next ahead block events result silent rest ih =>
    have first : scan step state (heardBytes (stamped time [.took ahead])) = (next, [], none) :=
      (congrArg _ (own ahead)).trans silent
    rcases result with fault | ⟨final, - | report⟩
    · exact Waited.after ih (alone ahead) first
    · refine ⟨(alone ahead).append ih.1, ?_⟩
      change scan step state (heardBytes (stamped time [.took ahead] ++ stamped time (.took block :: events)))
        = _
      rw [heardBytes_append, scan_append step _ first]
      exact ih.2
    · exact Waited.after ih (alone ahead) first

omit [Peer σ] in
/-- A look that starts with nothing read ahead. -/
theorem Looked.concludes {time : Micros} {events : List Event} {result : Except Fault (δ × Option β)}
    (looked : Looked step state [] events result) (inTime : time ≤ bound) :
    Concludes step bound late time state (stamped time events) result := by
  cases looked with
  | here found => cases found
  | dry silent => exact ⟨.nil, silent⟩
  | @broken _ next _ fault silent =>
    exact @Waited.broken δ β step bound late state next [] time fault .nil silent inTime
  | more silent rest =>
    obtain rfl : state = _ := congrArg Prod.fst silent
    exact rest.taking inTime

end

theorem awaitFrom_waited (step : δ → UInt8 → δ × Option β) {start timeout : Micros} (state : δ)
    {count look : Nat} {port : Port σ} (nothing : port.ahead = [])
    (moment : port.line.now = start + Line.pollInterval * look ∨ Micros.last ≤ port.line.now)
    (inTime : port.line.now ≤ start + Line.pollInterval * Line.lastLook timeout)
    (enough : Line.lastLook timeout < look + count) :
    ∃ entries, Line.Adds entries port.line
        ((awaitFrom step start timeout state count).outcome port).2.line ∧
      Waited step (start + Line.pollInterval * Line.lastLook timeout)
        (start.after (Line.pollInterval * Line.lastLook timeout)) state entries
        ((awaitFrom step start timeout state count).outcome port).1
        ((awaitFrom step start timeout state count).outcome port).2.line.now := by
  induction count generalizing state look port with
  | zero =>
    have late : ∀ now start look final last : Nat, now = start + 50 * look ∨ last ≤ now →
        now ≤ start + 50 * final → final < look + 0 → min (start + 50 * final) last ≤ now := by omega
    refine ⟨[], .same rfl, .missed .nil rfl inTime ?_⟩
    exact late port.line.now start look (Line.lastLook timeout) Micros.last moment inTime enough
  | succ count ih =>
    obtain ⟨events, adds, instant, looked, used⟩ :=
      scanWaiting_looked step state (port.line.waiting.length + 1) port (Nat.lt_succ_self _)
    rw [awaitFrom_succ]
    rw [nothing] at looked
    have concludes := @Looked.concludes δ β step _
      (start.after (Line.pollInterval * Line.lastLook timeout)) state _ _ _ looked inTime
    generalize (scanWaiting step state (port.line.waiting.length + 1)).outcome port = run
      at adds instant used concludes ⊢
    obtain ⟨result, reached⟩ := run
    have now : reached.line.now = port.line.now := instant
    rcases result with fault | ⟨next, - | report⟩
    · rw [← now] at adds concludes
      exact ⟨_, adds, concludes⟩
    · obtain ⟨attends, silent⟩ := concludes
      rw [← now] at moment inTime
      simp only [Option.isSome_none, Bool.false_eq_true, if_false]
      split
      next late =>
        have lapsed : ∀ now start look span last : Nat, now = start + 50 * look ∨ last ≤ now →
            span ≤ now - start → min (start + 50 * ((span + 49) / 50)) last ≤ now := by omega
        exact ⟨_, adds, .missed attends silent inTime
          (lapsed reached.line.now start look timeout Micros.last moment late)⟩
      next early =>
        -- the clock goes on by one interval, or it has stopped and stands still
        have goes : ∀ now start look span last : Nat, now = start + 50 * look ∨ last ≤ now →
            ¬span ≤ now - start → now ≤ start + 50 * ((span + 49) / 50) →
            (min (now + 50) last = start + 50 * (look + 1) ∨ last ≤ min (now + 50) last) ∧
              min (now + 50) last ≤ start + 50 * ((span + 49) / 50) := by omega
        obtain ⟨further, soon⟩ := goes reached.line.now start look timeout Micros.last moment early inTime
        obtain ⟨noise, far, passed⟩ := Line.delay_adds reached.line Line.pollInterval
        have later := Line.now_delay reached.line Line.pollInterval
        obtain ⟨entries, more, waited⟩ := @ih next (look + 1)
          { reached with line := reached.line.delay Line.pollInterval } (used next rfl)
          (by rw [later]; exact further) (by rw [later]; exact soon) (by omega)
        have between : Attends (start + Line.pollInterval * Line.lastLook timeout)
            (stamped (reached.line.now.after Line.pollInterval) noise) := .stamped soon far.incoming
        have quiet : scan step next
            (heardBytes (stamped (reached.line.now.after Line.pollInterval) noise)) = (next, [], none) := by
          rw [heardBytes_stamped, far.takenBytes_eq]
          rfl
        exact ⟨_, adds.append (passed.append more), (waited.after between quiet).after attends silent⟩
    · rw [← now] at adds concludes
      exact ⟨_, adds, concludes⟩

/-- A wait that starts with nothing read ahead ends with the first report or no sooner than its timeout, and
less than one interval after that. -/
theorem await_waited (step : δ → UInt8 → δ × Option β) (state : δ) (timeout : Micros) {port : Port σ}
    (nothing : port.ahead = []) :
    ∃ entries, Line.Adds entries port.line ((await step state timeout).outcome port).2.line ∧
      Waited step (port.line.now + Line.pollInterval * Line.lastLook timeout)
        (port.line.now.after (Line.pollInterval * Line.lastLook timeout)) state entries
        ((await step state timeout).outcome port).1
        ((await step state timeout).outcome port).2.line.now := by
  rw [await, Action.outcome_get_bind]
  have enough : Line.lastLook timeout < 0 + Line.pollCount timeout := by
    rw [Nat.zero_add]
    exact Line.lastLook_lt_pollCount timeout
  exact awaitFrom_waited step state nothing (.inl (Nat.add_zero _).symm) (Nat.le_add_right _ _) enough

theorem call_adds (c : Call) (port : Port σ) :
    (∃ fault line, (device (Line.call c)).outcome port = (.error fault, { port with line }) ∧
      Line.Adds [⟨port.line.now, .failed c⟩] port.line line ∧ line.now = port.line.now) ∨
    (∃ noise line, Noise noise ∧ (device (Line.call c)).outcome port = (.ok (), { port with line }) ∧
      Line.Adds (stamped port.line.now (.done c :: noise)) port.line line ∧
      line.now = port.line.now) := by
  have stamps := Line.stamps_call c port.line
  rw [device, Action.outcome_within]
  rcases Line.call_cases c port.line with ⟨fault, failed, episode⟩ | ⟨noise, far, ok, episode⟩
  · exact .inl ⟨fault, _, by rw [failed], episode.did.stamped stamps, episode.instant⟩
  · exact .inr ⟨noise, _, far, by rw [ok], episode.did.stamped stamps, episode.instant⟩

theorem discard_adds (port : Port σ) :
    (∃ fault reached, discard.outcome port = (.error fault, reached) ∧
      Line.Adds [⟨port.line.now, .failed .clear⟩] port.line reached.line ∧
      reached.line.now = port.line.now) ∨
    (∃ noise reached, Noise noise ∧ discard.outcome port = (.ok (), reached) ∧
      Line.Adds (stamped port.line.now (.done .clear :: noise)) port.line reached.line ∧
      reached.line.now = port.line.now ∧ reached.ahead = []) := by
  rw [discard, Action.outcome_change_bind]
  rcases call_adds .clear { port with block := [], ahead := [] } with
    ⟨fault, line, ran, adds, instant⟩ | ⟨noise, line, far, ran, adds, instant⟩
  · exact .inl ⟨fault, _, ran, adds, instant⟩
  · exact .inr ⟨noise, _, far, ran, adds, instant, rfl⟩

end Slip.Port

end RadioLink
