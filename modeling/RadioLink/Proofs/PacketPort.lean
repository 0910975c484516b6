import RadioLink.Proofs.LineEvents
import RadioLink.Slip.Port

/-!
Waiting on the packet port. However the incoming bytes are cut into reads and spread over time, a
wait reports what its step function reports on all of them in a row.
-/

namespace RadioLink

namespace Slip.Port

variable {σ δ β : Type}

theorem scan_append (step : δ → UInt8 → δ × Option β) {state next : δ} {first : Bytes}
    (second : Bytes) (silent : scan step state first = (next, [], none)) :
    scan step state (first ++ second) = scan step next second := by
  induction first generalizing state with
  | nil =>
    simp only [scan, Prod.mk.injEq, and_true] at silent
    rw [List.nil_append, silent]
  | cons b rest ih =>
    simp only [List.cons_append, scan] at silent ⊢
    generalize step state b = stepped at silent ⊢
    obtain ⟨after, report⟩ := stepped
    cases report with
    | none => exact ih silent
    | some report => simp at silent

/-- Without a report every byte has been looked at. -/
theorem scan_silent (step : δ → UInt8 → δ × Option β) (state : δ) (bytes : Bytes)
    (silent : (scan step state bytes).2.2 = none) : (scan step state bytes).2.1 = [] := by
  induction bytes generalizing state with
  | nil => rfl
  | cons b rest ih =>
    simp only [scan] at silent ⊢
    generalize step state b = stepped at silent ⊢
    obtain ⟨after, report⟩ := stepped
    cases report with
    | none => exact ih after silent
    | some report => simp at silent

theorem rest_of_silent {step : δ → UInt8 → δ × Option β} {state next : δ} {bytes rest : Bytes}
    (scanned : scan step state bytes = (next, rest, none)) : rest = [] := by
  have all := scan_silent step state bytes (by rw [scanned])
  rwa [scanned] at all

variable [Peer σ]

theorem outcome_readBlock (port : Port σ) :
    readBlock.outcome port =
      match (Line.read readAhead).outcome port.line with
      | (.ok bytes, line) => (.ok bytes, { line, block := bytes, ahead := bytes })
      | (.error fault, line) => (.error fault, { port with line, ahead := port.block }) := by
  simp only [Action.outcome, readBlock]
  cases Line.read readAhead port.line <;> rfl

theorem readBlock_cases (port : Port σ) :
    (∃ fault, (readBlock.outcome port).1 = .error fault ∧
      Line.Episode [.readFailed] port.line (readBlock.outcome port).2.line) ∨
    (∃ bytes line, readBlock.outcome port = (.ok bytes, { line, block := bytes, ahead := bytes }) ∧
      Line.Episode (taking bytes) port.line line) := by
  rw [outcome_readBlock]
  rcases Line.read_cases readAhead port.line with ⟨fault, failed, episode⟩ | ⟨bytes, _, ok, episode⟩
  · left
    rcases ran : (Line.read readAhead).outcome port.line with ⟨result, line⟩
    rw [ran] at failed episode
    subst failed
    exact ⟨fault, rfl, episode⟩
  · right
    rcases ran : (Line.read readAhead).outcome port.line with ⟨result, line⟩
    rw [ran] at ok episode
    subst ok
    exact ⟨bytes, line, rfl, episode⟩

theorem scanWaiting_succ (step : δ → UInt8 → δ × Option β) (state : δ) (count : Nat)
    (port : Port σ) :
    (scanWaiting step state (count + 1)).outcome port =
      if (scan step state port.ahead).2.2.isSome then
        (.ok ((scan step state port.ahead).1, (scan step state port.ahead).2.2),
          { port with ahead := (scan step state port.ahead).2.1 })
      else
        (readBlock >>= fun bytes =>
          if bytes = [] then pure ((scan step state port.ahead).1, none)
          else scanWaiting step (scan step state port.ahead).1 count).outcome
          { port with ahead := (scan step state port.ahead).2.1 } := by
  rw [scanWaiting, Action.outcome_get_bind]
  rcases scan step state port.ahead with ⟨next, rest, report⟩
  simp only [Action.outcome_change_bind]
  split <;> rfl

/-- What a scan over bytes has to do with the result of the operation that made it: a failed read
comes only when nothing was there to report. -/
def Scanned (step : δ → UInt8 → δ × Option β) (state : δ) (bytes ahead : Bytes) :
    Except Fault (δ × Option β) → Prop
  | .ok (next, report) => scan step state bytes = (next, ahead, report)
  | .error _ => (scan step state bytes).2.2 = none

theorem Scanned.congr {step : δ → UInt8 → δ × Option β} {state next : δ} {bytes later ahead : Bytes}
    {result : Except Fault (δ × Option β)} (scanned : Scanned step next later ahead result)
    (same : scan step next later = scan step state bytes) :
    Scanned step state bytes ahead result := by
  cases result with
  | ok found => exact same.symm.trans scanned
  | error fault =>
    simp only [Scanned] at scanned ⊢
    rw [← same]
    exact scanned

theorem scanWaiting_spec (step : δ → UInt8 → δ × Option β) (state : δ) (count : Nat)
    (port : Port σ) (enough : port.line.waiting.length < count) :
    ∃ events, Line.Did events port.line ((scanWaiting step state count).outcome port).2.line ∧
      Listening events ∧
      Scanned step state (port.ahead ++ takenBytes events)
        ((scanWaiting step state count).outcome port).2.ahead
        ((scanWaiting step state count).outcome port).1 := by
  induction count generalizing state port with
  | zero => exact absurd enough (Nat.not_lt_zero _)
  | succ count ih =>
    rw [scanWaiting_succ]
    rcases scanned : scan step state port.ahead with ⟨next, rest, report⟩
    cases report with
    | some report =>
      refine ⟨[], .same rfl, .nil, ?_⟩
      simp [Scanned, scanned]
    | none =>
      obtain rfl := rest_of_silent scanned
      simp only [Option.isSome_none, Bool.false_eq_true, if_false]
      rcases readBlock_cases { port with ahead := [] } with ⟨fault, failed, episode⟩ |
        ⟨bytes, line, ok, episode⟩
      · rcases ran : readBlock.outcome { port with ahead := [] } with ⟨result, reached⟩
        rw [ran] at failed episode
        subst failed
        rw [Action.outcome_bind_error ran]
        refine ⟨_, episode.did, by simp [Listening, Event.isListening], ?_⟩
        simp [Scanned, Event.taken, scanned]
      · rw [Action.outcome_bind_ok ok]
        by_cases empty : bytes = []
        · subst empty
          rw [if_pos rfl]
          refine ⟨_, episode.did, .taking [], ?_⟩
          simp [Scanned, scanned]
        · rw [if_neg empty]
          -- what was read came off the queue, so one look less is enough for the rest
          have queue : port.line.waiting = bytes ++ line.waiting := by
            have balance := episode.flow.balance (fun member => by cases mem_taking member)
            simpa using balance
          have fewer : line.waiting.length < count := by
            have shorter := congrArg List.length queue
            have some := List.length_pos_iff.mpr empty
            rw [List.length_append] at shorter
            omega
          obtain ⟨events, did, listening, result⟩ :=
            ih next { line, block := bytes, ahead := bytes } fewer
          refine ⟨_, episode.did.append did, (Listening.taking bytes).append listening, ?_⟩
          rw [takenBytes_append, takenBytes_taking]
          exact result.congr (scan_append step _ scanned).symm

theorem awaitFrom_succ (step : δ → UInt8 → δ × Option β) (start timeout : Micros) (state : δ)
    (count : Nat) (port : Port σ) :
    (awaitFrom step start timeout state (count + 1)).outcome port =
      match (scanWaiting step state (port.line.waiting.length + 1)).outcome port with
      | (.error fault, reached) => (.error fault, reached)
      | (.ok (next, report), reached) =>
        if report.isSome then (.ok report, reached)
        else if timeout ≤ reached.line.elapsed start then (.ok none, reached)
        else (awaitFrom step start timeout next count).outcome
          { reached with line := reached.line.delay Line.pollInterval } := by
  rw [awaitFrom, Action.outcome_get_bind, Action.outcome_bind]
  rcases (scanWaiting step state (port.line.waiting.length + 1)).outcome port with ⟨result, reached⟩
  cases result with
  | error fault => rfl
  | ok found =>
    obtain ⟨next, report⟩ := found
    dsimp only
    split
    · rfl
    · rw [Action.outcome_get_bind]
      split
      · rfl
      · rw [Action.outcome_change_bind]

def Awaited (step : δ → UInt8 → δ × Option β) (state : δ) (bytes : Bytes) :
    Except Fault (Option β) → Prop
  | .ok report => (scan step state bytes).2.2 = report
  | .error _ => (scan step state bytes).2.2 = none

theorem Awaited.congr {step : δ → UInt8 → δ × Option β} {state next : δ} {bytes later : Bytes}
    {result : Except Fault (Option β)} (awaited : Awaited step next later result)
    (same : scan step next later = scan step state bytes) : Awaited step state bytes result := by
  cases result with
  | ok report | error fault =>
    simp only [Awaited] at awaited ⊢
    rw [← same]
    exact awaited

theorem awaitFrom_spec (step : δ → UInt8 → δ × Option β) (start timeout : Micros) (state : δ)
    (count : Nat) (port : Port σ) (looked : count = 0 → port.ahead = []) :
    ∃ events, Line.Did events port.line
        ((awaitFrom step start timeout state count).outcome port).2.line ∧
      Listening events ∧
      Awaited step state (port.ahead ++ takenBytes events)
        ((awaitFrom step start timeout state count).outcome port).1 := by
  induction count generalizing state port with
  | zero =>
    refine ⟨[], .refl _, .nil, ?_⟩
    rw [looked rfl]
    rfl
  | succ count ih =>
    obtain ⟨events, did, listening, scanned⟩ :=
      scanWaiting_spec step state (port.line.waiting.length + 1) port (Nat.lt_succ_self _)
    rw [awaitFrom_succ]
    revert did scanned
    rcases (scanWaiting step state (port.line.waiting.length + 1)).outcome port with
      ⟨result, reached⟩
    intro did scanned
    cases result with
    | error fault => exact ⟨events, did, listening, scanned⟩
    | ok found =>
      obtain ⟨next, report⟩ := found
      simp only [Scanned] at scanned
      cases report with
      | some report =>
        refine ⟨events, did, listening, ?_⟩
        simp [Awaited, scanned]
      | none =>
        have ahead : reached.ahead = [] := rest_of_silent scanned
        rw [ahead] at scanned
        simp only [Option.isSome_none, Bool.false_eq_true, if_false]
        split
        · refine ⟨events, did, listening, ?_⟩
          simp [Awaited, scanned]
        · obtain ⟨noise, far, passed, _⟩ := Line.delay_events reached.line Line.pollInterval
          obtain ⟨later, after, hearing, result⟩ :=
            ih next { reached with line := reached.line.delay Line.pollInterval } (fun _ => ahead)
          refine ⟨_, (did.append passed).append after,
            (listening.append far.listening).append hearing, ?_⟩
          rw [takenBytes_append, takenBytes_append, far.takenBytes_eq, List.append_nil,
            ← List.append_assoc]
          simp only [ahead, List.nil_append] at result ⊢
          exact result.congr (scan_append step _ scanned).symm

/-- A wait reports what its step function reports on what was read ahead and all that was read. -/
theorem await_spec (step : δ → UInt8 → δ × Option β) (state : δ) (timeout : Micros)
    (port : Port σ) :
    ∃ events, Line.Did events port.line ((await step state timeout).outcome port).2.line ∧
      Listening events ∧
      Awaited step state (port.ahead ++ takenBytes events)
        ((await step state timeout).outcome port).1 := by
  rw [await, Action.outcome_get_bind]
  exact awaitFrom_spec step _ timeout state (Line.pollCount timeout) port
    (fun none => absurd none (Nat.succ_ne_zero _))

def firstPacket? (capacity : Nat) (bytes : Bytes) : Option Bytes :=
  match (scan Decoder.push { capacity } bytes).2.2 with
  | some (.ok packet) => some packet
  | _ => none

/-- A packet is read exactly when it is the first one in the bytes that came. -/
theorem readPacket_spec (capacity : Nat) (timeout : Micros) (port : Port σ) :
    ∃ events, Line.Did events port.line ((readPacket capacity timeout).outcome port).2.line ∧
      Listening events ∧
      ∀ packet, ((readPacket capacity timeout).outcome port).1 = .ok (some packet) ↔
        firstPacket? capacity (port.ahead ++ takenBytes events) = some packet := by
  obtain ⟨events, did, listening, awaited⟩ :=
    await_spec Decoder.push ({ capacity } : Decoder) timeout port
  rw [readPacket, Action.outcome_bind, Action.outcome_mapError]
  revert did awaited
  rcases (await Decoder.push ({ capacity } : Decoder) timeout).outcome port with ⟨result, reached⟩
  intro did awaited
  cases result with
  | error fault =>
    refine ⟨events, did, listening, fun packet => ?_⟩
    simp only [Awaited] at awaited
    simp [firstPacket?, awaited, Except.mapError]
  | ok report =>
    simp only [Awaited] at awaited
    rcases report with - | error | found
    · refine ⟨events, did, listening, fun packet => ?_⟩
      simp [firstPacket?, awaited, Except.mapError]
    · refine ⟨events, did, listening, fun packet => ?_⟩
      simp [firstPacket?, awaited, Except.mapError]
    · refine ⟨events, did, listening, fun packet => ?_⟩
      simp [firstPacket?, awaited, Except.mapError, Action.outcome_map, Except.map]

def Ages (before after : Port σ) : Prop := before.line.Ages after.line

omit [Peer σ] in
theorem Ages.same {before after : Port σ} (now : after.line.now = before.line.now) :
    Ages before after :=
  Line.Ages.same now

instance : IsPreorder (Port σ) Ages where
  refl _ := .same rfl
  trans _ _ _ early late span := Nat.le_trans (early span) (late span)

theorem ages_readBlock : Action.Keeps Ages (readBlock : Action Fault (Port σ) Bytes) := by
  intro port
  have ages := Line.Ages.read readAhead port.line
  simp only [Action.outcome, readBlock] at ages ⊢
  generalize Line.read readAhead port.line = result at ages ⊢
  cases result <;> exact ages

theorem ages_scanWaiting (step : δ → UInt8 → δ × Option β) (state : δ) (count : Nat) :
    Action.Keeps Ages (scanWaiting step state count : Action Fault (Port σ) (δ × Option β)) := by
  induction count generalizing state with
  | zero => exact .pure _
  | succ count ih =>
    refine .bind .get fun port => .bind (.change fun _ => .same rfl) fun _ => ?_
    split
    · exact .pure _
    refine .bind ages_readBlock fun bytes => ?_
    split
    · exact .pure _
    · exact ih _

theorem ages_awaitFrom (step : δ → UInt8 → δ × Option β) (start timeout : Micros) (state : δ)
    (count : Nat) :
    Action.Keeps Ages (awaitFrom step start timeout state count : Action Fault (Port σ) (Option β)) := by
  induction count generalizing state with
  | zero => exact .pure _
  | succ count ih =>
    refine .bind .get fun port => .bind (ages_scanWaiting _ _ _) fun found => ?_
    dsimp only
    split
    · exact .pure _
    refine .bind .get fun port => ?_
    split
    · exact .pure _
    · exact .bind (.change fun port => .delay port.line _) fun _ => ih _

theorem ages_await (step : δ → UInt8 → δ × Option β) (state : δ) (timeout : Micros) :
    Action.Keeps Ages (await step state timeout : Action Fault (Port σ) (Option β)) :=
  .bind .get fun _ => ages_awaitFrom _ _ _ _ _

theorem ages_readPacket (capacity : Nat) (timeout : Micros) :
    Action.Keeps Ages
      (readPacket capacity timeout : Action ProvisionError (Port σ) (Option Bytes)) := by
  refine .bind (ages_await _ _ _).mapError fun found => ?_
  split
  · exact .pure _
  · exact .throw _
  · exact .bind (.change fun _ => .same rfl) fun _ => .pure _

theorem call_cases (c : Call) (port : Port σ) :
    (∃ fault line, (device (Line.call c)).outcome port = (.error fault, { port with line }) ∧
      Line.Did [.failed c] port.line line) ∨
    (∃ noise line, Noise noise ∧ (device (Line.call c)).outcome port = (.ok (), { port with line }) ∧
      Line.Did (.done c :: noise) port.line line) := by
  rw [device, Action.outcome_within]
  rcases Line.call_cases c port.line with ⟨fault, failed, episode⟩ | ⟨noise, far, ok, episode⟩
  · exact .inl ⟨fault, _, by rw [failed], episode.did⟩
  · exact .inr ⟨noise, _, far, by rw [ok], episode.did⟩

theorem writePacket_cases (parts : List Bytes) (port : Port σ) :
    (∃ fault line, (writePacket parts).outcome port = (.error fault, { port with line }) ∧
      Line.Did [.failed (.write (Slip.encode parts))] port.line line) ∨
    (∃ noise line, Noise noise ∧ (writePacket parts).outcome port = (.ok (), { port with line }) ∧
      Line.Did (.done (.write (Slip.encode parts)) :: noise) port.line line) := by
  rw [writePacket, Action.outcome_change_bind]
  exact call_cases (.write (Slip.encode parts)) (port.note (.packetSent (Slip.encode parts)))

end Slip.Port

end RadioLink
