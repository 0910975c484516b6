import RadioLink.Proofs.WaitBounds

/-!
What is left to read on the packet port. The bytes read ahead and those that wait on the line are one
stream: a read moves bytes from the line to the port and leaves the stream as it is. A wait takes bytes off
its front, up to the byte that makes its step function report, or all of them when none does. The far side
is taken to send nothing more, so the stream at the start decides everything.
-/

namespace RadioLink

/-- The far side sends nothing more, and it lets every read take something. -/
def Peer.Quiet {σ : Type} [Peer σ] (peer : σ) : Prop :=
  ∃ still : σ → Prop, still peer ∧ ∀ peer, still peer →
    (∀ moment room, 0 < room →
      ∃ limit next, Peer.grant peer moment room = (.ok limit, next) ∧ 0 < limit ∧ still next) ∧
    ∀ moment, (Peer.elapse peer moment).1.bytes = [] ∧ still (Peer.elapse peer moment).2

section

variable {σ : Type} [Peer σ] {peer : σ} (quiet : Peer.Quiet peer)

include quiet

theorem Peer.Quiet.grant (moment : Micros) {room : Nat} (some_room : 0 < room) :
    ∃ limit next, Peer.grant peer moment room = (.ok limit, next) ∧ 0 < limit ∧ Peer.Quiet next := by
  obtain ⟨still, now, keeps⟩ := quiet
  obtain ⟨limit, next, granted, positive, later⟩ := (keeps peer now).1 moment room some_room
  exact ⟨limit, next, granted, positive, still, later, keeps⟩

theorem Peer.Quiet.elapse (moment : Micros) :
    (Peer.elapse peer moment).1.bytes = [] ∧ Peer.Quiet (Peer.elapse peer moment).2 := by
  obtain ⟨still, now, keeps⟩ := quiet
  obtain ⟨none, later⟩ := (keeps peer now).2 moment
  exact ⟨none, still, later, keeps⟩

end

namespace Line

theorem accept_of_silent {σ : Type} {arrival : Arrival} (none : arrival.bytes = []) (line : Line σ) :
    (line.accept arrival).waiting = line.waiting ∧ (line.accept arrival).peer = line.peer := by
  simp only [accept, receive, if_pos none]
  split
  · exact ⟨rfl, rfl⟩
  · exact ⟨rfl, rfl⟩

variable {σ : Type} [Peer σ] {line : Line σ} (quiet : Peer.Quiet line.peer)

include quiet

/-- A read takes bytes off the queue, none only if none wait. -/
theorem read_quiet {room : Nat} (some_room : 0 < room) :
    ∃ bytes next, (read room).outcome line = (.ok bytes, next) ∧ line.waiting = bytes ++ next.waiting ∧
      (bytes = [] → next.waiting = []) ∧ next.now = line.now ∧ Peer.Quiet next.peer := by
  obtain ⟨limit, peer, granted, positive, later⟩ := quiet.grant line.now some_room
  have ran := read_of_grant granted
  have queue := (List.take_append_drop (min room limit) line.waiting).symm
  by_cases none : line.waiting.take (min room limit) = []
  · rw [if_pos none] at ran
    refine ⟨_, _, ran, queue, fun _ => ?_, rfl, later⟩
    rcases List.take_eq_nil_iff.mp none with zero | empty
    · omega
    · exact (congrArg _ empty).trans List.drop_nil
  · rw [if_neg none] at ran
    exact ⟨_, _, ran, queue, fun empty => absurd empty none, rfl, later⟩

theorem delay_quiet (span : Micros) :
    (line.delay span).waiting = line.waiting ∧ Peer.Quiet (line.delay span).peer := by
  obtain ⟨none, later⟩ := quiet.elapse (line.now.after span)
  obtain ⟨waiting, peer⟩ := accept_of_silent none
    { line with now := line.now.after span, peer := (Peer.elapse line.peer (line.now.after span)).2 }
  have same : (line.delay span).peer = (Peer.elapse line.peer (line.now.after span)).2 := peer
  refine ⟨waiting, ?_⟩
  rw [same]
  exact later

end Line

namespace Slip.Port

variable {σ δ α β : Type}

def left (port : Port σ) : Bytes := port.ahead ++ port.line.waiting

theorem scan_append_some {step : δ → UInt8 → δ × Option β} {state next : δ} {first rest : Bytes}
    {report : β} (second : Bytes) (found : scan step state first = (next, rest, some report)) :
    scan step state (first ++ second) = (next, rest ++ second, some report) := by
  induction first generalizing state with
  | nil => simp [scan] at found
  | cons b more ih =>
    simp only [List.cons_append, scan] at found ⊢
    generalize step state b = stepped at found ⊢
    obtain ⟨after, other⟩ := stepped
    cases other with
    | none => exact ih found
    | some other =>
      simp only [Prod.mk.injEq] at found ⊢
      obtain ⟨rfl, rfl, same⟩ := found
      exact ⟨rfl, rfl, same⟩

/-- A scan of a stream reports this first, with the byte at this position. -/
structure Locates (step : δ → UInt8 → δ × Option β) (state : δ) (stream : Bytes)
    (first? : Option (Nat × β)) : Prop where
  found : ∀ i report, first? = some (i, report) →
    (scan step state stream).2 = (stream.drop (i + 1), some report)
  missed : first? = none → (scan step state stream).2 = ([], none)

theorem scan_push (decoder : Decoder) (position : Nat) (stream : Bytes) :
    (∀ i report, (decoder.events position stream).2.head? = some (i, report) → position ≤ i ∧
      (scan Decoder.push decoder stream).2 = (stream.drop (i + 1 - position), some report)) ∧
    ((decoder.events position stream).2.head? = none →
      (scan Decoder.push decoder stream).2 = ([], none)) := by
  induction stream generalizing decoder position with
  | nil => exact ⟨fun i report found => (by cases found), fun _ => rfl⟩
  | cons b rest ih =>
    rw [scan, Decoder.events]
    rcases decoder.push b with ⟨next, event⟩
    cases event with
    | some event =>
      refine ⟨fun i report found => ?_, fun missed => by cases missed⟩
      obtain ⟨rfl, rfl⟩ := Prod.mk.inj (Option.some.inj found)
      refine ⟨le_rfl, ?_⟩
      rw [Nat.add_sub_cancel_left, List.drop_one]
      rfl
    | none =>
      obtain ⟨later, never⟩ := ih next (position + 1)
      refine ⟨fun i report found => ?_, never⟩
      obtain ⟨after, scanned⟩ := later i report found
      have further : i + 1 - position = i + 1 - (position + 1) + 1 := by omega
      rw [further, List.drop_succ_cons]
      exact ⟨Nat.le_of_succ_le after, scanned⟩

theorem locates_packet (capacity : Nat) (stream : Bytes) :
    Locates Decoder.push { capacity } stream (Decoder.events { capacity } 0 stream).2.head? := by
  obtain ⟨found, missed⟩ := scan_push { capacity } 0 stream
  exact ⟨fun i report first => (found i report first).2, missed⟩

def spot (_ : Unit) (b : UInt8) : Unit × Option Unit := ((), if b = delimiter then some () else none)

theorem locates_delimiter (stream : Bytes) :
    Locates spot () stream ((stream.idxOf? delimiter).map (·, ())) := by
  induction stream with
  | nil => exact ⟨fun i report found => (by cases found), fun _ => rfl⟩
  | cons b rest ih =>
    rw [List.idxOf?_cons]
    by_cases here : b = delimiter
    · rw [if_pos (beq_iff_eq.mpr here)]
      refine ⟨fun i report found => ?_, fun missed => by cases missed⟩
      obtain ⟨rfl, rfl⟩ := Prod.mk.inj (Option.some.inj found)
      simp [scan, spot, here]
    · have further : scan spot () (b :: rest) = scan spot () rest := by simp [scan, spot, here]
      rw [if_neg fun same => here (beq_iff_eq.mp same)]
      constructor
      · intro i report found
        cases place : rest.idxOf? delimiter with
        | none =>
          rw [place] at found
          cases found
        | some j =>
          rw [place] at found ih
          obtain ⟨rfl, rfl⟩ := Prod.mk.inj (Option.some.inj found)
          rw [further, List.drop_succ_cons]
          exact ih.found j () rfl
      · intro missed
        rw [further]
        simp only [Option.map_eq_none_iff] at missed
        exact ih.missed (Option.map_eq_none_iff.mpr missed)

/-- A wait ends with the first report on what is left, at once, and the bytes after it are left then.
Without a report it uses up everything and ends with the first look at or after its timeout. -/
structure Ends (before : Port σ) (timeout : Micros) (first? : Option (Nat × β)) (answer : Option β → α)
    (result : α) (after : Port σ) : Prop where
  found : ∀ i report, first? = some (i, report) → result = answer (some report) ∧
    after.left = before.left.drop (i + 1) ∧ after.line.now = before.line.now
  missed : first? = none → result = answer none ∧ after.left = [] ∧
    after.line.now = before.line.now + 50 * Line.lastLook timeout

theorem Ends.answering {port reached after : Port σ} {timeout : Micros} {first? : Option (Nat × β)}
    {report : Option β} (ends : port.Ends timeout first? id report reached) (answer : Option β → α)
    (remains : after.left = reached.left) (moment : after.line.now = reached.line.now) :
    port.Ends timeout first? answer (answer report) after := by
  constructor
  · intro i other first
    obtain ⟨same, rest, now⟩ := ends.found i other first
    exact ⟨congrArg answer same, remains.trans rest, moment.trans now⟩
  · intro none
    obtain ⟨same, rest, now⟩ := ends.missed none
    exact ⟨congrArg answer same, remains.trans rest, moment.trans now⟩

theorem Ends.uses {port after : Port σ} {timeout : Micros} {first? : Option (Nat × β)}
    {answer : Option β → α} {result : α} (ends : port.Ends timeout first? answer result after) :
    after.left = port.left.drop (((first?.map Prod.fst).map (· + 1)).getD port.left.length) ∧
      after.line.now ≤ port.line.now + 50 * Line.lastLook timeout := by
  cases first? with
  | none =>
    obtain ⟨-, rest, now⟩ := ends.missed rfl
    exact ⟨rest.trans List.drop_length.symm, now.le⟩
  | some first =>
    obtain ⟨-, rest, now⟩ := ends.found first.1 first.2 rfl
    exact ⟨rest, now.le.trans (Nat.le_add_right _ _)⟩

def packetAnswer : Option (Except SlipError Bytes) → Except ProvisionError (Option Bytes)
  | none => .ok none
  | some (.ok packet) => .ok (some packet)
  | some (.error error) => .error (.slip error)

variable [Peer σ]

theorem readBlock_quiet {port : Port σ} (quiet : Peer.Quiet port.line.peer) :
    ∃ bytes line, readBlock.outcome port = (.ok bytes, { line, block := bytes, ahead := bytes }) ∧
      port.line.waiting = bytes ++ line.waiting ∧ (bytes = [] → line.waiting = []) ∧
      line.now = port.line.now ∧ Peer.Quiet line.peer := by
  obtain ⟨bytes, line, ran, rest⟩ := @Line.read_quiet σ _ port.line quiet readAhead (by decide)
  refine ⟨bytes, line, ?_, rest⟩
  rw [outcome_readBlock, ran]

/-- A look at the port scans all that is left. -/
theorem scanWaiting_quiet (step : δ → UInt8 → δ × Option β) (state : δ) {count : Nat} {port : Port σ}
    (quiet : Peer.Quiet port.line.peer) (enough : port.line.waiting.length < count) :
    ∃ reached, (scanWaiting step state count).outcome port =
        (.ok ((scan step state port.left).1, (scan step state port.left).2.2), reached) ∧
      reached.left = (scan step state port.left).2.1 ∧ reached.line.now = port.line.now ∧
      Peer.Quiet reached.line.peer := by
  induction count generalizing state port with
  | zero => exact absurd enough (Nat.not_lt_zero _)
  | succ count ih =>
    rw [scanWaiting_succ]
    rcases scanned : scan step state port.ahead with ⟨next, rest, report⟩
    cases report with
    | some report =>
      have all : scan step state port.left = _ := scan_append_some port.line.waiting scanned
      rw [all]
      exact ⟨_, rfl, rfl, rfl, quiet⟩
    | none =>
      obtain rfl := rest_of_silent scanned
      have all : scan step state port.left = scan step next port.line.waiting :=
        scan_append step port.line.waiting scanned
      obtain ⟨bytes, line, ran, queue, drained, instant, later⟩ :=
        @readBlock_quiet σ _ { port with ahead := [] } quiet
      dsimp only at queue instant
      simp only [Option.isSome_none, Bool.false_eq_true, if_false]
      rw [Action.outcome_bind_ok ran, all]
      by_cases empty : bytes = []
      · have nothing : port.line.waiting = [] := by rw [queue, empty, drained empty, List.append_nil]
        rw [if_pos empty, nothing]
        refine ⟨_, rfl, ?_, instant, later⟩
        rw [left, empty, drained empty]
        rfl
      · rw [if_neg empty, queue]
        have fewer : line.waiting.length < count := by
          have shorter := congrArg List.length queue
          have some := List.length_pos_iff.mpr empty
          rw [List.length_append] at shorter
          omega
        obtain ⟨reached, went, remains, unmoved, last⟩ :=
          @ih next { line, block := bytes, ahead := bytes } later fewer
        exact ⟨reached, went, remains, unmoved.trans instant, last⟩

/-- A wait looks at what is left, and if that makes no report, in vain at every later look. -/
theorem awaitFrom_quiet (step : δ → UInt8 → δ × Option β) {start timeout : Micros} (state : δ)
    {count look : Nat} {port : Port σ} (quiet : Peer.Quiet port.line.peer)
    (moment : port.line.now = start + Line.pollInterval * look)
    (inTime : look ≤ Line.lastLook timeout) (enough : Line.lastLook timeout < look + count)
    (running : start + Line.pollInterval * Line.lastLook timeout ≤ Micros.last) :
    ∃ reached, (awaitFrom step start timeout state count).outcome port =
        (.ok (scan step state port.left).2.2, reached) ∧
      reached.left = (scan step state port.left).2.1 ∧ Peer.Quiet reached.line.peer ∧
      reached.line.now = if (scan step state port.left).2.2.isSome then port.line.now
        else start + Line.pollInterval * Line.lastLook timeout := by
  induction count generalizing state look port with
  | zero => exact absurd inTime (Nat.not_le.mpr enough)
  | succ count ih =>
    obtain ⟨reached, ran, remains, instant, later⟩ :=
      scanWaiting_quiet step state quiet (Nat.lt_succ_self _)
    rw [awaitFrom_succ, ran]
    dsimp only
    rcases scanned : scan step state port.left with ⟨next, rest, report⟩
    rw [scanned] at remains
    cases report with
    | some report => exact ⟨reached, rfl, remains, later, instant⟩
    | none =>
      obtain rfl := rest_of_silent scanned
      dsimp only at remains ⊢
      rw [Line.elapsed_of_look (instant.trans moment)]
      simp only [Option.isSome_none, Bool.false_eq_true, if_false]
      split
      next late =>
        have last : look = Line.lastLook timeout :=
          Nat.le_antisymm inTime ((Line.isLeast_lastLook timeout).2 late)
        rw [last] at moment
        exact ⟨reached, rfl, remains, later, instant.trans moment⟩
      next early =>
        have another : look + 1 ≤ Line.lastLook timeout := Line.lt_lastLook_iff.mpr (Nat.not_le.mp early)
        -- this look has used up the stream and nothing comes in, so the later looks scan nothing
        obtain ⟨waiting, quietly⟩ := Line.delay_quiet later Line.pollInterval
        have empty : ({ reached with line := reached.line.delay Line.pollInterval } : Port σ).left = [] := by
          rw [left, waiting]
          exact remains
        have now := Line.now_delay_look (instant.trans moment) (Line.look_le_last running another)
        have rest := @ih next (look + 1) { reached with line := reached.line.delay Line.pollInterval }
          quietly now another (by omega)
        rw [empty] at rest
        exact rest

section

variable {port : Port σ} {timeout : Micros} (quiet : Peer.Quiet port.line.peer)
  (running : port.line.now + Line.pollInterval * Line.lastLook timeout ≤ Micros.last)

include quiet running

theorem await_ends {step : δ → UInt8 → δ × Option β} {state : δ} {first? : Option (Nat × β)}
    (locates : Locates step state port.left first?) :
    ∃ report reached, (await step state timeout).outcome port = (.ok report, reached) ∧
      port.Ends timeout first? id report reached ∧ Peer.Quiet reached.line.peer := by
  have enough : Line.lastLook timeout < 0 + Line.pollCount timeout := by
    rw [Nat.zero_add]
    exact Line.lastLook_lt_pollCount timeout
  obtain ⟨reached, ran, remains, later, moment⟩ :=
    awaitFrom_quiet step state quiet (Nat.add_zero _).symm (Nat.zero_le _) enough running
  have ends : port.Ends timeout first? id (scan step state port.left).2.2 reached := by
    constructor
    · intro i report first
      rw [locates.found i report first] at remains moment ⊢
      exact ⟨rfl, remains, moment⟩
    · intro none
      rw [locates.missed none] at remains moment ⊢
      exact ⟨rfl, remains, moment⟩
  refine ⟨_, reached, ?_, ends, later⟩
  rw [await, Action.outcome_get_bind]
  exact ran

theorem readPacket_ends (capacity : Nat) :
    port.Ends timeout (Decoder.events { capacity } 0 port.left).2.head? packetAnswer
      ((readPacket capacity timeout).outcome port).1 ((readPacket capacity timeout).outcome port).2 ∧
    Peer.Quiet ((readPacket capacity timeout).outcome port).2.line.peer := by
  obtain ⟨report, reached, ran, ends, later⟩ := await_ends quiet running (locates_packet capacity port.left)
  have whole : ∃ after, (readPacket capacity timeout).outcome port = (packetAnswer report, after) ∧
      after.left = reached.left ∧ after.line.now = reached.line.now ∧
      after.line.peer = reached.line.peer := by
    rw [readPacket, Action.outcome_bind, Action.outcome_mapError, ran]
    rcases report with - | error | packet
    · exact ⟨_, rfl, rfl, rfl, rfl⟩
    · exact ⟨_, rfl, rfl, rfl, rfl⟩
    · exact ⟨_, rfl, rfl, rfl, rfl⟩
  obtain ⟨after, read, remains, moment, peer⟩ := whole
  rw [read, peer]
  exact ⟨ends.answering packetAnswer remains moment, later⟩

theorem awaitDelimiter_ends :
    port.Ends timeout ((port.left.idxOf? delimiter).map (·, ())) (fun seen => .ok seen.isSome)
      ((awaitDelimiter timeout).outcome port).1 ((awaitDelimiter timeout).outcome port).2 ∧
    Peer.Quiet ((awaitDelimiter timeout).outcome port).2.line.peer := by
  obtain ⟨report, reached, ran, ends, later⟩ := await_ends quiet running (locates_delimiter port.left)
  have whole : (awaitDelimiter timeout).outcome port = (.ok report.isSome, reached) :=
    Action.outcome_bind_ok ran
  rw [whole]
  exact ⟨ends.answering _ rfl rfl, later⟩

end

inductive Wait where
  | packet (capacity : Nat) (timeout : Micros)
  | delimiter (timeout : Micros)

namespace Wait

def timeout : Wait → Micros
  | packet _ timeout | delimiter timeout => timeout

def place? : Wait → Bytes → Option Nat
  | packet capacity _, stream => (Decoder.events { capacity } 0 stream).2.head?.map Prod.fst
  | delimiter _, stream => stream.idxOf? Slip.delimiter

def used (wait : Wait) (stream : Bytes) : Nat := ((wait.place? stream).map (· + 1)).getD stream.length

def apply : Wait → Port σ → Port σ
  | packet capacity timeout, port => ((readPacket capacity timeout).outcome port).2
  | delimiter timeout, port => ((awaitDelimiter timeout).outcome port).2

def portions : List Wait → Bytes → List Bytes
  | [], _ => []
  | wait :: rest, stream =>
    stream.take (wait.used stream) :: portions rest (stream.drop (wait.used stream))

end Wait

def afterWaits (port : Port σ) (waits : List Wait) : Port σ :=
  waits.foldl (fun reached wait => wait.apply reached) port

/-- A wait uses the first bytes that are left, as many as the stream tells. -/
theorem apply_uses (wait : Wait) {port : Port σ} (quiet : Peer.Quiet port.line.peer)
    (running : port.line.now + 50 * Line.lastLook wait.timeout ≤ Micros.last) :
    (wait.apply port).left = port.left.drop (wait.used port.left) ∧
      (wait.apply port).line.now ≤ port.line.now + 50 * Line.lastLook wait.timeout ∧
      Peer.Quiet (wait.apply port).line.peer := by
  cases wait with
  | packet capacity timeout =>
    obtain ⟨ends, later⟩ := readPacket_ends quiet running capacity
    exact ⟨ends.uses.1, ends.uses.2, later⟩
  | delimiter timeout =>
    obtain ⟨ends, later⟩ := awaitDelimiter_ends quiet running
    obtain ⟨rest, now⟩ := ends.uses
    have same : ((port.left.idxOf? delimiter).map fun i => (i, ())).map Prod.fst =
        port.left.idxOf? delimiter := by
      cases port.left.idxOf? delimiter <;> rfl
    rw [same] at rest
    exact ⟨rest, now, later⟩

def longest (waits : List Wait) : Micros := 50 * (waits.map fun wait => Line.lastLook wait.timeout).sum

theorem afterWaits_uses (waits : List Wait) {port : Port σ} (quiet : Peer.Quiet port.line.peer)
    (running : port.line.now + longest waits ≤ Micros.last) :
    (Wait.portions waits port.left).flatten ++ (port.afterWaits waits).left = port.left ∧
      (port.afterWaits waits).line.now ≤ port.line.now + longest waits ∧
      Peer.Quiet (port.afterWaits waits).line.peer := by
  induction waits generalizing port with
  | nil => exact ⟨rfl, Nat.le_refl _, quiet⟩
  | cons wait rest ih =>
    have spans : longest (wait :: rest) = 50 * Line.lastLook wait.timeout + longest rest := by
      rw [longest, List.map_cons, List.sum_cons, Nat.mul_add]
      rfl
    rw [spans, ← Nat.add_assoc] at running ⊢
    obtain ⟨used, now, later⟩ := apply_uses wait quiet (Nat.le_trans (Nat.le_add_right _ _) running)
    obtain ⟨all, soon, last⟩ := ih later (Nat.le_trans (Nat.add_le_add_right now _) running)
    refine ⟨?_, Nat.le_trans soon (Nat.add_le_add_right now _), last⟩
    rw [used] at all
    rw [Wait.portions, List.flatten_cons, List.append_assoc]
    exact (congrArg _ all).trans (List.take_append_drop _ _)

/-- Waits on the port are the decoder on what is left, and they lose nothing. Once the far side sends nothing
more and lets every read take something, and before the clock stops, after any waits the bytes that they
have used and those that are left make up what was left at first. From there a wait for a packet returns
what a new decoder reports first on the rest, at once, and leaves the bytes after that report; without a
report it uses up the rest and returns nothing after the least multiple of 50 µs that reaches the timeout.
A wait for a delimiter does the same with the first delimiter. -/
theorem waits_lose_nothing (port : Port σ) (waits : List Wait) (capacity : Nat) (timeout : Micros)
    (quiet : Peer.Quiet port.line.peer)
    (running : port.line.now + longest waits + 50 * Line.lastLook timeout ≤ Micros.last) :
    (Wait.portions waits port.left).flatten ++ (port.afterWaits waits).left = port.left ∧
    IsLeast {span : Nat | 50 ∣ span ∧ timeout ≤ span} (50 * Line.lastLook timeout) ∧
    (port.afterWaits waits).Ends timeout
      (Decoder.events { capacity } 0 (port.afterWaits waits).left).2.head? packetAnswer
      ((readPacket capacity timeout).outcome (port.afterWaits waits)).1
      ((readPacket capacity timeout).outcome (port.afterWaits waits)).2 ∧
    (port.afterWaits waits).Ends timeout
      (((port.afterWaits waits).left.idxOf? delimiter).map (·, ())) (fun seen => .ok seen.isSome)
      ((awaitDelimiter timeout).outcome (port.afterWaits waits)).1
      ((awaitDelimiter timeout).outcome (port.afterWaits waits)).2 := by
  obtain ⟨all, soon, later⟩ := afterWaits_uses waits quiet (Nat.le_trans (Nat.le_add_right _ _) running)
  have going : (port.afterWaits waits).line.now + Line.pollInterval * Line.lastLook timeout ≤
      Micros.last := Nat.le_trans (Nat.add_le_add_right soon _) running
  obtain ⟨reached, least⟩ := Line.isLeast_lastLook timeout
  refine ⟨all, ⟨⟨dvd_mul_right _ _, reached⟩, ?_⟩, (readPacket_ends later going capacity).1,
    (awaitDelimiter_ends later going).1⟩
  rintro span ⟨⟨look, rfl⟩, late⟩
  exact Nat.mul_le_mul_left 50 (least late)

/-- The end of a packet and a delimiter have been read ahead. On the line wait a packet that is too long, a
good one and the start of another, three bytes for each read. -/
def crowdedPort : Port Simulation.Script :=
  { line :=
      { peer := { readLimit := some 3 }
        now := 7
        waiting := [delimiter, 4, 5, 6, delimiter, 7, delimiter, 8] }
    block := [delimiter, 1, 2, delimiter, delimiter]
    ahead := [1, 2, delimiter, delimiter] }

def crowdedWaits : List Wait := [.delimiter 120, .packet 2 120]

theorem waits_lose_nothing_crowded :
    Peer.Quiet crowdedPort.line.peer ∧
    Wait.portions crowdedWaits crowdedPort.left = [[1, 2, delimiter], [delimiter, delimiter, 4, 5, 6]] ∧
    (crowdedPort.afterWaits crowdedWaits).left = [delimiter, 7, delimiter, 8] ∧
    ((readPacket 2 120).outcome (crowdedPort.afterWaits crowdedWaits)).1 = .ok (some [7]) ∧
    ((readPacket 2 120).outcome (crowdedPort.afterWaits crowdedWaits)).2.left = [8] ∧
    (50 * Line.lastLook 120 : Nat) = 150 := by
  have quiet : Peer.Quiet crowdedPort.line.peer := by
    refine ⟨(· = { readLimit := some 3 }), rfl, ?_⟩
    rintro peer rfl
    exact ⟨fun moment room _ => ⟨3, _, rfl, by decide, rfl⟩, fun moment => ⟨rfl, rfl⟩⟩
  have portions : Wait.portions crowdedWaits crowdedPort.left =
      [[1, 2, delimiter], [delimiter, delimiter, 4, 5, 6]] := by decide +kernel
  obtain ⟨all, -, packet, -⟩ := waits_lose_nothing crowdedPort crowdedWaits 2 120 quiet (by decide +kernel)
  have rest : (crowdedPort.afterWaits crowdedWaits).left = [delimiter, 7, delimiter, 8] := by
    rw [portions] at all
    exact List.append_cancel_left (all.trans (by decide))
  rw [rest] at packet
  obtain ⟨returned, remains, -⟩ := packet.found 2 (.ok [7]) (by decide +kernel)
  rw [rest] at remains
  exact ⟨quiet, portions, rest, returned, remains, by decide⟩

end Slip.Port

end RadioLink
