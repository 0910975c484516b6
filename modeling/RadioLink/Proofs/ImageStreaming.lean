import RadioLink.Proofs.FlasherTraffic
import RadioLink.Proofs.TimedWaits

/-!
An image on its way to the flash. The stub takes it raw, in blocks of 256 bytes that together are the image,
but for two bytes of a bootable one. After every 1024 bytes the host drops its input and listens for the
delimiter of an acknowledgement, for a quarter of a second at most, and goes on without one.
-/

namespace RadioLink

namespace Flasher

open Reader (readable)

/-- What the flash is to hold: the first bytes of the image, and of a bootable one not its flash mode and
size. -/
def flashContent (payload : Bytes) (length : Nat) : Bytes :=
  if 4 ≤ length ∧ payload.head? = some 0xe9 then ((payload.take length).set 2 0).set 3 0
  else payload.take length

theorem clearFlashMode_eq (block : Bytes) :
    clearFlashMode block =
      if 4 ≤ block.length ∧ block.head? = some 0xe9 then (block.set 2 0).set 3 0 else block := by
  rcases block with _ | ⟨magic, _ | ⟨b, _ | ⟨mode, _ | ⟨size, rest⟩⟩⟩⟩
  case cons.cons.cons.cons =>
    by_cases bootable : magic = 0xe9
    · simp [clearFlashMode, imageMagic, bootable]
    · simp [clearFlashMode, imageMagic, bootable]
  all_goals simp [clearFlashMode]

theorem length_clearFlashMode (block : Bytes) : (clearFlashMode block).length = block.length := by
  rw [clearFlashMode_eq]
  split
  · rw [List.length_set, List.length_set]
  · rfl

def prepare : List Bytes → List Bytes
  | [] => []
  | first :: rest => clearFlashMode first :: rest

theorem prepare_chunks {payload : Bytes} {length : Nat} (long : 4 ≤ length → 4 ≤ payload.length) :
    prepare (Bytes.chunks 256 (payload.take length)) =
      Bytes.chunks 256 (flashContent payload length) := by
  by_cases empty : payload.take length = []
  · simp [flashContent, empty, Bytes.chunks, Bytes.pieces, prepare]
  · have head : ((payload.take length).take 256).head? = payload.head? := by
      cases payload with
      | nil => simp at empty
      | cons b rest => cases length <;> simp at empty ⊢
    have size : 4 ≤ ((payload.take length).take 256).length ↔ 4 ≤ length := by
      rw [List.length_take, List.length_take]
      omega
    have same : (4 ≤ ((payload.take length).take 256).length ∧
        ((payload.take length).take 256).head? = some 0xe9) ↔
        (4 ≤ length ∧ payload.head? = some 0xe9) := by rw [head, size]
    rw [Bytes.chunks_of_ne_nil (by decide) empty, prepare, clearFlashMode_eq]
    by_cases bootable : 4 ≤ length ∧ payload.head? = some 0xe9
    · have present : ((payload.take length).set 2 0).set 3 0 ≠ [] := by simpa using empty
      rw [if_pos (same.mpr bootable), flashContent, if_pos bootable,
        Bytes.chunks_of_ne_nil (by decide) present, List.take_set, List.take_set,
        List.drop_set_of_lt (by decide), List.drop_set_of_lt (by decide)]
    · rw [if_neg fun own => bootable (same.mp own), flashContent, if_neg bootable,
        Bytes.chunks_of_ne_nil (by decide) empty]

theorem prepare_mono {some all : List Bytes} (starts : some <+: all) : prepare some <+: prepare all := by
  cases some with
  | nil => exact List.nil_prefix
  | cons first rest =>
    obtain ⟨later, rfl⟩ := starts
    exact ⟨later, rfl⟩

/-- The blocks that could be read make up the start of what the flash is to hold. -/
theorem prepare_readBlocks (image : Firmware.Image) (length : Nat) :
    prepare (readable (image.readBlocks 256 length)) <+:
        Bytes.chunks 256 (flashContent image.payload length) ∧
      ((∀ fault, .error fault ∉ image.readBlocks 256 length) →
        prepare (readable (image.readBlocks 256 length)) =
            Bytes.chunks 256 (flashContent image.payload length) ∧ length ≤ image.payload.length) := by
  have starts : readable (image.readBlocks 256 length) <+: Bytes.chunks 256 (image.payload.take length) :=
    image.reader.readable_blocks (by decide) length
  have whole : (∀ fault, .error fault ∉ image.readBlocks 256 length) →
      readable (image.readBlocks 256 length) = Bytes.chunks 256 (image.payload.take length) ∧
        length ≤ image.payload.length :=
    image.reader.readable_blocks_of_sound (by decide) length
  by_cases long : 4 ≤ length → 4 ≤ image.payload.length
  · rw [← prepare_chunks long]
    refine ⟨prepare_mono starts, fun sound => ?_⟩
    obtain ⟨all, fits⟩ := whole sound
    exact ⟨congrArg prepare all, fits⟩
  · -- a bootable image of less than four bytes is never sent: its first block cannot be read
    obtain ⟨asked, short⟩ := Classical.not_imp.mp long
    have unread : readable (image.readBlocks 256 length) = [] := by
      obtain ⟨fault, failed⟩ := image.reader.read_none 0
      have none : image.payload.blocks 256 length = [none] := by
        obtain ⟨fewer, rfl⟩ : ∃ fewer, length = fewer + 1 := ⟨length - 1, by omega⟩
        rw [Bytes.blocks, Bytes.drawBlocks, if_neg (Nat.succ_ne_zero _)]
        refine if_pos ?_
        rw [List.length_take]
        omega
      change readable ((image.payload.blocks 256 length).mapIdx image.reader.read) = []
      rw [none, List.mapIdx_cons, List.mapIdx_nil, failed]
      rfl
    rw [unread]
    exact ⟨List.nil_prefix, fun sound => absurd (whole sound).2 (by omega)⟩

theorem ne_nil_of_mem_readable {image : Firmware.Image} {length : Nat} {block : Bytes}
    (member : block ∈ readable (image.readBlocks 256 length)) : block ≠ [] := by
  have piece := (image.reader.readable_blocks (by decide : 0 < 256) length).subset member
  exact List.ne_nil_of_length_pos (Bytes.length_of_mem_pieces (by decide) piece).1

def sentBlock (sent : Nat) (block : Bytes) : Bytes := if sent = 0 then clearFlashMode block else block

theorem length_sentBlock (sent : Nat) (block : Bytes) : (sentBlock sent block).length = block.length := by
  unfold sentBlock
  split
  · exact length_clearFlashMode block
  · rfl

open Slip Slip.Port

/-- A pause after a full kilobyte. The host drops its input and listens for a delimiter, and goes on 1 ms after
the read that has one in it, or 1 ms after 250 ms. -/
inductive Paused (start : Micros) : List Entry → Micros → Prop where
  | acknowledged {heard : List Entry} {time : Micros} {block : Bytes} {noise : List Event}
      (attends : Attends (start + 250000) heard) (unseen : delimiter ∉ heardBytes heard)
      (inTime : time ≤ start + 250000) (seen : delimiter ∈ block) (far : Noise noise) :
      Paused start
        (⟨start, .done .clear⟩ ::
          (heard ++ ⟨time, .took block⟩ :: stamped (time.after 1000) noise)) (time.after 1000)
  | unacknowledged {heard : List Entry} {time : Micros} {noise : List Event}
      (attends : Attends (start + 250000) heard) (unseen : delimiter ∉ heardBytes heard)
      (inTime : time ≤ start + 250000) (lapsed : start.after 250000 ≤ time) (far : Noise noise) :
      Paused start (⟨start, .done .clear⟩ :: (heard ++ stamped (time.after 1000) noise)) (time.after 1000)

inductive CutShort (start : Micros) : List Entry → Micros → Prop where
  | undropped : CutShort start [⟨start, .failed .clear⟩] start
  | unread {heard : List Entry} {time : Micros} (attends : Attends (start + 250000) heard)
      (unseen : delimiter ∉ heardBytes heard) (inTime : time ≤ start + 250000) :
      CutShort start (⟨start, .done .clear⟩ :: (heard ++ [⟨time, .readFailed⟩])) time

/-- Raw blocks on the line, from the moment that so many bytes have been sent: what is recorded, when it ends,
and whether no call has failed. There is a pause wherever 1024 more bytes have been sent, and nowhere else. -/
inductive Streams : Bool → (sent : Nat) → (now : Micros) → List Bytes → List Entry → Micros → Prop where
  | stopped {sent : Nat} {now : Micros} : Streams true sent now [] [] now
  | unsent {sent : Nat} {now : Micros} {raw : Bytes} :
      Streams false sent now [raw] [⟨now, .failed (.write raw)⟩] now
  | block {sound : Bool} {sent : Nat} {now final : Micros} {raw : Bytes} {raws : List Bytes}
      {noise : List Event} {later : List Entry} (far : Noise noise)
      (between : ¬1024 ∣ sent + raw.length)
      (rest : Streams sound (sent + raw.length) now raws later final) :
      Streams sound sent now (raw :: raws) (stamped now (.done (.write raw) :: noise) ++ later) final
  | paused {sound : Bool} {sent : Nat} {now resumed final : Micros} {raw : Bytes} {raws : List Bytes}
      {noise : List Event} {pause later : List Entry} (far : Noise noise)
      (full : 1024 ∣ sent + raw.length) (paused : Paused now pause resumed)
      (rest : Streams sound (sent + raw.length) resumed raws later final) :
      Streams sound sent now (raw :: raws)
        (stamped now (.done (.write raw) :: noise) ++ (pause ++ later)) final
  | cutShort {sent : Nat} {now final : Micros} {raw : Bytes} {noise : List Event} {pause : List Entry}
      (far : Noise noise) (full : 1024 ∣ sent + raw.length) (cut : CutShort now pause final) :
      Streams false sent now [raw] (stamped now (.done (.write raw) :: noise) ++ pause) final

def offered (entries : List Entry) : List Bytes := (entries.map Entry.event).filterMap Event.written?

theorem offered_append (first second : List Entry) :
    offered (first ++ second) = offered first ++ offered second := by
  rw [offered, List.map_append, List.filterMap_append]
  rfl

theorem offered_cons {time : Micros} {event : Event} (quiet : event.written? = none)
    (entries : List Entry) : offered (⟨time, event⟩ :: entries) = offered entries := by
  simp only [offered, List.map_cons]
  exact List.filterMap_cons_none quiet

theorem offered_stamped {time : Micros} {noise : List Event} (far : Noise noise) :
    offered (stamped time noise) = [] := by
  rw [offered, map_event_stamped]
  exact far.idle.filterMap_written

theorem offered_write {now : Micros} {raw : Bytes} {noise : List Event} (far : Noise noise) :
    offered (stamped now (.done (.write raw) :: noise)) = [raw] := by
  rw [offered, map_event_stamped]
  exact congrArg (raw :: ·) far.idle.filterMap_written

theorem offered_attends {bound : Micros} {entries : List Entry} (attends : Attends bound entries) :
    offered entries = [] :=
  attends.attentive.listening.filterMap_written

theorem Paused.offered {start resumed : Micros} {entries : List Entry}
    (paused : Paused start entries resumed) : offered entries = [] := by
  cases paused with
  | acknowledged attends _ _ _ far =>
    rw [offered_cons rfl, offered_append, offered_cons rfl, offered_attends attends, offered_stamped far]
    rfl
  | unacknowledged attends _ _ _ far =>
    rw [offered_cons rfl, offered_append, offered_attends attends, offered_stamped far]
    rfl

theorem CutShort.offered {start final : Micros} {entries : List Entry}
    (cut : CutShort start entries final) : offered entries = [] := by
  cases cut with
  | undropped => rfl
  | unread attends =>
    rw [offered_cons rfl, offered_append, offered_attends attends]
    rfl

/-- Nothing is written but the blocks. -/
theorem Streams.offered {sound : Bool} {sent : Nat} {now final : Micros} {raws : List Bytes}
    {entries : List Entry} (streams : Streams sound sent now raws entries final) :
    offered entries = raws := by
  induction streams with
  | stopped => rfl
  | unsent => rfl
  | block far _ _ ih =>
    rw [offered_append, offered_write far, ih]
    rfl
  | paused far _ paused _ ih =>
    rw [offered_append, offered_append, offered_write far, paused.offered, ih]
    rfl
  | cutShort far _ cut =>
    rw [offered_append, offered_write far, cut.offered]
    rfl

variable {σ : Type} [Peer σ]

theorem scan_spot_eq_none_iff {bytes : Bytes} :
    (scan spot () bytes).2.2 = none ↔ delimiter ∉ bytes := by
  induction bytes with
  | nil => simp [scan]
  | cons b rest ih =>
    by_cases here : b = delimiter
    · simp [scan, spot, here]
    · simp only [scan, spot, if_neg here, List.mem_cons, Ne.symm here, false_or]
      exact ih

theorem outcome_awaitDelimiter (timeout : Micros) (port : Port σ) :
    (awaitDelimiter timeout).outcome port =
      (((await spot () timeout).outcome port).1.map Option.isSome,
        ((await spot () timeout).outcome port).2) := by
  have steps : (awaitDelimiter timeout : Action Fault (Port σ) Bool) =
      (await spot () timeout >>= fun seen => pure seen.isSome) := rfl
  rw [steps, Action.outcome_bind]
  rcases (await spot () timeout).outcome port with ⟨fault | seen, reached⟩
  · rfl
  · rfl

theorem outcome_awaitAck (written : Nat) (port : Port σ) :
    (awaitAck written).outcome port =
      match discard.outcome port with
      | (.error fault, reached) => (.error (.io fault), reached)
      | (.ok (), dropped) =>
        match (await spot () ackTimeout).outcome dropped with
        | (.error fault, reached) => (.error (.io fault), reached)
        | (.ok (some ()), reached) => (.ok (), reached.delayMs 1)
        | (.ok none, reached) => (.ok (), (reached.note (.noBlockAck written)).delayMs 1) := by
  rw [awaitAck, Action.outcome_bind, Action.outcome_mapError]
  rcases discard.outcome port with ⟨fault | _, dropped⟩
  · rfl
  · dsimp only [Except.mapError]
    rw [Action.outcome_bind, Action.outcome_mapError, outcome_awaitDelimiter]
    rcases (await spot () ackTimeout).outcome dropped with ⟨fault | - | seen, reached⟩
    · rfl
    · rfl
    · rfl

theorem delayMs_adds (port : Port σ) :
    ∃ noise, Noise noise ∧
      Line.Adds (stamped (port.line.now.after 1000) noise) port.line (port.delayMs 1).line ∧
      (port.delayMs 1).line.now = port.line.now.after 1000 := by
  obtain ⟨noise, far, passed⟩ := Line.delay_adds port.line (.ofMillis 1)
  exact ⟨noise, far, passed, Line.now_delay port.line (.ofMillis 1)⟩

/-- A pause ends as it should, or with the failure of a call or a read. -/
theorem awaitAck_paused (written : Nat) (port : Port σ) :
    ∃ entries, Line.Adds entries port.line ((awaitAck written).outcome port).2.line ∧
      ((((awaitAck written).outcome port).1 = .ok () ∧
          Paused port.line.now entries ((awaitAck written).outcome port).2.line.now) ∨
        (∃ error, ((awaitAck written).outcome port).1 = .error error) ∧
          CutShort port.line.now entries ((awaitAck written).outcome port).2.line.now) := by
  rw [outcome_awaitAck]
  rcases discard_adds port with ⟨fault, reached, ran, adds, instant⟩ |
    ⟨noise, dropped, far, ran, adds, instant, nothing⟩
  · rw [ran]
    refine ⟨_, adds, .inr ⟨⟨_, rfl⟩, ?_⟩⟩
    dsimp only
    rw [instant]
    exact .undropped
  rw [ran]
  dsimp only
  obtain ⟨entries, more, waited⟩ := await_waited spot () ackTimeout nothing
  have quarter : (Line.pollInterval * Line.lastLook ackTimeout : Nat) = 250000 := by decide
  rw [instant, quarter] at waited
  generalize (await spot () ackTimeout).outcome dropped = run at more waited ⊢
  obtain ⟨result, reached⟩ := run
  have opening : Attends (port.line.now + 250000) (stamped port.line.now noise) :=
    .stamped (Nat.le_add_right _ _) far.incoming
  have none : heardBytes (stamped port.line.now noise) = [] := by
    rw [heardBytes_stamped, far.takenBytes_eq]
  have unseen : ∀ {heard : List Entry} {next : Unit},
      scan spot () (heardBytes heard) = (next, [], Option.none) →
      delimiter ∉ heardBytes (stamped port.line.now noise ++ heard) := by
    intro heard next silent
    rw [heardBytes_append, none, List.nil_append, ← scan_spot_eq_none_iff, silent]
  cases waited with
  | @found _ _ heard _ block _ _ attends silent inTime reports =>
    obtain ⟨later, away, passed, resumed⟩ := delayMs_adds reached
    have seen : delimiter ∈ block := by
      by_contra without
      rw [← scan_spot_eq_none_iff, reports] at without
      cases without
    refine ⟨_, adds.append (more.append passed), .inl ⟨rfl, ?_⟩⟩
    dsimp only
    rw [resumed]
    have paused := Paused.acknowledged (opening.append attends) (unseen silent) inTime seen away
    simpa [stamped] using paused
  | @missed _ heard _ attends silent inTime lapsed =>
    obtain ⟨later, away, passed, resumed⟩ := delayMs_adds (reached.note (.noBlockAck written))
    refine ⟨_, adds.append (more.append passed), .inl ⟨rfl, ?_⟩⟩
    dsimp only
    rw [resumed]
    have paused := Paused.unacknowledged (opening.append attends) (unseen silent) inTime lapsed away
    simpa [stamped, note, Line.note] using paused
  | @broken _ heard _ fault attends silent inTime =>
    refine ⟨_, adds.append more, .inr ⟨⟨_, rfl⟩, ?_⟩⟩
    have cut := CutShort.unread (opening.append attends) (unseen silent) inTime
    simpa [stamped] using cut

theorem outcome_streamFrom_cons (sent : Nat) (block : Bytes) (rest : List (Except Fault Bytes))
    (port : Port σ) :
    (streamFrom sent (.ok block :: rest)).outcome port =
      match (device (Line.call (.write (sentBlock sent block)))).outcome port with
      | (.error fault, reached) => (.error (.io fault), reached)
      | (.ok (), reached) =>
        if 1024 ∣ sent + (sentBlock sent block).length then
          match (awaitAck (sent + (sentBlock sent block).length)).outcome reached with
          | (.error error, stopped) => (.error error, stopped)
          | (.ok (), resumed) => (streamFrom (sent + (sentBlock sent block).length) rest).outcome resumed
        else (streamFrom (sent + (sentBlock sent block).length) rest).outcome reached := by
  have steps : (streamFrom sent (.ok block :: rest) : Step σ Unit) =
      ((device (Line.call (.write (sentBlock sent block)))).mapError .io >>= fun _ =>
        if (sent + (sentBlock sent block).length) % 1024 = 0 then
          awaitAck (sent + (sentBlock sent block).length) >>= fun _ =>
            streamFrom (sent + (sentBlock sent block).length) rest
        else streamFrom (sent + (sentBlock sent block).length) rest) := rfl
  rw [steps, Action.outcome_bind, Action.outcome_mapError]
  generalize sent + (sentBlock sent block).length = total
  rcases (device (Line.call (.write (sentBlock sent block)))).outcome port with ⟨fault | _, reached⟩
  · rfl
  dsimp only [Except.mapError]
  by_cases full : 1024 ∣ total
  · rw [if_pos full, if_pos (Nat.mod_eq_zero_of_dvd full), Action.outcome_bind]
    rcases (awaitAck total).outcome reached with ⟨error | _, resumed⟩
    · rfl
    · rfl
  · rw [if_neg full, if_neg fun zero => full (Nat.dvd_of_mod_eq_zero zero)]

/-- One block: a call or a read fails, or the stream goes on after the block and its pause. -/
theorem streamFrom_step (sent : Nat) (block : Bytes) (rest : List (Except Fault Bytes)) (port : Port σ) :
    ∃ entries reached, Line.Adds entries port.line reached.line ∧
      (((∃ error, (streamFrom sent (.ok block :: rest)).outcome port = (.error error, reached)) ∧
          Streams false sent port.line.now [sentBlock sent block] entries reached.line.now) ∨
        ((streamFrom sent (.ok block :: rest)).outcome port =
            (streamFrom (sent + (sentBlock sent block).length) rest).outcome reached ∧
          ∀ sound raws later final,
            Streams sound (sent + (sentBlock sent block).length) reached.line.now raws later final →
            Streams sound sent port.line.now (sentBlock sent block :: raws) (entries ++ later) final)) := by
  rw [outcome_streamFrom_cons]
  generalize sentBlock sent block = raw
  rcases call_adds (.write raw) port with ⟨fault, line, ran, adds, instant⟩ |
    ⟨noise, line, far, ran, adds, instant⟩
  · rw [ran]
    refine ⟨_, _, adds, .inl ⟨⟨_, rfl⟩, ?_⟩⟩
    dsimp only
    rw [instant]
    exact .unsent
  rw [ran]
  dsimp only
  by_cases full : 1024 ∣ sent + raw.length
  · obtain ⟨pause, waits, ended⟩ := awaitAck_paused (sent + raw.length) ({ port with line } : Port σ)
    dsimp only at ended
    rw [instant] at ended
    rw [if_pos full]
    generalize (awaitAck (sent + raw.length)).outcome ({ port with line } : Port σ) = run at waits ended ⊢
    obtain ⟨result, reached⟩ := run
    rcases ended with ⟨rfl, paused⟩ | ⟨⟨error, rfl⟩, cut⟩
    · refine ⟨_, reached, adds.append waits, .inr ⟨rfl, fun sound raws later final streams => ?_⟩⟩
      rw [List.append_assoc]
      exact .paused far full paused streams
    · exact ⟨_, reached, adds.append waits, .inl ⟨⟨error, rfl⟩, .cutShort far full cut⟩⟩
  · rw [if_neg full]
    refine ⟨_, { port with line }, adds, .inr ⟨rfl, fun sound raws later final streams => ?_⟩⟩
    rw [← instant]
    exact .block far full streams

/-- The blocks go out one by one, as far as they could be read and no call fails. -/
theorem streamFrom_streams {sent : Nat} {blocks : List (Except Fault Bytes)}
    (present : ∀ block ∈ readable blocks, block ≠ []) (port : Port σ) :
    ∃ sound raws entries,
      Line.Adds entries port.line ((streamFrom sent blocks).outcome port).2.line ∧
      Streams sound sent port.line.now raws entries ((streamFrom sent blocks).outcome port).2.line.now ∧
      raws <+: (if sent = 0 then prepare (readable blocks) else readable blocks) ∧
      (((streamFrom sent blocks).outcome port).1 = .ok () →
        raws = if sent = 0 then prepare (readable blocks) else readable blocks) ∧
      (((streamFrom sent blocks).outcome port).1 = .ok () ↔
        sound = true ∧ ∀ fault, .error fault ∉ blocks) := by
  induction blocks generalizing sent port with
  | nil =>
    exact ⟨true, [], [], .same rfl, .stopped, List.nil_prefix, by simp [readable, prepare],
      by simp [streamFrom]⟩
  | cons first rest ih =>
    cases first with
    | error fault =>
      refine ⟨true, [], [], .same rfl, .stopped, List.nil_prefix, (fun ok => by cases ok), ?_⟩
      exact iff_of_false (fun ok => by cases ok) fun sound => sound.2 fault List.mem_cons_self
    | ok block =>
      have goes : (if sent = 0 then prepare (readable (.ok block :: rest)) else
          readable (.ok block :: rest)) = sentBlock sent block :: readable rest := by
        unfold sentBlock
        split
        · rfl
        · rfl
      -- only the first block is sent when nothing has been, so the others go out as they were read
      have onward : sent + (sentBlock sent block).length ≠ 0 := by
        have := List.length_pos_of_ne_nil (present block List.mem_cons_self)
        rw [length_sentBlock]
        omega
      have faults : (∀ fault, .error fault ∉ (.ok block :: rest : List (Except Fault Bytes))) ↔
          ∀ fault, .error fault ∉ rest := by simp
      have later : ∀ block ∈ readable rest, block ≠ [] := fun block member =>
        present block (List.mem_cons_of_mem _ member)
      rw [goes, faults]
      obtain ⟨entries, reached, adds, ⟨⟨error, ran⟩, streams⟩ | ⟨ran, goesOn⟩⟩ :=
        streamFrom_step sent block rest port
      · rw [ran]
        refine ⟨false, [sentBlock sent block], entries, adds, streams, ⟨readable rest, rfl⟩,
          (fun ok => by cases ok), ?_⟩
        exact iff_of_false (fun ok => by cases ok) fun sound => by cases sound.1
      · rw [ran]
        obtain ⟨sound, raws, others, more, streams, starts, whole, succeeds⟩ :=
          @ih (sent + (sentBlock sent block).length) later reached
        rw [if_neg onward] at starts whole
        exact ⟨sound, sentBlock sent block :: raws, entries ++ others, adds.append more,
          goesOn _ _ _ _ streams, List.prefix_cons_inj _ |>.mpr starts,
          (fun ok => congrArg _ (whole ok)), succeeds⟩

theorem outcome_writeImage (address : UInt32) (image : Firmware.Image) (length : UInt32) (port : Port σ) :
    (writeImage address image length).outcome port =
      match (sendCommand writeCommand [address, length, 1]).outcome port with
      | (.error error, reached) => (.error error, reached)
      | (.ok (), reached) =>
        match (readPacket 8 commandTimeout).outcome reached with
        | (.error error, answered) => (.error error, answered)
        | (.ok ack, answered) =>
          if ack = some [0, 0, 0, 0] then
            (streamFrom 0 (image.readBlocks 256 length.toNat)).outcome answered
          else (.error .flashWriteRejected, answered) := by
  rw [writeImage, Action.outcome_bind]
  rcases (sendCommand writeCommand [address, length, 1]).outcome port with ⟨error | _, reached⟩
  · rfl
  dsimp only
  rw [Action.outcome_bind]
  rcases (readPacket 8 commandTimeout).outcome reached with ⟨error | ack, answered⟩
  · rfl
  dsimp only
  by_cases accepted : ack = some [0, 0, 0, 0]
  · rw [if_neg (not_not.mpr accepted), if_pos accepted]
    rfl
  · rw [if_pos accepted, if_neg accepted]
    rfl

/-- The image is sent if the stub answers the command with four zeros, and otherwise nothing is. -/
theorem writeImage_opening (address : UInt32) (image : Firmware.Image) (length : UInt32) (port : Port σ) :
    ∃ whole command answer reached, Line.Adds (command ++ answer) port.line reached.line ∧
      Sent writeCommand [address, length, 1] whole (command.map Entry.event) ∧
      Listening (answer.map Entry.event) ∧
      ((whole = true ∧ firstPacket? 8 (heardBytes answer) = some [0, 0, 0, 0] ∧
          (writeImage address image length).outcome port =
            (streamFrom 0 (image.readBlocks 256 length.toNat)).outcome reached) ∨
        (¬(whole = true ∧ firstPacket? 8 (heardBytes answer) = some [0, 0, 0, 0]) ∧
          ∃ error, (writeImage address image length).outcome port = (.error error, reached))) := by
  rw [outcome_writeImage]
  rcases sendCommand_cases writeCommand [address, length, 1] port with
    ⟨fault, reached, _, ran, did, sent⟩ | ⟨reached, _, ran, nothing, did, sent⟩
  · obtain ⟨command, adds, rfl⟩ := did.adds
    rw [ran]
    exact ⟨false, command, [], reached, by rwa [List.append_nil], sent, .nil, .inr ⟨by simp, fault, rfl⟩⟩
  obtain ⟨command, adds, rfl⟩ := did.adds
  rw [ran]
  dsimp only
  obtain ⟨_, did, listening, read⟩ := readPacket_spec 8 commandTimeout reached
  obtain ⟨answer, more, rfl⟩ := did.adds
  rw [nothing, List.nil_append] at read
  change ∀ packet, _ ↔ firstPacket? 8 (heardBytes answer) = some packet at read
  generalize (readPacket 8 commandTimeout).outcome reached = run at more read ⊢
  obtain ⟨result, answered⟩ := run
  refine ⟨true, command, answer, answered, adds.append more, sent, listening, ?_⟩
  rw [← read]
  rcases result with error | ack
  · exact .inr ⟨by simp, error, rfl⟩
  dsimp only
  by_cases zeros : ack = some [0, 0, 0, 0]
  · rw [if_pos zeros, zeros]
    exact .inl ⟨rfl, rfl, rfl⟩
  · rw [if_neg zeros]
    exact .inr ⟨fun accepted => zeros (Except.ok.inj accepted.2), _, rfl⟩

/-- An image goes out block by block and unchanged, but for flash mode and size, and only after the stub has
answered the command with four zeros. What has gone out is always the start of it, and all of it when the
operation succeeds. -/
theorem image_streamed_exactly (address : UInt32) (image : Firmware.Image) (length : UInt32)
    (port : Port σ) :
    ∃ whole command answer sound stream start,
      Line.Adds (command ++ answer ++ stream) port.line
        ((writeImage address image length).outcome port).2.line ∧
      Sent writeCommand [address, length, 1] whole (command.map Entry.event) ∧
      Listening (answer.map Entry.event) ∧
      (stream ≠ [] → whole = true ∧ firstPacket? 8 (heardBytes answer) = some [0, 0, 0, 0]) ∧
      Streams sound 0 start (offered stream) stream
        ((writeImage address image length).outcome port).2.line.now ∧
      (offered stream).flatten <+: flashContent image.payload length.toNat ∧
      (∀ raw ∈ offered stream, raw.length ≤ 256) ∧
      (((writeImage address image length).outcome port).1 = .ok () →
        (offered stream).flatten = flashContent image.payload length.toNat ∧
          length.toNat ≤ image.payload.length) ∧
      (((writeImage address image length).outcome port).1 = .ok () ↔
        whole = true ∧ firstPacket? 8 (heardBytes answer) = some [0, 0, 0, 0] ∧ sound = true ∧
          ∀ fault, .error fault ∉ image.readBlocks 256 length.toNat) := by
  obtain ⟨whole, command, answer, reached, adds, sent, listening, ⟨through, accepted, ran⟩ |
    ⟨unaccepted, error, ran⟩⟩ := writeImage_opening address image length port
  · obtain ⟨sound, raws, stream, more, streams, starts, all, succeeds⟩ :=
      @streamFrom_streams σ _ 0 (image.readBlocks 256 length.toNat)
        (fun block member => ne_nil_of_mem_readable member) reached
    obtain ⟨begins, complete⟩ := prepare_readBlocks image length.toNat
    have chunks := Bytes.flatten_chunks (by decide : 0 < 256) (flashContent image.payload length.toNat)
    obtain rfl := streams.offered
    rw [if_pos rfl] at starts all
    rw [← ran] at more streams succeeds all
    refine ⟨whole, command, answer, sound, stream, _, adds.append more, sent, listening,
      fun _ => ⟨through, accepted⟩, streams, ?_, ?_, ?_, ?_⟩
    · rw [← chunks]
      exact (starts.trans begins).flatten
    · intro raw member
      exact (Bytes.length_of_mem_pieces (by decide) ((starts.trans begins).subset member)).2
    · intro ok
      obtain ⟨own, fits⟩ := complete (succeeds.mp ok).2
      rw [all ok, own, chunks]
      exact ⟨rfl, fits⟩
    · rw [succeeds]
      simp [through, accepted]
  · rw [ran]
    refine ⟨whole, command, answer, true, [], _, by rwa [List.append_nil], sent, listening, by simp, .stopped,
      List.nil_prefix, by simp [offered], by simp, ?_⟩
    exact iff_of_false (fun ok => by cases ok) fun all => unaccepted ⟨all.1, all.2.1⟩

end Flasher

end RadioLink
