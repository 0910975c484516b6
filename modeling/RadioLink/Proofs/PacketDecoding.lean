import RadioLink.Proofs.PacketStream

/-!
The packet decoder on arbitrary bytes. What it holds can be read off the end of the bytes fed so far:
inside a packet they end with the opening delimiter and the content, in the form in which content is
sent. So a packet is reported only when its own encoding has just come in. And wherever other bytes
have left the decoder, one packet brings it back in step.
-/

namespace RadioLink.Slip

/-- Bytes end with one packet at most. -/
theorem packet_unique {fed body other : Bytes} (plain : delimiter ∉ body) (clean : delimiter ∉ other)
    (ends : delimiter :: (body ++ [delimiter]) <:+ fed)
    (closes : delimiter :: (other ++ [delimiter]) <:+ fed) :
    delimiter :: (body ++ [delimiter]) = delimiter :: (other ++ [delimiter]) := by
  -- The shorter one would have its opening delimiter inside the longer one.
  have nested : ∀ {inner outer : Bytes}, delimiter ∉ outer →
      delimiter :: (inner ++ [delimiter]) <:+ delimiter :: (outer ++ [delimiter]) →
      delimiter :: (inner ++ [delimiter]) = delimiter :: (outer ++ [delimiter]) := by
    intro inner outer free within
    rcases List.suffix_cons_iff.mp within with same | inside
    · exact same
    · have opening : delimiter :: inner <:+ outer := List.suffix_append_self_iff.mp inside
      exact absurd (opening.subset List.mem_cons_self) free
  rcases List.suffix_or_suffix_of_suffix ends closes with within | within
  · exact nested clean within
  · exact (nested plain within).symm

variable {capacity : Nat} {decoder : Decoder} {fed : Bytes}

namespace Decoder

inductive Tracks (capacity : Nat) : Decoder → Bytes → Prop where
  | hunting (content fed : Bytes) : Tracks capacity ⟨capacity, .hunting, content⟩ fed
  | inPacket (before : Bytes) {content : Bytes} (fits : content.length ≤ capacity) :
      Tracks capacity ⟨capacity, .inPacket, content⟩ (before ++ delimiter :: content.flatMap stuff)
  | escaped (before : Bytes) {content : Bytes} (fits : content.length ≤ capacity) :
      Tracks capacity ⟨capacity, .escaped, content⟩
        (before ++ delimiter :: (content.flatMap stuff ++ [escape]))

theorem Tracks.capacity_eq (tracks : Tracks capacity decoder fed) : decoder.capacity = capacity := by
  cases tracks <;> rfl

theorem store_ne_ok (decoder : Decoder) (b : UInt8) (payload : Bytes) :
    (decoder.store b).2 ≠ some (.ok payload) := by
  unfold store
  split <;> simp

/-- A byte of content that came in as it is sent is taken, or the packet is given up. -/
theorem tracks_store (capacity : Nat) (before content : Bytes) (mode : Mode) (b : UInt8) :
    Tracks capacity (store ⟨capacity, mode, content⟩ b).1
      (before ++ delimiter :: (content.flatMap stuff ++ stuff b)) := by
  by_cases room : content.length < capacity
  · rw [store_of_room mode room]
    have longer : (content ++ [b]).length ≤ capacity := by
      rw [List.length_append, List.length_singleton]
      omega
    have taken := Tracks.inPacket before longer
    rwa [List.flatMap_append, List.flatMap_singleton] at taken
  · rw [store, if_neg room]
    exact .hunting [] _

/-- Each byte keeps the decoder in step with the bytes fed so far. -/
theorem Tracks.push (tracks : Tracks capacity decoder fed) (b : UInt8) :
    Tracks capacity (decoder.push b).1 (fed ++ [b]) := by
  cases tracks with
  | hunting content fed =>
    by_cases opens : b = delimiter
    · have opened := @Tracks.inPacket capacity fed [] (Nat.zero_le _)
      simpa [Decoder.push, opens] using opened
    · simpa [Decoder.push, opens] using Tracks.hunting content (fed ++ [b])
  | @inPacket before content fits =>
    by_cases closes : b = delimiter
    · by_cases empty : content = []
      · have opened := @Tracks.inPacket capacity (before ++ [delimiter]) [] (Nat.zero_le _)
        simpa [Decoder.push, closes, empty] using opened
      · simpa [Decoder.push, closes, empty] using Tracks.hunting content _
    by_cases escapes : b = escape
    · have next := Tracks.escaped before fits
      simpa [Decoder.push, escapes, escape_ne_delimiter] using next
    · have next := tracks_store capacity before content .inPacket b
      simpa [Decoder.push, closes, escapes, stuff] using next
  | @escaped before content fits =>
    by_cases delimits : b = escapedDelimiter
    · have next := tracks_store capacity before content .escaped delimiter
      simpa [Decoder.push, delimits, stuff] using next
    by_cases escapes : b = escapedEscape
    · have next := tracks_store capacity before content .escaped escape
      simpa [Decoder.push, escapes, stuff, escape_ne_delimiter, escapedEscape_ne_escapedDelimiter]
        using next
    · simpa [Decoder.push, delimits, escapes, reset] using Tracks.hunting [] _

/-- A packet is reported only inside a packet, by a delimiter, and then it is what was taken. -/
theorem push_ok {b : UInt8} {payload : Bytes} (closed : (decoder.push b).2 = some (.ok payload)) :
    decoder = ⟨decoder.capacity, .inPacket, payload⟩ ∧ payload ≠ [] ∧ b = delimiter := by
  obtain ⟨capacity, mode, content⟩ := decoder
  unfold push at closed
  cases mode with
  | hunting =>
    dsimp only at closed
    split at closed <;> cases closed
  | inPacket =>
    dsimp only at closed
    split at closed
    next delimits =>
      split at closed
      · cases closed
      next present =>
        cases closed
        exact ⟨rfl, present, delimits⟩
    · split at closed
      · cases closed
      · exact absurd closed (store_ne_ok _ _ _)
  | escaped =>
    dsimp only at closed
    split at closed
    · exact absurd closed (store_ne_ok _ _ _)
    split at closed
    · exact absurd closed (store_ne_ok _ _ _)
    · cases closed

/-- The byte that has a packet reported is the last one of that packet's encoding. -/
theorem Tracks.encoded (tracks : Tracks capacity decoder fed) {b : UInt8} {payload : Bytes}
    (closed : (decoder.push b).2 = some (.ok payload)) :
    payload ≠ [] ∧ payload.length ≤ capacity ∧ encode [payload] <:+ fed ++ [b] := by
  obtain ⟨same, present, rfl⟩ := push_ok closed
  rw [same] at tracks
  cases tracks with
  | inPacket before fits =>
    refine ⟨present, fits, before, ?_⟩
    simp [encode]

theorem tracks_events (tracks : Tracks capacity decoder fed) (position : Nat) (stream : Bytes) :
    Tracks capacity (decoder.events position stream).1 (fed ++ stream) := by
  induction stream generalizing decoder fed position with
  | nil => rwa [List.append_nil]
  | cons b rest ih =>
    have later := ih (tracks.push b) (position + 1)
    rwa [List.append_assoc, List.singleton_append] at later

/-- A report is the answer to the byte at its position. -/
theorem push_of_mem_events {position i : Nat} {stream : Bytes} {report : Except SlipError Bytes}
    (member : (i, report) ∈ (decoder.events position stream).2) :
    ∃ before b after, stream = before ++ b :: after ∧ i = position + before.length ∧
      ((decoder.events position before).1.push b).2 = some report := by
  induction stream generalizing decoder position with
  | nil => cases member
  | cons b rest ih =>
    rcases List.mem_append.mp member with now | later
    · obtain ⟨answer, answered, same⟩ := List.mem_map.mp now
      obtain ⟨rfl, rfl⟩ := Prod.mk.inj same
      exact ⟨[], b, rest, rfl, rfl, Option.mem_toList.mp answered⟩
    · obtain ⟨before, c, after, rfl, index, answered⟩ := ih later
      refine ⟨b :: before, c, after, rfl, ?_, answered⟩
      rw [index, List.length_cons]
      omega

end Decoder

/-- Nothing but genuine encodings is reported. Whatever bytes a new decoder is fed, when it reports a
packet, that packet is not empty and fits, and the bytes fed so far end with its encoding. They end
with no other packet, so two packets that differ on the line never give the same payload. -/
theorem reported_as_encoded (capacity : Nat) (stream : Bytes) (i : Nat) (payload : Bytes)
    (report : (i, .ok payload) ∈ (Decoder.events { capacity } 0 stream).2) :
    i < stream.length ∧ 1 ≤ payload.length ∧ payload.length ≤ capacity ∧
      encode [payload] <:+ stream.take (i + 1) ∧
      ∀ body, delimiter ∉ body → delimiter :: (body ++ [delimiter]) <:+ stream.take (i + 1) →
        delimiter :: (body ++ [delimiter]) = encode [payload] := by
  obtain ⟨before, b, after, rfl, index, closed⟩ := Decoder.push_of_mem_events report
  rw [Nat.zero_add] at index
  have fed : (before ++ b :: after).take (i + 1) = before ++ [b] := by
    rw [List.append_cons, index]
    exact List.take_left' (by rw [List.length_append, List.length_singleton])
  have tracks := Decoder.tracks_events (@Decoder.Tracks.hunting capacity [] []) 0 before
  obtain ⟨present, fits, ends⟩ := tracks.encoded closed
  rw [fed]
  refine ⟨?_, List.length_pos_of_ne_nil present, fits, ends, ?_⟩
  · rw [index, List.length_append, List.length_cons]
    omega
  · intro body plain closes
    obtain ⟨own, encoded, clean⟩ := encode_delimited [payload]
    rw [encoded] at ends ⊢
    exact packet_unique plain clean closes ends

/-- A bad escape, a packet that is too long, and then a packet of two bytes. -/
def disturbed : Bytes :=
  [delimiter, 1, escape, 0x42, delimiter, 1, 2, 3, delimiter, escape, escapedDelimiter, 7, delimiter]

theorem reported_as_encoded_disturbed :
    (Decoder.events { capacity := 2 } 0 disturbed).2 =
        [(3, .error (.invalidEscape 0x42)), (7, .error .overflow), (12, .ok [delimiter, 7])] ∧
      encode [[delimiter, 7]] <:+ disturbed :=
  ⟨by decide, (reported_as_encoded 2 disturbed 12 [delimiter, 7] (by decide)).2.2.2.1⟩

namespace Decoder

def Reachable (capacity : Nat) (decoder : Decoder) : Prop :=
  ∃ fed, (events { capacity } 0 fed).1 = decoder

theorem Reachable.capacity_eq (reachable : decoder.Reachable capacity) :
    decoder.capacity = capacity := by
  obtain ⟨fed, rfl⟩ := reachable
  exact (tracks_events (@Tracks.hunting capacity [] []) 0 fed).capacity_eq

/-- A decoder that is out of step takes the first delimiter of a packet for the end of something else. -/
theorem push_delimiter_astray (same : decoder.capacity = capacity)
    (astray : ¬decoder.Between capacity) :
    ∃ content report, decoder.push delimiter = (⟨capacity, .hunting, content⟩, some report) := by
  obtain ⟨_, mode, content⟩ := decoder
  obtain rfl : _ = capacity := same
  cases mode with
  | hunting => exact absurd ⟨rfl, .inl rfl⟩ astray
  | inPacket =>
    have present : content ≠ [] := fun empty => astray ⟨rfl, .inr ⟨rfl, empty⟩⟩
    exact ⟨content, .ok content, by simp [push, present]⟩
  | escaped => exact ⟨[], .error (.invalidEscape delimiter), rfl⟩

/-- It skips the content and takes the closing delimiter for an opening one, so it is in step again. -/
theorem events_encode_astray (same : decoder.capacity = capacity)
    (astray : ¬decoder.Between capacity) (position : Nat) (parts : List Bytes) :
    ∃ report, decoder.events position (encode parts) =
      (⟨capacity, .inPacket, []⟩, [(position, report)]) := by
  obtain ⟨body, encoded, plain⟩ := encode_delimited parts
  obtain ⟨content, report, interrupted⟩ := push_delimiter_astray same astray
  have skipped := @events_noise ⟨capacity, .hunting, content⟩ rfl (position + 1) body plain
  refine ⟨report, ?_⟩
  rw [encoded]
  simp only [events, interrupted, events_append_of_silent skipped]
  simp [push]

/-- After a packet the decoder is in step, whatever state it was in before. -/
theorem events_encode_from (same : decoder.capacity = capacity) (position : Nat) {parts : List Bytes}
    (room : parts.flatten.length ≤ capacity) :
    (decoder.events position (encode parts)).1.Between capacity ∧
      (decoder.events position (encode parts)).2.length ≤ 1 ∧
      ∀ report ∈ (decoder.events position (encode parts)).2,
        report.1 < position + (encode parts).length := by
  have long : 0 < (encode parts).length := by simp [encode]
  by_cases between : decoder.Between capacity
  · rw [events_encode between position room]
    refine ⟨between_afterPacket capacity _, ?_⟩
    by_cases empty : parts.flatten = []
    · simp [empty]
    · simp only [if_neg empty, List.length_singleton, List.mem_singleton, forall_eq]
      omega
  · obtain ⟨report, ran⟩ := events_encode_astray same between position parts
    rw [ran]
    refine ⟨⟨rfl, .inr ⟨rfl, rfl⟩⟩, Nat.le_refl _, ?_⟩
    simp only [List.mem_singleton, forall_eq]
    omega

end Decoder

/-- The decoder is back in step within one packet. Wherever any bytes have left it, of two packets that
follow the second is reported as it was sent, with its last byte, and the decoder then hunts. The
first packet gives at most one report, and nothing that comes after it gets lost. -/
theorem second_packet_reported (reachable : decoder.Reachable capacity) (first second : Bytes)
    (room : first.length ≤ capacity) (fits : second.length ≤ capacity) (present : second ≠ [])
    (position : Nat) :
    ∃ early : List (Nat × Except SlipError Bytes), early.length ≤ 1 ∧
      (∀ report ∈ early, report.1 < position + (encode [first]).length) ∧
      decoder.events position (encode [first] ++ encode [second]) =
        (⟨capacity, .hunting, second⟩,
          early ++ [(position + (encode [first] ++ encode [second]).length - 1, .ok second)]) ∧
      ∀ later : List (Transmission capacity),
        (decoder.events position (encode [first] ++ later.flatMap Transmission.wire)).2 =
          early ++ Transmission.reports (position + (encode [first]).length) later := by
  have opening : [first].flatten.length ≤ capacity := by simpa using room
  have closing : [second].flatten.length ≤ capacity := by simpa using fits
  obtain ⟨between, few, before⟩ :=
    Decoder.events_encode_from reachable.capacity_eq position opening
  refine ⟨_, few, before, ?_, ?_⟩
  · rw [Decoder.events_append, Decoder.events_encode between _ closing]
    have last : position + (encode [first]).length + (encode [second]).length - 1 =
        position + (encode [first] ++ encode [second]).length - 1 := by
      rw [List.length_append]
      omega
    simp [Decoder.afterPacket, present, last]
  · intro later
    rw [Decoder.events_append, Transmission.events_wires between]

/-- The decoder was left in the middle of an escape: it gives up with the first delimiter and misses the
packet that this delimiter opens, but not the next one. -/
theorem second_packet_reported_escaped :
    Decoder.Reachable 2 ⟨2, .escaped, [1]⟩ ∧
      (Decoder.events ⟨2, .escaped, [1]⟩ 0 (encode [[5]] ++ encode [[delimiter, 7]])).1.mode =
        .hunting ∧
      (Decoder.events ⟨2, .escaped, [1]⟩ 0 (encode [[5]] ++ encode [[delimiter, 7]])).2.getLast? =
        some (7, .ok [delimiter, 7]) := by
  have reachable : Decoder.Reachable 2 ⟨2, .escaped, [1]⟩ := ⟨[delimiter, 1, escape], by decide⟩
  obtain ⟨early, -, -, ran, -⟩ := second_packet_reported reachable [5] [delimiter, 7] (by decide)
    (by decide) (by decide) 0
  refine ⟨reachable, ?_⟩
  rw [ran]
  exact ⟨rfl, List.getLast?_concat⟩

end RadioLink.Slip
