import Mathlib
import RadioLink.Slip

/-!
Streams of escape-coded packets. A packet has no delimiter inside, so the decoder is always in step
with it: between two packets it either hunts, or it is at the start of a packet with nothing taken yet.
From there a packet takes it back to such a state and is reported with its closing delimiter, unless
it is empty.
-/

namespace RadioLink.Slip

theorem escape_ne_delimiter : escape ≠ delimiter := by decide

theorem escapedEscape_ne_escapedDelimiter : escapedEscape ≠ escapedDelimiter := by decide

theorem delimiter_notMem_stuff (b : UInt8) : delimiter ∉ stuff b := by
  unfold stuff
  by_cases isDelimiter : b = delimiter
  · rw [if_pos isDelimiter]
    decide
  rw [if_neg isDelimiter]
  by_cases isEscape : b = escape
  · rw [if_pos isEscape]
    decide
  · rw [if_neg isEscape]
    intro member
    exact isDelimiter (List.mem_singleton.mp member).symm

/-- The only delimiters of a packet are its first and its last byte. -/
theorem encode_delimited (parts : List Bytes) :
    ∃ body, encode parts = delimiter :: (body ++ [delimiter]) ∧ delimiter ∉ body := by
  refine ⟨parts.flatten.flatMap stuff, rfl, ?_⟩
  intro member
  obtain ⟨b, -, inside⟩ := List.mem_flatMap.mp member
  exact delimiter_notMem_stuff b inside

namespace Decoder

/-- Reports come out in the order of the bytes, and the positions go on counting. -/
theorem events_append (decoder : Decoder) (position : Nat) (first second : Bytes) :
    decoder.events position (first ++ second) =
      (((decoder.events position first).1.events (position + first.length) second).1,
        (decoder.events position first).2 ++
          ((decoder.events position first).1.events (position + first.length) second).2) := by
  induction first generalizing decoder position with
  | nil => rfl
  | cons b rest ih =>
    simp only [List.cons_append, events, ih, List.length_cons, List.append_assoc]
    rw [Nat.add_assoc, Nat.add_comm 1]

theorem events_append_of_silent {decoder next : Decoder} {position : Nat} {first : Bytes}
    (silent : decoder.events position first = (next, [])) (second : Bytes) :
    decoder.events position (first ++ second) = next.events (position + first.length) second := by
  rw [events_append, silent]
  rfl

/-- Outside a packet all bytes up to the next delimiter are skipped. -/
theorem events_noise {decoder : Decoder} (hunting : decoder.mode = .hunting) (position : Nat)
    {noise : Bytes} (quiet : delimiter ∉ noise) : decoder.events position noise = (decoder, []) := by
  induction noise generalizing position with
  | nil => rfl
  | cons b rest ih =>
    obtain ⟨other, others⟩ := List.ne_and_not_mem_of_not_mem_cons quiet
    have skipped : decoder.push b = (decoder, none) := by
      simp only [push, hunting]
      exact if_neg other.symm
    simp only [events, skipped, ih (position + 1) others]
    rfl

variable {capacity : Nat} {content : Bytes}

theorem store_of_room (mode : Mode) (room : content.length < capacity) (b : UInt8) :
    store ⟨capacity, mode, content⟩ b = (⟨capacity, .inPacket, content ++ [b]⟩, none) :=
  if_pos room

/-- Inside a packet a byte of content is taken in the form in which it is sent. -/
theorem events_stuff (room : content.length < capacity) (position : Nat) (b : UInt8) :
    events ⟨capacity, .inPacket, content⟩ position (stuff b) =
      (⟨capacity, .inPacket, content ++ [b]⟩, []) := by
  by_cases isDelimiter : b = delimiter
  · subst isDelimiter
    simp [stuff, events, push, escape_ne_delimiter, store_of_room _ room]
  by_cases isEscape : b = escape
  · subst isEscape
    simp [stuff, events, push, escape_ne_delimiter, escapedEscape_ne_escapedDelimiter,
      store_of_room _ room]
  · simp [stuff, events, push, isDelimiter, isEscape, store_of_room _ room]

theorem events_stuffed {payload : Bytes} (room : (content ++ payload).length ≤ capacity)
    (position : Nat) :
    events ⟨capacity, .inPacket, content⟩ position (payload.flatMap stuff) =
      (⟨capacity, .inPacket, content ++ payload⟩, []) := by
  induction payload generalizing content position with
  | nil => simp [events]
  | cons b rest ih =>
    have first : content.length < capacity := by
      simp only [List.length_append, List.length_cons] at room
      omega
    rw [List.append_cons] at room ⊢
    rw [List.flatMap_cons, events_append_of_silent (events_stuff first position b), ih room]

/-- Between two packets: either outside a packet, or in one of which nothing was taken. -/
def Between (capacity : Nat) (decoder : Decoder) : Prop :=
  decoder.capacity = capacity ∧
    (decoder.mode = .hunting ∨ decoder.mode = .inPacket ∧ decoder.content = [])

theorem between_new (capacity : Nat) : Between capacity { capacity } := ⟨rfl, .inl rfl⟩

theorem Between.open {decoder : Decoder} (between : decoder.Between capacity) :
    decoder.push delimiter = (⟨capacity, .inPacket, []⟩, none) := by
  obtain ⟨capacity, mode, content⟩ := decoder
  obtain ⟨rfl, rfl | ⟨rfl, rfl⟩⟩ := between
  · simp [push]
  · simp [push]

def afterPacket (capacity : Nat) (payload : Bytes) : Decoder :=
  ⟨capacity, if payload = [] then .inPacket else .hunting, payload⟩

theorem between_afterPacket (capacity : Nat) (payload : Bytes) :
    (afterPacket capacity payload).Between capacity := by
  refine ⟨rfl, ?_⟩
  by_cases empty : payload = []
  · exact .inr ⟨if_pos empty, empty⟩
  · exact .inl (if_neg empty)

/-- A packet is reported with its last byte, unless it is empty. -/
theorem events_encode {decoder : Decoder} (between : decoder.Between capacity) (position : Nat)
    {parts : List Bytes} (room : parts.flatten.length ≤ capacity) :
    decoder.events position (encode parts) =
      (afterPacket capacity parts.flatten,
        if parts.flatten = [] then []
        else [(position + (encode parts).length - 1, .ok parts.flatten)]) := by
  have opened : decoder.events position [delimiter] = (⟨capacity, .inPacket, []⟩, []) := by
    simp only [events, between.open]
    rfl
  have taken := @events_stuffed capacity [] parts.flatten room (position + 1)
  have last : position + (encode parts).length - 1 =
      position + 1 + (parts.flatten.flatMap stuff).length := by
    simp only [encode, List.length_cons, List.length_append, List.length_nil]
    omega
  rw [last]
  change decoder.events position ([delimiter] ++ (parts.flatten.flatMap stuff ++ [delimiter])) = _
  rw [events_append_of_silent opened, List.length_singleton, events_append_of_silent taken]
  generalize parts.flatten = payload
  by_cases empty : payload = []
  · simp [events, push, afterPacket, empty]
  · simp [events, push, afterPacket, empty]

end Decoder

/-- A packet on its way to a decoder that takes `capacity` bytes, with the noise that follows it. After
an empty packet there is none: the decoder would take it for content. -/
structure Transmission (capacity : Nat) where
  parts : List Bytes
  noise : Bytes
  fits : parts.flatten.length ≤ capacity
  quiet : delimiter ∉ noise
  silent : parts.flatten = [] → noise = []

namespace Transmission

variable {capacity : Nat}

def payload (transmission : Transmission capacity) : Bytes := transmission.parts.flatten

def wire (transmission : Transmission capacity) : Bytes :=
  encode transmission.parts ++ transmission.noise

/-- What should be reported of transmissions of which the first one starts at this position: each packet
that is not empty, at its closing delimiter. -/
def reports (position : Nat) : List (Transmission capacity) → List (Nat × Except SlipError Bytes)
  | [] => []
  | transmission :: rest =>
    (if transmission.payload = [] then []
      else [(position + (encode transmission.parts).length - 1, .ok transmission.payload)]) ++
    reports (position + transmission.wire.length) rest

variable {decoder : Decoder}

theorem events_wire (between : decoder.Between capacity) (position : Nat)
    (transmission : Transmission capacity) :
    decoder.events position transmission.wire =
      (Decoder.afterPacket capacity transmission.payload, reports position [transmission]) := by
  have packet := Decoder.events_encode between position transmission.fits
  rw [wire, Decoder.events_append, packet, ← payload]
  -- After an empty packet the decoder does not hunt: there noise would be content.
  by_cases empty : transmission.payload = []
  · rw [transmission.silent empty]
    simp [Decoder.events, reports, empty]
  · have hunting : (Decoder.afterPacket capacity transmission.payload).mode = .hunting :=
      if_neg empty
    rw [Decoder.events_noise hunting _ transmission.quiet]
    simp [reports]

theorem events_wires (between : decoder.Between capacity) (position : Nat)
    (transmissions : List (Transmission capacity)) :
    (decoder.events position (transmissions.flatMap wire)).2 = reports position transmissions := by
  induction transmissions generalizing decoder position with
  | nil => rfl
  | cons transmission rest ih =>
    rw [List.flatMap_cons, Decoder.events_append, events_wire between position transmission,
      ih (Decoder.between_afterPacket capacity transmission.payload)]
    simp [reports]

/-- What is reported are the payloads that are not empty, in order. -/
theorem map_reports (position : Nat) (transmissions : List (Transmission capacity)) :
    (reports position transmissions).map Prod.snd =
      ((transmissions.map payload).filter (· ≠ [])).map .ok := by
  induction transmissions generalizing position with
  | nil => rfl
  | cons transmission rest ih =>
    rw [reports, List.map_append, ih, List.map_cons]
    by_cases empty : transmission.payload = []
    · simp [empty]
    · simp [empty]

end Transmission

/-- A stream of packets comes through. Whatever the packets are made from, and whatever noise without a
delimiter comes before the first and after each that is not empty, a new decoder reports no error and
exactly the payloads that are not empty, in order, each at the closing delimiter of its packet; and
there is no other delimiter in a packet than its first and its last byte. -/
theorem stream_round_trip (capacity : Nat) (noise : Bytes) (quiet : delimiter ∉ noise)
    (transmissions : List (Transmission capacity)) :
    (Decoder.events { capacity } 0 (noise ++ transmissions.flatMap Transmission.wire)).2 =
        Transmission.reports noise.length transmissions ∧
      (Transmission.reports noise.length transmissions).map Prod.snd =
        ((transmissions.map Transmission.payload).filter (· ≠ [])).map .ok ∧
      ∀ parts, ∃ body, encode parts = delimiter :: (body ++ [delimiter]) ∧ delimiter ∉ body := by
  refine ⟨?_, Transmission.map_reports noise.length transmissions, encode_delimited⟩
  have skipped := @Decoder.events_noise { capacity } rfl 0 noise quiet
  rw [Decoder.events_append_of_silent skipped, Nat.zero_add]
  exact Transmission.events_wires (Decoder.between_new capacity) noise.length transmissions

/-- A full packet of the two bytes that are escaped, an empty one and a short one. -/
def crowded : List (Transmission 2) :=
  [⟨[[delimiter], [escape]], [escapedEscape], by decide, by decide, by decide⟩,
    ⟨[[], []], [], by decide, by decide, by decide⟩,
    ⟨[[7]], [], by decide, by decide, by decide⟩]

theorem stream_round_trip_crowded :
    (Decoder.events { capacity := 2 } 0 ([escape] ++ crowded.flatMap Transmission.wire)).2 =
      [(6, .ok [delimiter, escape]), (12, .ok [7])] := by
  rw [(stream_round_trip 2 [escape] (by decide) crowded).1]
  decide

end RadioLink.Slip
