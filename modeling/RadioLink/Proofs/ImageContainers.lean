import Mathlib
import RadioLink.Firmware.ImageFile
import RadioLink.Proofs.Actions
import RadioLink.Proofs.LoaderLengths
import RadioLink.Proofs.MessageLayouts

/-!
Image containers lose nothing. The fields of a stub, its code and its data lie next to each other in the container.
The digest of a firmware file and its payload are read through one position, which is wherever the latest use left
it; each use goes to its own place first, and the limit of a payload reader ends where the digest starts.
-/

namespace RadioLink.Firmware

namespace Stub

theorem exists_parse_iff (file : Bytes) :
    (∃ stub, parse file = .ok stub) ↔
      16 ≤ file.length ∧ 1 ≤ (file.uint32At 12).toNat ∧ (file.uint32At 12).toNat ≤ file.length - 16 := by
  constructor
  · rintro ⟨stub, parsed⟩
    exact (parse_eq_ok_iff.mp parsed).1
  · intro fits
    exact ⟨_, parse_eq_ok_iff.mpr ⟨fits, rfl⟩⟩

/-- A container that is accepted is what its parts are written back to. -/
theorem bytes_of_parse {file : Bytes} {stub : Stub} (parsed : parse file = .ok stub) : stub.bytes = file := by
  have size := (length_of_parse parsed).1
  obtain ⟨⟨long, -⟩, rfl⟩ := parse_eq_ok_iff.mp parsed
  have header : Bytes.ofUInt32 (file.uint32At 0) ++ Bytes.ofUInt32 (file.uint32At 4) ++
      Bytes.ofUInt32 (file.uint32At 8) ++ Bytes.ofUInt32 (file.uint32At 12) = file.take 16 := by
    rw [Bytes.ofUInt32_uint32At (by omega), Bytes.ofUInt32_uint32At (by omega),
      Bytes.ofUInt32_uint32At (by omega), Bytes.ofUInt32_uint32At (by omega), ← Bytes.slice_add,
      ← Bytes.slice_add, ← Bytes.slice_add]
    rfl
  rw [bytes, size, ← Bytes.ofUInt32]
  dsimp only
  rw [header, List.append_assoc, List.take_append_drop, List.take_append_drop]

end Stub

namespace Cursor

variable (cursor : Cursor) (room : Nat)

@[simp] theorem content_read : (cursor.read room).2.content = cursor.content := rfl

@[simp] theorem position_read :
    (cursor.read room).2.position = cursor.position + (cursor.read room).1.length := rfl

theorem read_eq_slice :
    (cursor.read room).1 = cursor.content.slice cursor.position (cursor.read room).1.length :=
  List.prefix_iff_eq_take.mp (List.take_prefix _ _)

variable {cursor room}

theorem read_ne_nil (some : 0 < room) (inside : cursor.position < cursor.content.length) :
    (cursor.read room).1 ≠ [] := by
  refine List.ne_nil_of_length_pos ?_
  simp only [read, List.length_take, List.length_drop]
  omega

/-- A buffer that the file can fill is filled, however little a read gives. -/
theorem readExact_inside (inside : cursor.position + room ≤ cursor.content.length) :
    ∃ last, (readExact room).outcome cursor = (.ok (cursor.content.slice cursor.position room), last) ∧
      last.content = cursor.content := by
  induction room using Nat.strongRecOn generalizing cursor with
  | ind room ih =>
    rw [readExact]
    by_cases full : room = 0
    · rw [if_pos full, full]
      exact ⟨cursor, rfl, rfl⟩
    rw [if_neg full]
    have content := cursor.content_read room
    have position := cursor.position_read room
    have given := cursor.read_eq_slice room
    have fits := cursor.length_read_le room
    obtain ⟨first, rest, some⟩ :=
      List.exists_cons_of_ne_nil (@read_ne_nil cursor room (Nat.pos_of_ne_zero full) (by omega))
    rw [Action.outcome_bind_ok (Action.outcome_total _ _), some]
    rw [some] at position given fits
    generalize (cursor.read room).2 = next at content position ⊢
    have split : cursor.content.slice cursor.position room =
        first :: rest ++ next.content.slice next.position (room - (first :: rest).length) := by
      conv_lhs => rw [← Nat.add_sub_of_le fits, Bytes.slice_add, ← given]
      rw [content, position]
    -- the first read is not empty, so less is left for the others
    have shorter : room - (first :: rest).length < room := by
      rw [List.length_cons]
      omega
    obtain ⟨last, ran, kept⟩ := @ih _ shorter next (by rw [content, position]; omega)
    dsimp only
    rw [Action.outcome_bind_ok ran, Action.outcome_pure, split]
    exact ⟨last, rfl, kept.trans content⟩

end Cursor

namespace PayloadReader

variable (reader : PayloadReader) (room : Nat)

def unread : Bytes := reader.cursor.content.slice reader.cursor.position reader.left

def Sound : Prop := reader.cursor.position + reader.left ≤ reader.cursor.content.length

@[simp] theorem content_read : (reader.read room).2.cursor.content = reader.cursor.content := by
  unfold read
  split <;> rfl

theorem position_read :
    (reader.read room).2.cursor.position = reader.cursor.position + (reader.read room).1.length := by
  unfold read
  split <;> rfl

variable {reader room}

theorem Sound.read (sound : reader.Sound) : (reader.read room).2.Sound := by
  have fewer := reader.left_read room
  rw [Sound, content_read, position_read]
  rw [Sound] at sound
  omega

/-- A read gives the next of what may be read. -/
theorem read_append_unread : (reader.read room).1 ++ (reader.read room).2.unread = reader.unread := by
  have fewer := reader.left_read room
  have given : (reader.read room).1 =
      reader.cursor.content.slice reader.cursor.position (reader.read room).1.length := by
    unfold PayloadReader.read
    split
    · rfl
    · exact reader.cursor.read_eq_slice _
  rw [unread, content_read, position_read, unread, ← fewer, Bytes.slice_add, ← given]

theorem read_ne_nil (sound : reader.Sound) (some : 0 < room) (more : reader.unread ≠ []) :
    (reader.read room).1 ≠ [] := by
  have left : reader.left ≠ 0 := by
    rintro none
    rw [unread, none] at more
    exact more List.take_zero
  unfold PayloadReader.read
  rw [if_neg left]
  rw [Sound] at sound
  exact Cursor.read_ne_nil (by omega) (by omega)

theorem content_readEach (rooms : List Nat) :
    (reader.readEach rooms).2.cursor.content = reader.cursor.content := by
  induction rooms generalizing reader with
  | nil => rfl
  | cons room rest ih => exact ih.trans (reader.content_read room)

theorem readEach_append_unread (rooms : List Nat) :
    (reader.readEach rooms).1.flatten ++ (reader.readEach rooms).2.unread = reader.unread := by
  induction rooms generalizing reader with
  | nil => rfl
  | cons room rest ih =>
    change ((reader.read room).1 ++ ((reader.read room).2.readEach rest).1.flatten) ++
      ((reader.read room).2.readEach rest).2.unread = reader.unread
    rw [List.append_assoc, ih, read_append_unread]

theorem Sound.readEach (sound : reader.Sound) (rooms : List Nat) : (reader.readEach rooms).2.Sound := by
  induction rooms generalizing reader with
  | nil => exact sound
  | cons room rest ih => exact ih sound.read

/-- Reading to the end gives all that may be read. -/
theorem readToEnd_eq_unread (sound : reader.Sound) (some : 0 < room) : (reader.readToEnd room).1 = reader.unread := by
  fun_induction readToEnd reader room with
  | case1 reader last given =>
    -- nothing came, so nothing was left
    by_contra more
    have gave := @read_ne_nil reader room sound some fun ended => more ended.symm
    rw [given] at gave
    exact gave rfl
  | case2 reader first rest next given _ others last ran ih =>
    have joined := @read_append_unread reader room
    have later := @Sound.read reader room sound
    rw [given] at joined later
    rw [ran] at ih
    rw [← joined, ← ih later]

end PayloadReader

namespace ImageFile

variable {image : ImageFile} {file : Bytes}

/-- The file that is open is `file`, and the payload ends where its digest starts. -/
def Holds (image : ImageFile) (file : Bytes) : Prop :=
  image.cursor.content = file ∧ image.payloadLength + 16 = file.length

theorem ofCursor_cases (cursor : Cursor) :
    (cursor.content.length < 16 ∧ ofCursor cursor = .error .imageTooShort) ∨
      16 ≤ cursor.content.length ∧ ∃ image, ofCursor cursor = .ok image ∧ image.Holds cursor.content := by
  unfold ofCursor
  dsimp only
  split
  next short => exact .inl ⟨short, rfl⟩
  next long =>
    have enough : 16 ≤ cursor.content.length := Nat.not_lt.mp long
    exact .inr ⟨enough, _, rfl, rfl, Nat.sub_add_cancel enough⟩

theorem digest_of_holds (holds : image.Holds file) :
    ∃ (digest : Digest) (next : ImageFile), ImageFile.digest.outcome image = (.ok digest, next) ∧
      digest.bytes = file.drop (file.length - 16) ∧ next.Holds file := by
  obtain ⟨rfl, length⟩ := holds
  obtain ⟨last, ran, kept⟩ := @Cursor.readExact_inside (image.cursor.seek image.payloadLength)
    Image.digestLength length.le
  have start : image.payloadLength = image.cursor.content.length - 16 := Nat.eq_sub_of_add_eq length
  have tail : image.cursor.content.slice image.payloadLength 16 = image.cursor.content.drop image.payloadLength :=
    List.take_of_length_le (by rw [List.length_drop]; omega)
  refine ⟨Octets.padded 16 (image.cursor.content.slice image.payloadLength 16),
    { image with cursor := last }, ?_, ?_, kept, length⟩
  · rw [ImageFile.digest, Action.outcome_change_bind, Action.outcome_bind, Action.outcome_within, ran]
    rfl
  · rw [tail, start]
    exact Bytes.padTo_eq_self (by rw [List.length_drop]; omega)

theorem unread_payload (holds : image.Holds file) :
    image.payload.Sound ∧ image.payload.unread = file.take (file.length - 16) := by
  obtain ⟨rfl, length⟩ := holds
  have start : image.payloadLength = image.cursor.content.length - 16 := Nat.eq_sub_of_add_eq length
  rw [← start]
  exact ⟨by change 0 + image.payloadLength ≤ image.cursor.content.length; omega, rfl⟩

inductive Use where
  | digest
  /-- Takes a reader of the payload and reads into buffers of these sizes. -/
  | payload (rooms : List Nat)

def use (image : ImageFile) : Use → ImageFile
  | .digest => (ImageFile.digest.outcome image).2
  | .payload rooms => image.giveBack (image.payload.readEach rooms).2

def useAll (image : ImageFile) (uses : List Use) : ImageFile := uses.foldl use image

theorem Holds.use (holds : image.Holds file) (use : Use) : (image.use use).Holds file := by
  cases use with
  | digest =>
    obtain ⟨digest, next, ran, -, kept⟩ := digest_of_holds holds
    rw [ImageFile.use, ran]
    exact kept
  | payload rooms =>
    refine ⟨?_, holds.2⟩
    rw [← holds.1]
    exact PayloadReader.content_readEach rooms

theorem Holds.useAll (holds : image.Holds file) (uses : List Use) : (image.useAll uses).Holds file := by
  induction uses generalizing image with
  | nil => exact holds
  | cons use rest ih => exact ih (holds.use use)

end ImageFile

/-- A file taken as a whole has the digest and the payload that are read from it while it is open. -/
theorem Image.ofFile_eq {file : Bytes} {digest : Digest} (tail : digest.bytes = file.drop (file.length - 16)) :
    Image.ofFile file = .ok { payload := file.take (file.length - 16), digest } := by
  have size : (file.drop (file.length - 16)).length = 16 := tail ▸ digest.size
  have same : Octets.ofBytes? 16 (file.drop (file.length - 16)) = some digest := by
    rw [Octets.ofBytes?, dif_pos size]
    cases digest
    cases tail
    rfl
  rw [ofFile, List.splitAt_eq]
  dsimp only [digestLength]
  rw [same]

/-- Image containers split without loss. A stub container is accepted exactly if it has a header and the length of
the code in it is not zero and not larger than the rest, and its parts written back in order are the container. A
firmware file is accepted exactly if a digest fits in; and whatever was read of it before, digest or payload, to
whatever extent and however little each read gave, the digest read from it is its last sixteen bytes, and a reader of
the payload gives the bytes before these, in order and each once, and then nothing. -/
theorem containers_lose_nothing (file : Bytes) :
    ((∃ stub, Stub.parse file = .ok stub) ↔
        16 ≤ file.length ∧ 1 ≤ (file.uint32At 12).toNat ∧ (file.uint32At 12).toNat ≤ file.length - 16) ∧
      (∀ stub, Stub.parse file = .ok stub →
        Bytes.ofUInt32 stub.entry ++ Bytes.ofUInt32 stub.paramsStart ++ Bytes.ofUInt32 stub.dataStart ++
          Bytes.ofNat 4 stub.code.length ++ stub.code ++ stub.data = file) ∧
      ∀ cursor : Cursor, cursor.content = file →
        ((∃ image, ImageFile.ofCursor cursor = .ok image) ↔ 16 ≤ file.length) ∧
          ∀ image, ImageFile.ofCursor cursor = .ok image →
            image.payloadLength = file.length - 16 ∧
              ∀ uses : List ImageFile.Use,
                (∃ digest, (ImageFile.digest.outcome (image.useAll uses)).1 = .ok digest ∧
                  digest.bytes = file.drop (file.length - 16) ∧
                  Image.ofFile file = .ok { payload := file.take (file.length - 16), digest }) ∧
                ∀ (rooms : List Nat) (room : Nat), 0 < room →
                  ((image.useAll uses).payload.readEach rooms).1.flatten ++
                    (((image.useAll uses).payload.readEach rooms).2.readToEnd room).1 =
                      file.take (file.length - 16) := by
  refine ⟨Stub.exists_parse_iff file, fun stub => Stub.bytes_of_parse, ?_⟩
  rintro cursor rfl
  rcases ImageFile.ofCursor_cases cursor with ⟨short, refused⟩ | ⟨long, image, opened, holds⟩
  · rw [refused]
    refine ⟨⟨?_, fun long => absurd long (Nat.not_le.mpr short)⟩, ?_⟩
    · rintro ⟨_, accepted⟩
      cases accepted
    · intro _ accepted
      cases accepted
  · rw [opened]
    refine ⟨⟨fun _ => long, fun _ => ⟨image, rfl⟩⟩, ?_⟩
    intro _ same
    cases same
    refine ⟨Nat.eq_sub_of_add_eq holds.2, fun uses => ⟨?_, fun rooms room some => ?_⟩⟩
    · obtain ⟨digest, next, ran, tail, -⟩ := ImageFile.digest_of_holds (holds.useAll uses)
      exact ⟨digest, by rw [ran], tail, Image.ofFile_eq tail⟩
    · obtain ⟨sound, all⟩ := ImageFile.unread_payload (holds.useAll uses)
      rw [PayloadReader.readToEnd_eq_unread (sound.readEach rooms) some, PayloadReader.readEach_append_unread, all]

/-- The container of a stub, opened like a firmware file. It gives one byte at a time. -/
def trickling : Cursor := { content := Loader.smallStub.bytes, most := fun _ => 0 }

theorem containers_lose_nothing_trickling :
    Stub.parse Loader.smallStub.bytes = .ok Loader.smallStub ∧
      Bytes.ofUInt32 0x40100004 ++ Bytes.ofUInt32 0x40100000 ++ Bytes.ofUInt32 0x3ffe8000 ++ Bytes.ofNat 4 2 ++
        [0xc0, 0xdb] ++ [7] = Loader.smallStub.bytes ∧
      ∃ image, ImageFile.ofCursor trickling = .ok image ∧ image.payloadLength = 3 ∧
        (∃ digest, (ImageFile.digest.outcome (image.useAll [.payload [2, 40], .digest, .payload [7]])).1 = .ok digest ∧
          digest.bytes = [0x40, 0x00, 0x00, 0x10, 0x40, 0x00, 0x80, 0xfe, 0x3f, 2, 0, 0, 0, 0xc0, 0xdb, 7]) ∧
        ((image.useAll [.payload [2, 40], .digest, .payload [7]]).payload.readEach [3, 0]).1.flatten ++
          (((image.useAll [.payload [2, 40], .digest, .payload [7]]).payload.readEach [3, 0]).2.readToEnd 8).1 =
            [0x04, 0x00, 0x10] := by
  obtain ⟨-, written, opened⟩ := containers_lose_nothing Loader.smallStub.bytes
  have parsed : Stub.parse Loader.smallStub.bytes = .ok Loader.smallStub := rfl
  obtain ⟨size, used⟩ := (opened trickling rfl).2 _ rfl
  obtain ⟨⟨digest, read, tail, -⟩, reads⟩ := used [.payload [2, 40], .digest, .payload [7]]
  exact ⟨parsed, written Loader.smallStub parsed, _, rfl, size, ⟨digest, read, tail⟩, reads [3, 0] 8 (by decide)⟩

end RadioLink.Firmware
