import Mathlib
import RadioLink.Firmware.Image

/-!
Byte strings in blocks. Cutting a byte string into pieces loses nothing, and the blocks that a reader gives are
the pieces of its content, up to the first one that cannot be read.
-/

namespace RadioLink

namespace Bytes

/-- Nothing is lost when a byte string is cut into pieces. -/
theorem flatten_pieces {size : Nat} (positive : 0 < size) {count : Nat} {bytes : Bytes}
    (enough : bytes.length ≤ count) : (pieces size count bytes).flatten = bytes := by
  fun_induction pieces size count bytes with
  | case1 bytes => exact (List.length_eq_zero_iff.mp (Nat.le_zero.mp enough)).symm
  | case2 => rfl
  | case3 count bytes _ ih =>
    have shorter : (bytes.drop size).length ≤ count := by
      rw [List.length_drop]
      omega
    rw [List.flatten_cons, ih shorter, List.take_append_drop]

theorem flatten_chunks {size : Nat} (positive : 0 < size) (bytes : Bytes) :
    (chunks size bytes).flatten = bytes :=
  flatten_pieces positive le_rfl

/-- A piece is not empty and not longer than it may be. -/
theorem length_of_mem_pieces {size : Nat} (positive : 0 < size) {count : Nat} {bytes piece : Bytes}
    (member : piece ∈ pieces size count bytes) : 0 < piece.length ∧ piece.length ≤ size := by
  fun_induction pieces size count bytes with
  | case1 => cases member
  | case2 => cases member
  | case3 count bytes nonempty ih =>
    rcases List.mem_cons.mp member with rfl | later
    · have some := List.length_pos_of_ne_nil nonempty
      rw [List.length_take]
      omega
    · exact ih later

/-- As long as pieces are missing, bytes are missing. -/
theorem length_front_lt {size : Nat} (positive : 0 < size) {bytes : Bytes} {front back : List Bytes}
    (cut : chunks size bytes = front ++ back) (missing : back ≠ []) :
    front.flatten.length < bytes.length := by
  obtain ⟨piece, rest, rfl⟩ := List.exists_cons_of_ne_nil missing
  have member : piece ∈ chunks size bytes := by
    rw [cut]
    exact List.mem_append_right _ List.mem_cons_self
  have some := (length_of_mem_pieces positive member).1
  have whole : front.flatten ++ (piece ++ rest.flatten) = bytes := by
    rw [← List.flatten_cons, ← List.flatten_append, ← cut, flatten_chunks positive]
  rw [← whole, List.length_append, List.length_append]
  omega

theorem pieces_eq_chunks {size : Nat} (positive : 0 < size) {count : Nat} {bytes : Bytes}
    (enough : bytes.length ≤ count) : pieces size count bytes = chunks size bytes := by
  have same : ∀ (more fewer : Nat) (bytes : Bytes), bytes.length ≤ more → bytes.length ≤ fewer →
      pieces size more bytes = pieces size fewer bytes := by
    intro more
    induction more with
    | zero =>
      intro fewer bytes none _
      rw [List.length_eq_zero_iff.mp (Nat.le_zero.mp none)]
      cases fewer <;> rfl
    | succ more ih =>
      intro fewer bytes long longer
      cases bytes with
      | nil => cases fewer <;> rfl
      | cons b rest =>
        cases fewer with
        | zero => exact absurd longer (Nat.not_succ_le_zero _)
        | succ fewer =>
          have shorter : ((b :: rest).drop size).length ≤ rest.length := by
            rw [List.length_drop, List.length_cons]
            omega
          rw [pieces, pieces, ih fewer _ (shorter.trans (Nat.le_of_succ_le_succ long))
            (shorter.trans (Nat.le_of_succ_le_succ longer))]
          · simp
          · simp
  exact same count bytes.length bytes enough le_rfl

theorem chunks_of_ne_nil {size : Nat} (positive : 0 < size) {bytes : Bytes} (present : bytes ≠ []) :
    chunks size bytes = bytes.take size :: chunks size (bytes.drop size) := by
  obtain ⟨b, rest, rfl⟩ := List.exists_cons_of_ne_nil present
  have shorter : ((b :: rest).drop size).length ≤ rest.length := by
    rw [List.length_drop, List.length_cons]
    omega
  rw [← pieces_eq_chunks positive shorter]
  rfl

theorem chunks_take {size left : Nat} {source : Bytes} (positive : 0 < size) (some : 0 < left)
    (long : min left size ≤ source.length) :
    chunks size (source.take left) = source.take (min left size) ::
      chunks size ((source.drop (min left size)).take (left - min left size)) := by
  have present : source.take left ≠ [] := by
    refine List.ne_nil_of_length_pos ?_
    rw [List.length_take]
    omega
  have later : (source.take left).drop size = (source.drop (min left size)).take (left - min left size) := by
    rw [List.drop_take]
    rcases Nat.le_total left size with below | above
    · rw [Nat.min_eq_left below, Nat.sub_eq_zero_of_le below, Nat.sub_self, List.take_zero, List.take_zero]
    · rw [Nat.min_eq_right above]
  rw [chunks_of_ne_nil positive present, List.take_take, Nat.min_comm, later]

end Bytes

namespace Reader

def readable : List (Except Fault Bytes) → List Bytes
  | .ok block :: rest => block :: readable rest
  | _ => []

def past (reader : Reader) (count : Nat) : Reader where
  content := reader.content.drop count
  fault number := reader.fault (number + 1)

theorem read_none (reader : Reader) (number : Nat) : ∃ fault, reader.read number none = .error fault := by
  unfold read
  split
  · exact ⟨_, rfl⟩
  · exact ⟨.shortRead, rfl⟩

theorem read_some (reader : Reader) (number : Nat) (block : Bytes) :
    reader.read number (some block) = .ok block ∧ reader.fault number = none ∨
      ∃ fault, reader.read number (some block) = .error fault ∧ reader.fault number = some fault := by
  unfold read
  split
  next fault broken => exact .inr ⟨fault, rfl, broken⟩
  next sound => exact .inl ⟨rfl, sound⟩

/-- What could be read is the start of what was asked for, and all of it if nothing went wrong. -/
theorem readable_drawBlocks {size : Nat} (positive : 0 < size) {count left : Nat} (enough : left ≤ count)
    (reader : Reader) :
    let drawn := (Bytes.drawBlocks size count left reader.content).mapIdx reader.read
    readable drawn <+: Bytes.chunks size (reader.content.take left) ∧
      ((∀ fault, .error fault ∉ drawn) →
        readable drawn = Bytes.chunks size (reader.content.take left) ∧ left ≤ reader.content.length) ∧
      ((∀ number, reader.fault number = none) → left ≤ reader.content.length →
        ∀ fault, .error fault ∉ drawn) := by
  induction count generalizing left reader with
  | zero =>
    obtain rfl := Nat.le_zero.mp enough
    exact ⟨List.nil_prefix, fun _ => ⟨rfl, Nat.zero_le _⟩, fun _ _ _ => List.not_mem_nil⟩
  | succ count ih =>
    intro drawn
    subst drawn
    rw [Bytes.drawBlocks]
    by_cases none : left = 0
    · rw [if_pos none, none]
      exact ⟨List.nil_prefix, fun _ => ⟨rfl, Nat.zero_le _⟩, fun _ _ _ => List.not_mem_nil⟩
    rw [if_neg none]
    dsimp only
    by_cases short : (reader.content.take (min left size)).length < min left size
    · -- the content ends within this block
      obtain ⟨fault, failed⟩ := reader.read_none 0
      rw [if_pos short, List.mapIdx_cons, List.mapIdx_nil, failed]
      refine ⟨List.nil_prefix, fun sound => absurd List.mem_cons_self (sound fault), fun _ long => ?_⟩
      rw [List.length_take] at short
      omega
    rw [if_neg short, List.mapIdx_cons]
    have long : min left size ≤ reader.content.length := by
      rw [List.length_take] at short
      omega
    -- the other blocks are what the reader past this one gives
    have cut := Bytes.chunks_take positive (Nat.pos_of_ne_zero none) long
    obtain ⟨starts, whole, given⟩ :=
      @ih (left - min left size) (by omega) (reader.past (min left size))
    rcases reader.read_some 0 (reader.content.take (min left size)) with ⟨read, sound⟩ | ⟨fault, failed, broken⟩
    · rw [read, readable, cut]
      refine ⟨List.prefix_cons_inj _ |>.mpr starts, fun sound => ?_, fun sound long => ?_⟩
      · obtain ⟨all, rest⟩ := whole fun fault member => sound fault (List.mem_cons_of_mem _ member)
        change left - _ ≤ (reader.content.drop _).length at rest
        rw [List.length_drop] at rest
        exact ⟨congrArg _ all, by omega⟩
      · have enough : left - min left size ≤ (reader.content.drop (min left size)).length := by
          rw [List.length_drop]
          omega
        intro fault member
        rcases List.mem_cons.mp member with same | later
        · cases same
        · exact given (fun number => sound (number + 1)) enough fault later
    · rw [failed]
      refine ⟨List.nil_prefix, fun sound => absurd List.mem_cons_self (sound fault), fun sound _ => ?_⟩
      rw [sound] at broken
      contradiction

section

variable (reader : Reader) {size : Nat} (positive : 0 < size) (total : Nat)

include positive

theorem readable_blocks :
    readable (reader.blocks size total) <+: Bytes.chunks size (reader.content.take total) :=
  (readable_drawBlocks positive le_rfl reader).1

theorem readable_blocks_of_sound (sound : ∀ fault, .error fault ∉ reader.blocks size total) :
    readable (reader.blocks size total) = Bytes.chunks size (reader.content.take total) ∧
      total ≤ reader.content.length :=
  (readable_drawBlocks positive le_rfl reader).2.1 sound

theorem sound_blocks (healthy : ∀ number, reader.fault number = none)
    (long : total ≤ reader.content.length) (fault : Fault) : .error fault ∉ reader.blocks size total :=
  (readable_drawBlocks positive le_rfl reader).2.2 healthy long fault

end

end Reader

end RadioLink
