import Mathlib
import RadioLink.Proofs.Reassembly

/-!
Announcements that are refused. The pieces that follow belong to the datagram that was refused and
should go nowhere. They do after a refusal for the length, which gives up whatever was under way; a
refusal because the port is busy leaves an earlier datagram in place, and the pieces are added to it.
-/

namespace RadioLink.Reassembler

inductive Call where
  | announce (header : Message.DatagramHeader) (busy : Bool)
  | piece (chunk : Bytes)
  deriving DecidableEq, Repr

def call (receiver : Reassembler) : Call → Reassembler
  | .announce header busy => (receiver.onHeader header busy).2.1
  | .piece chunk => (receiver.onData chunk).2

def callAll (receiver : Reassembler) (calls : List Call) : Reassembler := calls.foldl call receiver

def Reachable (receiver : Reassembler) : Prop := ∃ calls, receiver = callAll {} calls

def feed (receiver : Reassembler) (chunks : List Bytes) : Reassembler :=
  receiver.callAll (chunks.map .piece)

def answers (receiver : Reassembler) : List Bytes → List (Except DispatchError (Option Datagram))
  | [] => []
  | chunk :: rest => (receiver.onData chunk).1 :: answers (receiver.onData chunk).2 rest

variable {receiver : Reassembler} {header : Message.DatagramHeader} {busy : Bool}

/-- A refusal for the port changes nothing, and one for the length leaves nothing under way. -/
theorem onHeader_refused {error : DispatchError}
    (refused : (receiver.onHeader header busy).1 = .error error) :
    error = .portBusy header.localPort ∧ (receiver.onHeader header busy).2.1 = receiver ∨
      error ≠ .portBusy header.localPort ∧ (receiver.onHeader header busy).2.1 = {} := by
  unfold onHeader at refused ⊢
  by_cases taken : busy = true
  · rw [if_pos taken] at refused ⊢
    exact .inl ⟨(Except.error.inj refused).symm, rfl⟩
  · right
    rw [if_neg taken] at refused ⊢
    dsimp only at refused ⊢
    by_cases empty : header.len.toNat = 0
    · rw [if_pos empty] at refused ⊢
      exact ⟨by cases refused; simp, rfl⟩
    rw [if_neg empty] at refused ⊢
    by_cases large : Datagram.maxLength < header.len.toNat
    · rw [if_pos large] at refused ⊢
      exact ⟨by cases refused; simp, rfl⟩
    · rw [if_neg large] at refused
      cases refused

theorem onData_idle (idle : receiver.pending = none) (chunk : Bytes) :
    receiver.onData chunk = (.error .noReassembly, receiver) := by
  rw [onData, idle]

theorem answers_idle (idle : receiver.pending = none) (chunks : List Bytes) :
    ∀ answer ∈ receiver.answers chunks, answer = .error .noReassembly := by
  induction chunks with
  | nil =>
    intro answer member
    cases member
  | cons chunk rest ih =>
    rw [answers, onData_idle idle]
    intro answer member
    rcases List.mem_cons.mp member with same | later
    · exact same
    · exact ih answer later

/-- As long as a datagram is under way a piece is never one of nothing. -/
theorem onData_underWay {context : Reassembly} (pending : receiver.pending = some context)
    (chunk : Bytes) : (receiver.onData chunk).1 ≠ .error .noReassembly := by
  rw [onData, pending]
  dsimp only
  split
  · simp
  split
  · simp
  split
  · simp
  · simp

/-- A datagram under way lacks some bytes, and has the check of those that it has. -/
def Sound (receiver : Reassembler) : Prop :=
  ∀ context, receiver.pending = some context → context.UnderWay

theorem Sound.announce (sound : receiver.Sound) (header : Message.DatagramHeader) (busy : Bool) :
    (receiver.onHeader header busy).2.1.Sound := by
  intro context pending
  unfold onHeader at pending
  split at pending
  · exact sound context pending
  dsimp only at pending
  split at pending
  · cases pending
  next positive =>
    split at pending
    · cases pending
    next small =>
      obtain rfl := Option.some.inj pending
      exact ⟨Nat.pos_of_ne_zero positive, Nat.not_lt.mp small, rfl⟩

theorem Sound.piece (sound : receiver.Sound) (chunk : Bytes) : (receiver.onData chunk).2.Sound := by
  intro grown pending
  obtain ⟨context, before, rfl, fits, short, -⟩ := pending_onData pending
  have underWay := sound context before
  rw [underWay.extend_eq fits] at short ⊢
  exact ⟨short, underWay.room, rfl⟩

theorem sound_callAll (calls : List Call) : (callAll {} calls).Sound := by
  -- From the end: what was sound before the last call is so after it.
  induction calls using List.reverseRecOn with
  | nil =>
    intro context pending
    cases pending
  | append_singleton past last ih =>
    rw [callAll, List.foldl_append]
    cases last with
    | announce header busy => exact ih.announce header busy
    | piece chunk => exact ih.piece chunk

theorem Reachable.pending_eq (reachable : receiver.Reachable) {context : Reassembly}
    (pending : receiver.pending = some context) :
    context.header.len.toNat ≤ Datagram.maxLength ∧
      receiver = ⟨some (.holding context.header context.buffer)⟩ := by
  obtain ⟨calls, rfl⟩ := reachable
  have underWay := sound_callAll calls context pending
  refine ⟨underWay.room, ?_⟩
  rw [Reassembly.holding, ← underWay.check, ← pending]

/-- Pieces that leave the datagram incomplete are all added to it. -/
theorem feed_holding {bytes : Bytes} (room : header.len.toNat ≤ Datagram.maxLength)
    (chunks : List Bytes) (short : (bytes ++ chunks.flatten).length < header.len.toNat) :
    answers ⟨some (.holding header bytes)⟩ chunks = List.replicate chunks.length (.ok none) ∧
      feed ⟨some (.holding header bytes)⟩ chunks =
        ⟨some (.holding header (bytes ++ chunks.flatten))⟩ := by
  induction chunks generalizing bytes with
  | nil => simp [answers, feed, callAll]
  | cons chunk rest ih =>
    rw [List.flatten_cons, ← List.append_assoc] at short ⊢
    have fits : (bytes ++ chunk).length < header.len.toNat := by
      rw [List.length_append] at short
      omega
    have taken := onData_holding room fits.le
    rw [if_pos fits] at taken
    obtain ⟨answered, held⟩ := ih short
    constructor
    · rw [answers, taken, answered]
      rfl
    · rw [← held]
      change callAll (onData ⟨some (.holding header bytes)⟩ chunk).2 (rest.map .piece) = _
      rw [taken]
      rfl

/-- After an announcement was refused, the pieces that follow are all turned away exactly if the refusal
was not for a busy port or nothing was under way. Otherwise the receiver is as it was before the
announcement, and takes the pieces for the datagram that it has under way: they are added to it, and if
they complete it and the check is right it is handed over with them inside. -/
theorem refused_pieces_ignored_iff (reachable : receiver.Reachable) {error : DispatchError}
    (refused : (receiver.onHeader header busy).1 = .error error)
    {chunks : List Bytes} (nonempty : chunks ≠ []) :
    ((∀ answer ∈ (receiver.onHeader header busy).2.1.answers chunks, answer = .error .noReassembly) ↔
      error ≠ .portBusy header.localPort ∨ receiver.pending = none) ∧
    (error = .portBusy header.localPort →
      (receiver.onHeader header busy).2.1 = receiver ∧
      ∀ context, receiver.pending = some context →
        (context.buffer ++ chunks.flatten).length < context.header.len.toNat →
        receiver.answers chunks = List.replicate chunks.length (.ok none) ∧
        (receiver.feed chunks).pending =
          some (.holding context.header (context.buffer ++ chunks.flatten)) ∧
        ∀ last, (context.buffer ++ chunks.flatten ++ last).length = context.header.len.toNat →
          crc16 (context.buffer ++ chunks.flatten ++ last) = context.header.crc →
          ((receiver.feed chunks).onData last).1 = .ok (some ⟨context.header.localPort,
            context.header.remotePort, context.header.addr,
            context.buffer ++ chunks.flatten ++ last⟩)) := by
  constructor
  · rcases onHeader_refused refused with ⟨busy, same⟩ | ⟨other, gone⟩
    · rw [same]
      constructor
      · intro ignored
        right
        -- The first piece alone shows whether a datagram is under way.
        by_contra present
        obtain ⟨context, pending⟩ := Option.ne_none_iff_exists'.mp present
        obtain ⟨chunk, rest, rfl⟩ := List.exists_cons_of_ne_nil nonempty
        exact onData_underWay pending chunk (ignored _ (List.mem_cons_self ..))
      · rintro (other | idle)
        · exact absurd busy other
        · exact answers_idle idle chunks
    · rw [gone]
      exact ⟨fun _ => .inl other, fun _ => answers_idle rfl chunks⟩
  · intro portBusy
    rcases onHeader_refused refused with ⟨-, same⟩ | ⟨other, -⟩
    · refine ⟨same, ?_⟩
      intro context pending short
      obtain ⟨room, held⟩ := reachable.pending_eq pending
      obtain ⟨answered, fed⟩ := feed_holding room chunks short
      rw [held]
      refine ⟨answered, by rw [fed], ?_⟩
      intro last whole valid
      rw [fed, onData_holding room whole.le, if_neg whole.not_lt, if_neg (not_not.mpr valid)]
      rfl
    · exact absurd portBusy other

def underWayHeader : Message.DatagramHeader := ⟨⟨10, 0, 0, 1⟩, 6, 9, 4, crc16 [1, 2, 3, 4]⟩

def busyHeader : Message.DatagramHeader := ⟨⟨10, 0, 0, 1⟩, 7, 9, 2, crc16 [3, 4]⟩

def halfReceived : Reassembler := callAll {} [.announce underWayHeader false, .piece [1, 2]]

/-- The first byte of the datagram that was refused goes into the one that was half received, and the
second one completes it. -/
theorem refused_pieces_ignored_iff_misplaced :
    (halfReceived.onHeader busyHeader true).1 = .error (.portBusy 7) ∧
    (¬∀ answer ∈ (halfReceived.onHeader busyHeader true).2.1.answers [[3]],
      answer = .error .noReassembly) ∧
    (((halfReceived.onHeader busyHeader true).2.1.feed [[3]]).onData [4]).1 =
      .ok (some ⟨6, 9, ⟨10, 0, 0, 1⟩, [1, 2, 3, 4]⟩) := by
  have refused : (halfReceived.onHeader busyHeader true).1 = .error (.portBusy 7) := by
    decide +kernel
  have pending : halfReceived.pending = some (.holding underWayHeader [1, 2]) := by
    decide +kernel
  have reachable : halfReceived.Reachable := ⟨_, rfl⟩
  have misplaced := refused_pieces_ignored_iff reachable refused (List.cons_ne_nil [3] [])
  refine ⟨refused, ?_, ?_⟩
  · rw [misplaced.1, pending]
    decide
  · obtain ⟨same, added⟩ := misplaced.2 rfl
    rw [same]
    obtain ⟨-, -, handed⟩ := added _ pending (by decide)
    exact handed [4] (by decide) (by decide +kernel)

end RadioLink.Reassembler
