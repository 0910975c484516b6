import RadioLink.Proofs.MessageEffects

/-!
Reassembly of datagrams. A datagram that is handed over goes back to one announcement that was
accepted: it has the addresses, the length and the check that were announced, and its data is every
piece that came in since, none of them cut and none left out.
-/

namespace RadioLink

namespace Crc

@[simp] theorem update_append (register : UInt16) (first second : Bytes) :
    update register (first ++ second) = update (update register first) second :=
  List.foldl_append

end Crc

namespace Reassembly

def holding (header : Message.DatagramHeader) (bytes : Bytes) : Reassembly :=
  { header, crc := crc16 bytes, buffer := bytes }

@[simp] theorem header_holding (header : Message.DatagramHeader) (bytes : Bytes) :
    (holding header bytes).header = header := rfl

@[simp] theorem crc_holding (header : Message.DatagramHeader) (bytes : Bytes) :
    (holding header bytes).crc = crc16 bytes := rfl

@[simp] theorem buffer_holding (header : Message.DatagramHeader) (bytes : Bytes) :
    (holding header bytes).buffer = bytes := rfl

/-- A piece that is not longer than what is announced is taken whole. -/
theorem extend_holding {header : Message.DatagramHeader} {bytes chunk : Bytes}
    (room : header.len.toNat ≤ Datagram.maxLength)
    (fits : bytes.length + chunk.length ≤ header.len.toNat) :
    (holding header bytes).extend chunk = holding header (bytes ++ chunk) := by
  have grown : ((holding header bytes).extend chunk).buffer = bytes ++ chunk :=
    if_neg (Nat.not_lt.mpr (fits.trans room))
  have check : ((holding header bytes).extend chunk).crc = crc16 (bytes ++ chunk) :=
    (Crc.update_append Crc.start bytes chunk).symm
  change Reassembly.mk header ((holding header bytes).extend chunk).crc
    ((holding header bytes).extend chunk).buffer = _
  rw [check, grown]
  rfl

/-- Some announced bytes are still to come, all of them fit into the buffer, and the check is that
of the buffer. -/
structure UnderWay (context : Reassembly) : Prop where
  short : context.buffer.length < context.header.len.toNat
  room : context.header.len.toNat ≤ Datagram.maxLength
  check : context.crc = crc16 context.buffer

theorem UnderWay.extend_eq {context : Reassembly} {chunk : Bytes} (underWay : context.UnderWay)
    (fits : context.buffer.length + chunk.length ≤ context.header.len.toNat) :
    context.extend chunk = holding context.header (context.buffer ++ chunk) := by
  have same : context = holding context.header context.buffer := by
    rw [holding, ← underWay.check]
  rw [← extend_holding underWay.room fits, ← same]

end Reassembly

namespace Reassembler

variable {receiver : Reassembler} {chunk : Bytes}

/-- What is still pending after a piece has grown by that piece. -/
theorem pending_onData {grown : Reassembly} (pending : (receiver.onData chunk).2.pending = some grown) :
    ∃ context, receiver.pending = some context ∧ grown = context.extend chunk ∧
      context.buffer.length + chunk.length ≤ context.header.len.toNat ∧
      grown.buffer.length < context.header.len.toNat ∧ (receiver.onData chunk).1 = .ok none := by
  unfold onData at pending ⊢
  rcases before : receiver.pending with - | context
  · simp only [before] at pending
    cases pending
  simp only [before] at pending ⊢
  split at pending
  · cases pending
  next fits =>
    split at pending
    next short =>
      obtain rfl := Option.some.inj pending
      rw [if_neg fits, if_pos short]
      exact ⟨context, rfl, rfl, Nat.not_lt.mp fits, short, rfl⟩
    · split at pending <;> cases pending

/-- A datagram is handed over with its last piece, if its check is right. -/
theorem delivered_onData {datagram : Datagram} (delivered : (receiver.onData chunk).1 = .ok (some datagram)) :
    ∃ context, receiver.pending = some context ∧ datagram = (context.extend chunk).datagram ∧
      context.buffer.length + chunk.length ≤ context.header.len.toNat ∧
      context.header.len.toNat ≤ (context.extend chunk).buffer.length ∧
      (context.extend chunk).crc = context.header.crc := by
  unfold onData at delivered
  rcases before : receiver.pending with - | context
  · simp only [before] at delivered
    cases delivered
  simp only [before] at delivered
  split at delivered
  · cases delivered
  next fits =>
    split at delivered
    · cases delivered
    next whole =>
      split at delivered
      · cases delivered
      next valid =>
        obtain rfl := Option.some.inj (Except.ok.inj delivered)
        exact ⟨context, rfl, rfl, Nat.not_lt.mp fits, Nat.not_lt.mp whole, not_not.mp valid⟩

/-- A piece that fits is added; the datagram is handed over if it is whole and its check is right. -/
theorem onData_holding {header : Message.DatagramHeader} {bytes : Bytes}
    (room : header.len.toNat ≤ Datagram.maxLength)
    (fits : (bytes ++ chunk).length ≤ header.len.toNat) :
    onData ⟨some (.holding header bytes)⟩ chunk =
      if (bytes ++ chunk).length < header.len.toNat then
        (.ok none, ⟨some (.holding header (bytes ++ chunk))⟩)
      else if crc16 (bytes ++ chunk) ≠ header.crc then (.error .datagramCrc, {})
      else (.ok (some (Reassembly.holding header (bytes ++ chunk)).datagram), {}) := by
  rw [List.length_append] at fits
  simp only [onData, Reassembly.header_holding, Reassembly.buffer_holding, if_neg (Nat.not_lt.mpr fits),
    Reassembly.extend_holding room fits, Reassembly.crc_holding]

end Reassembler

namespace Desk

/-- The answers to an announcement after which nothing is left of an earlier datagram: it is accepted,
or refused for its length. -/
def replaces : Except DispatchError Unit → Bool
  | .ok () | .error .emptyDatagram | .error (.datagramTooLarge _) => true
  | _ => false

inductive Dispatched (desk : Desk) (state : LinkState) (dataId : UInt8) (payload : Bytes) :
    Except DispatchError Unit × Desk → Prop where
  | aside {result : Except DispatchError Unit} {next : Desk}
      (receiver : next.dispatcher.receiver = desk.dispatcher.receiver) (sink : next.sink = desk.sink)
      (noPiece : ¬(state = .alive ∧ dataId = Message.datagramDataId))
      (noHeader : dataId = Message.datagramHeaderId → replaces result = false) :
      Dispatched desk state dataId payload (result, next)
  | opened {header : Message.DatagramHeader} {next : Desk} (id : dataId = Message.datagramHeaderId)
      (decoded : Message.DatagramHeader.decode payload = .ok header)
      (positive : 0 < header.len.toNat) (small : header.len.toNat ≤ Datagram.maxLength)
      (receiver : next.dispatcher.receiver = ⟨some { header }⟩) (sink : next.sink = desk.sink) :
      Dispatched desk state dataId payload (.ok (), next)
  | refused {error : DispatchError} {next : Desk} (receiver : next.dispatcher.receiver = {})
      (sink : next.sink = desk.sink) : Dispatched desk state dataId payload (.error error, next)
  | piece {result : Except DispatchError Unit} {next : Desk} (alive : state = .alive)
      (id : dataId = Message.datagramDataId)
      (receiver : next.dispatcher.receiver = (desk.dispatcher.receiver.onData payload).2)
      (sink : next.sink =
        match (desk.dispatcher.receiver.onData payload).1 with
        | .ok (some datagram) => (desk.deliver datagram).sink
        | _ => desk.sink) :
      Dispatched desk state dataId payload (result, next)

def Aside (before after : Desk) : Prop :=
  after.dispatcher.receiver = before.dispatcher.receiver ∧ after.sink = before.sink

variable {desk : Desk} {state : LinkState} {dataId : UInt8} {payload : Bytes}

theorem Dispatched.of_aside {outcome : Except DispatchError Unit × Desk} (aside : Aside desk outcome.2)
    (noPiece : ¬(state = .alive ∧ dataId = Message.datagramDataId))
    (noHeader : dataId = Message.datagramHeaderId → replaces outcome.1 = false) :
    Dispatched desk state dataId payload outcome :=
  .aside aside.1 aside.2 noPiece noHeader

theorem dispatch_cases (desk : Desk) (state : LinkState) (dataId : UInt8) (payload : Bytes) :
    Dispatched desk state dataId payload ((dispatch state dataId payload).outcome desk) := by
  have takes := dispatch_takes desk state dataId payload
  generalize (dispatch state dataId payload).outcome desk = outcome at takes ⊢
  -- A message of another type cannot announce a datagram or carry a piece of one.
  have other : dataId ≠ Message.datagramDataId → dataId ≠ Message.datagramHeaderId →
      Aside desk outcome.2 → Dispatched desk state dataId payload outcome :=
    fun noData noHeader aside =>
      .of_aside aside (fun both => noData both.2) fun id => absurd id noHeader
  cases takes with
  | asleep dead => exact .of_aside ⟨rfl, rfl⟩ (fun both => dead both.1) fun _ => rfl
  | misfit _ known _ =>
    refine .of_aside ⟨rfl, rfl⟩ (fun both => ?_) fun _ => rfl
    rw [both.2] at known
    cases known
  | status _ id _ =>
    subst id
    exact other (by decide) (by decide) ⟨rfl, rfl⟩
  | info _ id _ =>
    subst id
    exact other (by decide) (by decide) ⟨rfl, rfl⟩
  | debug _ id _ =>
    subst id
    exact other (by decide) (by decide) ⟨rfl, rfl⟩
  | announced _ id decoded positive small => exact .opened id decoded positive small rfl rfl
  | busy _ id =>
    subst id
    exact .of_aside ⟨rfl, rfl⟩ (fun both => absurd both.2 (by decide)) fun _ => rfl
  | barred _ _ _ => exact .refused rfl rfl
  | @piece datagram? _ _ _ alive id taken given =>
    refine .piece alive id (by rw [taken]) ?_
    rw [taken, given]
    cases datagram? with
    | none => exact Option.map_id'
    | some datagram => rfl
  | spoilt alive id taken _ => exact .piece alive id (by rw [taken]) (by rw [taken])
  | handled _ unsized noPiece _ =>
    exact other noPiece ((Message.length?_eq_none_iff dataId).mp unsized).2.2.2 ⟨rfl, rfl⟩
  | unknown _ unsized noPiece _ =>
    exact other noPiece ((Message.length?_eq_none_iff dataId).mp unsized).2.2.2 ⟨rfl, rfl⟩

inductive Act where
  | dispatch (state : LinkState) (dataId : UInt8) (payload : Bytes)
  | reset
  /-- The socket layer has no room for datagrams to these ports from now on. -/
  | setBusy (ports : List UInt16)

def act (desk : Desk) : Act → Desk
  | .dispatch state dataId payload => ((dispatch state dataId payload).outcome desk).2
  | .reset => { desk with dispatcher := desk.dispatcher.reset }
  | .setBusy ports => { desk with sink := desk.sink.map (·.setBusy ports) }

def actAll (desk : Desk) (acts : List Act) : Desk := acts.foldl act desk

theorem actAll_concat (desk : Desk) (acts : List Act) (next : Act) :
    desk.actAll (acts ++ [next]) = (desk.actAll acts).act next :=
  List.foldl_append

def Act.piece : Act → Bytes
  | .dispatch state dataId payload =>
    if state = .alive ∧ dataId = Message.datagramDataId then payload else []
  | _ => []

def Delivers (desk : Desk) (next : Act) (datagram : Datagram) : Prop :=
  ∃ sink, desk.sink = some sink ∧
    (desk.act next).sink = some { sink with delivered := datagram :: sink.delivered }

def Opens (desk : Desk) (next : Act) (header : Message.DatagramHeader) : Prop :=
  ∃ state payload, next = .dispatch state Message.datagramHeaderId payload ∧
    Message.DatagramHeader.decode payload = .ok header ∧
    ((dispatch state Message.datagramHeaderId payload).outcome desk).1 = .ok ()

/-- An announcement does not count any longer: it was used for a delivery, or another one was accepted
or refused for its length, or the dispatcher was reset. -/
def Ends (desk : Desk) (next : Act) : Prop :=
  (∃ datagram, desk.Delivers next datagram) ∨
  (∃ state payload, next = .dispatch state Message.datagramHeaderId payload ∧
    replaces ((dispatch state Message.datagramHeaderId payload).outcome desk).1 = true) ∨
  next = .reset

/-- A datagram was announced in the past, the announcement still counts, and these are all bytes that
have come in since. -/
def Announced (desk : Desk) (past : List Act) (header : Message.DatagramHeader) (bytes : Bytes) :
    Prop :=
  ∃ before opening rest, past = before ++ opening :: rest ∧
    (desk.actAll before).Opens opening header ∧
    (∀ early next late, rest = early ++ next :: late →
      ¬(desk.actAll (before ++ opening :: early)).Ends next) ∧
    bytes = rest.flatMap Act.piece

theorem Opens.announced {start : Desk} {past : List Act} {next : Act}
    {header : Message.DatagramHeader} (opens : (start.actAll past).Opens next header) :
    start.Announced (past ++ [next]) header [] := by
  refine ⟨past, next, [], rfl, opens, fun early other late split => ?_, rfl⟩
  have length := congrArg List.length split
  simp at length

theorem Announced.concat {start : Desk} {past : List Act} {next : Act}
    {header : Message.DatagramHeader} {bytes : Bytes} (announced : start.Announced past header bytes)
    (goesOn : ¬(start.actAll past).Ends next) :
    start.Announced (past ++ [next]) header (bytes ++ next.piece) := by
  obtain ⟨before, opening, rest, rfl, opens, uninterrupted, rfl⟩ := announced
  refine ⟨before, opening, rest ++ [next], by simp, opens, fun early other late split => ?_, by simp⟩
  rcases List.eq_nil_or_concat late with rfl | ⟨late, last, rfl⟩
  · obtain ⟨rfl, same⟩ := List.append_inj' split rfl
    rwa [← (List.cons.inj same).1]
  · have parts : rest ++ [next] = (early ++ other :: late) ++ [last] := by simpa using split
    exact uninterrupted early other late (List.append_inj' parts rfl).1

theorem not_delivers {next : Act} (same : (desk.act next).sink.map Sink.delivered =
    desk.sink.map Sink.delivered) (datagram : Datagram) : ¬desk.Delivers next datagram := by
  rintro ⟨sink, before, after⟩
  rw [before, after] at same
  exact List.cons_ne_self _ _ (Option.some.inj same)

theorem not_ends_dispatch (untouched : ((dispatch state dataId payload).outcome desk).2.sink = desk.sink)
    (noHeader : dataId = Message.datagramHeaderId →
      replaces ((dispatch state dataId payload).outcome desk).1 = false) :
    ¬desk.Ends (.dispatch state dataId payload) := by
  rintro (⟨datagram, delivers⟩ | ⟨_, _, same, replaced⟩ | same)
  · refine not_delivers ?_ datagram delivers
    exact congrArg (Option.map Sink.delivered) untouched
  · cases same
    rw [noHeader rfl] at replaced
    cases replaced
  · cases same

theorem not_ends_setBusy (ports : List UInt16) : ¬desk.Ends (.setBusy ports) := by
  rintro (⟨datagram, delivers⟩ | ⟨_, _, same, _⟩ | same)
  · refine not_delivers ?_ datagram delivers
    rcases attached : desk.sink with - | sink <;> simp [act, attached, Sink.setBusy]
  · cases same
  · cases same

def Tracks (start : Desk) (past : List Act) : Prop :=
  ∀ context, (start.actAll past).dispatcher.receiver.pending = some context →
    start.Announced past context.header context.buffer ∧ context.UnderWay

/-- A frame leaves the pending datagram alone, opens a new one, or adds to it. -/
theorem Tracks.dispatch {start : Desk} {past : List Act} (tracks : Tracks start past)
    (state : LinkState) (dataId : UInt8) (payload : Bytes) :
    Tracks start (past ++ [.dispatch state dataId payload]) := by
  intro context pending
  rw [actAll_concat] at pending
  have dispatched := dispatch_cases (start.actAll past) state dataId payload
  have goesOn := @not_ends_dispatch (start.actAll past) state dataId payload
  change ((Desk.dispatch state dataId payload).outcome (start.actAll past)).2.dispatcher.receiver.pending
    = some context at pending
  generalize ran : (Desk.dispatch state dataId payload).outcome (start.actAll past) = outcome at *
  cases dispatched with
  | @aside result next receiver sink noPiece noHeader =>
    rw [receiver] at pending
    obtain ⟨announced, underWay⟩ := tracks context pending
    have more := announced.concat (goesOn sink noHeader)
    rw [Act.piece, if_neg noPiece, List.append_nil] at more
    exact ⟨more, underWay⟩
  | @opened header next id decoded positive small receiver sink =>
    rw [receiver] at pending
    obtain rfl := Option.some.inj pending
    subst id
    have opens : (start.actAll past).Opens (.dispatch state Message.datagramHeaderId payload) header :=
      ⟨state, payload, rfl, decoded, by rw [ran]⟩
    exact ⟨opens.announced, positive, small, rfl⟩
  | refused receiver sink =>
    rw [receiver] at pending
    cases pending
  | @piece result next alive id receiver sink =>
    rw [receiver] at pending
    obtain ⟨before, known, rfl, fits, short, none⟩ := Reassembler.pending_onData pending
    obtain ⟨announced, underWay⟩ := tracks before known
    rw [none] at sink
    have more := announced.concat (goesOn sink fun header => absurd (id.symm.trans header) (by decide))
    rw [Act.piece, if_pos ⟨alive, id⟩] at more
    rw [underWay.extend_eq fits] at short ⊢
    exact ⟨more, short, underWay.room, rfl⟩

theorem tracks_actAll {start : Desk} (fresh : start.dispatcher.receiver = {}) (past : List Act) :
    Tracks start past := by
  -- From the end, since `Announced` looks back at the acts so far.
  induction past using List.reverseRecOn with
  | nil =>
    intro context pending
    rw [show (start.actAll []).dispatcher.receiver = {} from fresh] at pending
    cases pending
  | append_singleton past next ih =>
    cases next with
    | dispatch state dataId payload => exact ih.dispatch state dataId payload
    | reset =>
      intro context pending
      rw [actAll_concat] at pending
      cases pending
    | setBusy ports =>
      intro context pending
      rw [actAll_concat] at pending
      obtain ⟨announced, underWay⟩ := ih context pending
      have more : start.Announced _ _ (context.buffer ++ []) :=
        announced.concat (not_ends_setBusy ports)
      rw [List.append_nil] at more
      exact ⟨more, underWay⟩

/-- A delivery is made by a piece that completes the datagram under way. -/
theorem Delivers.completes {next : Act} {datagram : Datagram} (delivers : desk.Delivers next datagram) :
    (desk.dispatcher.receiver.onData next.piece).1 = .ok (some datagram) := by
  cases next with
  | reset => exact absurd delivers (not_delivers rfl datagram)
  | setBusy ports => exact absurd (.inl ⟨datagram, delivers⟩) (not_ends_setBusy ports)
  | dispatch state dataId payload =>
    have dispatched := dispatch_cases desk state dataId payload
    have touched : ((dispatch state dataId payload).outcome desk).2.sink ≠ desk.sink := by
      intro same
      refine not_delivers ?_ datagram delivers
      exact congrArg (Option.map Sink.delivered) same
    obtain ⟨sink, before, after⟩ := delivers
    change ((dispatch state dataId payload).outcome desk).2.sink = _ at after
    generalize (dispatch state dataId payload).outcome desk = outcome at dispatched touched after
    cases dispatched with
    | aside _ same _ _ => exact absurd same touched
    | opened _ _ _ _ _ same => exact absurd same touched
    | refused _ same => exact absurd same touched
    | piece alive id _ handed =>
      rw [Act.piece, if_pos ⟨alive, id⟩]
      split at handed
      next other taken =>
        rw [handed, deliver, before] at after
        have same := congrArg Sink.delivered (Option.some.inj after)
        rw [taken, (List.cons.inj same).1]
      · exact absurd handed touched

/-- Reassembly delivers only what was announced. Every datagram that the socket layer is given goes
back to an announcement that counts: its addresses and ports are those of the announcement, its data
is everything that came in since, and length and check of the data are right. A datagram under way
still lacks some of the announced bytes, holds everything else that came in since its announcement,
and its running check is the check of what it holds. -/
theorem delivered_as_announced (start : Desk) (fresh : start.dispatcher.receiver = {})
    (past : List Act) :
    (∀ next datagram, (start.actAll past).Delivers next datagram →
      ∃ header bytes, start.Announced past header bytes ∧
        datagram = ⟨header.localPort, header.remotePort, header.addr, bytes ++ next.piece⟩ ∧
        datagram.data.length = header.len.toNat ∧ 1 ≤ header.len.toNat ∧
        header.len.toNat ≤ Datagram.maxLength ∧ crc16 datagram.data = header.crc) ∧
    ∀ context, (start.actAll past).dispatcher.receiver.pending = some context →
      start.Announced past context.header context.buffer ∧
        context.buffer.length < context.header.len.toNat ∧
        context.header.len.toNat ≤ Datagram.maxLength ∧ context.crc = crc16 context.buffer := by
  have tracks := tracks_actAll fresh past
  constructor
  · intro next datagram delivers
    obtain ⟨context, pending, rfl, fits, whole, valid⟩ :=
      Reassembler.delivered_onData delivers.completes
    obtain ⟨announced, underWay⟩ := tracks context pending
    rw [underWay.extend_eq fits] at whole valid ⊢
    rw [← List.length_append] at fits
    have some : 1 ≤ context.header.len.toNat := Nat.lt_of_le_of_lt (Nat.zero_le _) underWay.short
    exact ⟨context.header, context.buffer, announced, rfl, Nat.le_antisymm fits whole, some,
      underWay.room, valid⟩
  · intro context pending
    obtain ⟨announced, underWay⟩ := tracks context pending
    exact ⟨announced, underWay.short, underWay.room, underWay.check⟩

/-- A desk whose socket layer has no room for port 7. -/
def halfBusy : Desk := { sink := some { busy := [7] } }

def announcement (port : UInt16) : Act :=
  .dispatch .alive Message.datagramHeaderId
    (Message.DatagramHeader.bytes ⟨⟨10, 0, 0, 1⟩, port, 9, 3, crc16 [1, 2, 3]⟩)

/-- The first announcement is replaced by the second one, the third one is refused, and a piece that
comes while the link is not alive does not count. -/
def halfway : List Act :=
  [announcement 5, .dispatch .alive Message.datagramDataId [8], announcement 6,
    .dispatch .alive Message.datagramDataId [1], announcement 7,
    .dispatch .error Message.datagramDataId [9]]

theorem delivered_as_announced_halfway :
    (halfBusy.actAll halfway).Delivers (.dispatch .alive Message.datagramDataId [2, 3])
      ⟨6, 9, ⟨10, 0, 0, 1⟩, [1, 2, 3]⟩ ∧
    ∃ header bytes, halfBusy.Announced halfway header bytes ∧ header.localPort = 6 ∧
      bytes ++ [2, 3] = [1, 2, 3] := by
  have delivers : (halfBusy.actAll halfway).Delivers (.dispatch .alive Message.datagramDataId [2, 3])
      ⟨6, 9, ⟨10, 0, 0, 1⟩, [1, 2, 3]⟩ := ⟨{ busy := [7] }, by decide +kernel, by decide +kernel⟩
  obtain ⟨header, bytes, announced, same, -⟩ :=
    (delivered_as_announced halfBusy rfl halfway).1 _ _ delivers
  obtain ⟨port, -, -, data⟩ := Datagram.mk.inj same
  exact ⟨delivers, header, bytes, announced, port.symm, data.symm⟩

end Desk

end RadioLink
