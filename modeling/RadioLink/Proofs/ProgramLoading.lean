import RadioLink.Proofs.MessageLayouts
import RadioLink.Proofs.RequestAnswer
import RadioLink.Simulation.Peer

/-!
A program on its way to the co-processor. It goes out in parts, each of which says where it belongs, and an
empty part closes it. The far side takes the empty part as the sign that the program is complete, so that part
must not go out before all others have.
-/

namespace RadioLink

/-- A part of a program as it is sent: which program, its whole size, where the part belongs, and its bytes. -/
structure ProgramPart where
  vm : UInt32
  size : UInt16
  offset : UInt16
  chunk : Bytes
  deriving DecidableEq, Repr

namespace ProgramPart

def body (part : ProgramPart) : Bytes := Message.loadVm part.vm part.size part.offset part.chunk

def message (part : ProgramPart) : UInt8 × Bytes := (Message.loadVmId, part.body)

def ofBody? (body : Bytes) : Option ProgramPart :=
  if 8 ≤ body.length then some ⟨body.uint32At 0, body.uint16At 4, body.uint16At 6, body.drop 8⟩ else none

def ofWire? (data : Bytes) : Option ProgramPart := (Frame.bodyOf? Message.loadVmId data).bind ofBody?

theorem length_body {part : ProgramPart} (short : part.chunk.length ≤ 64) :
    part.body.length = 8 + part.chunk.length := by
  have whole : part.chunk.take Message.programChunk = part.chunk := List.take_of_length_le short
  rw [body, Message.loadVm, whole, List.length_append]
  rfl

theorem ofBody?_body {part : ProgramPart} (short : part.chunk.length ≤ 64) :
    ofBody? part.body = some part := by
  have long : 8 ≤ part.body.length := by
    rw [length_body short]
    exact Nat.le_add_right 8 _
  have whole : part.body.drop 8 = part.chunk := List.take_of_length_le short
  rw [ofBody?, if_pos long, whole, body, Message.uint32At_loadVm, Message.size_loadVm,
    Message.offset_loadVm]

theorem ofWire?_wire {part : ProgramPart} (short : part.chunk.length ≤ 64) {parcel : Parcel}
    (carries : (parcel.dataId, parcel.payload) = part.message) : ofWire? parcel.wire = some part := by
  obtain ⟨type, payload⟩ := Prod.mk.inj carries
  rw [ofWire?, parcel.bodyOf?_wire, if_pos type, payload]
  exact ofBody?_body short

def laid (vm : UInt32) (size : UInt16) : (offset : Nat) → List Bytes → List ProgramPart
  | _, [] => []
  | offset, chunk :: rest =>
    ⟨vm, size, UInt16.ofNat offset, chunk⟩ :: laid vm size (offset + chunk.length) rest

/-- A program in parts: its bytes in chunks of 64, and the empty part that closes it. -/
def program (vm : UInt32) (size : UInt16) (content : Bytes) : List ProgramPart :=
  laid vm size 0 (Bytes.chunks 64 (content.take size.toNat)) ++ [⟨vm, size, size, []⟩]

theorem flatMap_chunk_laid (vm : UInt32) (size : UInt16) (offset : Nat) (chunks : List Bytes) :
    (laid vm size offset chunks).flatMap chunk = chunks.flatten := by
  induction chunks generalizing offset with
  | nil => rfl
  | cons first rest ih => rw [laid, List.flatMap_cons, ih, List.flatten_cons]

theorem length_flatten_chunks (size : UInt16) (content : Bytes) :
    (Bytes.chunks 64 (content.take size.toNat)).flatten.length = min size.toNat content.length := by
  rw [Bytes.flatten_chunks (by decide), List.length_take]

theorem laid_append (vm : UInt32) (size : UInt16) (offset : Nat) (first second : List Bytes) :
    laid vm size offset (first ++ second) =
      laid vm size offset first ++ laid vm size (offset + first.flatten.length) second := by
  induction first generalizing offset with
  | nil => rfl
  | cons chunk rest ih =>
    rw [List.cons_append, laid, ih, laid, List.flatten_cons, List.length_append, Nat.add_assoc,
      List.cons_append]

/-- A program that is there whole ends at its size, so that the closing part is laid like the others. -/
theorem program_eq_laid (vm : UInt32) {size : UInt16} {content : Bytes} (long : size.toNat ≤ content.length) :
    program vm size content = laid vm size 0 (Bytes.chunks 64 (content.take size.toNat) ++ [[]]) := by
  rw [laid_append, length_flatten_chunks, Nat.min_eq_left long, Nat.zero_add, laid, laid, UInt16.ofNat_toNat]
  rfl

/-- A chunk goes where those before it end. -/
theorem laid_eq_append {vm : UInt32} {size : UInt16} {offset : Nat} {chunks : List Bytes}
    {front back : List ProgramPart} {part : ProgramPart}
    (cut : laid vm size offset chunks = front ++ part :: back) :
    part.vm = vm ∧ part.size = size ∧ part.chunk ∈ chunks ∧
      part.offset = UInt16.ofNat (offset + (front.flatMap chunk).length) ∧
      (front.flatMap chunk).length + part.chunk.length ≤ chunks.flatten.length := by
  induction chunks generalizing offset front with
  | nil => simp [laid] at cut
  | cons first rest ih =>
    rw [laid] at cut
    cases front with
    | nil =>
      obtain ⟨rfl, -⟩ := List.cons.inj cut
      exact ⟨rfl, rfl, List.mem_cons_self, rfl, by simp⟩
    | cons head others =>
      obtain ⟨rfl, later⟩ := List.cons.inj cut
      obtain ⟨same, total, member, place, inside⟩ := ih later
      simp only [List.flatMap_cons, List.flatten_cons, List.length_append]
      refine ⟨same, total, List.mem_cons_of_mem _ member, ?_, by omega⟩
      rw [place, Nat.add_assoc]

/-- An offset does not wrap as long as all chunks together are less than 64 KiB. -/
theorem placed_of_laid {vm : UInt32} {size : UInt16} {chunks : List Bytes} {parts : List ProgramPart}
    (short : ∀ chunk ∈ chunks, chunk.length ≤ 64) (small : chunks.flatten.length < 65536)
    (starts : parts <+: laid vm size 0 chunks) {front back : List ProgramPart} {part : ProgramPart}
    (cut : parts = front ++ part :: back) :
    part.vm = vm ∧ part.size = size ∧ part.chunk.length ≤ 64 ∧
      part.offset.toNat = (front.flatMap chunk).length := by
  obtain ⟨more, all⟩ := starts
  rw [cut, List.append_assoc, List.cons_append] at all
  obtain ⟨same, total, member, place, inside⟩ := laid_eq_append all.symm
  refine ⟨same, total, short _ member, ?_⟩
  rw [place, Nat.zero_add]
  exact Nat.mod_eq_of_lt (by omega)

theorem chunk_of_mem_laid {vm : UInt32} {size : UInt16} {offset : Nat} {chunks : List Bytes}
    {part : ProgramPart} (member : part ∈ laid vm size offset chunks) : part.chunk ∈ chunks := by
  obtain ⟨front, back, cut⟩ := List.append_of_mem member
  exact (laid_eq_append cut).2.2.1

end ProgramPart

open ProgramPart

namespace Transport

variable {σ : Type}

inductive Ships (dataId : UInt8) (payload : Bytes) :
    Except LinkError Unit → (tried sent : List Bytes) → Prop where
  | unready {error : LinkError} : Ships dataId payload (.error error) [] []
  | broken {error : LinkError} (parcel : Parcel) (carries : (parcel.dataId, parcel.payload) = (dataId, payload)) :
      Ships dataId payload (.error error) [parcel.wire] []
  | sent (parcel : Parcel) (carries : (parcel.dataId, parcel.payload) = (dataId, payload)) :
      Ships dataId payload (.ok ()) [parcel.wire] [parcel.wire]

theorem Tries.ships {dataId : UInt8} {payload : Bytes} {before after : Transport σ}
    {result : Except LinkError Unit} (tries : Tries dataId payload before result after) :
    ∃ events, Line.Did events before.line after.line ∧
      Ships dataId payload result (events.filterMap Event.written?) (events.filterMap Event.sent?) := by
  obtain ⟨⟨events, episode, -⟩, -⟩ := tries.sends
  refine ⟨events, episode.did, ?_⟩
  rw [← episode.did.since_eq]
  rcases before.refuses_or_ready payload with ⟨_, refuses⟩ | ⟨fits, ready⟩
  · rw [(tries.noted_of_refuses refuses).events_eq]
    cases tries with
    | refused => exact .unready
    | failed fits ready | sent fits ready => exact absurd refuses (not_refuses fits ready)
  · rw [tries.written fits ready]
    cases result with
    | ok =>
      rw [tries.sent_of_ok fits]
      exact .sent (before.nextParcel dataId fits) rfl
    | error =>
      rw [tries.sent_of_error]
      exact .broken (before.nextParcel dataId fits) rfl

theorem Ships.error {dataId : UInt8} {payload : Bytes} {error : LinkError} {tried sent : List Bytes}
    (ships : Ships dataId payload (.error error) tried sent) (other : LinkError) :
    Ships dataId payload (.error other) tried sent := by
  cases ships with
  | unready => exact .unready
  | broken parcel carries => exact .broken parcel carries

variable [Peer σ]

theorem sendBlocking_ships (dataId : UInt8) (payload : Bytes) (transport : Transport σ) :
    ∃ events,
      Line.Did events transport.line ((sendBlocking dataId payload).outcome transport).2.line ∧
      Ships dataId payload ((sendBlocking dataId payload).outcome transport).1
        (events.filterMap Event.written?) (events.filterMap Event.sent?) := by
  obtain ⟨noise, far, waited⟩ := Line.awaitReadyFrom_noise transport.now transport.timeout
    (Line.pollCount transport.timeout) transport.line
  change Line.Did noise transport.line (transport.awaitReady transport.timeout).2.line at waited
  rcases await : transport.awaitReady transport.timeout with ⟨ready, reached⟩
  rw [await] at waited
  cases ready with
  | false =>
    have late : (sendBlocking dataId payload).outcome transport = (.error .timeout, reached) := by
      rw [sendBlocking, Action.outcome_bind, Action.outcome_total, await]
      rfl
    rw [late]
    refine ⟨noise, waited, ?_⟩
    rw [far.idle.filterMap_written, far.idle.filterMap_sent]
    exact .unready
  | true =>
    obtain ⟨events, did, ships⟩ := (send_tries dataId payload reached).ships
    rcases sent : (send dataId payload).outcome reached with ⟨result, next⟩
    rw [sent] at did ships
    rw [sendBlocking_of_ready await sent]
    refine ⟨noise ++ events, ?_⟩
    rw [List.filterMap_append, List.filterMap_append, far.idle.filterMap_written,
      far.idle.filterMap_sent]
    cases result with
    | ok => exact ⟨waited.append did, ships⟩
    | error error => exact ⟨waited.append did, ships.error _⟩

end Transport

def Line.Carries {σ : Type} (tried sent : List ProgramPart) (before after : Line σ) : Prop :=
  ∃ events, Did events before after ∧
    (events.filterMap Event.written?).map ofWire? = tried.map some ∧
    (events.filterMap Event.sent?).map ofWire? = sent.map some

theorem Line.Carries.append {σ : Type} {tried sent more others : List ProgramPart}
    {before middle after : Line σ} (early : Carries tried sent before middle)
    (late : Carries more others middle after) : Carries (tried ++ more) (sent ++ others) before after := by
  obtain ⟨events, did, handed, went⟩ := early
  obtain ⟨further, next, hands, goes⟩ := late
  refine ⟨events ++ further, did.append next, ?_, ?_⟩
  · rw [List.filterMap_append, List.map_append, handed, hands, List.map_append]
  · rw [List.filterMap_append, List.map_append, went, goes, List.map_append]

structure Loads (parts : List ProgramPart) (last : ProgramPart) (readable : Prop)
    (result : Except LinkError Unit) (tried sent : List ProgramPart) : Prop where
  kept : sent <+: tried
  ordered : tried <+: parts ++ [last]
  unclosed : ¬readable → tried <+: parts
  whole : result = .ok () → readable ∧ sent = parts ++ [last]
  broken : ∀ error, result = .error error → sent <+: parts

theorem Loads.cons {parts : List ProgramPart} {last : ProgramPart} {readable : Prop}
    {result : Except LinkError Unit} {tried sent : List ProgramPart}
    (loads : Loads parts last readable result tried sent) (part : ProgramPart) :
    Loads (part :: parts) last readable result (part :: tried) (part :: sent) where
  kept := (List.prefix_cons_inj part).mpr loads.kept
  ordered := (List.prefix_cons_inj part).mpr loads.ordered
  unclosed unread := (List.prefix_cons_inj part).mpr (loads.unclosed unread)
  whole done := ⟨(loads.whole done).1, congrArg (part :: ·) (loads.whole done).2⟩
  broken error failed := (List.prefix_cons_inj part).mpr (loads.broken error failed)

/-- What holds of the parts that can be read holds of the whole program, unless it cannot be read. -/
theorem Loads.extend {parts all : List ProgramPart} {last final : ProgramPart} {readable : Prop}
    {result : Except LinkError Unit} {tried sent : List ProgramPart}
    (loads : Loads parts last readable result tried sent) (starts : parts <+: all)
    (whole : readable → parts = all ∧ last = final) : Loads all final readable result tried sent where
  kept := loads.kept
  ordered := by
    by_cases read : readable
    · obtain ⟨rfl, rfl⟩ := whole read
      exact loads.ordered
    · exact ((loads.unclosed read).trans starts).trans (List.prefix_append all [final])
  unclosed unread := (loads.unclosed unread).trans starts
  whole done := by
    obtain ⟨read, sent⟩ := loads.whole done
    obtain ⟨rfl, rfl⟩ := whole read
    exact ⟨read, sent⟩
  broken error failed := (loads.broken error failed).trans starts

namespace Link

variable {σ : Type} [Peer σ]

theorem sendBlocking_carries {part : ProgramPart} (short : part.chunk.length ≤ 64) (link : Link σ) :
    let run := (sendBlocking Message.loadVmId part.body).outcome link
    (∃ error tried, run.1 = .error error ∧ tried <+: [part] ∧ link.line.Carries tried [] run.2.line) ∨
      run.1 = .ok () ∧ link.line.Carries [part] [part] run.2.line := by
  intro run
  obtain ⟨events, did, ships⟩ := Transport.sendBlocking_ships Message.loadVmId part.body link.transport
  have ran : run = _ := outcome_onTransport _ link
  rw [ran]
  generalize (Transport.sendBlocking Message.loadVmId part.body).outcome link.transport = sending at did ships ⊢
  obtain ⟨result, transport⟩ := sending
  generalize tried : events.filterMap Event.written? = handed at ships
  generalize sent : events.filterMap Event.sent? = went at ships
  cases ships with
  | unready => exact .inl ⟨_, [], rfl, List.nil_prefix, events, did, by rw [tried]; rfl, by rw [sent]; rfl⟩
  | broken parcel carries =>
    refine .inl ⟨_, [part], rfl, List.prefix_rfl, events, did, ?_, by rw [sent]; rfl⟩
    rw [tried, List.map_singleton, ofWire?_wire short carries]
    rfl
  | sent parcel carries =>
    refine .inr ⟨rfl, events, did, ?_, ?_⟩
    · rw [tried, List.map_singleton, ofWire?_wire short carries]
      rfl
    · rw [sent, List.map_singleton, ofWire?_wire short carries]
      rfl

theorem loadVmFrom_ok (vm : UInt32) (size : UInt16) (offset : Nat) (chunk : Bytes)
    (rest : List (Except Fault Bytes)) :
    (loadVmFrom vm size (UInt16.ofNat offset) (.ok chunk :: rest) : Action LinkError (Link σ) Unit) =
      (sendBlocking Message.loadVmId (ProgramPart.mk vm size (UInt16.ofNat offset) chunk).body >>=
        fun _ => loadVmFrom vm size (UInt16.ofNat (offset + chunk.length)) rest) := by
  rw [loadVmFrom, UInt16.ofNat_add]
  rfl

/-- Where a program ends whose first chunk is set apart. -/
theorem end_readable (offset : Nat) (chunk : Bytes) (rest : List (Except Fault Bytes)) :
    offset + (Reader.readable (.ok chunk :: rest)).flatten.length =
      offset + chunk.length + (Reader.readable rest).flatten.length := by
  rw [Reader.readable, List.flatten_cons, List.length_append, Nat.add_assoc]

/-- Whatever can be read goes out in order, as far as the far side takes it, and the closing part after it. -/
theorem loadVmFrom_loads (vm : UInt32) (size : UInt16) {blocks : List (Except Fault Bytes)}
    (short : ∀ block ∈ Reader.readable blocks, block.length ≤ 64) (offset : Nat) (link : Link σ) :
    let run := (loadVmFrom vm size (UInt16.ofNat offset) blocks).outcome link
    ∃ tried sent, link.line.Carries tried sent run.2.line ∧
      Loads (laid vm size offset (Reader.readable blocks))
        ⟨vm, size, UInt16.ofNat (offset + (Reader.readable blocks).flatten.length), []⟩
        (∀ fault, .error fault ∉ blocks) run.1 tried sent := by
  induction blocks generalizing offset link with
  | nil =>
    rcases @sendBlocking_carries σ _ ⟨vm, size, UInt16.ofNat offset, []⟩ (Nat.zero_le _) link with
      ⟨error, tried, failed, some, carries⟩ | ⟨done, carries⟩
    · refine ⟨tried, [], carries, List.nil_prefix, some, fun unread => absurd (by simp) unread,
        fun done => ?_, fun _ _ => List.nil_prefix⟩
      cases failed.symm.trans done
    · refine ⟨_, _, carries, List.prefix_rfl, List.prefix_rfl, fun unread => absurd (by simp) unread,
        fun _ => ⟨by simp, rfl⟩, fun error failed => ?_⟩
      cases done.symm.trans failed
  | cons block rest ih =>
    cases block with
    | error fault =>
      -- the load ends here, and the closing part is never tried
      refine ⟨[], [], ⟨[], .same rfl, rfl, rfl⟩, List.prefix_rfl, List.nil_prefix, fun _ => List.nil_prefix,
        fun done => ?_, fun _ _ => List.nil_prefix⟩
      cases done
    | ok chunk =>
      dsimp only
      rw [end_readable, loadVmFrom_ok, Reader.readable, laid]
      rcases @sendBlocking_carries σ _ ⟨vm, size, UInt16.ofNat offset, chunk⟩ (short chunk List.mem_cons_self)
        link with ⟨error, tried, failed, some, carries⟩ | ⟨done, carries⟩
      · rw [Action.outcome_bind_error (Prod.ext failed rfl)]
        have starts := some.trans (List.prefix_append [_] (laid vm size (offset + chunk.length)
          (Reader.readable rest)))
        refine ⟨tried, [], carries, List.nil_prefix, starts.trans (List.prefix_append _ _), fun _ => starts,
          fun done => ?_, fun _ _ => List.nil_prefix⟩
        cases done
      · rw [Action.outcome_bind_ok (Prod.ext done rfl)]
        obtain ⟨tried, sent, later, loads⟩ := ih (fun block member => short block (List.mem_cons_of_mem _ member))
          (offset + chunk.length) ((sendBlocking Message.loadVmId
            (ProgramPart.mk vm size (UInt16.ofNat offset) chunk).body).outcome link).2
        have sound : (∀ fault, (.error fault : Except Fault Bytes) ∉ .ok chunk :: rest) ↔
            ∀ fault, (.error fault : Except Fault Bytes) ∉ rest := by simp
        rw [sound]
        exact ⟨_, _, carries.append later, loads.cons _⟩

theorem sendBlocking_served {part : ProgramPart} (short : part.chunk.length ≤ 64) {link : Link σ}
    (ready : link.transport.line.ComesReady link.transport.timeout)
    (unbroken : Sound (link.transport.line.since
      ((Transport.sendBlocking Message.loadVmId part.body).outcome link.transport).2.line)) :
    (sendBlocking Message.loadVmId part.body).outcome link =
      (.ok (), { link with
        transport := ((Transport.sendBlocking Message.loadVmId part.body).outcome link.transport).2 }) := by
  have fits : part.body.length ≤ Frame.maxPayload := by
    rw [length_body short]
    exact (Nat.add_le_add_left short 8).trans (by decide)
  obtain ⟨next, done, -⟩ := Transport.sendBlocking_sent fits ready unbroken
  rw [sendBlocking, outcome_onTransport, done]

/-- A program that can be read, and each part of which is served, is loaded. -/
theorem loadVmFrom_served (vm : UInt32) (size : UInt16) {blocks : List (Except Fault Bytes)}
    (short : ∀ block ∈ Reader.readable blocks, block.length ≤ 64)
    (sound : ∀ fault, .error fault ∉ blocks) (offset : Nat) {link : Link σ}
    (serves : link.transport.Serves ((laid vm size offset (Reader.readable blocks) ++
      [ProgramPart.mk vm size (UInt16.ofNat (offset + (Reader.readable blocks).flatten.length)) []]).map
        message)) :
    ((loadVmFrom vm size (UInt16.ofNat offset) blocks).outcome link).1 = .ok () := by
  induction blocks generalizing offset link with
  | nil =>
    obtain ⟨ready, unbroken, -⟩ := serves
    exact congrArg Prod.fst
      (@sendBlocking_served σ _ ⟨vm, size, UInt16.ofNat offset, []⟩ (Nat.zero_le _) link ready unbroken)
  | cons block rest ih =>
    cases block with
    | error fault => exact absurd List.mem_cons_self (sound fault)
    | ok chunk =>
      rw [end_readable] at serves
      obtain ⟨ready, unbroken, later⟩ := serves
      have first := @sendBlocking_served σ _ ⟨vm, size, UInt16.ofNat offset, chunk⟩
        (short chunk List.mem_cons_self) link ready unbroken
      rw [loadVmFrom_ok, Action.outcome_bind_ok first]
      exact ih (fun block member => short block (List.mem_cons_of_mem _ member))
        (fun fault member => sound fault (List.mem_cons_of_mem _ member)) (offset + chunk.length) later

theorem short_of_mem_chunks {content chunk : Bytes} (member : chunk ∈ Bytes.chunks 64 content) :
    chunk.length ≤ 64 :=
  (Bytes.length_of_mem_pieces (by decide) member).2

theorem loadProgram_loads (vm : UInt32) (reader : Reader) (size : UInt16) (link : Link σ) :
    let run := (loadProgram vm reader size).outcome link
    ∃ tried sent, link.line.Carries tried sent run.2.line ∧
      Loads (laid vm size 0 (Bytes.chunks 64 (reader.content.take size.toNat))) ⟨vm, size, size, []⟩
        (∀ fault, .error fault ∉ reader.blocks 64 size.toNat) run.1 tried sent := by
  have starts := reader.readable_blocks (by decide : 0 < 64) size.toNat
  obtain ⟨tried, sent, carries, loads⟩ := @loadVmFrom_loads σ _ vm size (reader.blocks 64 size.toNat)
    (fun block member => short_of_mem_chunks (starts.subset member)) 0 (link.note (.loadingVm vm size))
  refine ⟨tried, sent, carries, loads.extend ?_ fun sound => ?_⟩
  · obtain ⟨more, all⟩ := starts
    rw [← all, laid_append]
    exact List.prefix_append _ _
  · obtain ⟨all, long⟩ := reader.readable_blocks_of_sound (by decide : 0 < 64) size.toNat sound
    rw [all, length_flatten_chunks, Nat.min_eq_left long, Nat.zero_add, UInt16.ofNat_toNat]
    exact ⟨rfl, rfl⟩

theorem loadProgram_served (vm : UInt32) {reader : Reader} {size : UInt16} {link : Link σ}
    (healthy : ∀ number, reader.fault number = none) (long : size.toNat ≤ reader.content.length)
    (serves : (link.note (.loadingVm vm size)).transport.Serves
      ((program vm size reader.content).map message)) :
    ((loadProgram vm reader size).outcome link).1 = .ok () := by
  have sound := reader.sound_blocks (by decide : 0 < 64) size.toNat healthy long
  obtain ⟨whole, -⟩ := reader.readable_blocks_of_sound (by decide : 0 < 64) size.toNat sound
  refine loadVmFrom_served vm size ?_ sound 0 ?_
  · rw [whole]
    exact fun chunk member => short_of_mem_chunks member
  · rw [whole, length_flatten_chunks, Nat.min_eq_left long, Nat.zero_add, UInt16.ofNat_toNat]
    exact serves

/-- Whatever is handed to a write goes where the bytes before it end. -/
theorem placed_of_loads {vm : UInt32} {size : UInt16} {reader : Reader} {result : Except LinkError Unit}
    {tried sent : List ProgramPart}
    (loads : Loads (laid vm size 0 (Bytes.chunks 64 (reader.content.take size.toNat))) ⟨vm, size, size, []⟩
      (∀ fault, .error fault ∉ reader.blocks 64 size.toNat) result tried sent)
    {front back : List ProgramPart} {part : ProgramPart} (cut : tried = front ++ part :: back) :
    part.vm = vm ∧ part.size = size ∧ part.chunk.length ≤ 64 ∧
      part.offset.toNat = (front.flatMap ProgramPart.chunk).length := by
  have small : (Bytes.chunks 64 (reader.content.take size.toNat)).flatten.length < 65536 := by
    rw [length_flatten_chunks]
    exact lt_of_le_of_lt (Nat.min_le_left _ _) size.toNat_lt
  by_cases sound : ∀ fault, .error fault ∉ reader.blocks 64 size.toNat
  · -- the closing part may be among them, and then it stands at the end of the program
    have long := (reader.readable_blocks_of_sound (by decide) size.toNat sound).2
    have starts : tried <+: program vm size reader.content := loads.ordered
    rw [program_eq_laid vm long] at starts
    refine placed_of_laid ?_ ?_ starts cut
    · intro chunk member
      rcases List.mem_append.mp member with piece | empty
      · exact short_of_mem_chunks piece
      · rw [List.mem_singleton.mp empty]
        exact Nat.zero_le 64
    · rw [List.flatten_append, List.length_append]
      exact small
  · exact placed_of_laid (fun chunk member => short_of_mem_chunks member) small (loads.unclosed sound) cut

/-- A program arrives whole, or it is not marked complete. Whatever the image reads as and the far side does,
all that is handed to a write are frames with parts of the program, each of at most 64 bytes, that name the
program and its size and go where the bytes before them end. If the load succeeds, the bytes that have gone out
are the first `size` bytes of the image, and one empty part at their end closes them. If it fails, what has gone
out stops short of that part. A load for which the image can be read and the far side serves every frame
succeeds. -/
theorem program_whole_or_unmarked (vm : UInt32) (reader : Reader) (size : UInt16) (link : Link σ) :
    let run := (loadProgram vm reader size).outcome link
    let events := link.line.since run.2.line
    ∃ tried sent : List ProgramPart,
      (events.filterMap Event.written?).map ofWire? = tried.map some ∧
      (events.filterMap Event.sent?).map ofWire? = sent.map some ∧
      sent <+: tried ∧
      (∀ front part back, tried = front ++ part :: back →
        part.vm = vm ∧ part.size = size ∧ part.chunk.length ≤ 64 ∧
          part.offset.toNat = (front.flatMap ProgramPart.chunk).length) ∧
      (run.1 = .ok () →
        size.toNat ≤ reader.content.length ∧ sent = program vm size reader.content ∧
        ∃ front, sent = front ++ [⟨vm, size, size, []⟩] ∧ (∀ part ∈ front, part.chunk ≠ []) ∧
          front.flatMap ProgramPart.chunk = reader.content.take size.toNat) ∧
      (∀ error, run.1 = .error error →
        sent <+: program vm size reader.content ∧ sent ≠ program vm size reader.content ∧
          ∀ part ∈ sent, part.chunk ≠ []) ∧
      ((∀ number, reader.fault number = none) → size.toNat ≤ reader.content.length →
        (link.note (.loadingVm vm size)).transport.Serves
          ((program vm size reader.content).map message) →
        run.1 = .ok ()) := by
  intro run events
  obtain ⟨tried, sent, ⟨all, did, handed, went⟩, loads⟩ := loadProgram_loads vm reader size link
  have since : events = all := did.since_eq
  have present : ∀ part ∈ laid vm size 0 (Bytes.chunks 64 (reader.content.take size.toNat)), part.chunk ≠ [] :=
    fun part member => List.ne_nil_of_length_pos
      (Bytes.length_of_mem_pieces (by decide) (chunk_of_mem_laid member)).1
  refine ⟨tried, sent, by rw [since, handed], by rw [since, went], loads.kept,
    fun front part back cut => placed_of_loads loads cut, fun done => ?_, fun error failed => ?_,
    loadProgram_served vm⟩
  · obtain ⟨sound, whole⟩ := loads.whole done
    refine ⟨(reader.readable_blocks_of_sound (by decide) size.toNat sound).2, whole, _, whole, present, ?_⟩
    rw [flatMap_chunk_laid, Bytes.flatten_chunks (by decide)]
  · -- what has gone out lacks at least the closing part
    have starts := loads.broken error failed
    refine ⟨starts.trans (List.prefix_append _ _), fun whole => ?_,
      fun part member => present part (starts.subset member)⟩
    have longer := starts.length_le
    rw [whole, program, List.length_append, List.length_singleton] at longer
    omega

/-- A link to a far side that is ready for the first frame, and again some time after each frame. -/
def unhurried : Link Simulation.Script :=
  { transport := Datagram.unhurried, store := { config := {} }, images := .fixed none none }

/-- A program of one byte more than fits into one part. -/
def counted : Reader := { content := (List.range 65).map UInt8.ofNat }

theorem program_whole_or_unmarked_unhurried :
    (∀ number, counted.fault number = none) ∧ (65 : UInt16).toNat ≤ counted.content.length ∧
    (unhurried.note (.loadingVm 3 65)).transport.Serves ((program 3 65 counted.content).map message) ∧
    ((loadProgram 3 counted 65).outcome unhurried).1 = .ok () ∧
    ((unhurried.line.since ((loadProgram 3 counted 65).outcome unhurried).2.line).filterMap
        Event.sent?).map ofWire? =
      [some ⟨3, 65, 0, (List.range 64).map UInt8.ofNat⟩, some ⟨3, 65, 64, [64]⟩, some ⟨3, 65, 65, []⟩] := by
  have parts : program 3 65 counted.content =
      [⟨3, 65, 0, (List.range 64).map UInt8.ofNat⟩, ⟨3, 65, 64, [64]⟩, ⟨3, 65, 65, []⟩] := by
    decide +kernel
  have served : (unhurried.note (.loadingVm 3 65)).transport.Serves
      ((program 3 65 counted.content).map message) := by
    rw [parts]
    exact ⟨⟨0, by decide +kernel, rfl⟩, by decide +kernel,
      ⟨3, by decide +kernel, by decide +kernel⟩, by decide +kernel,
      ⟨20, by decide +kernel, by decide +kernel⟩, by decide +kernel, trivial⟩
  have long : (65 : UInt16).toNat ≤ counted.content.length := by decide
  obtain ⟨tried, sent, -, went, -, -, whole, -, succeeds⟩ :=
    program_whole_or_unmarked 3 counted 65 unhurried
  have done := succeeds (fun _ => rfl) long served
  obtain ⟨-, all, -⟩ := whole done
  rw [went, all, parts]
  exact ⟨fun _ => rfl, long, served, done, rfl⟩

end Link

end RadioLink
