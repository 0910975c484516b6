import RadioLink.Proofs.FirmwareTalk
import RadioLink.Proofs.JoinRequests
import RadioLink.Proofs.LiveRun
import RadioLink.Simulation.Peer

/-!
The port table and its copy on the far side. Every difference that a change makes to the table shows in
the flag, and the flag is taken down only together with a frame that carries the table. So a table
whose flag is down is the one that the far side was told last.
-/

namespace RadioLink

def Message.portsCopy? (data : Bytes) : Option Bytes :=
  ((Frame.ofWire? data).filter fun frame => frame.dataId = portsId).map Frame.payload

theorem Parcel.portsCopy?_wire (parcel : Parcel) : Message.portsCopy? parcel.wire =
    if parcel.dataId = Message.portsId then some parcel.payload else none :=
  parcel.bodyOf?_wire Message.portsId

def Event.copied? : Event → Option Bytes
  | .done (.write data) => Message.portsCopy? data
  | _ => none

theorem Event.copied?_eq_none {event : Event}
    (other : ∀ data, event.written? = some data → Message.portsCopy? data = none) :
    event.copied? = none := by
  cases event with
  | done c =>
    cases c with
    | write data => exact other data rfl
    | _ => rfl
  | _ => rfl

theorem Idle.filterMap_copied {events : List Event} (idle : Idle events) :
    events.filterMap Event.copied? = [] := by
  apply idle.filterMap_eq
  intro event idle
  cases event <;> simp [Event.isIdle, Event.copied?] at idle ⊢

def lastCopy (copy : Bytes) (events : List Event) : Bytes :=
  (events.filterMap Event.copied?).getLast?.getD copy

theorem lastCopy_append (copy : Bytes) (first second : List Event) :
    lastCopy copy (first ++ second) = lastCopy (lastCopy copy first) second := by
  rw [lastCopy, List.filterMap_append, List.getLast?_append, Option.getD_or]
  rfl

namespace PortTable

/-- The far side has this table, unless the flag says otherwise. -/
def Mirrored (table : PortTable) (copy : Bytes) : Prop :=
  table.changed = false → table.bytes = copy

def Flagged (before after : PortTable) : Prop :=
  after.changed = false → before.changed = false ∧ after.bytes = before.bytes

theorem Flagged.mirrored {before after : PortTable} (flagged : Flagged before after) {copy : Bytes}
    (mirrored : before.Mirrored copy) : after.Mirrored copy := by
  intro down
  obtain ⟨same, bytes⟩ := flagged down
  exact bytes.trans (mirrored same)

theorem Flagged.refl (table : PortTable) : Flagged table table := fun down => ⟨down, rfl⟩

theorem flagged_closePort (table : PortTable) (port : UInt16) :
    Flagged table (table.closePort port) := by
  intro down
  -- closing a port that is not open leaves every slot as it is
  have flag : (table.changed || table.slots.contains port) = false := down
  rw [Bool.or_eq_false_iff] at flag
  obtain ⟨same, absent⟩ := flag
  have kept : free port table.slots = table.slots := by
    calc free port table.slots
        = table.slots.map id := by
          apply List.map_congr_left
          intro slot member
          apply if_neg
          rintro rfl
          simp [member] at absent
      _ = table.slots := List.map_id _
  exact ⟨same, congrArg encode kept⟩

theorem flagged_openPort (table : PortTable) (port : UInt16) :
    Flagged table (table.openPort port).2 := by
  unfold openPort
  split
  · exact .refl table
  split
  · intro down
    contradiction
  · exact .refl table

end PortTable

theorem Transport.Tries.copied {σ : Type} {dataId : UInt8} {payload : Bytes}
    {before after : Transport σ} {result : Except LinkError Unit}
    (tries : Tries dataId payload before result after) :
    ∃ events, Line.Did events before.line after.line ∧
      events.filterMap Event.copied? =
        if result = .ok () ∧ dataId = Message.portsId then [payload] else [] := by
  cases tries with
  | refused _ noted =>
    obtain ⟨log, rfl⟩ := noted
    exact ⟨[], .same rfl, by simp⟩
  | failed _ _ far episode =>
    refine ⟨_, episode.did, ?_⟩
    rw [List.filterMap_append, far.lowered.filterMap_copied]
    simp [Event.copied?]
  | sent fits _ far away episode =>
    refine ⟨_, episode.did, ?_⟩
    have copy : (Event.done (.write (before.nextParcel dataId fits).wire)).copied? =
        if dataId = Message.portsId then some payload else none := Parcel.portsCopy?_wire _
    rw [List.filterMap_append, far.lowered.filterMap_copied, List.filterMap_cons, copy,
      away.idle.filterMap_copied]
    by_cases ports : dataId = Message.portsId
    · simp [ports]
    · simp [ports]

namespace Association

variable {σ : Type} {assoc after : Association σ} {telemetry : Telemetry} {timeout : Micros}

/-- A poll leaves the table alone, or sends it and takes the flag down. -/
theorem Polled.copied (polled : Polled assoc telemetry timeout after) :
    ∃ events, Line.Did events assoc.transport.line after.transport.line ∧
      (events.filterMap Event.copied? = [] ∧ after.ports = assoc.ports ∨
        events.filterMap Event.copied? = [assoc.ports.bytes] ∧
          after.ports = assoc.ports.clearChanged) := by
  have silent {transport : Transport σ} (noted : assoc.transport.Noted transport) :
      Line.Did [] assoc.transport.line transport.line := by
    obtain ⟨log, rfl⟩ := noted
    exact .same rfl
  have asked {phase : Phase} {dataId : UInt8} {credentials : Credentials} {generated : Bool}
      (asks : assoc.Asks telemetry phase dataId credentials generated) : dataId ≠ Message.portsId := by
    cases asks <;> decide
  cases polled with
  | waited | passed | offerTimedOut | resumed => exact ⟨[], .refl _, .inl ⟨rfl, rfl⟩⟩
  | connected =>
    refine ⟨[], silent (enterConnected_transport assoc telemetry), .inl ⟨rfl, ?_⟩⟩
    unfold enterConnected
    dsimp only
    split
    · rfl
    · rfl
  | unheard _ asks tries | asked _ asks tries =>
    obtain ⟨events, did, copies⟩ := tries.copied
    rw [if_neg fun both => asked asks both.2] at copies
    exact ⟨events, did, .inl ⟨copies, rfl⟩⟩
  | disabled _ _ _ _ _ noted | joinTimedOut _ _ _ noted | dropped _ _ noted =>
    exact ⟨[], silent noted, .inl ⟨rfl, rfl⟩⟩
  | @pushed result transport _ _ _ _ tries =>
    obtain ⟨events, did, copies⟩ := tries.copied
    refine ⟨events, did, ?_⟩
    by_cases sent : result = .ok ()
    · rw [if_pos ⟨sent, rfl⟩] at copies
      exact .inr ⟨copies, if_pos sent⟩
    · rw [if_neg fun both => sent both.1] at copies
      exact .inl ⟨copies, if_neg sent⟩

/-- What a poll does about a table whose flag is up: it writes a frame that carries the table, and takes
the flag down if that goes well. -/
structure Pushes (before after : Association σ) : Prop where
  written : ∃ parcel : Parcel, parcel.dataId = Message.portsId ∧ parcel.payload = before.ports.bytes ∧
    (before.transport.line.since after.transport.line).filterMap Event.written? = [parcel.wire]
  cleared : Sound (before.transport.line.since after.transport.line) →
    after.ports = before.ports.clearChanged ∧
      (before.transport.line.since after.transport.line).filterMap Event.copied? = [before.ports.bytes]
  kept : ¬Sound (before.transport.line.since after.transport.line) → after.ports = before.ports ∧
    (before.transport.line.since after.transport.line).filterMap Event.copied? = []

theorem Polled.pushes (polled : Polled assoc telemetry timeout after)
    (phase : assoc.manager.phase = .connected) (up : telemetry.isConnected = true)
    (ready : assoc.transport.isReady = true) (changed : assoc.ports.changed = true) :
    Pushes assoc after := by
  obtain ⟨result, tries, ports⟩ := polled.sends_copy phase up (.inl changed) ready
  have fits : assoc.ports.bytes.length ≤ Frame.maxPayload := by
    rw [PortTable.length_bytes]
    decide
  have written := tries.written fits ready
  obtain ⟨events, did, copies⟩ := tries.copied
  rw [← did.since_eq] at copies
  refine ⟨⟨_, rfl, rfl, written⟩, fun sound => ?_, fun broken => ?_⟩
  · obtain rfl := (tries.ok_iff_sound fits ready).mpr sound
    exact ⟨ports, copies⟩
  · rw [← tries.ok_iff_sound fits ready] at broken
    rw [if_neg fun done => broken done.1] at copies
    cases result with
    | ok => exact absurd rfl broken
    | error => exact ⟨ports, copies⟩

end Association

inductive PortUse where
  | setPort (protocol : UInt8) (port : UInt16) (wanted : Bool)
  | move (move : Move)
  | setState (state : LinkState)
  /-- The application firmware is started again. -/
  | restart

namespace Link

variable {σ α ε : Type}

/-- Whatever table the far side had, its copies keep up with the changes of the table. -/
def Mirrors (before after : Link σ) : Prop :=
  ∃ events, Line.Did events before.line after.line ∧
    ∀ copy, before.ports.Mirrored copy → after.ports.Mirrored (lastCopy copy events)

instance : IsPreorder (Link σ) Mirrors where
  refl link := ⟨[], .refl link.line, fun _ mirrored => mirrored⟩
  trans _ _ _ early late := by
    obtain ⟨first, did, kept⟩ := early
    obtain ⟨second, next, held⟩ := late
    refine ⟨first ++ second, did.append next, fun copy mirrored => ?_⟩
    rw [lastCopy_append]
    exact held _ (kept copy mirrored)

def Silent (before after : Link σ) : Prop :=
  after.ports = before.ports ∧
    before.line.Writes (fun data => Message.portsCopy? data = none) after.line

instance : IsPreorder (Link σ) Silent where
  refl _ := ⟨rfl, .same rfl⟩
  trans _ _ _ early late := ⟨late.1.trans early.1, early.2.trans late.2⟩

theorem Silent.mirrors {before after : Link σ} (silent : Silent before after) :
    Mirrors before after := by
  obtain ⟨ports, events, did, other⟩ := silent
  have copies : events.filterMap Event.copied? = [] := by
    apply List.filterMap_eq_nil_iff.mpr
    intro event member
    exact Event.copied?_eq_none (other event member)
  refine ⟨events, did, fun copy mirrored => ?_⟩
  rw [ports, lastCopy, copies]
  exact mirrored

theorem Unwritten.silent {before after : Link σ} (unwritten : Unwritten before after)
    (same : OnlyTransport before after) : Silent before after := by
  obtain ⟨events, did, none⟩ := unwritten
  refine ⟨?_, events, did, fun event member data written => (none event member data written).elim⟩
  rw [same]

theorem mirrors_setPort (link : Link σ) (protocol : UInt8) (port : UInt16) (wanted : Bool) :
    Mirrors link (link.setPort protocol port wanted) := by
  have table {ports : PortTable} (flagged : link.ports.Flagged ports) :
      Mirrors link { link with ports } :=
    ⟨[], .refl link.line, fun _ mirrored => flagged.mirrored mirrored⟩
  have opened := link.ports.flagged_openPort port
  unfold setPort
  split
  · exact refl_of Mirrors link
  split
  · exact table (link.ports.flagged_closePort port)
  · split
    next ports found =>
      rw [found] at opened
      exact table opened
    next ports full =>
      rw [full] at opened
      have told : Silent { link with ports } ({ link with ports }.note (.portTableFull port)) :=
        ⟨rfl, .same rfl⟩
      exact trans_of Mirrors (table opened) told.mirrors

theorem silent_onTransport {action : Action ε (Transport σ) α}
    (kept : Action.Keeps (Talks fun data => Message.portsCopy? data = none) (onTransport action)) :
    Action.Keeps Silent (onTransport action) := by
  intro link
  obtain ⟨events, did, talks⟩ := kept link
  refine ⟨?_, events, did, fun event member data written => (talks event member).written written⟩
  rw [outcome_onTransport]

variable [Peer σ]

theorem receptionKeeps_mirrors : ReceptionKeeps (Mirrors : Link σ → Link σ → Prop) where
  alarm _ _ := Silent.mirrors ⟨rfl, .same rfl⟩
  note _ _ := Silent.mirrors ⟨rfl, .same rfl⟩
  dispatch link frame := by
    apply Silent.mirrors
    unfold dispatch
    dsimp only
    split
    · exact ⟨rfl, .same rfl⟩
    · exact ⟨rfl, .same rfl⟩
  pump link := (silent_onTransport receptionKeeps_talks.pump link).mirrors
  arm link := (silent_onTransport receptionKeeps_talks.arm link).mirrors
  poll link := (silent_onTransport receptionKeeps_talks.poll link).mirrors

theorem mirrors_associate (link : Link σ) : Mirrors link link.associate := by
  have polled := Association.poll_cases link.toAssociation link.telemetry link.settings.connectTimeout
  obtain ⟨events, did, ⟨none, same⟩ | ⟨sent, cleared⟩⟩ := polled.copied
  · refine ⟨events, did, fun copy mirrored => ?_⟩
    have kept : link.associate.ports = link.ports := same
    rw [kept, lastCopy, none]
    exact mirrored
  -- a copy that has gone out replaces whatever the far side had
  · refine ⟨events, did, fun copy _ _ => ?_⟩
    have down : link.associate.ports = link.ports.clearChanged := cleared
    rw [down, lastCopy, sent]
    rfl

theorem mirrors_tick : Action.Keeps Mirrors (tick : Action LinkError (Link σ) Unit) :=
  receptionKeeps_mirrors.tick mirrors_associate fun _ => Silent.mirrors ⟨rfl, .same rfl⟩

theorem silent_handshake : Action.Keeps Silent (handshake : Action LinkError (Link σ) Bool) := by
  have reset : Action.Keeps (Transport.Talks fun data => Message.portsCopy? data = none)
      (Transport.resetLink : Action LinkError (Transport σ) Unit) := by
    intro transport
    obtain ⟨events, did, talks⟩ := Transport.talks_resetLink transport
    refine ⟨events, did, fun event member => (talks event member).mono ?_⟩
    rintro data rfl
    decide +kernel
  refine .bind (.change fun link => ⟨rfl, .clearReady _ link.line⟩) fun _ =>
    .bind (.change fun link => ⟨rfl, .delay _ link.line _⟩) fun _ =>
    .bind (fun link => (unwritten_setIrq true link).silent rfl) fun _ =>
    .bind (silent_onTransport (talks_onTransport reset)) fun _ =>
    .bind (silent_onTransport (talks_onTransport (.total (Transport.talks_awaitReady _)))) fun _ => ?_
  split
  · exact .bind (silent_onTransport (talks_onTransport Transport.talks_armReceiver)) fun _ => .pure _
  · exact .pure _

theorem silent_bootApplication :
    Action.Keeps Silent (Lifecycle.bootApplication : Action LinkError (Link σ) Bool) :=
  .bind (fun link => (unwritten_enterMode _ link).silent (onlyTransport_enterMode _ link)) fun _ =>
    silent_handshake

def use (link : Link σ) : PortUse → Link σ
  | .setPort protocol port wanted => link.setPort protocol port wanted
  | .move move => link.move move
  | .setState state => link.setState state
  | .restart => (Lifecycle.bootApplication.outcome link.resetSession).2

def useAll (link : Link σ) (uses : List PortUse) : Link σ := uses.foldl use link

theorem mirrors_use (link : Link σ) (use : PortUse) : Mirrors link (link.use use) := by
  cases use with
  | setPort protocol port wanted => exact mirrors_setPort link protocol port wanted
  | move move =>
    cases move with
    | tick => exact mirrors_tick link
    | pause span => exact Silent.mirrors ⟨rfl, .delay _ link.line span⟩
  | setState state => exact Silent.mirrors ⟨rfl, .same rfl⟩
  | restart =>
    have fresh : Silent link link.resetSession := ⟨rfl, .same rfl⟩
    exact (trans_of Silent fresh (silent_bootApplication link.resetSession)).mirrors

theorem mirrors_useAll (link : Link σ) (uses : List PortUse) : Mirrors link (link.useAll uses) := by
  induction uses generalizing link with
  | nil => exact refl_of Mirrors link
  | cons use rest ih => exact trans_of Mirrors (mirrors_use link use) (ih (link.use use))

/-- No change of the port table is lost. After every run of a new link, with passes, pauses and restarts
and whatever the far side does, a table whose flag is down is the one in the last copy that went out, or
empty when none did; and every poll that is connected and may send writes a table whose flag is up. -/
theorem port_changes_reach_far_side (line : Line σ) (settings : Settings) (config : Config)
    (images : Firmware.Source) (sink : Option Sink) (uses : List PortUse) :
    let link := (Link.start line settings config images sink).useAll uses
    (link.ports.changed = false →
      link.ports.bytes = lastCopy (List.replicate 32 0) (line.since link.line)) ∧
    ∀ (assoc : Association σ) (telemetry : Telemetry) (timeout : Micros),
      assoc.manager.phase = .connected → telemetry.isConnected = true →
      assoc.transport.isReady = true → assoc.ports.changed = true →
      assoc.Pushes (assoc.poll telemetry timeout) := by
  intro link
  constructor
  · obtain ⟨events, did, kept⟩ := mirrors_useAll (Link.start line settings config images sink) uses
    have since : line.since link.line = events := did.since_eq
    have empty : (Link.start line settings config images sink).ports.Mirrored (List.replicate 32 0) :=
      fun _ => rfl
    rw [since]
    exact kept _ empty
  · intro assoc telemetry timeout phase up ready changed
    exact (Association.poll_cases assoc telemetry timeout).pushes phase up ready changed

/-- A far side that reports a connection, and is cut off after its first frame. -/
def reporting : Line Simulation.Script :=
  { peer := { readyPolicy := .always, failures := [(.write, 1)] }
    waiting := (Parcel.mk 0 Message.statusId [1] (by decide)).wire
    ready := ⟨true, true⟩ }

def reported : Link Simulation.Script :=
  (Link.start reporting {} {} (.fixed none none) none).useAll
    [.setState .alive, .move .tick, .setPort 17 68 true, .move .tick]

/-- The first port arrives, the second one is still to be sent. -/
theorem port_changes_reach_far_side_reporting :
    reported.ports.changed = false ∧ reported.ports.bytes = 68 :: List.replicate 31 0 ∧
    lastCopy (List.replicate 32 0) (reporting.since reported.line) = 68 :: List.replicate 31 0 ∧
    (reported.setPort 17 69 true).toAssociation.Pushes
      ((reported.setPort 17 69 true).toAssociation.poll reported.telemetry 0) := by
  have down : reported.ports.changed = false := by decide +kernel
  have sent : lastCopy (List.replicate 32 0) (reporting.since reported.line) =
      68 :: List.replicate 31 0 := by decide +kernel
  have phase : (reported.setPort 17 69 true).manager.phase = .connected := by decide +kernel
  have connected : reported.telemetry.isConnected = true := by decide +kernel
  have ready : (reported.setPort 17 69 true).transport.isReady = true := by decide +kernel
  have up : (reported.setPort 17 69 true).ports.changed = true := by decide +kernel
  have run := port_changes_reach_far_side reporting {} {} (.fixed none none) none
    [.setState .alive, .move .tick, .setPort 17 68 true, .move .tick]
  rw [← reported] at run
  obtain ⟨mirrored, pushes⟩ := run
  have copied := mirrored down
  exact ⟨down, copied.trans sent, sent, pushes _ _ 0 phase connected ready up⟩

end Link

end RadioLink
