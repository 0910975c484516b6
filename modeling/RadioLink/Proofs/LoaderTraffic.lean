import RadioLink.Proofs.PacketPort
import RadioLink.Provisioning

/-!
What the boot loader and the flasher stub are sent. Every packet on the way to the stub is known
beforehand: it depends on the stub and its launch parameter, and on nothing that the far side says.
-/

namespace RadioLink

namespace Line

variable {σ : Type}

def Writes (allowed : Bytes → Prop) (before after : Line σ) : Prop :=
  ∃ events, Did events before after ∧
    ∀ event ∈ events, ∀ data, event.written? = some data → allowed data

theorem Writes.same {allowed : Bytes → Prop} {before after : Line σ}
    (same : after.history = before.history) : Writes allowed before after :=
  Does.same same

theorem Writes.trans {allowed : Bytes → Prop} {before middle after : Line σ}
    (early : Writes allowed before middle) (late : Writes allowed middle after) :
    Writes allowed before after :=
  Does.trans early late

theorem unwritten_of_isFarSide {allowed : Bytes → Prop} (event : Event)
    (far : event.isFarSide = true) (data : Bytes) (written : event.written? = some data) :
    allowed data := by
  cases event <;> simp [Event.isFarSide, Event.written?] at far written

variable [Peer σ]

theorem Writes.delay (allowed : Bytes → Prop) (line : Line σ) (span : Micros) :
    Writes allowed line (line.delay span) :=
  Does.delay unwritten_of_isFarSide line span

theorem Writes.clearReady (allowed : Bytes → Prop) (line : Line σ) :
    Writes allowed line line.clearReady :=
  Does.clearReady (fun _ written => by cases written) unwritten_of_isFarSide line

/-- A call writes nothing but its own data. -/
theorem Writes.call {allowed : Bytes → Prop} {c : Call}
    (permitted : ∀ data, c = .write data → allowed data) (line : Line σ) :
    Writes allowed line ((Line.call c).outcome line).2 := by
  have own : ∀ data, (Event.failed c).written? = some data ∨ (Event.done c).written? = some data →
      allowed data := by
    intro data written
    cases c with
    | write bytes =>
      simp only [Event.written?, or_self, Option.some.injEq] at written
      exact permitted data (by rw [written])
    | _ => simp [Event.written?] at written
  exact Does.call (fun data written => own data (.inr written))
    (fun data written => own data (.inl written)) unwritten_of_isFarSide line

end Line

/-- A part of a talk with firmware that runs: reset, boot strap and ready edge are left alone, and
what is written is allowed. -/
def Event.Talks (allowed : Bytes → Prop) : Event → Prop
  | .done (.write data) | .failed (.write data) => allowed data
  | .done (.reset _) | .failed (.reset _) | .done (.mode _) | .failed (.mode _) | .irq _ => False
  | _ => True

namespace Event

variable {allowed : Bytes → Prop} {event : Event}

theorem Talks.failed {c : Call} (talks : (done c).Talks allowed) : (failed c).Talks allowed := by
  cases c <;> exact talks

theorem Talks.mono {others : Bytes → Prop} (talks : event.Talks allowed)
    (weaker : ∀ data, allowed data → others data) : event.Talks others := by
  cases event with
  | done c | failed c =>
    cases c with
    | write data => exact weaker data talks
    | _ => exact talks
  | _ => exact talks

theorem Talks.written (talks : event.Talks allowed) {data : Bytes}
    (written : event.written? = some data) : allowed data := by
  cases event with
  | done c | failed c =>
    cases c with
    | write bytes =>
      cases written
      exact talks
    | _ => cases written
  | _ => cases written

theorem talks_of_isListening (listening : event.isListening = true) : event.Talks allowed := by
  cases event <;> simp [isListening, Talks] at listening ⊢

theorem talks_of_isIdle (event : Event) (idle : event.isIdle = true) : event.Talks allowed := by
  cases event <;> simp [isIdle, Talks] at idle ⊢

theorem talks_of_isFarSide (event : Event) (far : event.isFarSide = true) : event.Talks allowed :=
  talks_of_isIdle event (isIdle_of_isFarSide far)

end Event

namespace Slip.Port

variable {σ : Type}

structure Talks (allowed : Bytes → Prop) (before after : Port σ) : Prop where
  does : before.line.Does (Event.Talks allowed) after.line
  ages : before.line.Ages after.line

theorem Talks.same {allowed : Bytes → Prop} {before after : Port σ}
    (history : after.line.history = before.line.history)
    (now : after.line.now = before.line.now) : Talks allowed before after :=
  ⟨.same history, .same now⟩

instance (allowed : Bytes → Prop) : IsPreorder (Port σ) (Talks allowed) where
  refl _ := .same rfl rfl
  trans _ _ _ early late :=
    ⟨early.does.trans late.does, trans_of Line.Ages early.ages late.ages⟩

theorem Talks.listened {allowed : Bytes → Prop} {before after : Port σ} {events : List Event}
    (did : Line.Did events before.line after.line) (listening : Listening events)
    (ages : Ages before after) : Talks allowed before after :=
  ⟨⟨events, did, fun event member => Event.talks_of_isListening (listening event member)⟩, ages⟩

variable {allowed : Bytes → Prop}

theorem keeps_note (notice : Notice) :
    Action.Keeps (Talks allowed) (Action.change (note · notice) : Action ProvisionError (Port σ) _) :=
  .change fun _ => .same rfl rfl

variable [Peer σ]

theorem keeps_delayMs (ms : Nat) :
    Action.Keeps (Talks allowed) (Action.change (delayMs · ms) : Action ProvisionError (Port σ) _) :=
  .change fun port => ⟨.delay Event.talks_of_isFarSide port.line _, .delay port.line _⟩

theorem keeps_call {c : Call} (talks : (Event.done c).Talks allowed) :
    Action.Keeps (Talks allowed) (device (Line.call c) : Action Fault (Port σ) Unit) := by
  intro port
  rw [device, Action.outcome_within]
  exact ⟨.call talks talks.failed Event.talks_of_isFarSide port.line, .call c port.line⟩

theorem keeps_discard : Action.Keeps (Talks allowed) (discard : Action Fault (Port σ) Unit) :=
  .bind (.change fun _ => .same rfl rfl) fun _ => keeps_call trivial

theorem keeps_setBaud (rate : UInt32) :
    Action.Keeps (Talks allowed) (setBaud rate : Action Fault (Port σ) Unit) :=
  keeps_call trivial

theorem keeps_writePacket {parts : List Bytes} (permitted : allowed (Slip.encode parts)) :
    Action.Keeps (Talks allowed) (writePacket parts : Action Fault (Port σ) Unit) :=
  .bind (.change fun _ => .same rfl rfl) fun _ => keeps_call permitted

theorem keeps_writeRaw {data : Bytes} (permitted : allowed data) :
    Action.Keeps (Talks allowed) (writeRaw data : Action Fault (Port σ) Unit) :=
  keeps_call permitted

theorem keeps_readPacket (capacity : Nat) (timeout : Micros) :
    Action.Keeps (Talks allowed)
      (readPacket capacity timeout : Action ProvisionError (Port σ) (Option Bytes)) := by
  intro port
  obtain ⟨events, did, listening, _⟩ := readPacket_spec capacity timeout port
  exact .listened did listening (ages_readPacket capacity timeout port)

theorem keeps_awaitDelimiter (timeout : Micros) :
    Action.Keeps (Talks allowed) (awaitDelimiter timeout : Action Fault (Port σ) Bool) := by
  refine .bind (fun port => ?_) fun _ => .pure _
  obtain ⟨events, did, listening, _⟩ := await_spec
    (fun (_ : Unit) b => ((), if b = delimiter then some () else none)) () timeout port
  exact .listened did listening (ages_await _ _ _ port)

end Slip.Port

namespace Loader

def packet (op : UInt8) (body : Bytes) (checksum : UInt32) : Bytes :=
  Slip.encode [commandHeader op body checksum, body]

def segmentPackets (start : UInt32) (content : Bytes) : List Bytes :=
  let size := UInt32.ofNat content.length
  [packet memBeginOp ([size, 1, size, start].flatMap Bytes.ofUInt32) 0,
    packet memDataOp (blockHeader 0 content ++ content) (blockChecksum content)]

def setupPackets (stub : Firmware.Stub) (parameter : UInt32) : List Bytes :=
  packet syncOp syncBody 0 ::
    segmentPackets stub.paramsStart (Bytes.ofUInt32 parameter ++ stub.code) ++
    (if stub.data = [] then [] else segmentPackets stub.dataStart stub.data) ++
    [packet memEndOp (List.replicate 4 0 ++ Bytes.ofUInt32 stub.entry) 0]

variable {σ : Type} [Peer σ] {allowed : Bytes → Prop}

open Slip.Port

theorem keeps_command {op : UInt8} {body : Bytes} {checksum : UInt32}
    (permitted : allowed (packet op body checksum)) :
    Action.Keeps (Talks allowed) (command op body checksum : Step σ Response) := by
  refine .bind keeps_discard.mapError fun _ => .bind (keeps_writePacket permitted).mapError fun _ =>
    .bind (keeps_readPacket answerRoom commandTimeout) fun packet => ?_
  cases packet with
  | none => exact .throw _
  | some packet =>
    refine .bind (.ofExcept _) fun response => .bind (keeps_note _) fun _ => ?_
    split
    · exact .pure response
    · exact .throw _

theorem keeps_syncFrom (made left : Nat) (permitted : allowed (packet syncOp syncBody 0)) :
    Action.Keeps (Talks allowed) (syncFrom made left : Step σ Unit) := by
  induction left generalizing made with
  | zero => exact .throw _
  | succ left ih =>
    have sent : Action.Keeps (Talks allowed) (sendCommand syncOp syncBody 0 : Step σ Unit) :=
      (keeps_writePacket permitted).mapError
    refine .bind keeps_discard.mapError fun _ => .bind sent fun _ => .bind sent fun _ =>
      .bind (keeps_readPacket answerRoom syncTimeout) fun packet => ?_
    split
    · exact .bind (keeps_note _) fun _ => .bind (keeps_delayMs _) fun _ => keeps_discard.mapError
    · exact .bind (keeps_delayMs _) fun _ => ih (made + 1)

theorem keeps_loadSegment {start : UInt32} {content : Bytes}
    (permitted : ∀ sent ∈ segmentPackets start content, allowed sent) :
    Action.Keeps (Talks allowed) (loadSegment start content : Step σ Unit) := by
  have header := permitted _ List.mem_cons_self
  have data := permitted _ (List.mem_cons_of_mem _ List.mem_cons_self)
  exact .bind (.bind (keeps_command header) fun _ => .pure ()) fun _ =>
    .bind (keeps_command data) fun _ => .pure ()

theorem keeps_loadStub (stub : Firmware.Stub) (parameter : UInt32) :
    Action.Keeps (Talks (· ∈ setupPackets stub parameter)) (loadStub stub parameter : Step σ Unit) := by
  have ended : Action.Keeps (Talks (· ∈ setupPackets stub parameter))
      (Action.attempt (memEnd stub.entry) : Step σ (Except ProvisionError Unit)) := by
    refine .attempt (.bind (keeps_command ?_) fun _ => .pure ())
    simp [setupPackets]
  refine .bind (keeps_note _) fun _ => .bind (keeps_loadSegment fun sent member => ?_) fun _ => ?_
  · simp [setupPackets, member]
  split
  next some =>
    refine .bind (keeps_loadSegment fun sent member => ?_) fun _ => .bind ended fun result => ?_
    · simp [setupPackets, if_neg some, member]
    · split
      · exact .pure ()
      · exact .pure ()
      · exact .throw _
  next none =>
    refine .bind ended fun result => ?_
    split
    · exact .pure ()
    · exact .pure ()
    · exact .throw _

end Loader

/-- Until the stub is up only packets of its setup are written. -/
theorem Provisioning.keeps_startStub {σ : Type} [Peer σ] (settings : Settings)
    (stub : Firmware.Stub) :
    Action.Keeps (Slip.Port.Talks (· ∈ Loader.setupPackets stub settings.stubBaudRate))
      (startStub settings stub : Action ProvisionError (Slip.Port σ) Unit) := by
  have greeted : Action.Keeps (Slip.Port.Talks (· ∈ Loader.setupPackets stub settings.stubBaudRate))
      (Flasher.awaitGreeting : Flasher.Step σ Unit) := by
    refine .bind (Slip.Port.keeps_readPacket 16 Flasher.greetingTimeout) fun packet => ?_
    cases packet with
    | none => exact .throw _
    | some packet =>
      dsimp only
      split
      · exact Slip.Port.keeps_note _
      · exact .bind (Slip.Port.keeps_note _) fun _ => .throw _
  exact .bind (Loader.keeps_syncFrom 0 _ List.mem_cons_self) fun _ =>
    .bind (Loader.keeps_loadStub stub settings.stubBaudRate) fun _ =>
    .bind Slip.Port.keeps_discard.mapError fun _ =>
    .bind (Slip.Port.keeps_setBaud _).mapError fun _ =>
    .bind (Slip.Port.keeps_delayMs _) fun _ => greeted

end RadioLink
