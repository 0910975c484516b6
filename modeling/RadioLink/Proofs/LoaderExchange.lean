import RadioLink.Proofs.FlasherTraffic
import RadioLink.Proofs.PacketStream
import RadioLink.Proofs.TimedWaits

/-!
A command of the boot loader and the answer to it. The host drops its input, sends one packet and takes the
first packet that comes in after that for the answer. It looks at the form and at the two status bytes of
the answer, and not at the command that the answer names.
-/

namespace RadioLink

namespace Slip.Port

def firstReport? (capacity : Nat) (bytes : Bytes) : Option (Except SlipError Bytes) :=
  (scan Decoder.push { capacity } bytes).2.2

theorem firstPacket?_eq (capacity : Nat) (bytes : Bytes) :
    firstPacket? capacity bytes = (firstReport? capacity bytes).bind Except.toOption := by
  unfold firstPacket? firstReport?
  rcases (scan Decoder.push { capacity } bytes).2.2 with - | error | packet
  · rfl
  · rfl
  · rfl

inductive Heard (capacity : Nat) : List Event → Except ProvisionError (Option Bytes) → Prop where
  | packet {events : List Event} {packet : Bytes} (attentive : Attentive events)
      (first : firstReport? capacity (takenBytes events) = some (.ok packet)) :
      Heard capacity events (.ok (some packet))
  | nothing {events : List Event} (attentive : Attentive events)
      (silent : firstReport? capacity (takenBytes events) = none) :
      Heard capacity events (.ok none)
  | garbled {events : List Event} {error : SlipError} (attentive : Attentive events)
      (first : firstReport? capacity (takenBytes events) = some (.error error)) :
      Heard capacity events (.error (.slip error))
  | broken {events : List Event} {fault : Fault} (attentive : Attentive events)
      (silent : firstReport? capacity (takenBytes events) = none) :
      Heard capacity (events ++ [.readFailed]) (.error (.io fault))

variable {σ : Type} [Peer σ]

theorem readPacket_heard (capacity : Nat) (timeout : Micros) {port : Port σ} (nothing : port.ahead = []) :
    ∃ events, Line.Did events port.line ((readPacket capacity timeout).outcome port).2.line ∧
      Heard capacity events ((readPacket capacity timeout).outcome port).1 := by
  obtain ⟨entries, adds, waited⟩ := await_waited Decoder.push ({ capacity } : Decoder) timeout nothing
  have did := adds.did
  rw [readPacket, Action.outcome_bind, Action.outcome_mapError]
  generalize (await Decoder.push ({ capacity } : Decoder) timeout).outcome port = run at did waited ⊢
  obtain ⟨result, reached⟩ := run
  cases waited with
  | @found mid next heard _ block rest report attends silent _ reports =>
    rw [List.map_append] at did
    have attentive : Attentive (heard.map Entry.event ++ [.took block]) :=
      List.forall_mem_append.mpr ⟨attends.attentive, by simp [Event.isIncoming]⟩
    have first : firstReport? capacity (takenBytes (heard.map Entry.event ++ [.took block])) =
        some report := by
      have all : takenBytes (heard.map Entry.event ++ [.took block]) = heardBytes heard ++ block := by
        rw [takenBytes_append, heardBytes]
        simp [Event.taken]
      rw [all, firstReport?, scan_append Decoder.push block silent, reports]
    cases report with
    | error error => exact ⟨_, did, .garbled attentive first⟩
    | ok packet => exact ⟨_, did, .packet attentive first⟩
  | missed attends silent =>
    refine ⟨_, did, .nothing attends.attentive ?_⟩
    exact congrArg (fun scanned => scanned.2.2) silent
  | broken attends silent =>
    rw [List.map_append] at did
    refine ⟨_, did, .broken attends.attentive ?_⟩
    exact congrArg (fun scanned => scanned.2.2) silent

end Slip.Port

namespace Loader

open Slip.Port

/-- The response in the answer to a command, if the answer grants it: the first packet has the form of a
response, and both its status bytes are zero. -/
def confirmation (heard : Bytes) : Option Response :=
  (firstPacket? answerRoom heard).bind fun packet =>
    (Response.parse packet).toOption.filter Response.accepted

inductive Commanded (op : UInt8) (packet : Bytes) : List Event → Except ProvisionError Response → Prop where
  | undropped {fault : Fault} : Commanded op packet [.failed .clear] (.error (.io fault))
  | unsent {noise : List Event} {fault : Fault} (far : Noise noise) :
      Commanded op packet (.done .clear :: (noise ++ [.failed (.write packet)])) (.error (.io fault))
  | confirmed {noise answer : List Event} {response : Response} (far : Noise noise)
      (attentive : Attentive answer) (granted : confirmation (takenBytes answer) = some response) :
      Commanded op packet (.done .clear :: (noise ++ .done (.write packet) :: answer)) (.ok response)
  | unanswered {noise answer : List Event} (far : Noise noise) (attentive : Attentive answer)
      (silent : firstReport? answerRoom (takenBytes answer) = none) :
      Commanded op packet (.done .clear :: (noise ++ .done (.write packet) :: answer))
        (.error (.responseTimeout op))
  | refused {noise answer : List Event} {error : ProvisionError} (far : Noise noise)
      (attentive : Attentive answer) (heard : firstReport? answerRoom (takenBytes answer) ≠ none)
      (ungranted : confirmation (takenBytes answer) = none)
      (other : ∀ late, error ≠ .responseTimeout late) :
      Commanded op packet (.done .clear :: (noise ++ .done (.write packet) :: answer)) (.error error)
  | unread {noise answer : List Event} {fault : Fault} (far : Noise noise) (attentive : Attentive answer)
      (silent : firstReport? answerRoom (takenBytes answer) = none) :
      Commanded op packet (.done .clear :: (noise ++ .done (.write packet) :: (answer ++ [.readFailed])))
        (.error (.io fault))

theorem Response.parse_error {packet : Bytes} {error : ProvisionError}
    (failed : Response.parse packet = .error error) : error = .malformedResponse packet.length := by
  unfold Response.parse at failed
  split at failed
  · exact (Except.error.inj failed).symm
  · cases failed

variable {σ : Type} [Peer σ]

theorem outcome_command (op : UInt8) (body : Bytes) (checksum : UInt32) (port : Slip.Port σ) :
    (command op body checksum).outcome port =
      match discard.outcome port with
      | (.error fault, reached) => (.error (.io fault), reached)
      | (.ok (), dropped) =>
        match (writePacket [commandHeader op body checksum, body]).outcome dropped with
        | (.error fault, reached) => (.error (.io fault), reached)
        | (.ok (), sent) =>
          match (readPacket answerRoom commandTimeout).outcome sent with
          | (.error error, reached) => (.error error, reached)
          | (.ok none, reached) => (.error (.responseTimeout op), reached)
          | (.ok (some packet), reached) =>
            match Response.parse packet with
            | .error error => (.error error, reached)
            | .ok response =>
              if response.accepted then (.ok response, reached.note (.loaderAnswered response))
              else (.error (.commandRejected op response.status response.error),
                reached.note (.loaderAnswered response)) := by
  rw [command, Action.outcome_bind, Action.outcome_mapError]
  rcases discard.outcome port with ⟨fault | _, dropped⟩
  · rfl
  dsimp only [Except.mapError]
  rw [Action.outcome_bind, sendCommand, Action.outcome_mapError]
  rcases (writePacket [commandHeader op body checksum, body]).outcome dropped with ⟨fault | _, sent⟩
  · rfl
  dsimp only [Except.mapError]
  rw [Action.outcome_bind]
  rcases (readPacket answerRoom commandTimeout).outcome sent with ⟨error | - | packet, reached⟩
  · rfl
  · rfl
  dsimp only
  rw [Action.outcome_bind, Action.outcome_ofExcept]
  rcases Response.parse packet with error | response
  · rfl
  dsimp only
  rw [Action.outcome_change_bind]
  split
  · rfl
  · rfl

/-- Every command goes in one of six ways. -/
theorem command_commanded (op : UInt8) (body : Bytes) (checksum : UInt32) (port : Slip.Port σ) :
    ∃ events, Line.Did events port.line ((command op body checksum).outcome port).2.line ∧
      Commanded op (packet op body checksum) events ((command op body checksum).outcome port).1 := by
  rw [outcome_command]
  rcases discard_adds port with ⟨fault, reached, ran, adds, -⟩ | ⟨noise, dropped, far, ran, adds, -, nothing⟩
  · rw [ran]
    exact ⟨_, adds.did, .undropped⟩
  have did := adds.did
  rw [map_event_stamped] at did
  rw [ran]
  dsimp only
  rcases writePacket_cases [commandHeader op body checksum, body] dropped with
    ⟨fault, line, ran, sent⟩ | ⟨reaction, line, away, ran, sent⟩
  · rw [ran]
    exact ⟨_, did.append sent, .unsent far⟩
  rw [ran]
  dsimp only
  obtain ⟨events, read, heard⟩ :=
    @readPacket_heard σ _ answerRoom commandTimeout { dropped with line } nothing
  have whole := (did.append sent).append read
  -- what the far side does about the write itself comes before the first read
  have early : ∀ {answer : List Event}, Attentive answer →
      Attentive (reaction ++ answer) ∧ takenBytes (reaction ++ answer) = takenBytes answer := by
    intro answer attentive
    refine ⟨List.forall_mem_append.mpr ⟨away.incoming, attentive⟩, ?_⟩
    rw [takenBytes_append, away.takenBytes_eq, List.nil_append]
  rw [List.cons_append, List.cons_append, List.append_assoc, List.cons_append] at whole
  generalize (readPacket answerRoom commandTimeout).outcome ({ dropped with line } : Slip.Port σ) = run
    at whole heard ⊢
  obtain ⟨result, reached⟩ := run
  cases heard with
  | nothing attentive silent =>
    obtain ⟨all, same⟩ := early attentive
    exact ⟨_, whole, .unanswered far all (by rw [same, silent])⟩
  | garbled attentive first =>
    obtain ⟨all, same⟩ := early attentive
    refine ⟨_, whole, .refused far all (by simp [same, first]) ?_ (by simp)⟩
    rw [same, confirmation, firstPacket?_eq, first]
    rfl
  | broken attentive silent =>
    obtain ⟨all, same⟩ := early attentive
    rw [← List.append_assoc] at whole
    exact ⟨_, whole, .unread far all (by rw [same, silent])⟩
  | @packet _ packet attentive first =>
    obtain ⟨all, same⟩ := early attentive
    have found : confirmation (takenBytes (reaction ++ events)) =
        (Response.parse packet).toOption.filter Response.accepted := by
      rw [same, confirmation, firstPacket?_eq, first]
      rfl
    have heard : firstReport? answerRoom (takenBytes (reaction ++ events)) ≠ none := by simp [same, first]
    dsimp only
    rcases parsed : Response.parse packet with error | response
    · rw [parsed] at found
      refine ⟨_, whole, .refused far all heard found fun late => ?_⟩
      rw [Response.parse_error parsed]
      simp
    · rw [parsed] at found
      dsimp only
      by_cases accepted : response.accepted = true
      · rw [if_pos accepted]
        refine ⟨_, whole, .confirmed far all (found.trans ?_)⟩
        simp [Except.toOption, accepted]
      · rw [if_neg accepted]
        refine ⟨_, whole, .refused far all heard (found.trans ?_) (by simp)⟩
        simp [Except.toOption, accepted]

/-- Each packet that the host wrote or tried to write, with the bytes that it read after that until it dropped
its input. -/
def exchanges : List Event → List (Bytes × Bytes)
  | [] => []
  | event :: rest =>
    (event.written?.map fun packet => (packet, takenBytes (rest.takeWhile (!·.discards)))).toList ++
      exchanges rest

theorem exchanges_unwritten {events : List Event} (quiet : ∀ event ∈ events, event.written? = none)
    (later : List Event) : exchanges (events ++ later) = exchanges later := by
  induction events with
  | nil => rfl
  | cons event rest ih =>
    obtain ⟨first, others⟩ := List.forall_mem_cons.mp quiet
    rw [List.cons_append, exchanges, first, ih others]
    rfl

/-- What is heard after a packet is cut off where the input is dropped. -/
theorem exchanges_append (first : List Event) {second : List Event}
    (drops : ∀ event ∈ second.head?, event.discards = true) :
    exchanges (first ++ second) = exchanges first ++ exchanges second := by
  have cut : second.takeWhile (!·.discards) = [] := by
    cases second with
    | nil => rfl
    | cons event rest => simp [drops event rfl]
  have ends : ∀ events : List Event,
      (events ++ second).takeWhile (!·.discards) = events.takeWhile (!·.discards) := by
    intro events
    rw [List.takeWhile_append, cut]
    split
    next all => rw [List.append_nil, (List.takeWhile_prefix _).eq_of_length all]
    next => rfl
  induction first with
  | nil => rfl
  | cons event rest ih => rw [List.cons_append, exchanges, exchanges, ends, ih, List.append_assoc]

/-- A packet that follows on a dropped input makes one exchange, with all that was heard after it. -/
theorem exchanges_packet {noise answer : List Event} {event : Event} {packet : Bytes} (far : Noise noise)
    (written : event.written? = some packet) (listening : Listening answer) :
    exchanges (.done .clear :: (noise ++ event :: answer)) = [(packet, takenBytes answer)] := by
  have quiet : ∀ event ∈ .done .clear :: noise, event.written? = none :=
    List.forall_mem_cons.mpr ⟨rfl, fun event member => (Flasher.quiet_noise far member).1⟩
  have unwritten : ∀ event ∈ answer, event.written? = none := fun event member =>
    (Flasher.quiet_listening (listening event member)).1
  have undropped : ∀ event ∈ answer, (!event.discards) = true := fun event member => by
    rw [(Flasher.quiet_listening (listening event member)).2, Bool.not_false]
  have none := exchanges_unwritten unwritten []
  rw [List.append_nil] at none
  rw [← List.cons_append, exchanges_unwritten quiet, exchanges, List.takeWhile_eq_self_iff.mpr undropped,
    none, written]
  rfl

theorem sound_attentive {events : List Event} (attentive : Attentive events) : Sound events := by
  intro event member
  have incoming := attentive event member
  cases event <;> simp [Event.isIncoming, Event.isFailure] at incoming ⊢

theorem sound_answered {noise answer : List Event} {packet : Bytes} (far : Noise noise)
    (attentive : Attentive answer) : Sound (.done .clear :: (noise ++ .done (.write packet) :: answer)) :=
  List.forall_mem_cons.mpr ⟨rfl, (sound_attentive far.incoming).append
    (List.forall_mem_cons.mpr ⟨rfl, sound_attentive attentive⟩)⟩

theorem listening_broken {events : List Event} (attentive : Attentive events) :
    Listening (events ++ [.readFailed]) :=
  attentive.listening.append (by simp [Listening, Event.isListening])

theorem confirmation_of_silent {heard : Bytes} (silent : firstReport? answerRoom heard = none) :
    confirmation heard = none := by
  rw [confirmation, firstPacket?_eq, silent]
  rfl

namespace Commanded

variable {op : UInt8} {packet : Bytes} {events : List Event} {result : Except ProvisionError Response}

theorem head_discards (commanded : Commanded op packet events result) (later : List Event) :
    ∀ event ∈ (events ++ later).head?, event.discards = true := by
  cases commanded with
  | undropped | unsent | confirmed | unanswered | refused | unread =>
    rintro event ⟨⟩
    rfl

/-- Nothing but the command's own packet is written. -/
theorem exchanges_eq (commanded : Commanded op packet events result) :
    exchanges events = [] ∨ ∃ heard, exchanges events = [(packet, heard)] := by
  cases commanded with
  | undropped => exact .inl rfl
  | unsent far => exact .inr ⟨_, exchanges_packet far rfl .nil⟩
  | confirmed far attentive | unanswered far attentive | refused far attentive =>
    exact .inr ⟨_, exchanges_packet far rfl attentive.listening⟩
  | unread far attentive => exact .inr ⟨_, exchanges_packet far rfl (listening_broken attentive)⟩

/-- A command succeeds exactly if what was heard after its packet grants it. -/
theorem ok_iff (commanded : Commanded op packet events result) (response : Response) :
    result = .ok response ↔
      ∃ heard, exchanges events = [(packet, heard)] ∧ confirmation heard = some response := by
  have only : ∀ {heard : Bytes}, exchanges events = [(packet, heard)] →
      ((∃ heard, exchanges events = [(packet, heard)] ∧ confirmation heard = some response) ↔
        confirmation heard = some response) := by
    intro heard own
    simp [own]
  cases commanded with
  | undropped => simp [exchanges, Event.written?]
  | unsent far =>
    rw [only (exchanges_packet far rfl .nil), confirmation_of_silent (by rfl)]
    simp
  | confirmed far attentive granted =>
    rw [only (exchanges_packet far rfl attentive.listening), granted]
    simp
  | unanswered far attentive silent =>
    rw [only (exchanges_packet far rfl attentive.listening), confirmation_of_silent silent]
    simp
  | refused far attentive _ ungranted =>
    rw [only (exchanges_packet far rfl attentive.listening), ungranted]
    simp
  | @unread noise answer _ far attentive silent =>
    have same : takenBytes (answer ++ [.readFailed]) = takenBytes answer := by simp [Event.taken]
    rw [only (exchanges_packet far rfl (listening_broken attentive)), same, confirmation_of_silent silent]
    simp

theorem sound_of_ok {response : Response} (commanded : Commanded op packet events (.ok response)) :
    Sound events := by
  cases commanded with
  | confirmed far attentive => exact sound_answered far attentive

/-- A command times out exactly if nothing was heard after its packet and nothing else was in the way. -/
theorem timeout_iff (commanded : Commanded op packet events result) :
    (∃ late, result = .error (.responseTimeout late)) ↔
      Sound events ∧ ∃ heard, exchanges events = [(packet, heard)] ∧ firstReport? answerRoom heard = none := by
  have unsound : ∀ {event : Event}, event ∈ events → event.isFailure = true → ¬Sound events := by
    intro event member failed sound
    rw [sound event member] at failed
    cases failed
  cases commanded with
  | undropped => simp [Sound, Event.isFailure]
  | unsent => simp [unsound (List.mem_cons_of_mem _ (List.mem_append_right _ List.mem_cons_self)) rfl]
  | confirmed far attentive granted =>
    rw [exchanges_packet far rfl attentive.listening]
    refine iff_of_false (by simp) ?_
    rintro ⟨-, heard, own, silent⟩
    cases own
    rw [confirmation_of_silent silent] at granted
    cases granted
  | unanswered far attentive silent =>
    rw [exchanges_packet far rfl attentive.listening]
    exact iff_of_true ⟨op, rfl⟩ ⟨sound_answered far attentive, _, rfl, silent⟩
  | refused far attentive heard _ other =>
    rw [exchanges_packet far rfl attentive.listening]
    refine iff_of_false ?_ ?_
    · rintro ⟨late, timeout⟩
      exact other late (Except.error.inj timeout)
    · rintro ⟨-, bytes, own, silent⟩
      cases own
      exact heard silent
  | @unread noise answer _ far attentive silent =>
    have member : .readFailed ∈
        .done .clear :: (noise ++ .done (.write packet) :: (answer ++ [.readFailed])) := by simp
    exact iff_of_false (by simp) fun sound => unsound member rfl sound.1

end Commanded

/-- A command succeeds exactly if the first packet read after its own grants it. -/
theorem command_ok_iff (op : UInt8) (body : Bytes) (checksum : UInt32) (port : Slip.Port σ)
    (response : Response) :
    ((command op body checksum).outcome port).1 = .ok response ↔
      ∃ heard, exchanges (port.line.since ((command op body checksum).outcome port).2.line) =
          [(packet op body checksum, heard)] ∧ confirmation heard = some response := by
  obtain ⟨events, did, commanded⟩ := command_commanded op body checksum port
  rw [did.since_eq]
  exact commanded.ok_iff response

def Response.bytes (response : Response) : Bytes :=
  [Response.direction, response.op] ++ Bytes.ofUInt16 response.len ++ Bytes.ofUInt32 response.value ++
    [response.status, response.error]

theorem Response.parse_bytes (response : Response) : Response.parse response.bytes = .ok response := by
  have len : response.bytes.uint16At 2 = response.len := by
    rw [Response.bytes, List.append_assoc]
    exact Bytes.uint16At_append [Response.direction, response.op] _ response.len
  have value : response.bytes.uint32At 4 = response.value :=
    Bytes.uint32At_append ([Response.direction, response.op] ++ Bytes.ofUInt16 response.len) _ response.value
  rw [Response.parse, if_neg (by simp [Response.bytes, Response.minLength, Bytes.ofUInt16, Bytes.ofUInt32,
    Bytes.byteAt]), len, value]
  rfl

structure Responder (reply : Bytes) where

instance (reply : Bytes) : Peer (Responder reply) where
  answer peer _ call :=
    match call with
    | .write _ => (.ok { bytes := reply }, peer)
    | _ => (.ok {}, peer)
  grant peer _ room := (.ok room, peer)
  elapse peer _ := ({}, peer)

theorem quiet_responder {reply : Bytes} (peer : Responder reply) : Peer.Quiet peer :=
  ⟨fun _ => True, trivial, fun peer _ =>
    ⟨fun _ room positive => ⟨room, peer, rfl, positive, trivial⟩, fun _ => ⟨rfl, trivial⟩⟩⟩

/-- Any command is granted by a far side that sends a response with zeros for status, at once. -/
theorem command_granted {response : Response} (accepted : response.accepted = true) (op : UInt8)
    (body : Bytes) (checksum : UInt32) {port : Slip.Port (Responder (Slip.encode [response.bytes]))}
    (running : port.line.now + 50 * Line.lastLook commandTimeout ≤ Micros.last) :
    ∃ after, (command op body checksum).outcome port = (.ok response, after) ∧
      after.line.now = port.line.now := by
  obtain ⟨dropped, cleared, none, soon⟩ : ∃ dropped, discard.outcome port = (.ok (), dropped) ∧
      dropped.left = [] ∧ dropped.line.now = port.line.now := ⟨_, rfl, rfl, rfl⟩
  obtain ⟨sent, wrote, arrived, now⟩ : ∃ sent,
      (writePacket [commandHeader op body checksum, body]).outcome dropped = (.ok (), sent) ∧
      sent.left = dropped.left ++ Slip.encode [response.bytes] ∧ sent.line.now = dropped.line.now :=
    ⟨_, rfl, (List.append_assoc _ _ _).symm, rfl⟩
  rw [none, List.nil_append] at arrived
  have room : [response.bytes].flatten.length ≤ answerRoom := by
    simp [Response.bytes, answerRoom, Bytes.ofUInt16, Bytes.ofUInt32]
  have present : [response.bytes].flatten ≠ [] := by simp [Response.bytes]
  have reported := Slip.Decoder.events_encode (Slip.Decoder.between_new answerRoom) 0 room
  rw [if_neg present, List.flatten_singleton] at reported
  obtain ⟨ends, -⟩ := readPacket_ends (quiet_responder sent.line.peer)
    (by rw [now, soon]; exact running) answerRoom
  rw [arrived, reported] at ends
  -- the answer is there at the first look, so no time passes
  obtain ⟨read, -, still⟩ := ends.found _ _ rfl
  rcases heard : (readPacket answerRoom commandTimeout).outcome sent with ⟨result, reached⟩
  rw [heard] at read still
  dsimp only at read still
  subst read
  rw [outcome_command, cleared]
  dsimp only
  rw [wrote]
  dsimp only
  rw [heard]
  dsimp only [packetAnswer]
  rw [Response.parse_bytes]
  dsimp only
  rw [if_pos accepted]
  exact ⟨_, rfl, (still.trans now).trans soon⟩

/-- Whose answer it is does not matter. A command succeeds exactly if the first packet read after its own has
the form of a response with zeros for status, whatever command that response names. So an answer to any
other command will do, whichever command is given. -/
theorem answer_taken_whatever_op (op : UInt8) (body : Bytes) (checksum : UInt32) :
    (∀ (σ : Type) [Peer σ] (port : Slip.Port σ) (response : Response),
      ((command op body checksum).outcome port).1 = .ok response ↔
        ∃ heard, exchanges (port.line.since ((command op body checksum).outcome port).2.line) =
            [(packet op body checksum, heard)] ∧ confirmation heard = some response) ∧
    ∀ response : Response, response.accepted = true →
      ∃ port : Slip.Port (Responder (Slip.encode [response.bytes])),
        ((command op body checksum).outcome port).1 = .ok response := by
  refine ⟨fun σ _ port response => command_ok_iff op body checksum port response,
    fun response accepted => ?_⟩
  have running : (0 + 50 * Line.lastLook commandTimeout : Nat) ≤ Micros.last := by decide
  obtain ⟨after, ran, -⟩ := @command_granted response accepted op body checksum { line := { peer := {} } } running
  exact ⟨_, congrArg Prod.fst ran⟩

/-- The loader answers the first of two SYNC packets at once and the second one 60 ms later, when the host has
stopped waiting for that. -/
def tardyPort : Slip.Port Simulation.Script :=
  { line :=
      { peer :=
          { onWrite :=
              [[{ bytes := Slip.encode [(⟨syncOp, 2, 0, 0, 0⟩ : Response).bytes] }],
                [{ bytes := Slip.encode [(⟨syncOp, 2, 0, 0, 0⟩ : Response).bytes], delay := 60000 }]] } } }

def shortDownload : Bytes := [4, 1, 4, 0x40100000].flatMap Bytes.ofUInt32

/-- The second answer to the SYNC lets the command after it succeed, which nobody answers. -/
theorem answer_taken_whatever_op_tardy :
    (sync.outcome tardyPort).1 = .ok () ∧
    ((command memBeginOp shortDownload 0).outcome (sync.outcome tardyPort).2).1 =
      .ok ⟨syncOp, 2, 0, 0, 0⟩ ∧
    (∃ heard, exchanges ((sync.outcome tardyPort).2.line.since
        ((command memBeginOp shortDownload 0).outcome (sync.outcome tardyPort).2).2.line) =
          [(packet memBeginOp shortDownload 0, heard)] ∧
      confirmation heard = some ⟨syncOp, 2, 0, 0, 0⟩) ∧
    ∃ port : Slip.Port (Responder (Slip.encode [(⟨syncOp, 2, 0, 0, 0⟩ : Response).bytes])),
      ((command memBeginOp shortDownload 0).outcome port).1 = .ok ⟨syncOp, 2, 0, 0, 0⟩ := by
  obtain ⟨exactly, anyone⟩ := answer_taken_whatever_op memBeginOp shortDownload 0
  have granted : ((command memBeginOp shortDownload 0).outcome (sync.outcome tardyPort).2).1 =
      .ok ⟨syncOp, 2, 0, 0, 0⟩ := by decide +kernel
  exact ⟨by decide +kernel, granted, (exactly Simulation.Script _ _).mp granted, anyone _ (by decide)⟩

end Loader

end RadioLink
