import RadioLink.Proofs.LoaderTraffic

/-!
The stub's commands on the line. A command drops the input, sends its one byte and sends its
arguments, and may break off at each of the three. An answer to the digest query is what comes in
between the query and the next time the input is dropped, so the events alone tell which digest the
stub reported.
-/

namespace RadioLink

namespace Event

def offers (packet : Bytes) (event : Event) : Bool := event.written? == some packet

def discards : Event → Bool
  | done .clear | failed .clear => true
  | _ => false

end Event

namespace Flasher

open Slip.Port

def commandPacket (command : UInt8) : Bytes := Slip.encode [[command]]

def argumentPacket (arguments : List UInt32) : Bytes :=
  Slip.encode [arguments.flatMap Bytes.ofUInt32]

inductive Sent (command : UInt8) (arguments : List UInt32) : Bool → List Event → Prop where
  | undropped : Sent command arguments false [.failed .clear]
  | unsent {noise : List Event} (far : Noise noise) :
      Sent command arguments false
        (.done .clear :: (noise ++ [.failed (.write (commandPacket command))]))
  | cut {noise reaction : List Event} (far : Noise noise) (away : Noise reaction) :
      Sent command arguments false
        (.done .clear :: (noise ++ .done (.write (commandPacket command)) ::
          (reaction ++ [.failed (.write (argumentPacket arguments))])))
  | whole {noise reaction answer : List Event} (far : Noise noise) (away : Noise reaction)
      (last : Noise answer) :
      Sent command arguments true
        (.done .clear :: (noise ++ .done (.write (commandPacket command)) ::
          (reaction ++ .done (.write (argumentPacket arguments)) :: answer)))

/-- What may happen between the packets of a command. -/
theorem quiet_listening {event : Event} (listening : event.isListening = true) :
    event.written? = none ∧ event.discards = false := by
  cases event <;> simp [Event.isListening, Event.written?, Event.discards] at listening ⊢

theorem quiet_noise {events : List Event} (far : Noise events) {event : Event}
    (member : event ∈ events) :
    event.written? = none ∧ event.discards = false ∧ event.taken = [] := by
  have apart := quiet_listening (far.listening event member)
  exact ⟨apart.1, apart.2, List.flatMap_eq_nil_iff.mp far.takenBytes_eq event member⟩

namespace Sent

variable {command : UInt8} {arguments : List UInt32} {whole : Bool} {events : List Event}

theorem head_discards (sent : Sent command arguments whole events) {later : List Event} :
    ∀ first ∈ (events ++ later).head?, first.discards = true := by
  cases sent with
  | undropped | unsent | cut | whole =>
    rintro first ⟨⟩
    rfl

theorem taken_nil (sent : Sent command arguments whole events) :
    ∀ event ∈ events, event.taken = [] := by
  have none : takenBytes events = [] := by
    cases sent with
    | undropped => rfl
    | unsent far => simp [Event.taken, far.takenBytes_eq]
    | cut far away => simp [Event.taken, far.takenBytes_eq, away.takenBytes_eq]
    | whole far away last =>
      simp [Event.taken, far.takenBytes_eq, away.takenBytes_eq, last.takenBytes_eq]
  exact List.flatMap_eq_nil_iff.mp none

/-- A command that was sent whole has nothing but its arguments after the command byte. -/
theorem split (sent : Sent command arguments true events) :
    ∃ early late, events = early ++ .done (.write (commandPacket command)) :: late ∧
      (∀ event ∈ early, event.written? = none) ∧ (∀ event ∈ late, event.discards = false) ∧
      late.filterMap Event.written? = [argumentPacket arguments] := by
  cases sent with
  | @whole noise reaction answer far away last =>
    refine ⟨.done .clear :: noise, _, by rw [List.cons_append], ?_, ?_, ?_⟩
    · intro event member
      rcases List.mem_cons.mp member with rfl | member
      · rfl
      · exact (quiet_noise far member).1
    · intro event member
      simp only [List.mem_append, List.mem_cons] at member
      rcases member with early | rfl | late
      · exact (quiet_noise away early).2.1
      · rfl
      · exact (quiet_noise last late).2.1
    · rw [List.filterMap_append, away.idle.filterMap_written, List.nil_append,
        List.filterMap_cons]
      simp [Event.written?, last.idle.filterMap_written]

/-- A command that broke off has left no other packets than its own. -/
theorem written (sent : Sent command arguments whole events) {event : Event} {data : Bytes}
    (member : event ∈ events) (written : event.written? = some data) :
    data = commandPacket command ∨ data = argumentPacket arguments := by
  have apart : ∀ {noise : List Event}, Noise noise → event ∉ noise := fun far member => by
    rw [(quiet_noise far member).1] at written
    cases written
  cases sent with
  | undropped => simp_all [Event.written?]
  | unsent far =>
    simp only [List.mem_cons, List.mem_append, apart far, List.not_mem_nil, false_or, or_false] at member
    rcases member with rfl | rfl <;> simp_all [Event.written?]
  | cut far away =>
    simp only [List.mem_cons, List.mem_append, apart far, apart away, List.not_mem_nil, false_or,
      or_false] at member
    rcases member with rfl | rfl | rfl <;> simp_all [Event.written?]
  | whole far away last =>
    simp only [List.mem_cons, List.mem_append, apart far, apart away, apart last, false_or,
      or_false] at member
    rcases member with rfl | rfl | rfl <;> simp_all [Event.written?]

/-- Nothing is written before the command byte. -/
theorem unwritten (sent : Sent command arguments whole events) {later : List Event}
    (alone : whole = false → later = []) {event : Event}
    (member : event ∈ (events ++ later).takeWhile (!·.offers (commandPacket command))) :
    event.written? = none := by
  have before : ∀ {early late : List Event} {packet : Event}, Noise early →
      packet.offers (commandPacket command) = true →
      event ∈ (.done .clear :: (early ++ packet :: late)).takeWhile
        (!·.offers (commandPacket command)) → event.written? = none := by
    intro early late packet far offered member
    have passed : ∀ event ∈ .done .clear :: early,
        (!event.offers (commandPacket command)) = true := by
      intro event member
      rcases List.mem_cons.mp member with rfl | member
      · rfl
      · simp [Event.offers, (quiet_noise far member).1]
    rw [← List.cons_append, List.takeWhile_append_of_pos passed,
      List.takeWhile_cons_of_neg (by simp [offered]), List.append_nil] at member
    rcases List.mem_cons.mp member with rfl | member
    · rfl
    · exact (quiet_noise far member).1
  cases sent with
  | undropped =>
    rw [alone rfl] at member
    rw [List.mem_singleton.mp ((List.takeWhile_sublist _).subset member)]
    rfl
  | unsent far =>
    rw [alone rfl, List.append_nil] at member
    exact before far (by simp [Event.offers, Event.written?]) member
  | cut far away =>
    rw [alone rfl, List.append_nil] at member
    exact before far (by simp [Event.offers, Event.written?]) member
  | whole far away last =>
    rw [List.cons_append, List.append_assoc, List.cons_append] at member
    exact before far (by simp [Event.offers, Event.written?]) member

end Sent

variable {σ : Type} [Peer σ]

/-- A command is sent whole or fails with the fault of one of its calls. -/
theorem sendCommand_cases (command : UInt8) (arguments : List UInt32) (port : Slip.Port σ) :
    (∃ fault reached events, (sendCommand command arguments).outcome port = (.error fault, reached) ∧
      Line.Did events port.line reached.line ∧ Sent command arguments false events) ∨
    (∃ reached events, (sendCommand command arguments).outcome port = (.ok (), reached) ∧
      reached.ahead = [] ∧
      Line.Did events port.line reached.line ∧ Sent command arguments true events) := by
  have dropped : (Slip.Port.discard.mapError ProvisionError.io).outcome port =
      (((device (Line.call .clear)).outcome { port with block := [], ahead := [] }).1.mapError .io,
        ((device (Line.call .clear)).outcome { port with block := [], ahead := [] }).2) := by
    rw [Action.outcome_mapError, Slip.Port.discard, Action.outcome_change_bind]
  rw [sendCommand, Action.outcome_bind, dropped]
  rcases call_cases .clear { port with block := [], ahead := [] } with
    ⟨fault, line, ran, did⟩ | ⟨noise, line, far, ran, did⟩
  · rw [ran]
    exact .inl ⟨_, _, _, rfl, did, .undropped⟩
  rw [ran]
  dsimp only [Except.mapError]
  rw [Action.outcome_bind, Action.outcome_mapError]
  rcases writePacket_cases [[command]] ({ line, block := [], ahead := [] } : Slip.Port σ) with
    ⟨fault, second, ran, next⟩ | ⟨reaction, second, away, ran, next⟩
  · rw [ran]
    exact .inl ⟨_, _, _, rfl, did.append next, .unsent far⟩
  rw [ran]
  dsimp only [Except.mapError]
  rw [Action.outcome_mapError]
  rcases writePacket_cases [arguments.flatMap Bytes.ofUInt32]
      ({ line := second, block := [], ahead := [] } : Slip.Port σ) with
    ⟨fault, third, ran, final⟩ | ⟨answer, third, last, ran, final⟩
  · rw [ran]
    refine .inl ⟨_, _, _, rfl, (did.append next).append final, ?_⟩
    rw [List.append_assoc]
    exact .cut far away
  · rw [ran]
    refine .inr ⟨_, _, rfl, rfl, (did.append next).append final, ?_⟩
    rw [List.append_assoc]
    exact .whole far away last

def reportIn (answer : Bytes) : Option Digest :=
  (firstPacket? 32 answer).bind fun packet => Octets.ofBytes? 16 (packet.take 16)

/-- A digest is returned exactly when the bytes that came after the query hold it. -/
theorem digest_cases (address length : UInt32) (port : Slip.Port σ) :
    ∃ whole query answer, Sent digestCommand [address, length, 0] whole query ∧
      Line.Did (query ++ answer) port.line ((digest address length).outcome port).2.line ∧
      Listening answer ∧ (whole = false → answer = []) ∧
      ∀ found, ((digest address length).outcome port).1 = .ok found ↔
        reportIn (takenBytes answer) = some found := by
  rw [digest]
  rcases sendCommand_cases digestCommand [address, length, 0] port with
    ⟨fault, reached, query, ran, did, sent⟩ | ⟨reached, query, ran, ahead, did, sent⟩
  · rw [Action.outcome_bind_error ran]
    refine ⟨false, query, [], sent, by rwa [List.append_nil], .nil, fun _ => rfl, fun found => ?_⟩
    simp [reportIn, firstPacket?, scan]
  · rw [Action.outcome_bind_ok ran, Action.outcome_bind]
    obtain ⟨answer, next, listening, read⟩ := readPacket_spec 32 digestTimeout reached
    rw [ahead, List.nil_append] at read
    revert next read
    rcases (readPacket 32 digestTimeout).outcome reached with ⟨result, final⟩
    intro next read
    refine ⟨true, query, answer, sent, ?_⟩
    have unread (missing : ∀ packet, result ≠ .ok (some packet)) :
        reportIn (takenBytes answer) = none := by
      have nothing : firstPacket? 32 (takenBytes answer) = none :=
        Option.eq_none_iff_forall_ne_some.mpr fun packet found =>
          missing packet ((read packet).mpr found)
      rw [reportIn, nothing, Option.bind_none]
    rcases result with error | - | packet
    · exact ⟨did.append next, listening, by simp, by simp [unread (by simp)]⟩
    · exact ⟨did.append next, listening, by simp, by simp [unread (by simp)]⟩
    · have first : firstPacket? 32 (takenBytes answer) = some packet := (read packet).mp rfl
      rcases octets : Octets.ofBytes? 16 (packet.take 16) with - | report
      · refine ⟨?_, listening, by simp, ?_⟩
        · simpa only [octets, Action.outcome_throw] using did.append next
        · simp [reportIn, first, octets]
      · refine ⟨?_, listening, by simp, ?_⟩
        · simpa only [octets, Action.outcome_pure] using did.append next
        · simp [reportIn, first, octets]

theorem keeps_streamFrom (written : Nat) (blocks : List (Except Fault Bytes)) :
    Action.Keeps (Talks fun _ => True) (streamFrom written blocks : Step σ Unit) := by
  have acknowledged : ∀ written,
      Action.Keeps (Talks fun _ => True) (awaitAck written : Step σ Unit) := by
    intro written
    refine .bind keeps_discard.mapError fun _ => .bind (keeps_awaitDelimiter _).mapError fun seen => ?_
    dsimp only
    split
    · exact .bind (keeps_note _) fun _ => keeps_delayMs 1
    · exact keeps_delayMs 1
  induction blocks generalizing written with
  | nil => exact .pure ()
  | cons block rest ih =>
    cases block with
    | error fault => exact .throw _
    | ok block =>
      refine .bind (Action.Keeps.mapError (keeps_writeRaw trivial)) fun _ => ?_
      dsimp only
      generalize (if written = 0 then clearFlashMode block else block) = sent
      split
      · exact .bind (acknowledged _) fun _ => ih _
      · exact ih _

/-- What follows the command that writes the flash. -/
theorem keeps_stream (image : Firmware.Image) (length : UInt32) :
    Action.Keeps (Talks fun _ => True)
      (readPacket 8 commandTimeout >>= fun ack =>
        if ack ≠ some [0, 0, 0, 0] then throw ProvisionError.flashWriteRejected
        else streamFrom 0 (image.readBlocks blockLength length.toNat) : Step σ Unit) := by
  refine .bind (keeps_readPacket 8 commandTimeout) fun ack => ?_
  split
  · exact .throw _
  · exact keeps_streamFrom 0 _

/-- An image is written under the write command; without the command nothing else happens. -/
theorem writeImage_cases (address : UInt32) (image : Firmware.Image) (length : UInt32)
    (port : Slip.Port σ) :
    ∃ whole command later, Sent writeCommand [address, length, 1] whole command ∧
      Line.Did (command ++ later) port.line
        ((writeImage address image length).outcome port).2.line ∧
      (whole = false → later = []) ∧
      (((writeImage address image length).outcome port).1 = .ok () → whole = true) := by
  rw [writeImage]
  rcases sendCommand_cases writeCommand [address, length, 1] port with
    ⟨fault, reached, command, ran, did, sent⟩ | ⟨reached, command, ran, _, did, sent⟩
  · rw [Action.outcome_bind_error ran]
    exact ⟨false, command, [], sent, by rwa [List.append_nil], fun _ => rfl, by simp⟩
  · rw [Action.outcome_bind_ok ran]
    obtain ⟨later, next, _⟩ := (keeps_stream image length reached).does
    exact ⟨true, command, later, sent, did.append next, by simp, fun _ => rfl⟩

/-- The digest that the stub reported when it was asked for one first: what came in between the
query and the next time the input was dropped. -/
def firstReport (events : List Event) : Option Digest :=
  reportIn (takenBytes
    ((events.dropWhile (!·.offers (commandPacket digestCommand))).takeWhile (!·.discards)))

def sinceQuery (events : List Event) : List Event :=
  events.rtakeWhile (!·.offers (commandPacket digestCommand))

def lastReport (events : List Event) : Option Digest := reportIn (takenBytes (sinceQuery events))

theorem takenBytes_silent {events : List Event} (silent : ∀ event ∈ events, event.taken = []) :
    takenBytes events = [] :=
  List.flatMap_eq_nil_iff.mpr silent

variable {arguments : List UInt32} {query answer : List Event}

theorem firstReport_eq {whole : Bool} {setup later : List Event}
    (clean : ∀ event ∈ setup, event.offers (commandPacket digestCommand) = false)
    (sent : Sent digestCommand arguments whole query)
    (listening : Listening answer)
    (alone : whole = false → answer = [] ∧ later = [])
    (next : ∀ first ∈ later.head?, first.discards = true) :
    firstReport (setup ++ (query ++ answer) ++ later) = reportIn (takenBytes answer) := by
  have passed : ∀ event ∈ setup, (!event.offers (commandPacket digestCommand)) = true := by
    intro event member
    rw [clean event member, Bool.not_false]
  rw [firstReport, List.append_assoc, List.dropWhile_append_of_pos passed]
  cases whole with
  | false =>
    obtain ⟨rfl, rfl⟩ := alone rfl
    rw [List.append_nil, List.append_nil, takenBytes_nil, takenBytes_silent]
    intro event member
    exact sent.taken_nil event
      ((List.dropWhile_sublist _).subset ((List.takeWhile_sublist _).subset member))
  | true =>
    have silent := sent.taken_nil
    obtain ⟨early, late, rfl, unwritten, kept, _⟩ := sent.split
    have before : ∀ event ∈ early, (!event.offers (commandPacket digestCommand)) = true := by
      intro event member
      simp [Event.offers, unwritten event member]
    have unbroken : ∀ event ∈ .done (.write (commandPacket digestCommand)) :: late ++ answer,
        (!event.discards) = true := by
      intro event member
      rcases List.mem_append.mp member with own | heard
      · rcases List.mem_cons.mp own with rfl | own
        · rfl
        · rw [kept event own, Bool.not_false]
      · rw [(quiet_listening (listening event heard)).2, Bool.not_false]
    have closed : later.takeWhile (!·.discards) = [] := by
      cases later with
      | nil => rfl
      | cons first rest => simp [next first (by simp)]
    rw [List.append_assoc, List.append_assoc, List.dropWhile_append_of_pos before, List.cons_append,
      List.dropWhile_cons_of_neg (by simp [Event.offers, Event.written?]), ← List.cons_append,
      ← List.append_assoc, List.takeWhile_append_of_pos unbroken, closed, List.append_nil,
      takenBytes_append, takenBytes_silent, List.nil_append]
    intro event member
    exact silent event (List.mem_append_right early member)

theorem sinceQuery_eq (earlier : List Event)
    (sent : Sent digestCommand arguments true query)
    (listening : Listening answer)
    (different : argumentPacket arguments ≠ commandPacket digestCommand) :
    ∃ late, sinceQuery (earlier ++ (query ++ answer)) = late ++ answer ∧
      (∀ event ∈ late, event.taken = []) ∧
      late.filterMap Event.written? = [argumentPacket arguments] := by
  have silent := sent.taken_nil
  obtain ⟨early, late, rfl, _, _, own⟩ := sent.split
  refine ⟨late, ?_, fun event member => ?_, own⟩
  · have passed : ∀ event ∈ (late ++ answer).reverse,
        (!event.offers (commandPacket digestCommand)) = true := by
      intro event member
      by_contra offered
      simp only [Event.offers, Bool.not_eq_true', Bool.not_eq_false, beq_iff_eq] at offered
      rcases List.mem_append.mp (List.mem_reverse.mp member) with later | heard
      · have packet := List.mem_filterMap.mpr ⟨event, later, offered⟩
        rw [own, List.mem_singleton] at packet
        exact different packet.symm
      · rw [(quiet_listening (listening event heard)).1] at offered
        cases offered
    rw [sinceQuery, List.rtakeWhile, List.append_assoc, ← List.append_assoc, List.reverse_append,
      List.cons_append, List.reverse_cons, List.append_assoc, List.takeWhile_append_of_pos passed,
      List.singleton_append, List.takeWhile_cons_of_neg (by simp [Event.offers, Event.written?]),
      List.append_nil, List.reverse_reverse]
  · exact silent event (List.mem_append_right early (List.mem_cons_of_mem _ member))

theorem lastReport_eq (earlier : List Event)
    (sent : Sent digestCommand arguments true query)
    (listening : Listening answer)
    (different : argumentPacket arguments ≠ commandPacket digestCommand) :
    lastReport (earlier ++ (query ++ answer)) = reportIn (takenBytes answer) := by
  obtain ⟨late, since, silent, _⟩ := sinceQuery_eq earlier sent listening different
  rw [lastReport, since, takenBytes_append, takenBytes_silent silent, List.nil_append]

end Flasher

end RadioLink
