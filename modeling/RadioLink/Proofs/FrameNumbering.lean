import RadioLink.Proofs.AssociationPhases
import RadioLink.Proofs.FirmwareTalk
import RadioLink.Simulation.Peer

/-!
The numbers of outbound frames. A transport can be asked to send in three ways, which share one
counter. Each of them hands over at most one frame, the counter moves exactly when it does, and a send
that is refused has not touched anything yet; so the counter is the number of frames handed over since
the transport was made, whether their writes went well or not.
-/

namespace RadioLink

def dataFrames (writes : List Bytes) : List Bytes :=
  writes.filter fun data => data.head? = some Control.data

theorem dataFrames_append (first second : List Bytes) :
    dataFrames (first ++ second) = dataFrames first ++ dataFrames second :=
  List.filter_append ..

theorem dataFrames_wire (parcel : Parcel) : dataFrames [parcel.wire] = [parcel.wire] := by
  rw [parcel.wire_eq]
  rfl

namespace Line

variable {σ : Type}

def handed (before after : Line σ) : List Bytes := (before.since after).filterMap Event.written?

def Hands (writes : List Bytes) (before after : Line σ) : Prop :=
  ∃ events, Did events before after ∧ events.filterMap Event.written? = writes

namespace Hands

variable {before middle after : Line σ} {first second writes : List Bytes}

theorem handed_eq (hands : Hands writes before after) : before.handed after = writes := by
  obtain ⟨events, did, written⟩ := hands
  rw [handed, did.since_eq, written]

theorem same (history : after.history = before.history) : Hands [] before after :=
  ⟨[], .same history, rfl⟩

theorem append (early : Hands first before middle) (late : Hands second middle after) :
    Hands (first ++ second) before after := by
  obtain ⟨events, did, rfl⟩ := early
  obtain ⟨others, next, rfl⟩ := late
  exact ⟨events ++ others, did.append next, List.filterMap_append⟩

theorem of_writes (silent : Writes (fun _ => False) before after) : Hands [] before after := by
  obtain ⟨events, did, none⟩ := silent
  refine ⟨events, did, List.filterMap_eq_nil_iff.mpr fun event member => ?_⟩
  rcases written : event.written? with _ | data
  · rfl
  · exact (none event member data written).elim

variable [Peer σ]

theorem write (data : Bytes) (line : Line σ) :
    Hands [data] line ((Line.call (.write data)).outcome line).2 := by
  rcases call_cases (.write data) line with ⟨_, _, episode⟩ | ⟨noise, far, _, episode⟩
  · exact ⟨_, episode.did, rfl⟩
  · refine ⟨_, episode.did, ?_⟩
    rw [List.filterMap_cons, far.idle.filterMap_written]
    rfl

theorem call {c : Call} (other : c.isWrite = false) :
    Action.Keeps (Hands []) (Line.call c : Action Fault (Line σ) Unit) := by
  intro line
  apply of_writes
  apply Writes.call
  rintro data rfl
  cases other

theorem read (room : Nat) :
    Action.Keeps (Hands []) (Line.read room : Action Fault (Line σ) Bytes) := by
  intro line
  rcases read_cases room line with ⟨_, _, episode⟩ | ⟨bytes, _, _, episode⟩
  · exact ⟨_, episode.did, rfl⟩
  · refine ⟨_, episode.did, List.filterMap_eq_nil_iff.mpr ?_⟩
    intro event member
    rw [mem_taking member]
    rfl

theorem delay (line : Line σ) (span : Micros) : Hands [] line (line.delay span) :=
  of_writes (.delay _ line span)

theorem clearReady (line : Line σ) : Hands [] line line.clearReady :=
  of_writes (.clearReady _ line)

theorem awaitReadyFrom (start timeout : Micros) (count : Nat) (line : Line σ) :
    Hands [] line (Line.awaitReadyFrom start timeout count line).2 := by
  obtain ⟨events, did, talks⟩ := Transport.talks_awaitReadyFrom start timeout count line
  exact of_writes ⟨events, did, fun event member data written => (talks event member).written written⟩

end Hands

end Line

namespace Transport

variable {σ α : Type}

def Mute (before after : Transport σ) : Prop :=
  after.lastId = before.lastId ∧ before.line.Hands [] after.line

theorem Mute.quiet {before after : Transport σ} (count : after.lastId = before.lastId)
    (history : after.line.history = before.line.history) : Mute before after :=
  ⟨count, .same history⟩

instance : IsPreorder (Transport σ) Mute where
  refl _ := .quiet rfl rfl
  trans _ _ _ early late := ⟨late.1.trans early.1, early.2.append late.2⟩

theorem mute_device {action : Action Fault (Line σ) α}
    (silent : Action.Keeps (Line.Hands []) action) : Action.Keeps Mute (device action) :=
  silent.mapError.within fun _ _ hands => ⟨rfl, hands⟩

theorem mute_accept (frame : Bytes) :
    Action.Keeps Mute (accept frame : Action LinkError (Transport σ) Frame) := by
  unfold accept
  split
  · exact .pure _
  · exact .bind (.change fun _ => .quiet rfl rfl) fun _ => .throw _

def isEncodingError : LinkError → Bool
  | .payloadTooLarge _ | .truncated _ _ => true
  | _ => false

/-- The encoder does not complain about this, though the decoder may, about an answer. -/
def AfterEncoding (error : LinkError) : Prop :=
  isEncodingError error = false ∨ ∃ answer, Frame.decode answer = .error error

theorem fails_device {kind : LinkError → Prop} (broken : ∀ fault, kind (.io fault))
    (action : Action Fault (Line σ) α) : Action.Fails kind (device action) := by
  intro transport error failed
  rw [device, Action.outcome_within, Action.outcome_mapError] at failed
  dsimp only at failed
  generalize (action.outcome transport.line).1 = result at failed
  cases result with
  | ok => cases failed
  | error fault =>
    cases failed
    exact broken fault

theorem fails_accept (frame : Bytes) :
    Action.Fails AfterEncoding (accept frame : Action LinkError (Transport σ) Frame) := by
  unfold accept
  split
  · exact .pure _
  next error rejected => exact .bind (.change _) fun _ => .throw (.inr ⟨frame, rejected⟩)

theorem Tries.hands {dataId : UInt8} {payload : Bytes} {before after : Transport σ}
    {result : Except LinkError Unit} (tries : Tries dataId payload before result after)
    (fits : payload.length ≤ Frame.maxPayload) (ready : before.isReady = true) :
    before.line.Hands [(before.nextParcel dataId fits).wire] after.line := by
  obtain ⟨⟨events, episode, -⟩, -⟩ := tries.sends
  have written := tries.written fits ready
  rw [episode.did.since_eq] at written
  exact ⟨events, episode.did, written⟩

/-- How an operation ends that sends one frame. Where it has not handed the frame over, it fails; where
it has, a failure is one of the late ones. -/
inductive Posts (dataId : UInt8) (payload : Bytes) (late : LinkError → Prop) (before : Transport σ) :
    Except LinkError α → Transport σ → Prop where
  | silent {error : LinkError} {after : Transport σ} (mute : before.Mute after) :
      Posts dataId payload late before (.error error) after
  | posted {result : Except LinkError α} {after : Transport σ}
      (fits : payload.length ≤ Frame.maxPayload) (counted : after.lastId = before.lastId + 1)
      (hands : before.line.Hands [(before.nextParcel dataId fits).wire] after.line)
      (failed : ∀ error, result = .error error → late error) :
      Posts dataId payload late before result after

namespace Posts

variable {β : Type} {dataId : UInt8} {payload : Bytes} {late : LinkError → Prop}
  {before middle after : Transport σ} {result : Except LinkError α}

theorem of_tries {result : Except LinkError Unit} (broken : ∀ fault, late (.io fault))
    (tries : Tries dataId payload before result after) :
    Posts dataId payload late before result after := by
  have hands := tries.hands
  cases tries with
  | refused _ noted =>
    obtain ⟨log, rfl⟩ := noted
    exact .silent (.quiet rfl rfl)
  | @failed fault _ _ fits ready =>
    refine .posted fits rfl (hands fits ready) fun error same => ?_
    cases same
    exact broken fault
  | sent fits ready =>
    refine .posted fits rfl (hands fits ready) fun error same => ?_
    cases same

theorem after_mute (mute : before.Mute middle) (posts : Posts dataId payload late middle result after) :
    Posts dataId payload late before result after := by
  cases posts with
  | silent later => exact .silent (trans_of Mute mute later)
  | posted fits counted hands failed =>
    rw [nextParcel, mute.1] at hands
    rw [mute.1] at counted
    exact .posted fits counted (mute.2.append hands) failed

/-- What follows may change the result, but not make up for a frame that was not handed over. -/
theorem then_mute (posts : Posts dataId payload late before result middle) (mute : middle.Mute after)
    {final : Except LinkError β}
    (honest : ∀ error, result = .error error → ∃ other, final = .error other)
    (blame : (∀ error, result = .error error → late error) →
      ∀ error, final = .error error → late error) :
    Posts dataId payload late before final after := by
  cases posts with
  | silent earlier =>
    obtain ⟨other, rfl⟩ := honest _ rfl
    exact .silent (trans_of Mute earlier mute)
  | posted fits counted hands failed =>
    exact .posted fits (mute.1.trans counted) (hands.append mute.2) (blame failed)

/-- What follows keeps a failure and makes something of a result. -/
theorem then_map (posts : Posts dataId payload late before result middle) (mute : middle.Mute after)
    (f : α → β) : Posts dataId payload late before (result.map f) after := by
  apply posts.then_mute mute
  · rintro error rfl
    exact ⟨error, rfl⟩
  · intro earlier error failed
    cases result with
    | error other =>
      cases failed
      exact earlier error rfl
    | ok => cases failed

end Posts

variable [Peer σ]

theorem mute_resetReceived : Action.Keeps Mute (resetReceived : Action LinkError (Transport σ) Unit) :=
  .bind (.change fun _ => .quiet rfl rfl) fun _ => mute_device (.call rfl)

theorem mute_armReceiver : Action.Keeps Mute (armReceiver : Action LinkError (Transport σ) Unit) :=
  .bind mute_resetReceived fun _ => mute_device (.call rfl)

theorem mute_awaitReadySince (transport : Transport σ) (start timeout : Micros) :
    transport.Mute (transport.awaitReadySince start timeout).2 :=
  ⟨rfl, .awaitReadyFrom start timeout (Line.pollCount timeout) transport.line⟩

theorem mute_awaitFrameFrom (start timeout : Micros) (count : Nat) :
    Action.Keeps Mute (awaitFrameFrom start timeout count : Action LinkError (Transport σ) Nat) := by
  have pumped : Action.Keeps Mute (pump : Action LinkError (Transport σ) Unit) := by
    refine .bind .get fun transport => ?_
    split
    · exact .bind (mute_device (.read _)) fun _ => .change fun _ => .quiet rfl rfl
    · exact .pure _
  induction count with
  | zero => exact .throw _
  | succ count ih =>
    refine .bind pumped fun _ => .bind .get fun transport => ?_
    split
    · exact .pure _
    split
    · exact .throw _
    · exact .bind (.change fun transport => ⟨rfl, .delay transport.line _⟩) fun _ => ih

theorem fails_armReceiver :
    Action.Fails AfterEncoding (armReceiver : Action LinkError (Transport σ) Unit) := by
  have called (c : Call) : Action.Fails AfterEncoding
      (device (Line.call c) : Action LinkError (Transport σ) Unit) :=
    fails_device (fun _ => .inl rfl) _
  exact .bind (.bind (.change _) fun _ => called _) fun _ => called _

theorem fails_awaitFrameFrom (start timeout : Micros) (count : Nat) :
    Action.Fails AfterEncoding
      (awaitFrameFrom start timeout count : Action LinkError (Transport σ) Nat) := by
  have pumped : Action.Fails AfterEncoding (pump : Action LinkError (Transport σ) Unit) := by
    refine .bind .get fun transport => ?_
    split
    · exact .bind (fails_device (fun _ => .inl rfl) _) fun _ => .change _
    · exact .pure _
  induction count with
  | zero => exact .throw (.inl rfl)
  | succ count ih =>
    refine .bind pumped fun _ => .bind .get fun transport => ?_
    split
    · exact .pure _
    split
    · exact .throw (.inl rfl)
    · exact .bind (.change _) fun _ => ih

theorem sendBlocking_posts (dataId : UInt8) (payload : Bytes) (transport : Transport σ) :
    Posts dataId payload (isEncodingError · = false) transport
      ((sendBlocking dataId payload).outcome transport).1
      ((sendBlocking dataId payload).outcome transport).2 := by
  have waited := mute_awaitReadySince transport transport.now transport.timeout
  rw [sendBlocking, Action.outcome_bind, Action.outcome_total]
  change Mute _ (transport.awaitReady transport.timeout).2 at waited
  dsimp only
  generalize transport.awaitReady transport.timeout = run at waited ⊢
  obtain ⟨ready, reached⟩ := run
  cases ready with
  | false => exact .silent waited
  | true =>
    apply Posts.after_mute waited
    have tries := send_tries dataId payload reached
    dsimp only [Bool.not_true]
    rw [if_neg (by decide), Action.outcome_bind, Action.outcome_attempt]
    generalize (send dataId payload).outcome reached = sent at tries ⊢
    obtain ⟨result, next⟩ := sent
    have posts : Posts dataId payload (isEncodingError · = false) reached result next :=
      .of_tries (fun _ => rfl) tries
    cases result with
    | ok => exact posts
    | error error =>
      have noted : next.Mute (next.note (.sendFailed dataId error)) := .quiet rfl rfl
      refine posts.then_mute noted (fun _ _ => ⟨_, rfl⟩) fun _ other same => ?_
      cases same
      rfl

theorem exchange_posts (dataId : UInt8) (payload : Bytes) (transport : Transport σ) :
    Posts dataId payload AfterEncoding transport ((exchange dataId payload).outcome transport).1
      ((exchange dataId payload).outcome transport).2 := by
  have waited := mute_awaitReadySince transport transport.now transport.timeout
  rw [exchange, Action.outcome_get_bind, Action.outcome_get_bind, Action.outcome_bind,
    Action.outcome_total]
  dsimp only
  generalize transport.awaitReadySince transport.now transport.timeout = run at waited ⊢
  obtain ⟨ready, reached⟩ := run
  cases ready with
  | false => exact .silent waited
  | true =>
    apply Posts.after_mute waited
    have tries := send_tries dataId payload reached
    dsimp only [Bool.not_true]
    rw [if_neg (by decide), Action.outcome_bind]
    generalize (send dataId payload).outcome reached = sent at tries ⊢
    obtain ⟨result, next⟩ := sent
    have posts : Posts dataId payload AfterEncoding reached result next :=
      .of_tries (fun _ => .inl rfl) tries
    cases result with
    | error error =>
      refine posts.then_mute (refl_of Mute _) (fun _ _ => ⟨error, rfl⟩) fun earlier other same => ?_
      cases same
      exact earlier error rfl
    | ok =>
      let answer : Action LinkError (Transport σ) Frame :=
        awaitFrameFrom transport.now transport.timeout (Line.pollCount transport.timeout) >>=
          fun length => get >>= fun reached => accept ((reached.received.take length).drop 1)
      have mute : Action.Keeps Mute answer :=
        .bind (mute_awaitFrameFrom _ _ _) fun _ => .bind .get fun _ => mute_accept _
      have fails : Action.Fails AfterEncoding answer :=
        .bind (fails_awaitFrameFrom _ _ _) fun _ => .bind .get fun _ => fails_accept _
      exact posts.then_mute (mute next) (fun _ failed => by cases failed) fun _ => fails next

theorem request_posts (dataId : UInt8) (payload : Bytes) (room : Nat) (transport : Transport σ) :
    Posts dataId payload AfterEncoding transport ((request dataId payload room).outcome transport).1
      ((request dataId payload room).outcome transport).2 := by
  have posts := exchange_posts dataId payload transport
  rw [request, Action.outcome_bind, Action.outcome_attempt]
  generalize (exchange dataId payload).outcome transport = exchanged at posts ⊢
  obtain ⟨result, reached⟩ := exchanged
  have armed := mute_armReceiver reached
  have stuck := fails_armReceiver reached
  dsimp only
  rw [Action.outcome_bind]
  generalize armReceiver.outcome reached = run at armed stuck ⊢
  obtain ⟨arming, next⟩ := run
  cases arming with
  | error error =>
    refine posts.then_mute armed (fun _ _ => ⟨_, rfl⟩) fun _ other same => ?_
    cases same
    exact stuck error rfl
  | ok =>
    dsimp only
    rw [Action.outcome_bind, Action.outcome_ofExcept]
    have cut := posts.then_map armed fun frame => frame.payload.take room
    cases result with
    | error => exact cut
    | ok => exact cut

/-- A link reset writes the reset byte, unless the input cannot be discarded. -/
theorem resetLink_hands (transport : Transport σ) :
    (resetLink.outcome transport).2.lastId = transport.lastId ∧
    (transport.line.Hands [[Control.reset]] (resetLink.outcome transport).2.line ∨
      transport.line.Hands [] (resetLink.outcome transport).2.line ∧
        .failed .clear ∈ transport.line.since (resetLink.outcome transport).2.line) := by
  have silent := Line.Hands.call (c := .clear) rfl transport.line
  rcases resetLink_cases transport with ⟨fault, failed, ran⟩ | ⟨_, ran⟩
  · have member : .failed .clear ∈
        transport.line.since ((Line.call .clear).outcome transport.line).2 := by
      rcases Line.call_cases .clear transport.line with ⟨_, _, episode⟩ | ⟨_, _, done, _⟩
      · rw [episode.did.since_eq]
        exact List.mem_singleton.mpr rfl
      · rw [failed] at done
        contradiction
    rw [ran]
    exact ⟨rfl, .inr ⟨silent, member⟩⟩
  · rw [ran, device, Action.outcome_within, Action.outcome_mapError]
    have lowered := Line.Hands.clearReady ((Line.call .clear).outcome transport.line).2
    exact ⟨rfl, .inl (silent.append (lowered.append (.write [Control.reset] _)))⟩

inductive Use where
  | send (dataId : UInt8) (payload : Bytes)
  | sendBlocking (dataId : UInt8) (payload : Bytes)
  | request (dataId : UInt8) (payload : Bytes) (room : Nat)
  | resetLink
  | pause (span : Micros)
  /-- Masks or unmasks the ready edge. -/
  | setIrq (enabled : Bool)

namespace Use

def message? : Use → Option (UInt8 × Bytes)
  | send dataId payload | sendBlocking dataId payload | request dataId payload _ =>
    some (dataId, payload)
  | _ => none

def action : Use → Action LinkError (Transport σ) Unit
  | send dataId payload => Transport.send dataId payload
  | sendBlocking dataId payload => Transport.sendBlocking dataId payload
  | request dataId payload room => (fun _ => ()) <$> Transport.request dataId payload room
  | resetLink => Transport.resetLink
  | pause span => Action.change (·.delay span)
  | setIrq enabled => Action.change (·.onLine (·.setIrq enabled))

def Reports : Use → LinkError → Prop
  | request _ _ _ => AfterEncoding
  | _ => (isEncodingError · = false)

theorem posts {use : Use} {dataId : UInt8} {payload : Bytes}
    (sends : use.message? = some (dataId, payload)) (before : Transport σ) :
    Posts dataId payload use.Reports before (use.action.outcome before).1
      (use.action.outcome before).2 := by
  cases use with
  | send id body =>
    cases sends
    exact .of_tries (fun _ => rfl) (send_tries dataId payload before)
  | sendBlocking id body =>
    cases sends
    exact sendBlocking_posts dataId payload before
  | request id body room =>
    cases sends
    rw [action, Action.outcome_map]
    exact (request_posts dataId payload room before).then_map (refl_of Mute _) fun _ => ()
  | resetLink | pause span | setIrq enabled => cases sends

/-- Whatever else is done, nothing is counted, and the reset byte is all that is written. -/
theorem aside {use : Use} (idle : use.message? = none) (before : Transport σ) :
    (use.action.outcome before).2.lastId = before.lastId ∧
    ∃ writes, before.line.Hands writes (use.action.outcome before).2.line ∧
      dataFrames writes = [] := by
  cases use with
  | send id body | sendBlocking id body | request id body room => cases idle
  | resetLink =>
    obtain ⟨count, hands | ⟨hands, -⟩⟩ := resetLink_hands before
    · exact ⟨count, _, hands, rfl⟩
    · exact ⟨count, _, hands, rfl⟩
  | pause span => exact ⟨rfl, [], .delay before.line span, rfl⟩
  | setIrq enabled => exact ⟨rfl, [], ⟨_, .record before.line _, rfl⟩, rfl⟩

/-- The counter moves with the frames that are handed over. -/
theorem counts (use : Use) (before : Transport σ) :
    ∃ writes, before.line.Hands writes (use.action.outcome before).2.line ∧
      (use.action.outcome before).2.lastId =
        before.lastId + UInt8.ofNat (dataFrames writes).length := by
  rcases message : use.message? with _ | ⟨dataId, payload⟩
  · obtain ⟨count, writes, hands, none⟩ := aside message before
    refine ⟨writes, hands, ?_⟩
    rw [count, none]
    simp
  · have posts := use.posts message before
    generalize (use.action.outcome before).1 = result at posts
    cases posts with
    | silent mute =>
      refine ⟨[], mute.2, ?_⟩
      rw [mute.1]
      simp [dataFrames]
    | posted fits counted hands =>
      refine ⟨_, hands, ?_⟩
      rw [counted, dataFrames_wire]
      rfl

end Use

def afterAll (transport : Transport σ) (uses : List Use) : Transport σ :=
  uses.foldl (fun transport use => (use.action.outcome transport).2) transport

theorem afterAll_concat (transport : Transport σ) (uses : List Use) (use : Use) :
    transport.afterAll (uses ++ [use]) = (use.action.outcome (transport.afterAll uses)).2 :=
  List.foldl_concat ..

def fresh (line : Line σ) (timeout : Micros) : Transport σ := { line, timeout }

/-- The frames handed over so far are what the counter shows. -/
theorem counted_afterAll (line : Line σ) (timeout : Micros) (uses : List Use) :
    ∃ writes, line.Hands writes ((fresh line timeout).afterAll uses).line ∧
      ((fresh line timeout).afterAll uses).lastId = UInt8.ofNat (dataFrames writes).length := by
  induction uses using List.reverseRecOn with
  | nil => exact ⟨[], .same rfl, rfl⟩
  | append_singleton uses use ih =>
    obtain ⟨early, hands, count⟩ := ih
    obtain ⟨late, more, counts⟩ := use.counts ((fresh line timeout).afterAll uses)
    rw [afterAll_concat]
    refine ⟨early ++ late, hands.append more, ?_⟩
    rw [counts, count, dataFrames_append, List.length_append, UInt8.ofNat_add]

theorem handed_afterAll_concat (line : Line σ) (timeout : Micros) (uses : List Use) (use : Use) :
    dataFrames (line.handed ((fresh line timeout).afterAll (uses ++ [use])).line) =
      dataFrames (line.handed ((fresh line timeout).afterAll uses).line) ++
        dataFrames (((fresh line timeout).afterAll uses).line.handed
          ((fresh line timeout).afterAll (uses ++ [use])).line) := by
  obtain ⟨early, hands, -⟩ := counted_afterAll line timeout uses
  obtain ⟨late, more, -⟩ := use.counts ((fresh line timeout).afterAll uses)
  rw [← afterAll_concat] at more
  rw [(hands.append more).handed_eq, hands.handed_eq, more.handed_eq, dataFrames_append]

/-- A frame that was handed over after `n` others carries the number that follows, modulo 256, and is
made of the message of the one use that handed it over. -/
def Accounted (line : Line σ) (timeout : Micros) (uses : List Use) (n : Nat) (data : Bytes) : Prop :=
  ∃ past use rest dataId payload frame, uses = past ++ use :: rest ∧
    (dataFrames (line.handed ((fresh line timeout).afterAll past).line)).length = n ∧
    use.message? = some (dataId, payload) ∧
    Frame.encode (UInt8.ofNat ((n + 1) % 256)) dataId payload
      (Frame.headerLength + Frame.maxPayload) = .ok frame ∧
    data = Control.data :: frame ∧
    ((fresh line timeout).afterAll past).line.handed
      ((fresh line timeout).afterAll (past ++ [use])).line = [data]

theorem accounted_concat {line : Line σ} {timeout : Micros} {uses : List Use} {use : Use} {n : Nat}
    {data : Bytes} (accounted : Accounted line timeout uses n data) :
    Accounted line timeout (uses ++ [use]) n data := by
  obtain ⟨past, sender, rest, dataId, payload, frame, rfl, others⟩ := accounted
  exact ⟨past, sender, rest ++ [use], dataId, payload, frame, by simp, others⟩

/-- The frame that a use hands over is accounted for. -/
theorem accounted_use (line : Line σ) (timeout : Micros) (uses : List Use) {use : Use} {data : Bytes}
    (member : data ∈ dataFrames (((fresh line timeout).afterAll uses).line.handed
      ((fresh line timeout).afterAll (uses ++ [use])).line)) :
    Accounted line timeout (uses ++ [use])
      (dataFrames (line.handed ((fresh line timeout).afterAll uses).line)).length data ∧
    dataFrames (((fresh line timeout).afterAll uses).line.handed
      ((fresh line timeout).afterAll (uses ++ [use])).line) = [data] := by
  obtain ⟨early, hands, count⟩ := counted_afterAll line timeout uses
  rcases message : use.message? with _ | ⟨dataId, payload⟩
  · obtain ⟨-, writes, more, none⟩ := use.aside message ((fresh line timeout).afterAll uses)
    rw [afterAll_concat, more.handed_eq, none] at member
    cases member
  have posts := use.posts message ((fresh line timeout).afterAll uses)
  generalize (use.action.outcome ((fresh line timeout).afterAll uses)).1 = result at posts
  cases posts with
  | silent mute =>
    rw [afterAll_concat, mute.2.handed_eq] at member
    cases member
  | posted fits counted more =>
    rw [← afterAll_concat] at more
    rw [more.handed_eq, dataFrames_wire, List.mem_singleton] at member
    -- the counter is eight bits wide, so it shows the number of frames modulo 256
    have number : ((fresh line timeout).afterAll uses).lastId + 1 =
        UInt8.ofNat (((dataFrames early).length + 1) % 256) := by
      have wraps : UInt8.ofNat (((dataFrames early).length + 1) % 256) =
          UInt8.ofNat ((dataFrames early).length + 1) := UInt8.ofNat_mod_size
      rw [count, wraps, UInt8.ofNat_add]
      rfl
    have encoded := (((fresh line timeout).afterAll uses).nextParcel dataId fits).encode_eq
    rw [nextParcel, number] at encoded
    rw [hands.handed_eq, more.handed_eq, dataFrames_wire, member]
    refine ⟨⟨uses, use, [], dataId, payload, _, by simp, ?_, message, encoded, ?_, ?_⟩, rfl⟩
    · rw [hands.handed_eq]
    · rw [Parcel.wire_eq, nextParcel, number]
    · exact more.handed_eq

theorem accounted_afterAll (line : Line σ) (timeout : Micros) (uses : List Use) (n : Nat) (data : Bytes)
    (found : (dataFrames (line.handed ((fresh line timeout).afterAll uses).line))[n]? = some data) :
    Accounted line timeout uses n data := by
  induction uses using List.reverseRecOn with
  | nil =>
    have none : line.handed ((fresh line timeout).afterAll []).line = [] :=
      (Line.Hands.same rfl).handed_eq
    rw [none] at found
    cases found
  | append_singleton uses use ih =>
    rw [handed_afterAll_concat] at found
    -- the frame was there before the last use, or it is the one that this use handed over
    by_cases early : n < (dataFrames (line.handed ((fresh line timeout).afterAll uses).line)).length
    · rw [List.getElem?_append_left early] at found
      exact accounted_concat (ih found)
    · rw [List.getElem?_append_right (Nat.not_lt.mp early)] at found
      obtain ⟨accounted, single⟩ := accounted_use line timeout uses (List.mem_of_getElem? found)
      rw [single] at found
      obtain ⟨index, -⟩ := List.getElem?_eq_some_iff.mp found
      have last : n = (dataFrames (line.handed ((fresh line timeout).afterAll uses).line)).length := by
        rw [List.length_singleton] at index
        omega
      rw [last]
      exact accounted

/-- What one use does to a transport: a send that succeeds has handed its frame over, one that is refused
leaves everything as it was, and once the counter has moved, the frame has been encoded. A link reset
writes the reset byte and nothing else. -/
structure Careful (before : Transport σ) (use : Use) : Prop where
  sent : use.message?.isSome = true → (use.action.outcome before).1 = .ok () →
    (dataFrames (before.line.handed (use.action.outcome before).2.line)).length = 1
  reset : use = .resetLink →
    before.line.handed (use.action.outcome before).2.line = [[Control.reset]] ∨
    .failed .clear ∈ before.line.since (use.action.outcome before).2.line ∧
      before.line.handed (use.action.outcome before).2.line = []
  refused : ∀ dataId payload error, use = .send dataId payload →
    (use.action.outcome before).1 = .error error →
    (∃ length, error = .payloadTooLarge length) ∨ error = .notReady →
      before.line.since (use.action.outcome before).2.line = [] ∧
      (use.action.outcome before).2.line.ready = before.line.ready ∧
      (use.action.outcome before).2.lastId = before.lastId ∧
      (use.action.outcome before).2.received = before.received
  encoded : (use.action.outcome before).2.lastId ≠ before.lastId →
    ∃ dataId payload frame, use.message? = some (dataId, payload) ∧
      Frame.encode (use.action.outcome before).2.lastId dataId payload
        (Frame.headerLength + Frame.maxPayload) = .ok frame ∧
      before.line.handed (use.action.outcome before).2.line = [Control.data :: frame]
  /-- A complaint that the encoder could have made is then one of the decoder, about the answer to a
  request. -/
  honest : ∀ error, (use.action.outcome before).2.lastId ≠ before.lastId →
    (use.action.outcome before).1 = .error error → isEncodingError error = true →
      ∃ dataId payload room answer, use = .request dataId payload room ∧
        Frame.decode answer = .error error

theorem careful (before : Transport σ) (use : Use) : before.Careful use where
  sent := by
    intro some succeeded
    obtain ⟨⟨dataId, payload⟩, message⟩ := Option.isSome_iff_exists.mp some
    have posts := use.posts message before
    rw [succeeded] at posts
    cases posts with
    | posted fits counted hands => rw [hands.handed_eq, dataFrames_wire, List.length_singleton]
  reset := by
    rintro rfl
    obtain ⟨-, hands | ⟨hands, failed⟩⟩ := resetLink_hands before
    · exact .inl hands.handed_eq
    · exact .inr ⟨failed, hands.handed_eq⟩
  refused := by
    rintro dataId payload error rfl failed cause
    have tries := send_tries dataId payload before
    rw [Use.action] at failed ⊢
    rw [failed] at tries
    generalize ((send dataId payload).outcome before).2 = after at tries ⊢
    cases tries with
    | refused _ noted =>
      obtain ⟨log, rfl⟩ := noted
      exact ⟨(Line.Did.same rfl).since_eq, rfl, rfl, rfl⟩
    | failed =>
      rcases cause with ⟨length, same⟩ | same
      · cases same
      · cases same
  encoded := by
    intro moved
    rcases message : use.message? with _ | ⟨dataId, payload⟩
    · exact absurd (use.aside message before).1 moved
    have posts := use.posts message before
    generalize (use.action.outcome before).1 = result at posts
    cases posts with
    | silent mute => exact absurd mute.1 moved
    | posted fits counted hands =>
      have encoded := (before.nextParcel dataId fits).encode_eq
      rw [Parcel.wire_eq] at hands
      refine ⟨dataId, payload, _, rfl, ?_, hands.handed_eq⟩
      rw [counted]
      exact encoded
  honest := by
    intro error moved failed complaint
    rcases message : use.message? with _ | ⟨dataId, payload⟩
    · exact absurd (use.aside message before).1 moved
    have posts := use.posts message before
    rw [failed] at posts
    cases posts with
    | silent mute => exact absurd mute.1 moved
    | posted _ _ _ reports =>
      have reported := reports error rfl
      cases use with
      | request dataId payload room =>
        rcases reported with fine | ⟨answer, rejected⟩
        · rw [complaint] at fine
          cases fine
        · exact ⟨dataId, payload, room, answer, rfl, rejected⟩
      | send | sendBlocking | resetLink | pause | setIrq =>
        have fine : isEncodingError error = false := reported
        rw [complaint] at fine
        cases fine

/-- Outbound frames are exact and numbered. In every run on a new transport, whatever the far side does
and whichever calls fail, the frame handed to a write as the `n`-th carries `n` modulo 256 and the message
of the use that sent it; a link reset writes the reset byte alone, a refused send leaves no trace, and
the counter never moves for a frame that cannot be encoded. -/
theorem frames_exact_and_numbered (line : Line σ) (timeout : Micros) (uses : List Use) :
    (∀ n data, (dataFrames (line.handed ((fresh line timeout).afterAll uses).line))[n]? = some data →
      Accounted line timeout uses n data) ∧
    ∀ use, ((fresh line timeout).afterAll uses).Careful use :=
  ⟨accounted_afterAll line timeout uses, careful _⟩

/-- The far side is ready at once after each frame; from the second frame on, writes fail. -/
def faltering : Line Simulation.Script :=
  { peer := { readyPolicy := .always, failures := [(.write, 1)] }, ready := ⟨true, true⟩ }

/-- A frame whose write fails is counted like any other, a refused one is not. -/
theorem frames_exact_and_numbered_faltering :
    let uses : List Use := [.send 0x50 [1, 2], .send 0x50 (List.replicate 129 0), .send 0x51 []]
    let frame : Bytes := [2, 2, 0, 0x51, 0x71, 0x3c]
    (dataFrames (faltering.handed ((fresh faltering 20000).afterAll uses).line))[1]? = some frame ∧
      Accounted faltering 20000 uses 1 frame ∧
      ((fresh faltering 20000).afterAll uses).Careful (.send 0x52 []) := by
  intro uses frame
  have found : (dataFrames (faltering.handed ((fresh faltering 20000).afterAll uses).line))[1]? =
      some frame := by decide +kernel
  obtain ⟨numbered, careful⟩ := frames_exact_and_numbered faltering 20000 uses
  exact ⟨found, numbered 1 frame found, careful _⟩

end Transport

end RadioLink
