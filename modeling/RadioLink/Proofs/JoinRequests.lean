import RadioLink.Proofs.AssociationPhases
import RadioLink.Proofs.MessageLayouts

/-!
What the association manager asks the co-processor for. A request is due under stated conditions on the
phase, the reports, the ready signal and the configuration; a poll writes the frame of a request that is
due, and nothing else. Every request to join or to offer a network names it, and every access point
has a password that is long enough.
-/

namespace RadioLink

namespace Text

theorem utf8ByteSize_hexByte (b : UInt8) : (hexByte b).utf8ByteSize = 2 := by
  have sizes : ∀ n < 256, (hex 2 n).utf8ByteSize = 2 := by decide +kernel
  exact sizes b.toNat b.toNat_lt

theorem utf8ByteSize_hexBytes (bytes : Bytes) :
    (hexBytes bytes).utf8ByteSize = 2 * bytes.length := by
  induction bytes with
  | nil => rfl
  | cons b rest ih =>
    have first : hexBytes (b :: rest) = hexByte b ++ hexBytes rest := String.join_cons
    calc (hexBytes (b :: rest)).utf8ByteSize
        = (hexByte b ++ hexBytes rest).utf8ByteSize := by rw [first]
      _ = 2 + 2 * rest.length := by rw [String.utf8ByteSize_append, utf8ByteSize_hexByte, ih]
      _ = 2 * (b :: rest).length := by rw [List.length_cons]; omega

end Text

namespace Credentials

theorem isEmpty_iff (credentials : Credentials) :
    credentials.isEmpty = true ↔ credentials.ssid = "" :=
  String.isEmpty_iff

theorem named_iff (credentials : Credentials) :
    credentials.isEmpty = false ↔ credentials.ssid ≠ "" := by
  rw [← Bool.not_eq_true, isEmpty_iff]

theorem length_bytes (credentials : Credentials) : credentials.bytes.length = 64 := by
  rw [bytes, List.length_append, Bytes.length_padTo, Bytes.length_padTo]
  rfl

/-- The name of a generated access point fits its field, so the access point is a proper one. -/
theorem generated_proper (mac : Mac) :
    (generated mac).ssid ≠ "" ∧ minAccessPointPassword ≤ (generated mac).password.utf8ByteSize := by
  have size : (generatedName ++ Text.hexBytes (mac.bytes.drop 3)).utf8ByteSize = 17 := by
    rw [String.utf8ByteSize_append, Text.utf8ByteSize_hexBytes, List.length_drop, mac.size]
    rfl
  have fits : (generatedName ++ Text.hexBytes (mac.bytes.drop 3)).utf8ByteSize ≤ 32 ∧
      generatedPassword.utf8ByteSize ≤ 32 := ⟨by omega, by decide⟩
  have long : minAccessPointPassword ≤ generatedPassword.utf8ByteSize := by decide
  rw [generated, ofTexts?, dif_pos fits, Option.getD_some]
  refine ⟨fun blank => ?_, long⟩
  dsimp only at blank
  rw [blank] at size
  contradiction

end Credentials

theorem PortTable.length_bytes (table : PortTable) : table.bytes.length = 32 := by
  rw [bytes, length_encode, table.size]
  rfl

theorem Config.noStations_eq_false {config : Config} {slot : Nat}
    (named : (config.station slot).ssid ≠ "") : config.noStations = false := by
  rw [← Credentials.named_iff] at named
  by_contra all
  rw [Bool.not_eq_false, noStations, Vector.all_eq_true] at all
  unfold station at named
  -- a slot that does not exist counts as empty
  by_cases inside : slot < stationCount
  · rw [Vector.getElem?_eq_getElem inside, Option.getD_some, all slot inside] at named
    contradiction
  · rw [Vector.getElem?_eq_none (Nat.not_lt.mp inside)] at named
    contradiction

namespace Association

variable {σ : Type} {assoc after : Association σ} {telemetry : Telemetry} {timeout : Micros}
  {dataId : UInt8} {payload : Bytes}

def offered (config : Config) (mac : Mac) : Credentials :=
  if config.accessPoint.ssid = "" then .generated mac else config.accessPoint

inductive Requests (assoc : Association σ) (telemetry : Telemetry) : UInt8 → Bytes → Prop where
  | join (chooses : assoc.Chooses telemetry) (off : assoc.store.config.accessPointEnabled = false)
      (named : (assoc.store.config.station assoc.manager.router).ssid ≠ "") :
      Requests assoc telemetry Message.connectId
        (assoc.store.config.station assoc.manager.router).bytes
  | offer (chooses : assoc.Chooses telemetry)
      (on : assoc.store.config.accessPointEnabled = true ∨ assoc.store.config.noStations = true)
      (known : telemetry.mac ≠ Octets.zero 6)
      (named : (offered assoc.store.config telemetry.mac).ssid ≠ "")
      (long : 8 ≤ (offered assoc.store.config telemetry.mac).password.utf8ByteSize) :
      Requests assoc telemetry Message.accessPointId
        (offered assoc.store.config telemetry.mac).bytes
  | copy (phase : assoc.manager.phase = .connected) (up : telemetry.isConnected = true)
      (due : assoc.ports.changed = true ∨ assoc.manager.alarm.expired assoc.transport.now = true)
      (ready : assoc.transport.isReady = true) :
      Requests assoc telemetry Message.portsId assoc.ports.bytes

theorem Requests.fits (requests : assoc.Requests telemetry dataId payload) :
    payload.length ≤ Frame.maxPayload := by
  cases requests with
  | join | offer =>
    rw [Credentials.length_bytes]
    decide
  | copy =>
    rw [PortTable.length_bytes]
    decide

theorem Requests.ready (requests : assoc.Requests telemetry dataId payload) :
    assoc.transport.isReady = true := by
  cases requests with
  | join chooses | offer chooses => exact chooses.ready
  | copy _ _ _ ready => exact ready

theorem checkPassword_ok_iff (credentials : Credentials) :
    checkPassword credentials = .ok () ↔ 8 ≤ credentials.password.utf8ByteSize := by
  unfold checkPassword
  dsimp only
  split
  next short =>
    apply iff_of_false _ (Nat.not_le.mpr short)
    intro accepted
    contradiction
  next long => exact iff_of_true rfl (Nat.not_lt.mp long)

theorem tries_eq_false_iff : assoc.tries = false ↔
    assoc.store.config.accessPointEnabled = true ∨ assoc.store.config.noStations = true := by
  rw [tries, Bool.and_eq_false_iff, Bool.not_eq_false', Bool.not_eq_false']

theorem Asks.requests {phase : Phase} {credentials : Credentials} {generated : Bool}
    (asks : assoc.Asks telemetry phase dataId credentials generated)
    (chooses : assoc.Chooses telemetry) :
    assoc.Requests telemetry dataId credentials.bytes := by
  cases asks with
  | network tries named =>
    rw [Association.tries, Bool.and_eq_true, Bool.not_eq_true'] at tries
    exact .join chooses tries.1 ((Credentials.named_iff _).mp named)
  | generated offers known unnamed =>
    have same : offered assoc.store.config telemetry.mac = .generated telemetry.mac :=
      if_pos ((Credentials.isEmpty_iff _).mp unnamed)
    obtain ⟨named, long⟩ := Credentials.generated_proper telemetry.mac
    rw [← same] at named long ⊢
    exact .offer chooses (tries_eq_false_iff.mp offers) known named long
  | configured offers known named long =>
    rw [Credentials.named_iff] at named
    rw [checkPassword_ok_iff] at long
    have same : offered assoc.store.config telemetry.mac = assoc.store.config.accessPoint :=
      if_neg named
    rw [← same] at named long ⊢
    exact .offer chooses (tries_eq_false_iff.mp offers) known named long

/-- A request that is due is one that the manager chooses, or a copy of the port table. -/
theorem Requests.chosen (requests : assoc.Requests telemetry dataId payload) :
    (assoc.Chooses telemetry ∧ ∃ phase credentials generated,
      assoc.Asks telemetry phase dataId credentials generated ∧ payload = credentials.bytes) ∨
    (assoc.manager.phase = .connected ∧ telemetry.isConnected = true ∧
      (assoc.ports.changed = true ∨ assoc.manager.alarm.expired assoc.transport.now = true) ∧
      assoc.transport.isReady = true ∧ dataId = Message.portsId ∧ payload = assoc.ports.bytes) := by
  cases requests with
  | join chooses off named =>
    have tries : assoc.tries = true := by
      rw [Association.tries, off, Config.noStations_eq_false named]
      rfl
    exact .inl ⟨chooses, _, _, _, .network tries ((Credentials.named_iff _).mpr named), rfl⟩
  | offer chooses on known named long =>
    have offers := tries_eq_false_iff.mpr on
    unfold offered at named long ⊢
    split at named
    next unnamed =>
      rw [if_pos unnamed]
      exact .inl ⟨chooses, _, _, _, .generated offers known ((Credentials.isEmpty_iff _).mpr unnamed), rfl⟩
    next =>
      rw [if_neg named] at long ⊢
      exact .inl ⟨chooses, _, _, _, .configured offers known ((Credentials.named_iff _).mpr named)
        ((checkPassword_ok_iff _).mpr long), rfl⟩
  | copy phase up due ready => exact .inr ⟨phase, up, due, ready, rfl, rfl⟩

/-- The manager asks for one thing at a time. -/
theorem Asks.unique {phase phase' : Phase} {dataId' : UInt8} {credentials credentials' : Credentials}
    {generated generated' : Bool} (asks : assoc.Asks telemetry phase dataId credentials generated)
    (asks' : assoc.Asks telemetry phase' dataId' credentials' generated') :
    dataId' = dataId ∧ credentials' = credentials := by
  cases asks with
  | network tries =>
    cases asks' with
    | network => exact ⟨rfl, rfl⟩
    | generated offers | configured offers =>
      rw [tries] at offers
      contradiction
  | generated offers _ unnamed =>
    cases asks' with
    | network tries =>
      rw [tries] at offers
      contradiction
    | generated => exact ⟨rfl, rfl⟩
    | configured _ _ named =>
      rw [unnamed] at named
      contradiction
  | configured offers _ named =>
    cases asks' with
    | network tries =>
      rw [tries] at offers
      contradiction
    | generated _ _ unnamed =>
      rw [unnamed] at named
      contradiction
    | configured => exact ⟨rfl, rfl⟩

namespace Polled

/-- A poll of a manager that chooses sends what it asks for. -/
theorem sends_choice (polled : Polled assoc telemetry timeout after)
    (chooses : assoc.Chooses telemetry) {phase : Phase} {credentials : Credentials} {generated : Bool}
    (asks : assoc.Asks telemetry phase dataId credentials generated) :
    ∃ result, assoc.transport.Tries dataId credentials.bytes result after.transport := by
  have choosing {other : Phase} (phase : assoc.manager.phase = other) : .select = other :=
    chooses.phase.symm.trans phase
  cases polled with
  -- a manager that chooses waits only for the hardware address, which no request to join needs
  | waited waits =>
    unfold Waits at waits
    rw [chooses.phase] at waits
    obtain ⟨idle, unknown⟩ := waits.2 chooses.ready
    cases asks with
    | network tries =>
      rw [tries] at idle
      contradiction
    | generated _ known | configured _ known => exact absurd unknown known
  | connected _ up =>
    rw [chooses.apart] at up
    contradiction
  | passed _ tries unnamed =>
    cases asks with
    | network _ named =>
      rw [unnamed] at named
      contradiction
    | generated offers | configured offers =>
      rw [tries] at offers
      contradiction
  | unheard _ other tries | asked _ other tries =>
    obtain ⟨rfl, rfl⟩ := asks.unique other
    exact ⟨_, tries⟩
  | disabled _ offers _ named short =>
    cases asks with
    | network tries =>
      rw [tries] at offers
      contradiction
    | generated _ _ unnamed =>
      rw [unnamed] at named
      contradiction
    | configured _ _ _ long =>
      rw [short] at long
      contradiction
  | joinTimedOut phase | offerTimedOut phase | resumed phase | dropped phase | pushed phase =>
    exact Phase.noConfusion (choosing phase)

/-- A poll of a connected manager sends a copy of the port table that is due, and takes note of it
when the copy has gone out. -/
theorem sends_copy (polled : Polled assoc telemetry timeout after)
    (phase : assoc.manager.phase = .connected) (up : telemetry.isConnected = true)
    (due : assoc.ports.changed = true ∨ assoc.manager.alarm.expired assoc.transport.now = true)
    (ready : assoc.transport.isReady = true) :
    ∃ result, assoc.transport.Tries Message.portsId assoc.ports.bytes result after.transport ∧
      after.ports = if result = .ok () then assoc.ports.clearChanged else assoc.ports := by
  have settled {other : Phase} (now : assoc.manager.phase = other) : .connected = other :=
    phase.symm.trans now
  cases polled with
  | waited waits =>
    unfold Waits at waits
    rw [phase] at waits
    obtain ⟨same, early⟩ := waits.2 ready
    rw [same, early] at due
    rcases due with due | due
    · contradiction
    · contradiction
  | connected other => exact absurd phase other
  | passed chooses | unheard chooses | asked chooses | disabled chooses =>
    exact Phase.noConfusion (settled chooses.phase)
  | joinTimedOut phase | offerTimedOut phase | resumed phase =>
    exact Phase.noConfusion (settled phase)
  | dropped _ apart =>
    rw [up] at apart
    contradiction
  | pushed _ _ _ _ tries => exact ⟨_, tries, rfl⟩

/-- A request that is due is sent. -/
theorem sends (polled : Polled assoc telemetry timeout after)
    (requests : assoc.Requests telemetry dataId payload) :
    ∃ result, assoc.transport.Tries dataId payload result after.transport := by
  rcases requests.chosen with ⟨chooses, phase, credentials, generated, asks, rfl⟩ |
    ⟨phase, up, due, ready, rfl, rfl⟩
  · exact polled.sends_choice chooses asks
  · obtain ⟨result, tries, -⟩ := polled.sends_copy phase up due ready
    exact ⟨result, tries⟩

/-- A poll sends nothing, or a request that is due. -/
theorem silent_or_sends (polled : Polled assoc telemetry timeout after) :
    assoc.transport.Noted after.transport ∨ ∃ dataId payload result,
      assoc.Requests telemetry dataId payload ∧
        assoc.transport.Tries dataId payload result after.transport := by
  have silent : assoc.transport.Noted assoc.transport := ⟨_, rfl⟩
  cases polled with
  | waited | passed | offerTimedOut | resumed => exact .inl silent
  | connected => exact .inl (enterConnected_transport assoc telemetry)
  | unheard chooses asks tries | asked chooses asks tries =>
    exact .inr ⟨_, _, _, asks.requests chooses, tries⟩
  | disabled _ _ _ _ _ noted | joinTimedOut _ _ _ noted | dropped _ _ noted => exact .inl noted
  | pushed phase up due ready tries => exact .inr ⟨_, _, _, .copy phase up due ready, tries⟩

theorem store_eq (polled : Polled assoc telemetry timeout after) :
    after.store = assoc.store ∨ after.store = assoc.store.write (.accessPointEnabled false) := by
  cases polled with
  | disabled => exact .inr rfl
  | connected =>
    left
    unfold enterConnected
    dsimp only
    split
    · rfl
    · rfl
  | waited | passed | unheard | asked | joinTimedOut | offerTimedOut | resumed | dropped | pushed =>
    exact .inl rfl

/-- The bytes that a poll writes. -/
theorem mem_written_iff (polled : Polled assoc telemetry timeout after) (data : Bytes) :
    data ∈ (assoc.transport.line.since after.transport.line).filterMap Event.written? ↔
      ∃ parcel : Parcel, parcel.wire = data ∧ parcel.msgId = assoc.transport.lastId + 1 ∧
        assoc.Requests telemetry parcel.dataId parcel.payload := by
  constructor
  · intro member
    rcases polled.silent_or_sends with ⟨log, same⟩ | ⟨dataId, payload, result, requests, tries⟩
    · have nothing : Line.Did [] assoc.transport.line after.transport.line := by
        rw [same]
        exact .same rfl
      rw [nothing.since_eq] at member
      cases member
    · rw [tries.written requests.fits requests.ready] at member
      exact ⟨_, (List.mem_singleton.mp member).symm, rfl, requests⟩
  · rintro ⟨⟨msgId, dataId, payload, fits⟩, rfl, rfl, requests⟩
    obtain ⟨result, tries⟩ := polled.sends requests
    rw [tries.written fits requests.ready]
    exact List.mem_singleton.mpr rfl

end Polled

end Association

namespace Manager

variable {σ : Type} [Peer σ]

/-- Only proper requests leave the manager. In every run, each poll on an occasion of its own, what is
written are frames; a frame is written exactly when it carries the next number and a request that is
due. The only write to the configuration is the one that switches the access point off. -/
theorem only_due_requests_leave (turns : List (Turn σ)) (occasion : Occasion σ) :
    let assoc := (after turns).on occasion
    let polled := (after turns).polled occasion
    let written := (occasion.transport.line.since polled.transport.line).filterMap Event.written?
    (∀ data ∈ written, ∃ parcel : Parcel, parcel.wire = data) ∧
    (∀ parcel : Parcel, parcel.wire ∈ written ↔
      parcel.msgId = occasion.transport.lastId + 1 ∧
        assoc.Requests occasion.telemetry parcel.dataId parcel.payload) ∧
    (polled.store = occasion.store ∨
      polled.store = occasion.store.write (.accessPointEnabled false)) := by
  intro assoc polled written
  have cases := Association.poll_cases assoc occasion.telemetry occasion.timeout
  have members : ∀ data, data ∈ written ↔ _ := cases.mem_written_iff
  refine ⟨fun data member => ?_, fun parcel => ?_, cases.store_eq⟩
  · obtain ⟨parcel, same, -⟩ := (members data).mp member
    exact ⟨parcel, same⟩
  · rw [members]
    constructor
    · rintro ⟨other, same, due⟩
      rw [← Parcel.wire_injective same]
      exact due
    · intro due
      exact ⟨parcel, rfl, due⟩

end Manager

end RadioLink
