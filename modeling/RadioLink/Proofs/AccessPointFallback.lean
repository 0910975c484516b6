import RadioLink.Proofs.StationOrder

/-!
What becomes of a device that has no network configured. It offers an access point at the first poll, the
configured one or a generated one, unless the configured one has a name and a password that is too short. Then
the manager switches the access point off and rests; but without networks the switch makes no difference to
the next choice, which finds the same password again.
-/

namespace RadioLink

def Event.isFailedWrite : Event → Bool
  | .failed (.write _) => true
  | _ => false

def Credentials.Offerable (credentials : Credentials) : Prop :=
  credentials.ssid = "" ∨ 8 ≤ credentials.password.utf8ByteSize

instance (credentials : Credentials) : Decidable credentials.Offerable :=
  inferInstanceAs (Decidable (_ ∨ _))

namespace Transport

variable {σ : Type} {before after : Transport σ} {dataId : UInt8} {payload : Bytes}
  {result : Except LinkError Unit}

/-- A frame goes out when the line is ready and the write does not fail. -/
theorem Tries.ok (tries : Tries dataId payload before result after)
    (fits : payload.length ≤ Frame.maxPayload) (ready : before.isReady = true)
    (heard : ∀ event ∈ before.line.since after.line, event.isFailedWrite = false) : result = .ok () := by
  cases tries with
  | refused cause => exact absurd cause (not_refuses fits ready)
  | failed _ _ _ episode =>
    rw [episode.did.since_eq] at heard
    cases heard _ (List.mem_append_right _ List.mem_cons_self)
  | sent => rfl

end Transport

namespace Association

/-- The access point that is offered has a name and a proper password. -/
theorem offered_proper {config : Config} (offerable : config.accessPoint.Offerable) (mac : Mac) :
    (offered config mac).ssid ≠ "" ∧ 8 ≤ (offered config mac).password.utf8ByteSize := by
  unfold offered
  split
  next => exact Credentials.generated_proper mac
  next named => exact ⟨named, offerable.resolve_left named⟩

end Association

namespace Visit

variable {σ : Type} [Peer σ]

/-- A poll of a device without networks, with this access point configured and everything as it should be: the
hardware address is known, the link is ready and no write fails. The switch of the access point may be on or
off. -/
structure Bare (entry : Credentials) (visit : Visit σ) : Prop where
  none : visit.occasion.store.config.noStations = true
  entry : visit.occasion.store.config.accessPoint = entry
  apart : visit.occasion.telemetry.isConnected = false
  known : visit.occasion.telemetry.mac ≠ Octets.zero 6
  ready : visit.occasion.transport.isReady = true
  heard : ∀ event ∈ visit.events, event.isFailedWrite = false

def offer (visit : Visit σ) : Bytes :=
  (Association.offered visit.occasion.store.config visit.occasion.telemetry.mac).bytes

/-- A poll that gets nowhere. A choice writes only to the configuration. -/
structure Stalls (visit : Visit σ) : Prop where
  silent : visit.events = []
  phase : visit.polled.manager.phase ∈ [.select, .backoff]
  switched : visit.manager.phase = .select →
    visit.polled.manager = visit.manager.enterBackoff visit.time ∧
    visit.polled.store = visit.occasion.store.write (.accessPointEnabled false)

variable {entry : Credentials} {visit : Visit σ}

theorem Bare.offers (bare : visit.Bare entry) (offerable : entry.Offerable)
    (phase : visit.manager.phase = .select) : visit.sent Message.accessPointId = [visit.offer] := by
  obtain ⟨none, rfl, apart, known, ready, heard⟩ := bare
  obtain ⟨named, long⟩ := Association.offered_proper offerable visit.occasion.telemetry.mac
  have requests : (visit.manager.on visit.occasion).Requests visit.occasion.telemetry Message.accessPointId
      visit.offer :=
    .offer ⟨phase, apart, ready⟩ (.inr none) known named long
  obtain ⟨result, tries⟩ := visit.polled_cases.sends requests
  rw [tries.ok requests.fits ready heard] at tries
  exact sent_of_tries tries requests.fits

/-- A short password leaves the manager nothing to ask for. -/
theorem Bare.asks_nothing (bare : visit.Bare entry) (stuck : ¬entry.Offerable) {phase : Phase} {dataId : UInt8}
    {credentials : Credentials} {generated : Bool} :
    ¬(visit.manager.on visit.occasion).Asks visit.occasion.telemetry phase dataId credentials generated := by
  intro asks
  obtain ⟨none, rfl, -⟩ := bare
  obtain ⟨named, short⟩ := not_or.mp stuck
  cases asks with
  | network tries =>
    rw [Association.tries_eq_false_iff.mpr (.inr none)] at tries
    cases tries
  | generated _ _ unnamed => exact named ((Credentials.isEmpty_iff _).mp unnamed)
  | configured _ _ _ long => exact short ((Association.checkPassword_ok_iff _).mp long)

theorem Bare.stalls (bare : visit.Bare entry) (stuck : ¬entry.Offerable)
    (phase : visit.manager.phase ∈ [.select, .backoff]) : visit.Stalls := by
  obtain ⟨none, -, apart, known, ready, -⟩ := id bare
  have only {other : Phase} (is : visit.manager.phase = other) : other ∈ [.select, .backoff] := is ▸ phase
  obtain ⟨after, reached⟩ : ∃ after, visit.polled = after := ⟨_, rfl⟩
  have cases := visit.polled_cases
  rw [reached] at cases
  have silent (noted : visit.occasion.transport.Noted after.transport) : visit.events = [] :=
    events_of_noted (by rwa [reached])
  cases cases with
  | waited waits =>
    -- the hardware address is known, so only a manager that rests waits
    have resting : visit.manager.phase ≠ .select :=
      fun choosing => known (waits.of_select choosing ready).2
    refine ⟨silent ⟨_, rfl⟩, ?_, fun choosing => absurd choosing resting⟩
    rw [reached]
    exact phase
  | connected _ up =>
    rw [apart] at up
    cases up
  | passed _ tries =>
    rw [Association.tries_eq_false_iff.mpr (.inr none)] at tries
    cases tries
  | unheard _ asks | asked _ asks => exact absurd asks (bare.asks_nothing stuck)
  | disabled _ _ _ _ _ noted =>
    refine ⟨silent noted, ?_, fun _ => ?_⟩
    · rw [reached]
      simp [Manager.enterBackoff, Manager.enter]
    · rw [reached]
      exact ⟨rfl, rfl⟩
  | joinTimedOut other | offerTimedOut other | dropped other | pushed other => simpa using only other
  | resumed resting =>
    refine ⟨silent ⟨_, rfl⟩, ?_, fun choosing => by cases resting.symm.trans choosing⟩
    rw [reached]
    simp [Association.setManager, Manager.restart]

end Visit

namespace Manager

variable {σ : Type} [Peer σ] {entry : Credentials}

theorem stalls {occasions : List (Occasion σ)} {manager : Manager}
    (bare : ∀ visit ∈ manager.visits occasions, visit.Bare entry) (stuck : ¬entry.Offerable)
    (phase : manager.phase ∈ [.select, .backoff]) : ∀ visit ∈ manager.visits occasions, visit.Stalls := by
  induction occasions generalizing manager with
  | nil => exact fun visit member => by cases member
  | cons occasion rest ih =>
    obtain ⟨first, later⟩ := List.forall_mem_cons.mp bare
    have stalls := first.stalls stuck phase
    exact List.forall_mem_cons.mpr ⟨stalls, ih later stalls.phase⟩

/-- A device without networks offers an access point exactly when the configured one has no name or a proper
password. In every run of polls of a manager that chooses, the request goes out at the first poll then, in the
name of the configured access point or a generated one; otherwise nothing is ever written, and all that a choice
does is to switch off an access point that the next choice wants again. -/
theorem access_point_offered_iff {manager : Manager} (phase : manager.phase = .select)
    {occasions : List (Occasion σ)} (some : occasions ≠ [])
    (bare : ∀ visit ∈ manager.visits occasions, visit.Bare entry) :
    ((∃ visit ∈ manager.visits occasions, visit.sent Message.accessPointId ≠ []) ↔ entry.Offerable) ∧
    (entry.Offerable → ∀ first ∈ (manager.visits occasions).head?,
      first.sent Message.accessPointId = [first.offer]) ∧
    (¬entry.Offerable → ∀ visit ∈ manager.visits occasions, visit.Stalls) := by
  obtain ⟨occasion, rest, rfl⟩ := List.exists_cons_of_ne_nil some
  have first := (List.forall_mem_cons.mp bare).1
  have offers (offerable : entry.Offerable) :
      (Visit.mk manager occasion).sent Message.accessPointId = [(Visit.mk manager occasion).offer] :=
    first.offers offerable phase
  have stalls (stuck : ¬entry.Offerable) := stalls bare stuck (by simp [phase])
  refine ⟨⟨?_, fun offerable => ⟨_, List.mem_cons_self, ?_⟩⟩, ?_, stalls⟩
  · rintro ⟨visit, member, sent⟩
    by_contra stuck
    apply sent
    rw [Visit.sent, (stalls stuck visit member).silent]
    rfl
  · rw [offers offerable]
    exact List.cons_ne_nil _ _
  · rintro offerable visit ⟨⟩
    exact offers offerable

def bareAt (entry : Credentials) (now : Micros) : Occasion Simulation.Script :=
  { transport := { line := { peer := {}, now, ready := ⟨true, true⟩ }, timeout := 20000 }
    store := { config := { accessPoint := entry } }
    ports := .empty
    telemetry := { mac := ⟨[1, 2, 3, 4, 5, 6], by decide⟩ }
    timeout := 10000000 }

/-- A poll, one at the end of the rest that may follow, and one more. -/
def bareRun (entry : Credentials) : List (Occasion Simulation.Script) :=
  [bareAt entry 0, bareAt entry 500000, bareAt entry 500001]

/-- The password decides: with a short one the device stays silent. -/
theorem access_point_offered_iff_password :
    let short : Credentials := { ssid := "shed", password := "rakes" }
    let long : Credentials := { ssid := "shed", password := "toolshed" }
    ((∀ visit ∈ ({} : Manager).visits (bareRun short), visit.Bare short) ∧
      ¬∃ visit ∈ ({} : Manager).visits (bareRun short), visit.sent Message.accessPointId ≠ []) ∧
    (∀ visit ∈ ({} : Manager).visits (bareRun long), visit.Bare long) ∧
      ∃ visit ∈ ({} : Manager).visits (bareRun long), visit.sent Message.accessPointId ≠ [] := by
  intro short long
  have bare : ∀ entry ∈ [short, long], ∀ visit ∈ ({} : Manager).visits (bareRun entry), visit.Bare entry := by
    have fields : ∀ entry ∈ [short, long], ∀ visit ∈ ({} : Manager).visits (bareRun entry),
        visit.occasion.store.config.noStations = true ∧ visit.occasion.store.config.accessPoint = entry ∧
        visit.occasion.telemetry.isConnected = false ∧ visit.occasion.telemetry.mac ≠ Octets.zero 6 ∧
        visit.occasion.transport.isReady = true ∧ ∀ event ∈ visit.events, event.isFailedWrite = false := by
      decide +kernel
    intro entry one visit member
    obtain ⟨none, same, apart, known, ready, heard⟩ := fields entry one visit member
    exact ⟨none, same, apart, known, ready, heard⟩
  have silent := bare short (by simp)
  have speaks := bare long (by simp)
  obtain ⟨unheard, -, -⟩ := access_point_offered_iff rfl (by simp [bareRun]) silent
  obtain ⟨heard, -, -⟩ := access_point_offered_iff rfl (by simp [bareRun]) speaks
  exact ⟨⟨silent, fun sent => absurd (unheard.mp sent) (by decide)⟩, speaks, heard.mpr (by decide)⟩

end Manager

end RadioLink
