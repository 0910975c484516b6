import RadioLink.Proofs.FlasherTraffic

/-!
When a provisioning cycle writes the flash and what it reports. Every run of a cycle takes one of
five courses, which fix the events on the line together with the result; what a cycle may do to the
flash, to the configuration and to the verdict is read off them.
-/

namespace RadioLink

namespace Provisioning

open Workbench Flasher

def inspectionPackets (settings : Settings) (stub : Firmware.Stub) (length : UInt32) : List Bytes :=
  Loader.setupPackets stub settings.stubBaudRate ++
    [commandPacket digestCommand, argumentPacket [0, length, 0]]

theorem argumentPacket_ne (command : UInt8) (small : (commandPacket command).length = 3)
    (a b c : UInt32) : argumentPacket [a, b, c] ≠ commandPacket command := by
  intro same
  have content : [[a, b, c].flatMap Bytes.ofUInt32].flatten.length = 12 := by simp [Bytes.ofUInt32]
  have long := Slip.length_encode [[a, b, c].flatMap Bytes.ofUInt32]
  have short := (congrArg List.length same).trans small
  rw [argumentPacket] at short
  omega

theorem setupPackets_long {stub : Firmware.Stub} {parameter : UInt32} {sent : Bytes}
    (member : sent ∈ Loader.setupPackets stub parameter) : 3 < sent.length := by
  have long : ∀ op body checksum, 3 < (Loader.packet op body checksum).length := by
    intro op body checksum
    have content : 8 ≤ [Loader.commandHeader op body checksum, body].flatten.length := by
      simp [Loader.commandHeader, Bytes.ofUInt32]
      omega
    have encoded := Slip.length_encode [Loader.commandHeader op body checksum, body]
    rw [Loader.packet]
    omega
  have segments : ∀ start content, sent ∈ Loader.segmentPackets start content → 3 < sent.length := by
    intro start content member
    simp only [Loader.segmentPackets, List.mem_cons, List.not_mem_nil, or_false] at member
    rcases member with rfl | rfl
    · exact long _ _ _
    · exact long _ _ _
  simp only [Loader.setupPackets, List.mem_append, List.mem_cons, List.not_mem_nil, or_false] at member
  rcases member with ((rfl | code) | data) | rfl
  · exact long _ _ _
  · exact segments _ _ code
  · split at data
    · simp at data
    · exact segments _ _ data
  · exact long _ _ _

theorem commandPacket_notMem_setup (command : UInt8) (small : (commandPacket command).length = 3)
    (stub : Firmware.Stub) (parameter : UInt32) :
    commandPacket command ∉ Loader.setupPackets stub parameter := by
  intro member
  have long := setupPackets_long member
  omega

theorem writeCommand_notMem_inspection (settings : Settings) (stub : Firmware.Stub)
    (length : UInt32) : commandPacket writeCommand ∉ inspectionPackets settings stub length := by
  have digest : commandPacket writeCommand ≠ commandPacket digestCommand := by decide
  have arguments := argumentPacket_ne writeCommand (by decide) 0 length 0
  simp [inspectionPackets, commandPacket_notMem_setup writeCommand (by decide), digest,
    arguments.symm]

inductive Inspected (settings : Settings) (stub : Firmware.Stub) (length : UInt32) :
    List Event → Option Digest → Prop where
  | unstarted {setup : List Event}
      (plain : ∀ event ∈ setup, ∀ data, event.written? = some data →
        data ∈ Loader.setupPackets stub settings.stubBaudRate) :
      Inspected settings stub length setup none
  | asked {setup query answer : List Event} {whole : Bool}
      (plain : ∀ event ∈ setup, ∀ data, event.written? = some data →
        data ∈ Loader.setupPackets stub settings.stubBaudRate)
      (sent : Sent digestCommand [0, length, 0] whole query)
      (listening : Listening answer)
      (alone : whole = false → answer = []) :
      Inspected settings stub length (setup ++ (query ++ answer)) (reportIn (takenBytes answer))

namespace Inspected

variable {settings : Settings} {stub : Firmware.Stub} {length : UInt32} {events : List Event}
  {report : Option Digest}

theorem written (inspected : Inspected settings stub length events report) {event : Event}
    {data : Bytes} (member : event ∈ events) (written : event.written? = some data) :
    data ∈ inspectionPackets settings stub length := by
  cases inspected with
  | unstarted plain => exact List.mem_append_left _ (plain event member data written)
  | asked plain sent listening alone =>
    rcases List.mem_append.mp member with early | late
    · exact List.mem_append_left _ (plain event early data written)
    rcases List.mem_append.mp late with own | heard
    · apply List.mem_append_right
      rcases sent.written own written with rfl | rfl <;> simp
    · rw [(quiet_listening (listening event heard)).1] at written
      cases written

theorem not_writeCommand (inspected : Inspected settings stub length events report) :
    ∀ event ∈ events, (!event.offers (commandPacket writeCommand)) = true := by
  intro event member
  by_contra offered
  simp only [Event.offers, Bool.not_eq_true', Bool.not_eq_false, beq_iff_eq] at offered
  exact writeCommand_notMem_inspection settings stub length (inspected.written member offered)

/-- What comes later does not change the first report, if it starts with dropping the input. -/
theorem firstReport_append (inspected : Inspected settings stub length events report)
    (later : List Event) (alone : report = none → later = [])
    (next : ∀ first ∈ later.head?, first.discards = true) :
    firstReport (events ++ later) = report := by
  have unasked : ∀ {setup : List Event}, (∀ event ∈ setup, ∀ data, event.written? = some data →
      data ∈ Loader.setupPackets stub settings.stubBaudRate) →
      ∀ event ∈ setup, event.offers (commandPacket digestCommand) = false := by
    intro setup plain event member
    by_contra offered
    simp only [Event.offers, Bool.not_eq_false, beq_iff_eq] at offered
    exact commandPacket_notMem_setup digestCommand (by decide) _ _ (plain event member _ offered)
  cases inspected with
  | unstarted plain =>
    have passed : ∀ event ∈ events, (!event.offers (commandPacket digestCommand)) = true := by
      intro event member
      rw [unasked plain event member, Bool.not_false]
    rw [alone rfl, List.append_nil, firstReport, List.dropWhile_eq_nil_iff.mpr passed]
    rfl
  | asked plain sent listening silent =>
    refine firstReport_eq (unasked plain) sent listening (fun broken => ?_) next
    have empty := silent broken
    exact ⟨empty, alone (by rw [empty]; rfl)⟩

theorem firstReport_eq (inspected : Inspected settings stub length events report) :
    firstReport events = report := by
  have same := inspected.firstReport_append [] (fun _ => rfl) (by simp)
  rwa [List.append_nil] at same

end Inspected

/-- The courses that a cycle can take: the events on the line, the result, the verdict and the
configuration that it leaves. -/
inductive Course {σ : Type} (settings : Settings) (image : Firmware.Image) (stub : Firmware.Stub)
    (bench : Workbench σ) :
    List Event → Except ProvisionError Outcome → Option Verdict → ConfigStore → Prop where
  /-- A digest could not be had. -/
  | undecided {events : List Event} {report : Option Digest} {error : ProvisionError}
      (inspected : Inspected settings stub bench.store.config.firmware.length events report)
      (missing : report = none ∨ ∃ fault, image.readDigest = .error fault) :
      Course settings image stub bench events (.error error) bench.verdict bench.store
  /-- The flash stays as it is. -/
  | kept {events : List Event} {flash file : Digest} {verdict : Verdict}
      (inspected : Inspected settings stub bench.store.config.firmware.length events (some flash))
      (read : image.readDigest = .ok file)
      (decided : Verdict.reconcile file bench.store.config.firmware.md5 flash = verdict)
      (stays : verdict ≠ .flashFromFile) :
      Course settings image stub bench events (.ok (.verified verdict)) (some verdict)
        (if verdict = .adoptFileDigest then bench.store.write (.firmwareMd5 image.digest)
          else bench.store)
  /-- The flash should be written and the file does not allow it. -/
  | refused {events : List Event} {flash file : Digest} {error : ProvisionError}
      (inspected : Inspected settings stub bench.store.config.firmware.length events (some flash))
      (read : image.readDigest = .ok file)
      (decided : Verdict.reconcile file bench.store.config.firmware.md5 flash = .flashFromFile) :
      Course settings image stub bench events (.error error) (some .flashFromFile) bench.store
  /-- The flash was written, or an attempt was made, and that could not be confirmed. -/
  | broken {events command later : List Event} {flash file : Digest} {whole : Bool}
      {error : ProvisionError}
      (inspected : Inspected settings stub bench.store.config.firmware.length events (some flash))
      (read : image.readDigest = .ok file)
      (decided : Verdict.reconcile file bench.store.config.firmware.md5 flash = .flashFromFile)
      (fits : image.payload.length = bench.store.config.firmware.length.toNat)
      (sent : Sent writeCommand [0, bench.store.config.firmware.length, 1] whole command)
      (alone : whole = false → later = []) :
      Course settings image stub bench (events ++ (command ++ later)) (.error error)
        (some .flashFromFile) bench.store
  /-- The flash was written and read back. -/
  | flashed {events command later query answer : List Event} {flash file : Digest}
      (inspected : Inspected settings stub bench.store.config.firmware.length events (some flash))
      (read : image.readDigest = .ok file)
      (decided : Verdict.reconcile file bench.store.config.firmware.md5 flash = .flashFromFile)
      (fits : image.payload.length = bench.store.config.firmware.length.toNat)
      (sent : Sent writeCommand [0, bench.store.config.firmware.length, 1] true command)
      (readBack : Sent digestCommand [0, bench.store.config.firmware.length, 0] true query)
      (listening : Listening answer)
      (confirmed : reportIn (takenBytes answer) = some image.digest) :
      Course settings image stub bench (events ++ (command ++ (later ++ (query ++ answer))))
        (.ok .flashed) (some .flashFromFile) bench.store

def decision (image : Firmware.Image) (configured : Digest) (events : List Event) : Option Verdict :=
  match firstReport events, image.readDigest with
  | some flash, .ok file => some (Verdict.reconcile file configured flash)
  | _, _ => none

theorem Inspected.decision_append {settings : Settings} {stub : Firmware.Stub} {length : UInt32}
    {image : Firmware.Image} {flash file : Digest} {events : List Event}
    (inspected : Inspected settings stub length events (some flash))
    (read : image.readDigest = .ok file) (configured : Digest) (later : List Event)
    (next : ∀ first ∈ later.head?, first.discards = true) :
    decision image configured (events ++ later) = some (Verdict.reconcile file configured flash) := by
  simp only [decision, inspected.firstReport_append _ (by simp) next, read]

theorem reconcile_flashFromFile {file configured flash : Digest}
    (must : Verdict.reconcile file configured flash = .flashFromFile) :
    file = configured ∧ flash ≠ configured := by
  unfold Verdict.reconcile at must
  grind

namespace Course

variable {σ : Type} {settings : Settings} {image : Firmware.Image} {stub : Firmware.Stub}
  {bench : Workbench σ} {events : List Event} {result : Except ProvisionError Outcome} {verdict : Option Verdict}
  {store : ConfigStore}

theorem inspects (course : Course settings image stub bench events result verdict store) :
    ∀ event ∈ events.takeWhile (!·.offers (commandPacket writeCommand)),
      ∀ data, event.written? = some data →
        data ∈ inspectionPackets settings stub bench.store.config.firmware.length := by
  intro event member data written
  have early : ∀ {report : Option Digest},
      Inspected settings stub bench.store.config.firmware.length events report →
      data ∈ inspectionPackets settings stub bench.store.config.firmware.length :=
    fun inspected => inspected.written ((List.takeWhile_sublist _).subset member) written
  cases course with
  | undecided inspected | kept inspected | refused inspected => exact early inspected
  | broken inspected _ _ _ sent alone =>
    rw [List.takeWhile_append_of_pos inspected.not_writeCommand] at member
    rcases List.mem_append.mp member with inspecting | writing
    · exact inspected.written inspecting written
    · rw [sent.unwritten alone writing] at written
      cases written
  | flashed inspected _ _ _ sent =>
    rw [List.takeWhile_append_of_pos inspected.not_writeCommand] at member
    rcases List.mem_append.mp member with inspecting | writing
    · exact inspected.written inspecting written
    · rw [sent.unwritten (by simp) writing] at written
      cases written

theorem justified (course : Course settings image stub bench events result verdict store)
    (writes : ∃ event ∈ events, event.offers (commandPacket writeCommand) = true) :
    image.readDigest = .ok bench.store.config.firmware.md5 ∧
    (∃ flash, firstReport events = some flash ∧ flash ≠ bench.store.config.firmware.md5) ∧
    image.payload.length = bench.store.config.firmware.length.toNat := by
  obtain ⟨event, member, offered⟩ := writes
  have early : ∀ {report : Option Digest},
      ¬Inspected settings stub bench.store.config.firmware.length events report := by
    intro report inspected
    have silent := inspected.not_writeCommand event member
    rw [offered] at silent
    cases silent
  cases course with
  | undecided inspected | kept inspected | refused inspected => exact absurd inspected early
  | broken inspected read decided fits sent | flashed inspected read decided fits sent =>
    obtain ⟨rfl, differs⟩ := reconcile_flashFromFile decided
    exact ⟨read, ⟨_, inspected.firstReport_append _ (by simp) sent.head_discards, differs⟩, fits⟩

/-- The write command stands for the verdict to write. -/
theorem decision_flash (course : Course settings image stub bench events result verdict store)
    (writes : ∃ event ∈ events, event.offers (commandPacket writeCommand) = true) :
    decision image bench.store.config.firmware.md5 events = some .flashFromFile := by
  obtain ⟨read, ⟨flash, report, differs⟩, _⟩ := course.justified writes
  rw [decision, report, read]
  simp [Verdict.reconcile, differs.symm]

theorem confirmed (course : Course settings image stub bench events result verdict store)
    (success : result = .ok .flashed) :
    .done (.write (commandPacket writeCommand)) ∈ events ∧
    (sinceQuery events).filterMap Event.written? =
      [argumentPacket [0, bench.store.config.firmware.length, 0]] ∧
    lastReport events = some image.digest := by
  cases course with
  | undecided | kept | refused | broken => cases success
  | @flashed inspecting command later query answer _ _ _ _ _ _ sent readBack listening same =>
    have different := argumentPacket_ne digestCommand (by decide) 0
      bench.store.config.firmware.length 0
    have regrouped : inspecting ++ (command ++ (later ++ (query ++ answer))) =
        inspecting ++ (command ++ later) ++ (query ++ answer) := by simp only [List.append_assoc]
    refine ⟨?_, ?_, ?_⟩
    · obtain ⟨early, late, rfl, _⟩ := sent.split
      simp
    · obtain ⟨late, since, _, own⟩ :=
        sinceQuery_eq (inspecting ++ (command ++ later)) readBack listening different
      rw [regrouped, since, List.filterMap_append, own, listening.filterMap_written]
      rfl
    · rw [regrouped, lastReport_eq _ readBack listening different]
      exact same

/-- What a course leaves behind follows from what it decided. -/
theorem decided (course : Course settings image stub bench events result verdict store) :
    (decision image bench.store.config.firmware.md5 events = none ∧
      (∃ error, result = .error error) ∧ verdict = bench.verdict ∧ store = bench.store) ∨
    (∃ choice, decision image bench.store.config.firmware.md5 events = some choice ∧
      verdict = some choice ∧
      store = (if choice = .adoptFileDigest then bench.store.write (.firmwareMd5 image.digest)
        else bench.store) ∧
      (result = .ok (.verified choice) ∧ choice ≠ .flashFromFile ∨
        choice = .flashFromFile ∧ (result = .ok .flashed ∨ ∃ error, result = .error error))) := by
  have early : ∀ {flash file : Digest}, image.readDigest = .ok file →
      Inspected settings stub bench.store.config.firmware.length events (some flash) →
      decision image bench.store.config.firmware.md5 events =
        some (Verdict.reconcile file bench.store.config.firmware.md5 flash) := by
    intro flash file read inspected
    have found := inspected.decision_append read bench.store.config.firmware.md5 [] (by simp)
    rwa [List.append_nil] at found
  cases course with
  | @undecided _ report error inspected missing =>
    refine .inl ⟨?_, ⟨error, rfl⟩, rfl, rfl⟩
    rw [decision, inspected.firstReport_eq]
    rcases missing with rfl | ⟨fault, read⟩
    · rfl
    · rw [read]
      cases report <;> rfl
  | kept inspected read decided stays =>
    subst decided
    exact .inr ⟨_, early read inspected, rfl, rfl, .inl ⟨rfl, stays⟩⟩
  | refused inspected read decided =>
    refine .inr ⟨.flashFromFile, ?_, rfl, rfl, .inr ⟨rfl, .inr ⟨_, rfl⟩⟩⟩
    rw [early read inspected, decided]
  | broken inspected read decided _ sent =>
    refine .inr ⟨.flashFromFile, ?_, rfl, rfl, .inr ⟨rfl, .inr ⟨_, rfl⟩⟩⟩
    rw [inspected.decision_append read _ _ sent.head_discards, decided]
  | flashed inspected read decided _ sent =>
    refine .inr ⟨.flashFromFile, ?_, rfl, rfl, .inr ⟨rfl, .inl rfl⟩⟩
    rw [inspected.decision_append read _ _ sent.head_discards, decided]

end Course

variable {σ α : Type}

theorem outcome_onPort (action : Action ProvisionError (Slip.Port σ) α) (bench : Workbench σ) :
    (onPort action).outcome bench =
      ((action.outcome bench.port).1, { bench with port := (action.outcome bench.port).2 }) :=
  Action.outcome_within ..

variable [Peer σ]

inductive Flashing (image : Firmware.Image) (expected : FirmwareDescriptor) (bench : Workbench σ) :
    Except ProvisionError Outcome × Workbench σ → Prop where
  /-- Nothing was written. -/
  | refused {error : ProvisionError} {port : Slip.Port σ}
      (quiet : Line.Did [] bench.port.line port.line) :
      Flashing image expected bench (.error error, { bench with port })
  /-- It broke off, or the flash reads back as something else. -/
  | broken {error : ProvisionError} {port : Slip.Port σ} {whole : Bool} {command later : List Event}
      (fits : image.payload.length = expected.length.toNat)
      (sent : Sent writeCommand [0, expected.length, 1] whole command)
      (alone : whole = false → later = [])
      (did : Line.Did (command ++ later) bench.port.line port.line) :
      Flashing image expected bench (.error error, { bench with port })
  /-- The flash reads back as the image. -/
  | confirmed {port : Slip.Port σ} {command later query answer : List Event}
      (fits : image.payload.length = expected.length.toNat)
      (sent : Sent writeCommand [0, expected.length, 1] true command)
      (readBack : Sent digestCommand [0, expected.length, 0] true query)
      (listening : Listening answer) (report : reportIn (takenBytes answer) = some image.digest)
      (did : Line.Did (command ++ (later ++ (query ++ answer))) bench.port.line port.line) :
      Flashing image expected bench (.ok .flashed, { bench with port })

theorem flash_cases (image : Firmware.Image) (expected : FirmwareDescriptor) (bench : Workbench σ) :
    Flashing image expected bench ((flash image expected).outcome bench) := by
  rw [flash]
  by_cases fits : image.payload.length = expected.length.toNat
  swap
  · rw [if_pos fits]
    exact .refused (.refl _)
  rw [if_neg (not_not.mpr fits), Action.outcome_change_bind, Action.outcome_bind,
    Action.outcome_ofExcept]
  rcases image.rewind with fault | ⟨⟩
  · exact .refused (.same rfl)
  dsimp only [Except.mapError]
  rw [Action.outcome_bind, outcome_onPort]
  obtain ⟨whole, command, later, sent, did, alone, completed⟩ := writeImage_cases 0 image
    expected.length (bench.note (.loadingFirmware expected.length.toNat)).port
  revert did completed
  rcases (writeImage 0 image expected.length).outcome
    (bench.note (.loadingFirmware expected.length.toNat)).port with ⟨result, written⟩
  intro did completed
  cases result with
  | error error => exact .broken fits sent alone did
  | ok done =>
    obtain rfl := completed rfl
    dsimp only
    rw [Action.outcome_bind, outcome_onPort]
    obtain ⟨asked, query, answer, queried, next, listening, silent, reported⟩ :=
      digest_cases 0 expected.length written
    dsimp only
    revert next reported
    rcases (digest 0 expected.length).outcome written with ⟨result, final⟩
    intro next reported
    have both := did.append next
    rw [List.append_assoc] at both
    cases result with
    | error error => exact .broken fits sent (by simp) both
    | ok found =>
      have report := (reported found).mp rfl
      dsimp only
      by_cases same : found = image.digest
      · rw [if_neg (not_not.mpr same), Action.outcome_change_bind]
        have all : asked = true := by
          by_contra cut
          rw [silent (by simpa using cut)] at report
          cases report
        subst all same
        exact .confirmed fits sent queried listening report both
      · rw [if_pos same]
        exact .broken fits sent (by simp) both

/-- A verdict that leaves the flash alone touches nothing but the configuration. -/
theorem actOn_kept {verdict : Verdict} (stays : verdict ≠ .flashFromFile) (image : Firmware.Image)
    (expected : FirmwareDescriptor) (bench : Workbench σ) :
    ∃ port, (actOn verdict image expected).outcome bench = (.ok (.verified verdict),
        { bench with
          port
          store := if verdict = .adoptFileDigest then bench.store.write (.firmwareMd5 image.digest)
            else bench.store }) ∧
      Line.Did [] bench.port.line port.line := by
  cases verdict with
  | flashFromFile => exact absurd rfl stays
  | runExisting | runExistingStaleFile | adoptFileDigest | bestEffort => exact ⟨_, rfl, .same rfl⟩

/-- Once both digests are known, acting on the verdict completes a course. -/
theorem actOn_course {settings : Settings} {image : Firmware.Image} {stub : Firmware.Stub}
    {bench reached : Workbench σ} {events : List Event} {flash file : Digest}
    (inspected : Inspected settings stub bench.store.config.firmware.length events (some flash))
    (read : image.readDigest = .ok file)
    (did : Line.Did events bench.port.line reached.port.line)
    (store : reached.store = bench.store)
    (decided : reached.verdict =
      some (Verdict.reconcile file bench.store.config.firmware.md5 flash)) :
    let acted := (actOn (Verdict.reconcile file bench.store.config.firmware.md5 flash) image
      bench.store.config.firmware).outcome reached
    ∃ events, Line.Did events bench.port.line acted.2.port.line ∧
      Course settings image stub bench events acted.1 acted.2.verdict acted.2.store := by
  intro acted
  by_cases must : Verdict.reconcile file bench.store.config.firmware.md5 flash = .flashFromFile
  · have flashes : acted = (Provisioning.flash image bench.store.config.firmware).outcome reached := by
      simp only [acted, must, actOn]
    rw [flashes]
    rw [must] at decided
    have flashing := flash_cases image bench.store.config.firmware reached
    generalize (Provisioning.flash image bench.store.config.firmware).outcome reached = run
      at flashing ⊢
    cases flashing with
    | refused quiet =>
      have all := did.append quiet
      rw [List.append_nil] at all
      dsimp only
      rw [decided, store]
      exact ⟨_, all, .refused inspected read must⟩
    | broken fits sent alone next =>
      dsimp only
      rw [decided, store]
      exact ⟨_, did.append next, .broken inspected read must fits sent alone⟩
    | confirmed fits sent readBack listening report next =>
      dsimp only
      rw [decided, store]
      exact ⟨_, did.append next, .flashed inspected read must fits sent readBack listening report⟩
  · obtain ⟨port, ran, quiet⟩ := actOn_kept must image bench.store.config.firmware reached
    have all := did.append quiet
    rw [List.append_nil] at all
    refine ⟨events, ?_⟩
    simp only [acted, ran, store, decided]
    exact ⟨all, .kept inspected read rfl must⟩

/-- Every run of a cycle takes one of the courses. -/
theorem run_course (settings : Settings) (image : Firmware.Image) (stub : Firmware.Stub)
    (bench : Workbench σ) :
    ∃ events, Line.Did events bench.port.line
        ((run settings image stub).outcome bench).2.port.line ∧
      Course settings image stub bench events ((run settings image stub).outcome bench).1
        ((run settings image stub).outcome bench).2.verdict
        ((run settings image stub).outcome bench).2.store := by
  rw [run, Action.outcome_bind, outcome_onPort]
  obtain ⟨setup, did, talks⟩ := (keeps_startStub settings stub bench.port).does
  have plain : ∀ event ∈ setup, ∀ data, event.written? = some data →
      data ∈ Loader.setupPackets stub settings.stubBaudRate :=
    fun event member _ written => (talks event member).written written
  revert did
  rcases (startStub settings stub).outcome bench.port with ⟨result, started⟩
  intro did
  cases result with
  | error error => exact ⟨setup, did, .undecided (.unstarted plain) (.inl rfl)⟩
  | ok done =>
    dsimp only
    rw [Action.outcome_get_bind, Action.outcome_bind, outcome_onPort]
    dsimp only
    obtain ⟨whole, query, answer, sent, next, listening, alone, reported⟩ :=
      digest_cases 0 bench.store.config.firmware.length started
    revert next reported
    rcases (digest 0 bench.store.config.firmware.length).outcome started with ⟨result, port⟩
    intro next reported
    have inspected := Inspected.asked plain sent listening alone
    have both := did.append next
    cases result with
    | error error =>
      refine ⟨_, both, .undecided inspected (.inl ?_)⟩
      exact Option.eq_none_iff_forall_ne_some.mpr fun found report => by
        cases (reported found).mpr report
    | ok flash =>
      rw [(reported flash).mp rfl] at inspected
      dsimp only
      rw [Action.outcome_bind, Action.outcome_ofExcept]
      rcases read : image.readDigest with fault | file
      · exact ⟨_, both, .undecided inspected (.inr ⟨fault, read⟩)⟩
      dsimp only [Except.mapError]
      rw [Action.outcome_change_bind]
      exact actOn_course inspected read both rfl rfl

structure Disciplined (settings : Settings) (image : Firmware.Image) (stub : Firmware.Stub)
    (bench : Workbench σ) (events : List Event) (result : Except ProvisionError Outcome)
    (final : Workbench σ) : Prop where
  /-- Until the write command the cycle only starts the stub and asks for the digest. -/
  inspects : ∀ event ∈ events.takeWhile (!·.offers (commandPacket writeCommand)),
    ∀ data, event.written? = some data →
      data ∈ inspectionPackets settings stub bench.store.config.firmware.length
  /-- The write command comes only when the flash must be written and the file fits. -/
  justified : (∃ event ∈ events, event.offers (commandPacket writeCommand) = true) →
    image.readDigest = .ok bench.store.config.firmware.md5 ∧
    (∃ flash, firstReport events = some flash ∧ flash ≠ bench.store.config.firmware.md5) ∧
    image.payload.length = bench.store.config.firmware.length.toNat
  /-- Success is reported only when the flash was written and then read back as it should be. -/
  confirmed : result = .ok .flashed →
    .done (.write (commandPacket writeCommand)) ∈ events ∧
    (sinceQuery events).filterMap Event.written? =
      [argumentPacket [0, bench.store.config.firmware.length, 0]] ∧
    lastReport events = some image.digest
  verified : ∀ verdict, result = .ok (.verified verdict) →
    decision image bench.store.config.firmware.md5 events = some verdict ∧ verdict ≠ .flashFromFile
  /-- The verdict is assigned exactly when both digests were obtained. -/
  verdict : final.verdict =
    (decision image bench.store.config.firmware.md5 events).or bench.verdict
  /-- The configuration changes only to take over the digest of the file. -/
  store : final.store =
    if decision image bench.store.config.firmware.md5 events = some .adoptFileDigest then
      bench.store.write (.firmwareMd5 image.digest)
    else bench.store

/-- A provisioning cycle keeps its rules whatever the file, the stub, the configuration and the far
side are, and whatever fails on the way. -/
theorem flash_written_only_when_needed (settings : Settings) (image : Firmware.Image)
    (stub : Firmware.Stub) (bench : Workbench σ) :
    ∃ events,
      Line.Did events bench.port.line ((run settings image stub).outcome bench).2.port.line ∧
      Disciplined settings image stub bench events ((run settings image stub).outcome bench).1
        ((run settings image stub).outcome bench).2 := by
  obtain ⟨events, did, course⟩ := run_course settings image stub bench
  refine ⟨events, did, course.inspects, course.justified, course.confirmed, ?_, ?_, ?_⟩
  · intro verdict success
    rcases course.decided with ⟨_, ⟨error, failed⟩, _⟩ | ⟨choice, decided, _, _, kept | ⟨_, rest⟩⟩
    · rw [failed] at success
      cases success
    · rw [kept.1] at success
      cases success
      exact ⟨decided, kept.2⟩
    · rcases rest with flashed | ⟨error, failed⟩
      · rw [flashed] at success
        cases success
      · rw [failed] at success
        cases success
  · rcases course.decided with ⟨decided, _, verdict, _⟩ | ⟨choice, decided, verdict, _⟩
    · rw [verdict, decided, Option.none_or]
    · rw [verdict, decided, Option.some_or]
  · rcases course.decided with ⟨decided, _, _, store⟩ | ⟨choice, decided, _, store, _⟩
    · rw [store, decided]
      rfl
    · simp only [store, decided, Option.some.injEq]

end Provisioning

end RadioLink
