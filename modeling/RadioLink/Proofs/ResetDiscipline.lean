import RadioLink.Proofs.FirmwareTalk

/-!
Reset, boot strap and ready edge over a whole run. What the calls so far say about the co-processor is
read off the history: it is held in reset, or reset was released with the strap in some mode. Each
stage of the machine adds only entries that fit this posture. Reset is released only after the strap
has been set for a while, the ready edge is unmasked only while the application firmware runs, and
every write goes to the firmware it is meant for.
-/

namespace RadioLink

inductive Posture where
  /-- Reset was never asserted. -/
  | unknown
  /-- Held in reset. The strap was set to this mode at this time, if it was set since. -/
  | held (strap : Option (BootMode × Micros))
  /-- Reset was released with the strap in this mode. -/
  | running (mode : BootMode)
  deriving DecidableEq, Repr

/-- Only calls that succeeded change the posture. -/
def Posture.after (posture : Posture) (entry : Entry) : Posture :=
  match entry.event, posture with
  | .done (.reset true), _ => .held none
  | .done (.mode mode), .held _ => .held (some (mode, entry.time))
  | .done (.reset false), .held (some (mode, _)) => .running mode
  | .done (.reset false), _ => .unknown
  | _, posture => posture

/-- The posture after a history, which has its latest entry first. -/
def posture : List Entry → Posture
  | [] => .unknown
  | entry :: earlier => (posture earlier).after entry

def masked : List Entry → Bool
  | [] => false
  | ⟨_, .irq enabled⟩ :: _ => !enabled
  | _ :: earlier => masked earlier

/-- What a step of a stage may write. The boot loader gets packets; the application firmware gets the
request for a link reset when it is started and frames later on. -/
def Stage.MayWrite (stage : Stage) (posture : Posture) (data : Bytes) : Prop :=
  match stage with
  | .bootRom => posture = .running .rom
  | .bootApp => posture = .running .application ∧ data = [Control.reset]
  | .alive _ => posture = .running .application ∧ ∃ parcel : Parcel, data = parcel.wire
  | .error | .shutdown _ _ => False

def Stage.Permits (stage : Stage) (earlier : List Entry) (entry : Entry) : Prop :=
  match entry.event with
  | .done (.reset true) => masked earlier = true
  | .done (.reset false) =>
    ∃ mode time, posture earlier = .held (some (mode, time)) ∧
      time.after (.ofMillis 20) ≤ entry.time
  | .irq true => posture earlier = .running .application
  | .done (.write data) | .failed (.write data) => stage.MayWrite (posture earlier) data
  | _ => True

inductive Stage.Obeys (stage : Stage) (before : List Entry) : List Entry → Prop where
  | refl : Obeys stage before before
  | add {history : List Entry} {entry : Entry} (rest : Obeys stage before history)
      (permitted : stage.Permits history entry) : Obeys stage before (entry :: history)

namespace Stage.Obeys

variable {stage : Stage} {before middle after : List Entry}

theorem trans (early : stage.Obeys before middle) (late : stage.Obeys middle after) :
    stage.Obeys before after := by
  induction late with
  | refl => exact early
  | add _ permitted ih => exact .add ih permitted

theorem single {entry : Entry} (permitted : stage.Permits before entry) :
    stage.Obeys before (entry :: before) :=
  .add .refl permitted

/-- A talk goes by the rules wherever its writes do, and it leaves the posture alone. -/
theorem of_talk {allowed : Bytes → Prop}
    (may : ∀ data, allowed data → stage.MayWrite (posture before) data) {entries : List Entry}
    (talks : ∀ entry ∈ entries, entry.event.Talks allowed) :
    stage.Obeys before (entries ++ before) ∧
      posture (entries ++ before) = posture before ∧ masked (entries ++ before) = masked before := by
  induction entries with
  | nil => exact ⟨.refl, rfl, rfl⟩
  | cons entry rest ih =>
    obtain ⟨talk, others⟩ := List.forall_mem_cons.mp talks
    obtain ⟨obeys, kept, mask⟩ := ih others
    obtain ⟨time, event⟩ := entry
    -- a talk has no reset, strap or mask in it, so a write finds the posture of the beginning
    have neutral : stage.Permits (rest ++ before) ⟨time, event⟩ ∧
        (posture (rest ++ before)).after ⟨time, event⟩ = posture (rest ++ before) ∧
        masked (⟨time, event⟩ :: (rest ++ before)) = masked (rest ++ before) := by
      cases event with
      | done c | failed c =>
        cases c with
        | write data =>
          refine ⟨?_, rfl, rfl⟩
          show stage.MayWrite (posture (rest ++ before)) data
          rw [kept]
          exact may data talk
        | reset asserted => exact talk.elim
        | mode mode => exact talk.elim
        | _ => exact ⟨trivial, rfl, rfl⟩
      | irq enabled => exact talk.elim
      | _ => exact ⟨trivial, rfl, rfl⟩
    exact ⟨.add obeys neutral.1, neutral.2.1.trans kept, neutral.2.2.trans mask⟩

end Stage.Obeys

namespace Line

variable {σ : Type} {stage : Stage} {before after : Line σ}

def Runs (mode : BootMode) (line : Line σ) : Prop := posture line.history = .running mode

theorem Does.obeys {allowed : Bytes → Prop} (talk : before.Does (Event.Talks allowed) after)
    (may : ∀ data, allowed data → stage.MayWrite (posture before.history) data) :
    stage.Obeys before.history after.history ∧
      posture after.history = posture before.history ∧
      masked after.history = masked before.history := by
  obtain ⟨events, ⟨entries, history, rfl⟩, talks⟩ := talk
  rw [history]
  apply Stage.Obeys.of_talk may
  intro entry member
  exact talks _ (List.mem_reverse.mpr (List.mem_map_of_mem member))

theorem Did.obeys_noise {noise : List Event} (did : Did noise before after) (far : Noise noise)
    (stage : Stage) :
    stage.Obeys before.history after.history ∧
      posture after.history = posture before.history ∧
      masked after.history = masked before.history := by
  have talk : before.Does (Event.Talks fun _ => False) after :=
    ⟨noise, did, fun event member => Event.talks_of_isFarSide event (far event member)⟩
  exact talk.obeys fun _ never => never.elim

variable [Peer σ]

/-- A call is entered with the time at which it was made. -/
theorem call_entry (c : Call) (line : Line σ) :
    (∃ fault, ((call c).outcome line).1 = .error fault ∧
      ((call c).outcome line).2.history = ⟨line.now, .failed c⟩ :: line.history) ∨
    (((call c).outcome line).1 = .ok () ∧ ∃ noise, Noise noise ∧
      Did noise (line.record (.done c)) ((call c).outcome line).2) := by
  rcases answer : Peer.answer line.peer line.now c with ⟨fault | arrival, peer⟩
  · have ran : (call c).outcome line = (.error fault, { line with peer }.record (.failed c)) := by
      simp only [Action.outcome, call, answer]
    rw [ran]
    exact .inl ⟨fault, rfl, rfl⟩
  · have ran : (call c).outcome line =
        (.ok (), (({ line with peer }.record (.done c)).carryOut c).accept arrival) := by
      simp only [Action.outcome, call, answer]
    obtain ⟨noise, far, reaction⟩ :=
      accept_episode (({ line with peer }.record (.done c)).carryOut c) arrival
    have carried : (({ line with peer }.record (.done c)).carryOut c).history =
        (line.record (.done c)).history := by
      cases c <;> rfl
    rw [ran]
    exact .inr ⟨rfl, noise, far, (Did.same carried).append reaction.did⟩

end Line

namespace Link

variable {σ α β ε : Type} {stage : Stage}

/-- Started on a line that meets the condition, the operation goes by the rules of the stage; if it
returns, the line meets the other condition. -/
def Guides (stage : Stage) (pre : Line σ → Prop) (action : Action ε (Link σ) α)
    (post : α → Line σ → Prop) : Prop :=
  ∀ link, pre link.line →
    stage.Obeys link.line.history (action.outcome link).2.line.history ∧
      ∀ value, (action.outcome link).1 = .ok value → post value (action.outcome link).2.line

namespace Guides

variable {pre : Line σ → Prop}

theorem bind {action : Action ε (Link σ) α} {next : α → Action ε (Link σ) β}
    {mid : α → Line σ → Prop} {post : β → Line σ → Prop} (first : Guides stage pre action mid)
    (rest : ∀ a, Guides stage (mid a) (next a) post) : Guides stage pre (action >>= next) post := by
  intro link meets
  obtain ⟨obeys, reached⟩ := first link meets
  rw [Action.outcome_bind]
  rcases ran : action.outcome link with ⟨result, middle⟩
  rw [ran] at obeys reached
  cases result with
  | error e => exact ⟨obeys, fun _ returned => by cases returned⟩
  | ok a =>
    obtain ⟨later, ends⟩ := rest a middle (reached a rfl)
    exact ⟨obeys.trans later, ends⟩

theorem get : Guides stage pre (MonadState.get : Action ε (Link σ) (Link σ)) fun _ => pre :=
  fun _ meets => ⟨.refl, fun _ _ => meets⟩

theorem pure (a : α) : Guides stage pre (Pure.pure a : Action ε (Link σ) α) fun _ => pre :=
  fun _ meets => ⟨.refl, fun _ _ => meets⟩

theorem talk {allowed : Bytes → Prop} {action : Action ε (Link σ) α} {mode : BootMode}
    (kept : Action.Keeps (Talks allowed) action)
    (may : ∀ data, allowed data → stage.MayWrite (.running mode) data) :
    Guides stage (Line.Runs mode) action fun _ => Line.Runs mode := by
  intro link running
  obtain ⟨obeys, same, -⟩ := Line.Does.obeys (kept link) fun data permitted =>
    running ▸ may data permitted
  exact ⟨obeys, fun _ _ => same.trans running⟩

theorem listen {action : Action ε (Link σ) α} {mode : BootMode}
    (kept : Action.Keeps (Talks fun _ => False) action) :
    Guides stage (Line.Runs mode) action fun _ => Line.Runs mode :=
  talk kept fun _ never => never.elim

theorem mask : Guides stage (fun _ => True)
    (Action.change (onLine (·.setIrq false)) : Action ε (Link σ) Unit)
    fun _ line => masked line.history = true :=
  fun _ _ => ⟨.single trivial, fun _ _ => rfl⟩

theorem unmask : Guides stage (Line.Runs .application)
    (Action.change (onLine (·.setIrq true)) : Action ε (Link σ) Unit)
    fun _ => Line.Runs .application :=
  fun _ running => ⟨.single running, fun _ _ => running⟩

variable [Peer σ]

/-- A call that is permitted leaves its own entry, with what the far side does about it. -/
theorem call {c : Call} {post : Line σ → Prop}
    (made : ∀ line : Line σ, pre line → stage.Permits line.history ⟨line.now, .done c⟩)
    (tried : ∀ line : Line σ, pre line → stage.Permits line.history ⟨line.now, .failed c⟩)
    (reached : ∀ line after : Line σ, pre line → after.now = line.now →
      posture after.history = (posture line.history).after ⟨line.now, .done c⟩ → post after) :
    Guides stage pre (device (Line.call c) : Action LinkError (Link σ) Unit) fun _ => post := by
  intro link meets
  rw [device, outcome_onTransport, Transport.device, Action.outcome_within, Action.outcome_mapError]
  rcases Line.call_entry c link.line with ⟨fault, failed, history⟩ | ⟨done, noise, far, did⟩
  · refine ⟨?_, fun _ returned => ?_⟩
    · show stage.Obeys link.line.history ((Line.call c).outcome link.line).2.history
      rw [history]
      exact .single (tried link.line meets)
    · change Except.mapError _ ((Line.call c).outcome link.line).1 = _ at returned
      rw [failed] at returned
      cases returned
  · obtain ⟨later, same, -⟩ := did.obeys_noise far stage
    exact ⟨.trans (.single (made link.line meets)) later,
      fun _ _ => reached link.line _ meets (Line.now_call c link.line) same⟩

theorem hold : Guides stage (fun line => masked line.history = true)
    (device (Line.call (.reset true)) : Action LinkError (Link σ) Unit)
    fun _ line => posture line.history = .held none :=
  call (fun _ mask => mask) (fun _ _ => trivial) fun _ _ _ _ held => held

theorem strap (mode : BootMode) : Guides stage (fun line => posture line.history = .held none)
    (device (Line.call (.mode mode)) : Action LinkError (Link σ) Unit)
    fun _ line => posture line.history = .held (some (mode, line.now)) := by
  apply call
  · exact fun _ _ => trivial
  · exact fun _ _ => trivial
  · intro line after held instant strapped
    rw [strapped, held, instant]
    rfl

theorem settle (mode : BootMode) :
    Guides stage (fun line => posture line.history = .held (some (mode, line.now)))
      (Action.change (delayMs · resetSettleMs) : Action LinkError (Link σ) Unit)
      fun _ line => ∃ time, posture line.history = .held (some (mode, time)) ∧
        time.after (.ofMillis 20) ≤ line.now := by
  intro link held
  obtain ⟨noise, far, did, -, now⟩ := Line.delay_events link.line (.ofMillis resetSettleMs)
  obtain ⟨obeys, same, -⟩ := did.obeys_noise far stage
  exact ⟨obeys, fun _ _ => ⟨link.line.now, same.trans held, now.ge⟩⟩

theorem release (mode : BootMode) :
    Guides stage (fun line => ∃ time, posture line.history = .held (some (mode, time)) ∧
        time.after (.ofMillis 20) ≤ line.now)
      (device (Line.call (.reset false)) : Action LinkError (Link σ) Unit)
      fun _ => Line.Runs mode := by
  apply call
  · rintro line ⟨time, held, settled⟩
    exact ⟨mode, time, held, settled⟩
  · exact fun _ _ => trivial
  · rintro line after ⟨time, held, -⟩ - released
    rw [Line.Runs, released, held]
    rfl

theorem delayMs (ms : Nat) {mode : BootMode} :
    Guides stage (Line.Runs mode)
      (Action.change (Link.delayMs · ms) : Action LinkError (Link σ) Unit) fun _ => Line.Runs mode :=
  listen fun link => .delay Event.talks_of_isFarSide link.line _

end Guides

variable [Peer σ]

/-- The way into a boot mode keeps the rules in every stage, and at its end the co-processor runs in
that mode. -/
theorem guides_enterMode (stage : Stage) (mode : BootMode) :
    Guides stage (fun _ => True) (enterMode mode : Action LinkError (Link σ) Unit)
      fun _ => Line.Runs mode := by
  refine .bind .get fun link => ?_
  exact .bind .mask fun _ => .bind .hold fun _ => .bind (.strap mode) fun _ =>
    .bind (.settle mode) fun _ => .bind (.release mode) fun _ => .bind (.delayMs _) fun _ =>
    .bind (.listen (talks_onTransport (Transport.talks_call trivial))) fun _ =>
    .listen (talks_onTransport Transport.talks_resetReceived)

theorem guides_handshake :
    Guides .bootApp (Line.Runs .application) (handshake : Action LinkError (Link σ) Bool)
      fun _ => Line.Runs .application := by
  have lowered : Action.Keeps (Talks fun _ => False)
      (Action.change (onLine Line.clearReady) : Action LinkError (Link σ) Unit) :=
    .change fun link => .clearReady trivial Event.talks_of_isFarSide link.line
  refine .bind (.listen lowered) fun _ => .bind (.delayMs _) fun _ =>
    .bind .unmask fun _ => .bind (.talk (talks_onTransport Transport.talks_resetLink) ?_) fun _ =>
    .bind (.listen (talks_onTransport (.total (Transport.talks_awaitReady _))))
      fun acknowledged => ?_
  · exact fun data reset => ⟨rfl, reset⟩
  dsimp only
  split
  · exact .bind (.listen (talks_onTransport Transport.talks_armReceiver)) fun _ => .pure _
  · exact .pure _

theorem guides_holdReset (stage : Stage) :
    Guides stage (fun _ => True) (holdReset : Action LinkError (Link σ) Unit)
      fun _ line => posture line.history = .held none :=
  .bind .mask fun _ => .hold

theorem guides_runProvisioning (image : Firmware.Image) (stub : Firmware.Stub) :
    Guides .bootRom (Line.Runs .rom)
      (runProvisioning image stub : Action ProvisionError (Link σ) Provisioning.Outcome)
      fun _ => Line.Runs .rom :=
  .talk (talks_runProvisioning image stub) fun _ _ => rfl

theorem guides_tick (entered : Bool) :
    Guides (.alive entered) (Line.Runs .application) (tick : Action LinkError (Link σ) Unit)
      fun _ => Line.Runs .application :=
  .talk talks_tick fun _ frame => ⟨rfl, frame⟩

theorem obeys_provision (link : Link σ) :
    Stage.bootRom.Obeys link.line.history (provision.outcome link).2.line.history := by
  obtain ⟨entering, running⟩ := guides_enterMode .bootRom .rom link.briefed trivial
  rw [history_briefed] at entering
  have cycle := provision_cycle link
  generalize provision.outcome link = run at cycle
  cases cycle with
  | imageless lacking => exact history_briefed link ▸ .refl
  | stubless lacking => exact history_briefed link ▸ .refl
  | unread error => exact history_briefed link ▸ .refl
  | stuck entered =>
    rw [entered] at entering
    exact entering
  | @ran image reached stub offered entered =>
    rw [entered] at entering running
    rw [Action.outcome_map]
    exact entering.trans (guides_runProvisioning image stub reached (running () rfl)).1

/-- All that was written between two moments was written by a provisioning run, which has the line to
itself. -/
inductive LoaderWrites (before : Link σ) : List Entry → Prop where
  | unwritten {reached : Link σ} (unwritten : Unwritten before reached) :
      LoaderWrites before reached.line.history
  | ran {reached : Link σ} (unwritten : Unwritten before reached) (image : Firmware.Image)
      (stub : Firmware.Stub) :
      LoaderWrites before ((runProvisioning image stub).outcome reached).2.line.history

theorem LoaderWrites.congr {before other : Link σ} {history : List Entry}
    (writes : LoaderWrites other history) (same : other.line.history = before.line.history) :
    LoaderWrites before history := by
  have alike : Unwritten before other := .same same
  cases writes with
  | unwritten unwritten => exact .unwritten (alike.trans unwritten)
  | ran unwritten image stub => exact .ran (alike.trans unwritten) image stub

theorem loaderWrites_provision (link : Link σ) :
    LoaderWrites link (provision.outcome link).2.line.history := by
  have silent := (unwritten_briefed link).trans (unwritten_enterMode .rom link.briefed)
  have cycle := provision_cycle link
  generalize provision.outcome link = run at cycle
  cases cycle with
  | imageless lacking => exact .unwritten (unwritten_briefed link)
  | stubless lacking => exact .unwritten (unwritten_briefed link)
  | unread error => exact .unwritten (unwritten_briefed link)
  | stuck entered =>
    rw [entered] at silent
    exact .unwritten silent
  | ran stub offered entered =>
    rw [entered] at silent
    rw [Action.outcome_map]
    exact .ran silent _ stub

end Link

/-- Unless the application firmware runs, a co-processor that was reset has its ready edge masked. -/
def Sheltered (history : List Entry) : Prop :=
  posture history ≠ .unknown → posture history ≠ .running .application → masked history = true

theorem Sheltered.add {stage : Stage} {history : List Entry} {entry : Entry}
    (sheltered : Sheltered history) (permitted : stage.Permits history entry) :
    Sheltered (entry :: history) := by
  obtain ⟨time, event⟩ := entry
  cases event with
  | done c =>
    cases c with
    | reset asserted =>
      intro _ _
      show masked history = true
      cases asserted with
      | true => exact permitted
      | false =>
        obtain ⟨mode, strapped, held, -⟩ := permitted
        exact sheltered (by simp [held]) (by simp [held])
    | mode mode =>
      -- outside of reset the strap changes nothing
      intro known other
      show masked history = true
      apply sheltered
      · intro unknown
        exact known (by simp [posture, Posture.after, unknown])
      · intro running
        exact other (by simp [posture, Posture.after, running])
    | _ => exact sheltered
  | irq enabled =>
    intro _ other
    cases enabled with
    | true => exact absurd permitted other
    | false => rfl
  | _ => exact sheltered

theorem Stage.Obeys.sheltered {stage : Stage} {before after : List Entry}
    (obeys : stage.Obeys before after) (old : ∀ earlier, earlier <:+ before → Sheltered earlier) :
    ∀ earlier, earlier <:+ after → Sheltered earlier := by
  induction obeys with
  | refl => exact old
  | add _ permitted ih =>
    intro earlier part
    rcases List.suffix_cons_iff.mp part with rfl | older
    · exact .add (ih _ (List.suffix_refl _)) permitted
    · exact ih earlier older

namespace Lifecycle

variable {σ : Type}

def history (cycle : Lifecycle σ) : List Entry := cycle.link.line.history

def Posed (cycle : Lifecycle σ) : Prop :=
  ∀ entered, cycle.stage = .alive entered → posture cycle.history = .running .application

theorem history_entering (cycle : Lifecycle σ) (entered : Bool) :
    (cycle.entering entered).line.history = cycle.history := by
  cases entered <;> rfl

theorem Posed.entering {cycle : Lifecycle σ} {entered : Bool} (posed : cycle.Posed)
    (alive : cycle.stage = .alive entered) : (cycle.entering entered).line.Runs .application := by
  rw [Line.Runs, history_entering]
  exact posed entered alive

variable [Peer σ]

theorem guides_bootApplication :
    Link.Guides .bootApp (fun _ => True) (bootApplication : Action LinkError (Link σ) Bool)
      fun _ => Line.Runs .application :=
  .bind (Link.guides_enterMode .bootApp .application) fun _ => Link.guides_handshake

theorem step_obeys {cycle : Lifecycle σ} (posed : cycle.Posed) :
    cycle.stage.Obeys cycle.history cycle.step.history ∧ cycle.step.Posed := by
  have provision := Link.obeys_provision (announce cycle.link .bootRom .booting)
  obtain ⟨boot, runs⟩ :=
    guides_bootApplication (announce cycle.link .bootApp .booting).resetSession trivial
  have stepped := step_cases cycle
  generalize staged : cycle.stage = stage at stepped ⊢
  generalize cycle.step = next at stepped ⊢
  cases stepped with
  | asked => exact ⟨.refl, by simp [Posed]⟩
  | provisioned _ ran noted | again _ ran noted =>
    rw [ran] at provision
    obtain ⟨log, rfl⟩ := noted
    exact ⟨provision, by simp [Posed]⟩
  | gaveUp _ ran noted _ next =>
    rw [ran] at provision
    obtain ⟨log, rfl⟩ := noted
    refine ⟨provision, fun entered alive => ?_⟩
    rw [next] at alive
    split at alive <;> cases alive
  | booted _ ran =>
    rw [ran] at boot runs
    exact ⟨boot, fun _ _ => runs true rfl⟩
  | unanswered _ ran noted =>
    rw [ran] at boot
    obtain ⟨log, rfl⟩ := noted
    exact ⟨boot, by simp [Posed]⟩
  | @passed entered link _ ran =>
    obtain ⟨obeys, runs⟩ :=
      Link.guides_tick entered (cycle.entering entered) (posed.entering staged)
    rw [ran, history_entering] at obeys
    rw [ran] at runs
    obtain ⟨noise, far, did, -⟩ := Line.delay_events link.line alivePause
    obtain ⟨later, same, -⟩ := did.obeys_noise far (.alive entered)
    exact ⟨obeys.trans later, fun _ _ => same.trans (runs () rfl)⟩
  | @lost entered _ _ _ _ ran noted =>
    obtain ⟨obeys, -⟩ := Link.guides_tick entered (cycle.entering entered) (posed.entering staged)
    rw [ran, history_entering] at obeys
    obtain ⟨log, rfl⟩ := noted
    exact ⟨obeys, by simp [Posed]⟩
  | @rested _ _ after _ ran noted =>
    obtain ⟨obeys, -⟩ := Link.guides_holdReset .error (announce cycle.link .error .error) trivial
    rw [ran] at obeys
    obtain ⟨noise, far, did, -⟩ := Line.delay_events after.line (.ofMillis errorHoldMs)
    obtain ⟨later, -⟩ := did.obeys_noise far .error
    obtain ⟨log, rfl⟩ := noted
    exact ⟨obeys.trans later, by simp [Posed]⟩
  | @parked withError done _ ran =>
    obtain ⟨obeys, -⟩ := Link.guides_holdReset (.shutdown withError done)
      (announce cycle.link .shutdown .shutdown) trivial
    rw [ran] at obeys
    exact ⟨obeys, by simp [Posed]⟩
  | @unparked withError done _ _ _ ran noted =>
    obtain ⟨obeys, -⟩ := Link.guides_holdReset (.shutdown withError done)
      (announce cycle.link .shutdown .shutdown) trivial
    rw [ran] at obeys
    obtain ⟨log, rfl⟩ := noted
    exact ⟨obeys, by simp [Posed]⟩

theorem step_loaderWrites {cycle : Lifecycle σ} (rom : cycle.stage = .bootRom) :
    cycle.link.LoaderWrites cycle.step.history := by
  have writes := Link.loaderWrites_provision (announce cycle.link .bootRom .booting)
  have stepped := step_cases cycle
  rw [rom] at stepped
  generalize cycle.step = next at stepped ⊢
  cases stepped with
  | asked => exact .unwritten (refl_of Link.Unwritten cycle.link)
  | provisioned _ ran noted | again _ ran noted | gaveUp _ ran noted =>
    rw [ran] at writes
    obtain ⟨log, rfl⟩ := noted
    exact writes.congr rfl

structure KeepsToReset (start : Lifecycle σ) (requests : Nat → Bool) : Prop where
  /-- Every entry that a step adds fits the entries before it and the stage. -/
  obeys (n : Nat) : (start.trail requests n).stage.Obeys (start.trail requests n).history
    (start.trail requests (n + 1)).history
  /-- While the boot loader runs the ready edge is masked. -/
  masks (n : Nat) (earlier : List Entry) (part : earlier <:+ (start.trail requests n).history)
    (rom : posture earlier = .running .rom) : masked earlier = true
  /-- In the stage of the boot loader only a provisioning run writes. -/
  loads (n : Nat) (rom : (start.trail requests n).stage = .bootRom) :
    (start.trail requests n).link.LoaderWrites (start.trail requests (n + 1)).history

theorem trail_history (start : Lifecycle σ) (requests : Nat → Bool) (n : Nat) :
    (start.trail requests (n + 1)).history = (start.trail requests n).step.history := by
  rw [trail, history, asked_link, history]

theorem trail_posed {start : Lifecycle σ} (requests : Nat → Bool)
    (boot : ∀ entered, start.stage ≠ .alive entered) (n : Nat) :
    (start.trail requests n).Posed := by
  induction n with
  | zero =>
    intro entered alive
    rw [trail, asked_stage] at alive
    exact absurd alive (boot entered)
  | succ n ih =>
    intro entered alive
    rw [trail_stage] at alive
    rw [trail_history]
    exact (step_obeys ih).2 entered alive

/-- Reset, strap and ready edge in every run, whatever the far side does and whichever calls fail.
Reset is released only when the strap was set at least 20 ms before and reset was held since; while
the boot loader runs the ready edge is masked and only a provisioning run writes; frames are sent in
the alive stage only, after a release into the application firmware. -/
theorem reset_discipline (start : Lifecycle σ) (boot : ∀ entered, start.stage ≠ .alive entered)
    (fresh : start.history = []) (requests : Nat → Bool) : start.KeepsToReset requests := by
  have obeys : ∀ n, (start.trail requests n).stage.Obeys (start.trail requests n).history
      (start.trail requests (n + 1)).history := by
    intro n
    rw [trail_history]
    exact (step_obeys (trail_posed requests boot n)).1
  have sheltered : ∀ n earlier, earlier <:+ (start.trail requests n).history →
      Sheltered earlier := by
    intro n
    induction n with
    | zero =>
      intro earlier part
      rw [trail, history, asked_link, ← history, fresh, List.suffix_nil] at part
      rw [part]
      exact fun known _ => absurd rfl known
    | succ n ih => exact (obeys n).sheltered ih
  refine ⟨obeys, fun n earlier part rom => ?_, fun n rom => ?_⟩
  · exact sheltered n earlier part (by simp [rom]) (by simp [rom])
  · rw [trail_history]
    exact step_loaderWrites rom

/-- The run whose first cycle breaks off in the middle of the image. -/
theorem reset_discipline_vanishing :
    posture (vanishingStart.trail (fun _ => false) 1).history = .running .rom ∧
    masked (vanishingStart.trail (fun _ => false) 1).history = true ∧
    posture (vanishingStart.trail (fun _ => false) 2).history = .held none ∧
    Stage.error.Obeys (vanishingStart.trail (fun _ => false) 1).history
      (vanishingStart.trail (fun _ => false) 2).history := by
  have keeps := reset_discipline vanishingStart (fun _ => Stage.noConfusion) rfl fun _ => false
  have rom : posture (vanishingStart.trail (fun _ => false) 1).history = .running .rom := by
    decide +kernel
  have error : (vanishingStart.trail (fun _ => false) 1).stage = .error := by decide +kernel
  exact ⟨rom, keeps.masks 1 _ (List.suffix_refl _) rom, by decide +kernel, error ▸ keeps.obeys 1⟩

end Lifecycle

end RadioLink
