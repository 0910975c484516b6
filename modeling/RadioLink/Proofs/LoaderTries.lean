import RadioLink.Proofs.RetryPolicy

/-!
How often provisioning is tried. A step of the machine that runs a provisioning cycle ends in one of
three ways, and each fixes the stage and the counter: the cycle returned a result, it failed and
another one is due, or it failed for the last time. What happens after the last failure hangs on the
latest verdict of the run, which is told by the digests that its cycles obtained.
-/

namespace RadioLink

open Provisioning Flasher

variable {σ : Type}

namespace Provisioning

/-- What happens before the first write does not matter for the decision. -/
theorem decision_append_of_unwritten {early : List Event}
    (silent : ∀ event ∈ early, ∀ data, event.written? = some data → False) (image : Firmware.Image)
    (configured : Digest) (events : List Event) :
    decision image configured (early ++ events) = decision image configured events := by
  have passed : ∀ event ∈ early, (!event.offers (commandPacket digestCommand)) = true := by
    intro event member
    by_contra offered
    simp only [Event.offers, Bool.not_eq_true', Bool.not_eq_false, beq_iff_eq] at offered
    exact silent event member _ offered
  have same : firstReport (early ++ events) = firstReport events := by
    rw [firstReport, List.dropWhile_append_of_pos passed, firstReport]
  rw [decision, same, decision]

theorem decision_of_unwritten {events : List Event}
    (silent : ∀ event ∈ events, ∀ data, event.written? = some data → False) (image : Firmware.Image)
    (configured : Digest) : decision image configured events = none := by
  have none := decision_append_of_unwritten silent image configured []
  rw [List.append_nil] at none
  exact none

/-- A cycle leaves the verdict that it decided on, or the one that was there before. -/
theorem Course.verdict_eq {settings : Settings} {image : Firmware.Image} {stub : Firmware.Stub}
    {bench : Workbench σ} {events : List Event} {result : Except ProvisionError Outcome}
    {verdict : Option Verdict} {store : ConfigStore}
    (course : Course settings image stub bench events result verdict store) :
    verdict = (decision image bench.store.config.firmware.md5 events).or bench.verdict := by
  rcases course.decided with ⟨undecided, _, same, _⟩ | ⟨choice, decided, chosen, _⟩
  · rw [undecided, same, Option.none_or]
  · rw [decided, chosen, Option.some_or]

end Provisioning

namespace Link

def decided (link : Link σ) (events : List Event) : Option Verdict :=
  (link.images.offer link.cycles).image?.bind fun image =>
    decision image link.store.config.firmware.md5 events

def Decides (before after : Link σ) : Prop :=
  after.settings = before.settings ∧
    ∃ events, Line.Did events before.line after.line ∧
      after.verdict = (before.decided events).or before.verdict

/-- A cycle that ends before it writes anything decides nothing. -/
theorem Decides.of_unwritten {before after : Link σ} (unwritten : Unwritten before after)
    (holds : Holds before after) : Decides before after := by
  obtain ⟨events, did, silent⟩ := unwritten
  refine ⟨holds.2.2, events, did, ?_⟩
  have none : before.decided events = none := by
    simp only [decided, decision_of_unwritten silent, Option.bind_fun_none]
  rw [none, Option.none_or]
  exact holds.1

variable [Peer σ]

/-- What a provisioning cycle decides is what the digests say; nothing else replaces the verdict. -/
theorem provision_decides (link : Link σ) : Decides link (provision.outcome link).2 := by
  have holds := holds_briefed link
  have unwritten := unwritten_briefed link
  have moved := onlyTransport_enterMode .rom link.briefed
  have silent := unwritten.trans (unwritten_enterMode .rom link.briefed)
  have cycle := provision_cycle link
  generalize provision.outcome link = run at cycle
  cases cycle with
  | imageless lacking => exact .of_unwritten unwritten holds
  | stubless lacking => exact .of_unwritten unwritten holds
  | unread error => exact .of_unwritten unwritten holds
  | stuck entered =>
    rw [entered] at moved silent
    exact .of_unwritten silent (trans_of Holds holds moved.holds)
  | @ran image reached stub offered entered =>
    rw [entered] at moved silent
    have same : Holds link reached := trans_of Holds holds moved.holds
    have store : reached.store = link.store :=
      (congrArg (fun link => link.store) moved).trans
        (congrArg (fun link => link.store) (onlyTransport_briefed link))
    rw [Action.outcome_map, runProvisioning, Action.outcome_get_bind, Action.outcome_within]
    obtain ⟨events, did, course⟩ := run_course reached.settings image stub
      { port := { line := reached.transport.line }, store := reached.store,
        verdict := reached.verdict }
    obtain ⟨early, before, plain⟩ := silent
    refine ⟨same.2.2, early ++ events, before.append did, ?_⟩
    have verdict := course.verdict_eq
    dsimp only at verdict ⊢
    rw [verdict, store, same.1, decided, offered, Option.bind_some,
      decision_append_of_unwritten plain]

end Link

namespace Lifecycle

theorem asked_attempts (cycle : Lifecycle σ) (request : Bool) :
    (cycle.asked request).attempts = cycle.attempts := by
  cases request <;> rfl

variable [Peer σ]

def fails (cycle : Lifecycle σ) : Bool :=
  match cycle.provisioning? with
  | some (.error _) => true
  | _ => false

def decided? (cycle : Lifecycle σ) : Option Verdict :=
  if cycle.stage = .bootRom ∧ cycle.shutdownRequested = false then
    cycle.link.decided cycle.stepEvents
  else none

/-- How many provisioning cycles in a row may fail. -/
def budget (cycle : Lifecycle σ) : Nat := max 1 cycle.link.settings.maxLoaderTries

inductive Counting (cycle next : Lifecycle σ) : Prop where
  /-- No cycle was run. -/
  | idle (idle : cycle.provisioning? = none) (attempts : next.attempts = cycle.attempts)
      (left : cycle.stage = .bootRom → next.stage.isShutdown = true)
      (entered : next.stage = .bootRom → cycle.stage = .error)
      (parked : cycle.stage.isShutdown = true → next.stage.isShutdown = true)
  /-- The cycle returned a result. -/
  | done {outcome : Option Provisioning.Outcome} (ran : cycle.provisioning? = some (.ok outcome))
      (attempts : next.attempts = 0) (stage : next.stage = .bootApp)
  /-- The cycle failed, and there will be another one. -/
  | again {error : ProvisionError} (ran : cycle.provisioning? = some (.error error))
      (more : cycle.attempts + 1 < cycle.link.settings.maxLoaderTries)
      (attempts : next.attempts = cycle.attempts + 1) (stage : next.stage = .bootRom)
  /-- The cycle failed for the last time. -/
  | gaveUp {error : ProvisionError} (ran : cycle.provisioning? = some (.error error))
      (spent : cycle.link.settings.maxLoaderTries ≤ cycle.attempts + 1)
      (attempts : next.attempts = 0)
      (stage : next.stage =
        if next.link.verdict.any Verdict.runsExisting then .bootApp else .error)

theorem step_decides {cycle : Lifecycle σ}
    {result : Except ProvisionError (Option Provisioning.Outcome)}
    (running : cycle.provisioning? = some result) :
    ∃ after, (announce cycle.link .bootRom .booting).Decides after ∧
      cycle.step.link.line.history = after.line.history ∧ after.Holds cycle.step.link := by
  obtain ⟨after, ran, history, holds, -⟩ := step_ran running
  have decides := Link.provision_decides (announce cycle.link .bootRom .booting)
  rw [ran] at decides
  exact ⟨after, decides, history, holds⟩

theorem counting_step (cycle : Lifecycle σ) : Counting cycle cycle.step := by
  have settings := (Link.provision_decides (announce cycle.link .bootRom .booting)).1
  have idle : cycle.stage ≠ .bootRom → cycle.provisioning? = none :=
    fun other => if_neg fun mode => other mode.1
  have result : cycle.stage = .bootRom → cycle.shutdownRequested = false → cycle.provisioning? =
      some (Link.provision.outcome (announce cycle.link .bootRom .booting)).1 :=
    fun rom calm => if_pos ⟨rom, calm⟩
  have stepped := step_cases cycle
  generalize staged : cycle.stage = stage at stepped
  rw [staged] at idle result
  generalize cycle.step = next at stepped ⊢
  cases stepped with
  | asked requested =>
    have waits : cycle.provisioning? = none := if_neg fun mode => by simp [mode.2] at requested
    exact .idle waits rfl (fun _ => rfl) (by simp) (fun _ => rfl)
  | provisioned calm ran =>
    have result := result rfl calm
    rw [ran] at result
    exact .done result rfl rfl
  | again calm ran _ more =>
    have result := result rfl calm
    rw [ran] at result settings
    exact .again result (settings ▸ more) rfl rfl
  | gaveUp calm ran noted spent next =>
    have result := result rfl calm
    rw [ran] at result settings
    obtain ⟨log, rfl⟩ := noted
    exact .gaveUp result (settings ▸ spent) rfl next
  | booted | unanswered | passed | lost =>
    exact .idle (idle (by simp)) rfl (by simp [staged]) (by simp) (by simp [staged, Stage.isShutdown])
  | rested =>
    exact .idle (idle (by simp)) rfl (by simp [staged]) (fun _ => staged)
      (by simp [staged, Stage.isShutdown])
  | parked | unparked =>
    exact .idle (idle (by simp)) rfl (by simp [staged]) (by simp) (fun _ => rfl)

theorem step_settings (cycle : Lifecycle σ) :
    cycle.step.link.settings = cycle.link.settings := by
  rcases running : cycle.provisioning? with - | result
  · exact (step_holds running).2.2
  · obtain ⟨after, decides, _, holds⟩ := step_decides running
    exact holds.2.2.trans decides.1

/-- The verdict after a step is what the digests of the step say, or the one before. -/
theorem step_verdict (cycle : Lifecycle σ) :
    cycle.step.link.verdict = cycle.decided?.or cycle.link.verdict := by
  by_cases mode : cycle.stage = .bootRom ∧ cycle.shutdownRequested = false
  · obtain ⟨after, ⟨_, events, did, verdict⟩, history, holds⟩ := step_decides (if_pos mode)
    have own : Line.Did events cycle.link.line cycle.step.link.line := by
      obtain ⟨entries, grown, order⟩ := did
      exact ⟨entries, history.trans grown, order⟩
    rw [decided?, if_pos mode, stepEvents, own.since_eq]
    exact holds.1.trans verdict
  · rw [decided?, if_neg mode, Option.none_or]
    exact (step_holds (if_neg mode)).1

namespace Counting

variable {cycle next : Lifecycle σ}

theorem asked (counting : Counting cycle next) (request : Bool) :
    Counting cycle (next.asked request) := by
  cases request with
  | false => exact counting
  | true =>
    cases counting with
    | idle idle attempts left entered parked => exact .idle idle attempts left entered parked
    | done ran attempts stage => exact .done ran attempts stage
    | again ran more attempts stage => exact .again ran more attempts stage
    | gaveUp ran spent attempts stage => exact .gaveUp ran spent attempts stage

end Counting

theorem fails_iff {cycle : Lifecycle σ} :
    cycle.fails = true ↔ ∃ error, cycle.provisioning? = some (.error error) := by
  unfold fails
  split
  next error ran => simp [ran]
  next other => simpa using other

theorem stage_of_fails {cycle : Lifecycle σ} (failed : cycle.fails = true) :
    cycle.stage = .bootRom := by
  obtain ⟨error, running⟩ := fails_iff.mp failed
  exact (mode_of_provisioning running).1

namespace Counting

variable {cycle next : Lifecycle σ}

/-- A failed cycle is counted, unless it was the last one. -/
theorem of_fails (counting : Counting cycle next) (failed : cycle.fails = true) :
    (cycle.attempts + 1 < cycle.link.settings.maxLoaderTries ∧
      next.attempts = cycle.attempts + 1 ∧ next.stage = .bootRom) ∨
    (cycle.link.settings.maxLoaderTries ≤ cycle.attempts + 1 ∧ next.stage ≠ .bootRom ∧
      next.stage = if next.link.verdict.any Verdict.runsExisting then .bootApp else .error) := by
  obtain ⟨error, failed⟩ := fails_iff.mp failed
  cases counting with
  | idle idle => rw [idle] at failed; cases failed
  | done ran => rw [ran] at failed; cases failed
  | again _ more attempts stage => exact .inl ⟨more, attempts, stage⟩
  | gaveUp _ spent _ stage =>
    refine .inr ⟨spent, ?_, stage⟩
    rw [stage]
    split <;> simp

/-- Without a request to shut down the machine leaves the boot loader stage or fails there. -/
theorem of_bootRom (counting : Counting cycle next) (rom : cycle.stage = .bootRom)
    (unasked : cycle.shutdownRequested = false) :
    (cycle.fails = true ∧ next.stage = .bootRom) ∨ next.stage = .bootApp ∨ next.stage = .error := by
  cases counting with
  | idle idle =>
    rw [provisioning?, if_pos ⟨rom, unasked⟩] at idle
    cases idle
  | done _ _ stage => exact .inr (.inl stage)
  | again ran _ _ stage => exact .inl ⟨fails_iff.mpr ⟨_, ran⟩, stage⟩
  | gaveUp _ _ _ stage =>
    rw [stage]
    split
    · exact .inr (.inl rfl)
    · exact .inr (.inr rfl)

/-- The machine stays in the boot loader stage only through a failed cycle. -/
theorem fails_of_stays (counting : Counting cycle next) (rom : cycle.stage = .bootRom)
    (stays : next.stage = .bootRom) : cycle.fails = true := by
  cases counting with
  | idle _ _ _ entered _ =>
    rw [entered stays] at rom
    cases rom
  | done _ _ stage =>
    rw [stage] at stays
    cases stays
  | again ran _ _ _ | gaveUp ran _ _ _ => exact fails_iff.mpr ⟨_, ran⟩

/-- The stage is entered from the error stage only, and the counter is taken along. -/
theorem of_enters (counting : Counting cycle next) (other : cycle.stage ≠ .bootRom)
    (entered : next.stage = .bootRom) :
    cycle.stage = .error ∧ next.attempts = cycle.attempts := by
  cases counting with
  | idle _ attempts _ failed _ => exact ⟨failed entered, attempts⟩
  | done ran _ _ | again ran _ _ _ | gaveUp ran _ _ _ =>
    exact absurd (mode_of_provisioning ran).1 other

end Counting

structure Fresh (start : Lifecycle σ) : Prop where
  stage : start.stage = .bootRom
  attempts : start.attempts = 0
  verdict : start.link.verdict = none

/-- The latest verdict of a run before its step `n`, by the digests that its cycles obtained. -/
def latestVerdict (start : Lifecycle σ) (requests : Nat → Bool) : Nat → Option Verdict
  | 0 => none
  | n + 1 => (start.trail requests n).decided?.or (start.latestVerdict requests n)

def Enters (start : Lifecycle σ) (requests : Nat → Bool) (n : Nat) : Prop :=
  (start.trail requests n).stage = .bootRom ∧
    ∀ m, n = m + 1 → (start.trail requests m).stage ≠ .bootRom

/-- The counter is the number of cycles that failed since the boot loader stage was entered. -/
def Tallied (start : Lifecycle σ) (requests : Nat → Bool) (n : Nat) : Prop :=
  ∃ entry made, n = entry + made ∧ Enters start requests entry ∧
    (∀ k ≤ made, (start.trail requests (entry + k)).stage = .bootRom) ∧
    (start.trail requests n).attempts =
      Nat.count (fun k => (start.trail requests (entry + k)).fails) made

section

variable {start : Lifecycle σ} {requests : Nat → Bool}

theorem trail_counting (n : Nat) :
    Counting (start.trail requests n) (start.trail requests (n + 1)) :=
  (counting_step _).asked _

theorem trail_settings (n : Nat) :
    (start.trail requests n).link.settings = start.link.settings := by
  induction n with
  | zero => rw [trail, asked_link]
  | succ n ih => rw [trail, asked_link, step_settings, ih]

theorem trail_verdict (fresh : start.Fresh) (n : Nat) :
    (start.trail requests n).link.verdict = start.latestVerdict requests n := by
  induction n with
  | zero => rw [trail, asked_link, fresh.verdict, latestVerdict]
  | succ n ih => rw [trail, asked_link, step_verdict, ih, latestVerdict]

/-- The counter is below the budget in the boot loader stage, and zero elsewhere. -/
theorem trail_attempts (fresh : start.Fresh) (n : Nat) :
    ((start.trail requests n).stage = .bootRom →
      (start.trail requests n).attempts < start.budget) ∧
    ((start.trail requests n).stage ≠ .bootRom →
      (start.trail requests n).stage.isShutdown = false → (start.trail requests n).attempts = 0) := by
  have positive : 0 < start.budget := Nat.le_max_left 1 _
  induction n with
  | zero =>
    rw [trail, asked_attempts, fresh.attempts]
    exact ⟨fun _ => positive, fun _ _ => rfl⟩
  | succ n ih =>
    have settings := @trail_settings _ _ start requests n
    cases @trail_counting _ _ start requests n with
    | idle _ attempts left entered parked =>
      rw [attempts]
      constructor
      · intro rom
        have error := entered rom
        rw [ih.2 (by rw [error]; simp) (by rw [error]; rfl)]
        exact positive
      · intro other running
        apply ih.2
        · intro rom
          rw [left rom] at running
          cases running
        · by_contra stopped
          rw [parked (by simpa using stopped)] at running
          cases running
    | done _ attempts _ | gaveUp _ _ attempts _ =>
      rw [attempts]
      exact ⟨fun _ => positive, fun _ _ => rfl⟩
    | again _ more attempts stage =>
      rw [attempts, stage]
      rw [settings] at more
      exact ⟨fun _ => more.trans_le (Nat.le_max_right 1 _), fun other => absurd rfl other⟩

/-- The stage is entered with the counter at zero. -/
theorem Enters.attempts_eq (fresh : start.Fresh) {n : Nat} (enters : Enters start requests n) :
    (start.trail requests n).attempts = 0 := by
  cases n with
  | zero => rw [trail, asked_attempts, fresh.attempts]
  | succ n =>
    obtain ⟨error, attempts⟩ := (trail_counting n).of_enters (enters.2 n rfl) enters.1
    rw [attempts]
    exact (trail_attempts fresh n).2 (by rw [error]; simp) (by rw [error]; rfl)

theorem Enters.tallied (fresh : start.Fresh) {n : Nat} (enters : Enters start requests n) :
    Tallied start requests n := by
  refine ⟨n, 0, rfl, enters, ?_, ?_⟩
  · intro k none
    rw [Nat.le_zero.mp none]
    exact enters.1
  · rw [enters.attempts_eq fresh, Nat.count_zero]

theorem tallied_of_bootRom (fresh : start.Fresh) {n : Nat}
    (rom : (start.trail requests n).stage = .bootRom) : Tallied start requests n := by
  induction n with
  | zero => exact Enters.tallied fresh ⟨rom, nofun⟩
  | succ n ih =>
    by_cases stays : (start.trail requests n).stage = .bootRom
    · obtain ⟨entry, made, rfl, enters, all, counted⟩ := ih stays
      have failed := (trail_counting (entry + made)).fails_of_stays stays rom
      refine ⟨entry, made + 1, rfl, enters, ?_, ?_⟩
      · intro k bound
        rcases Nat.le_succ_iff.mp bound with early | rfl
        · exact all k early
        · exact rom
      · rcases (trail_counting (entry + made)).of_fails failed with ⟨_, more, _⟩ | ⟨_, left, _⟩
        · rw [more, counted, Nat.count_succ, if_pos failed]
        · exact absurd rom left
    · exact Enters.tallied fresh ⟨rom, fun m same => by rwa [← Nat.succ.inj same]⟩

/-- As long as the machine stays, every failed cycle is one more on the counter. -/
theorem attempts_of_fails {n k : Nat}
    (failing : ∀ j < k, (start.trail requests (n + j)).fails = true)
    (rom : (start.trail requests (n + k)).stage = .bootRom) :
    (start.trail requests (n + k)).attempts = (start.trail requests n).attempts + k := by
  induction k with
  | zero => rfl
  | succ k ih =>
    have failed := failing k (Nat.lt_succ_self k)
    have early := ih (fun j bound => failing j (by omega)) (stage_of_fails failed)
    rcases (trail_counting (n + k)).of_fails failed with ⟨_, counted, _⟩ | ⟨_, left, _⟩
    · rw [← Nat.add_assoc, counted, early, Nat.add_assoc]
    · exact absurd rom left

/-- No more cycles fail in a row than the budget allows. -/
theorem fails_le_budget (fresh : start.Fresh) {n k : Nat}
    (failing : ∀ j < k, (start.trail requests (n + j)).fails = true) : k ≤ start.budget := by
  cases k with
  | zero => exact Nat.zero_le _
  | succ k =>
    have rom := stage_of_fails (failing k (Nat.lt_succ_self k))
    have counted := attempts_of_fails (fun j bound => failing j (by omega)) rom
    have below := (trail_attempts fresh (n + k)).1 rom
    omega

/-- Once the stage is entered, the machine stays until the whole budget is used up or a cycle returns
a result. -/
theorem Enters.stays (fresh : start.Fresh) {n k : Nat} (enters : Enters start requests n)
    (within : k < start.budget)
    (failing : ∀ j < k, (start.trail requests (n + j)).fails = true) :
    (start.trail requests (n + k)).stage = .bootRom ∧ (start.trail requests (n + k)).attempts = k := by
  induction k with
  | zero => exact ⟨enters.1, enters.attempts_eq fresh⟩
  | succ k ih =>
    obtain ⟨rom, counted⟩ := ih (by omega) fun j bound => failing j (by omega)
    have settings := @trail_settings _ _ start requests (n + k)
    rcases (trail_counting (n + k)).of_fails (failing k (Nat.lt_succ_self k)) with
      ⟨_, more, stays⟩ | ⟨spent, _⟩
    · exact ⟨stays, by rw [← Nat.add_assoc, more, counted]⟩
    · rw [settings, counted] at spent
      rw [budget, lt_max_iff] at within
      omega

/-- The machine leaves the stage before it has failed more often than the budget allows. -/
theorem leaves_bootRom (fresh : start.Fresh) {n : Nat}
    (rom : (start.trail requests n).stage = .bootRom)
    (running : ∀ k < start.budget, (start.trail requests (n + k)).shutdownRequested = false) :
    ∃ m, 0 < m ∧ m ≤ start.budget ∧
      ((start.trail requests (n + m)).stage = .bootApp ∨
        (start.trail requests (n + m)).stage = .error) := by
  by_contra never
  have stuck : ∀ k ≤ start.budget, (start.trail requests (n + k)).stage = .bootRom ∧
      ∀ j < k, (start.trail requests (n + j)).fails = true := by
    intro k bound
    induction k with
    | zero => exact ⟨rom, nofun⟩
    | succ k ih =>
      obtain ⟨still, failing⟩ := ih (by omega)
      rcases (trail_counting (n + k)).of_bootRom still (running k (by omega)) with
        ⟨failed, stays⟩ | left
      · refine ⟨stays, fun j early => ?_⟩
        rcases Nat.lt_succ_iff_lt_or_eq.mp early with before | rfl
        · exact failing j before
        · exact failed
      · exact absurd ⟨k + 1, Nat.succ_pos k, bound, left⟩ never
  obtain ⟨still, failing⟩ := stuck start.budget (Nat.le_refl _)
  have counted := attempts_of_fails failing still
  have below := (trail_attempts fresh (n + start.budget)).1 still
  omega

theorem enters_of_error {n : Nat} (error : (start.trail requests n).stage = .error)
    (running : (start.trail requests n).shutdownRequested = false) :
    Enters start requests (n + 1) := by
  have stepped : (start.trail requests n).step = (start.trail requests n).stepError := by
    simp [step, work, error, running]
  refine ⟨?_, fun m same => ?_⟩
  · rw [trail_stage, stepped]
    rfl
  · rw [← Nat.succ.inj same, error]
    simp

end

structure CountsTries (start : Lifecycle σ) (requests : Nat → Bool) : Prop where
  /-- In the boot loader stage the counter tells how many cycles failed since it was entered. -/
  tallied : ∀ n, (start.trail requests n).stage = .bootRom →
    Tallied start requests n ∧ (start.trail requests n).attempts < start.budget
  /-- In every other stage before shutdown it is zero. -/
  cleared : ∀ n, (start.trail requests n).stage ≠ .bootRom →
    (start.trail requests n).stage.isShutdown = false → (start.trail requests n).attempts = 0
  /-- No more cycles fail in a row than the budget allows. -/
  bounded : ∀ n k, (∀ j < k, (start.trail requests (n + j)).fails = true) → k ≤ start.budget
  /-- Unless a shutdown is requested, the machine leaves the boot loader stage within its budget. -/
  leaves : ∀ n, (start.trail requests n).stage = .bootRom →
    (∀ k < start.budget, (start.trail requests (n + k)).shutdownRequested = false) →
    ∃ m, 0 < m ∧ m ≤ start.budget ∧
      ((start.trail requests (n + m)).stage = .bootApp ∨
        (start.trail requests (n + m)).stage = .error)
  /-- A failed cycle is the last one exactly if it uses up the budget. -/
  spent : ∀ n, (start.trail requests n).fails = true →
    ((start.trail requests (n + 1)).stage ≠ .bootRom ↔
      (start.trail requests n).attempts + 1 = start.budget)
  /-- Then the latest verdict of the whole run tells whether the flash is started. -/
  fallback : ∀ n, (start.trail requests n).fails = true →
    (start.trail requests (n + 1)).stage ≠ .bootRom →
    (start.trail requests (n + 1)).stage =
      if (start.latestVerdict requests (n + 1)).any Verdict.runsExisting then .bootApp else .error
  /-- After the error stage the whole budget is there again. -/
  renewed : ∀ n, (start.trail requests n).stage = .error →
    (start.trail requests n).shutdownRequested = false →
    ∀ k < start.budget, (∀ j < k, (start.trail requests (n + 1 + j)).fails = true) →
      (start.trail requests (n + 1 + k)).stage = .bootRom ∧
      (start.trail requests (n + 1 + k)).attempts = k

/-- Provisioning is tried a bounded number of times and every try is counted, whatever the setting, the
far side and its failures are, and wherever a shutdown is requested. -/
theorem tries_counted {start : Lifecycle σ} (fresh : start.Fresh) (requests : Nat → Bool) :
    CountsTries start requests where
  tallied n rom := ⟨tallied_of_bootRom fresh rom, (trail_attempts fresh n).1 rom⟩
  cleared n := (trail_attempts fresh n).2
  bounded n k := fails_le_budget fresh
  leaves n := leaves_bootRom fresh
  spent n failed := by
    have settings := @trail_settings _ _ start requests n
    have below := (trail_attempts fresh n).1 (stage_of_fails failed)
    rw [budget] at below ⊢
    rcases (trail_counting n).of_fails failed with ⟨more, _, stays⟩ | ⟨enough, left, _⟩
    · rw [settings] at more
      refine iff_of_false (not_not.mpr stays) ?_
      omega
    · rw [settings] at enough
      refine iff_of_true left ?_
      omega
  fallback n failed left := by
    rcases (trail_counting n).of_fails failed with ⟨_, _, stays⟩ | ⟨_, _, stage⟩
    · exact absurd stays left
    · rw [stage, trail_verdict fresh]
  renewed n error running k := (enters_of_error error running).stays fresh

/-- A co-processor whose flash is as it should be. It asks for attention as soon as it may send, and by
then the line that tells it so is broken; its boot strap breaks a little later. -/
def relapsing : Simulation.Script :=
  { onWrite := [[], accepting Loader.syncOp, accepting Loader.memBeginOp,
      accepting Loader.memDataOp, accepting Loader.memEndOp,
      [], [{ bytes := Slip.encode [List.replicate 16 0] }]]
    onBaud := [[], [{ bytes := Slip.encode [greeting] }]]
    onPulse := [[{ bytes := [Control.queryReady] }]]
    failures := [(.pulse, 1), (.mode, 2)] }

def relapsingStart : Lifecycle Simulation.Script :=
  { link := Link.start { peer := relapsing } { maxLoaderTries := 2 } {}
      (.fixed (some (List.replicate 20 0)) (some ⟨0, 0, 0, [0], []⟩)) none }

/-- The first cycle finds the flash in order. After the link was lost two cycles fail, and that verdict
still leads to the application. -/
theorem tries_counted_relapsing :
    (relapsingStart.trail (fun _ => false) 3).stage = .error ∧
    (relapsingStart.trail (fun _ => false) 5).attempts = 1 ∧
    (relapsingStart.trail (fun _ => false) 6).stage = .bootApp := by
  have fresh : relapsingStart.Fresh := ⟨rfl, rfl, rfl⟩
  have counts := tries_counted fresh fun _ => false
  have parked : (relapsingStart.trail (fun _ => false) 3).stage = .error := by decide +kernel
  have first : (relapsingStart.trail (fun _ => false) 4).fails = true := by decide +kernel
  have last : (relapsingStart.trail (fun _ => false) 5).fails = true := by decide +kernel
  have once : (relapsingStart.trail (fun _ => false) 5).attempts = 1 := by
    refine (counts.renewed 3 parked (by decide +kernel) 1 (by decide) fun j early => ?_).2
    rw [Nat.lt_one_iff.mp early]
    exact first
  have left := (counts.spent 5 last).mpr (by rw [once]; rfl)
  have sound : (relapsingStart.latestVerdict (fun _ => false) 6).any Verdict.runsExisting = true := by
    decide +kernel
  refine ⟨parked, once, ?_⟩
  rw [counts.fallback 5 last left, if_pos sound]

end Lifecycle

end RadioLink
