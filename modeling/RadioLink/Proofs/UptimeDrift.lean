import RadioLink.Proofs.SessionUptime

/-!
How far the seconds of a connection can be off. The next second starts at the look that counted the one
before, not at the moment when that one was over. So the count never runs ahead of the clock, and with each
second it may fall behind by the time between two looks.
-/

namespace RadioLink.Uptime

theorem poll_of_down (uptime : Uptime) (now : Micros) {telemetry : Telemetry}
    (down : telemetry.isConnected = false) :
    uptime.poll now telemetry = ({ tick := .off }, { telemetry with uptime := 0 }) := by
  rw [poll, down]
  rfl

structure Look where
  now : Micros
  telemetry : Telemetry

structure Watch where
  uptime : Uptime := {}
  seconds : UInt32 := 0
  counted : Nat := 0

namespace Watch

/-- A look finds the seconds as the one before left them, since no message changes them. -/
def look (watch : Watch) (next : Look) : Watch :=
  let polled := watch.uptime.poll next.now { next.telemetry with uptime := watch.seconds }
  { uptime := polled.1
    seconds := polled.2.uptime
    counted := if polled.2.uptime = watch.seconds then watch.counted else watch.counted + 1 }

def lookAll (watch : Watch) (looks : List Look) : Watch := looks.foldl look watch

inductive Fresh : Watch → Prop where
  | new : Fresh {}
  | disconnected (uptime : Uptime) (now : Micros) (telemetry : Telemetry)
      (down : telemetry.isConnected = false) :
      Fresh { uptime := (uptime.poll now telemetry).1, seconds := (uptime.poll now telemetry).2.uptime }

inductive Looked (watch : Watch) (now : Micros) : Watch → Prop where
  | armed (idle : watch.uptime.tick.deadline = none) :
      Looked watch now { watch with uptime := { tick := .due now second } }
  | counted {deadline : Micros} (set : watch.uptime.tick.deadline = some deadline)
      (due : deadline ≤ now) :
      Looked watch now
        { uptime := { tick := .due now second }, seconds := watch.seconds + 1, counted := watch.counted + 1 }
  | waiting {deadline : Micros} (set : watch.uptime.tick.deadline = some deadline)
      (early : now < deadline) : Looked watch now watch

variable {watch : Watch} {next : Look} {start gap now : Micros}

theorem look_looked (watch : Watch) (up : next.telemetry.isConnected = true) :
    Looked watch next.now (watch.look next) := by
  have looks := poll_looks watch.uptime next.now { next.telemetry with uptime := watch.seconds }
  unfold look
  dsimp only
  generalize watch.uptime.poll next.now { next.telemetry with uptime := watch.seconds } = polled at looks ⊢
  cases looks with
  | off down =>
    have connected : next.telemetry.isConnected = false := down
    rw [up] at connected
    cases connected
  | armed _ idle =>
    rw [if_pos rfl]
    exact .armed idle
  | counted _ set due =>
    rw [if_neg (by simp)]
    exact .counted set due
  | waiting _ set early =>
    rw [if_pos rfl]
    exact .waiting set early

theorem Fresh.eq_new (fresh : Fresh watch) : watch = {} := by
  cases fresh with
  | new => rfl
  | disconnected uptime now telemetry down =>
    rw [poll_of_down uptime now down]
    rfl

def watching (first : Look) : Watch := { uptime := { tick := .due first.now second } }

theorem look_new (up : next.telemetry.isConnected = true) : ({} : Watch).look next = watching next := by
  have looked := look_looked {} up
  generalize ({} : Watch).look next = after at looked ⊢
  cases looked with
  | armed idle => rfl
  | counted set due => cases set
  | waiting set early => cases set

/-- What one look keeps, a row of looks keeps. -/
theorem lookAll_keeps (Holds : Micros → Watch → Prop) {Follows : Micros → Micros → Prop}
    {Allowed : Look → Prop}
    (step : ∀ {now watch next}, Holds now watch → Follows now next.now → Allowed next →
      Holds next.now (watch.look next))
    {first : Look} {rest : List Look} (holds : Holds first.now watch)
    (follows : ((first :: rest).map Look.now).IsChain Follows) (allowed : ∀ next ∈ rest, Allowed next) :
    Holds (rest.getLastD first).now (watch.lookAll rest) := by
  induction rest generalizing watch first with
  | nil => exact holds
  | cons next rest ih =>
    rw [List.map_cons, List.map_cons, List.isChain_cons_cons] at follows
    have after := step holds follows.1 (allowed next List.mem_cons_self)
    rw [List.getLastD_cons]
    exact ih after follows.2 fun later member => allowed later (List.mem_cons_of_mem next member)

def Usual (next : Look) : Prop := next.telemetry.isConnected = true ∧ next.now < Micros.last

/-- The seconds counted so far are over, and the next one is not counted before it is over. -/
structure Behind (start now : Micros) (watch : Watch) : Prop where
  passed : start + watch.counted * 1000000 ≤ now
  next : ∀ deadline, watch.uptime.tick.deadline = some deadline →
    start + (watch.counted + 1) * 1000000 ≤ deadline ∨ Micros.last ≤ deadline

theorem behind_due (passed : start + watch.counted * 1000000 ≤ now)
    (armed : watch.uptime.tick = .due now second) : Behind start now watch := by
  refine ⟨passed, fun deadline set => ?_⟩
  rw [armed] at set
  rw [← Option.some.inj set]
  exact Link.InStep.next_due passed

theorem behind_watching (first : Look) : Behind first.now first.now (watching first) := by
  refine behind_due ?_ rfl
  rw [watching, Nat.zero_mul]
  exact Nat.le_refl _

theorem Behind.look (behind : Behind start now watch) (later : now ≤ next.now) (usual : Usual next) :
    Behind start next.now (watch.look next) := by
  have looked := look_looked watch usual.1
  generalize watch.look next = after at looked
  cases looked with
  | armed idle => exact behind_due (behind.passed.trans later) rfl
  | @counted deadline set due =>
    refine behind_due ?_ rfl
    rcases behind.next deadline set with late | never
    · exact late.trans due
    -- an alarm that was cut short by the end of the clock has not gone off
    · exact absurd (never.trans due) (Nat.not_le.mpr usual.2)
  | waiting set early => exact ⟨behind.passed.trans later, behind.next⟩

/-- The alarm is set for a moment that lies ahead, and each second counted has put it off by at most the
time between two looks. -/
def Near (start gap now : Micros) (watch : Watch) : Prop :=
  ∃ deadline, watch.uptime.tick.deadline = some deadline ∧ now < deadline ∧
    deadline ≤ start + watch.counted * (1000000 + gap) + 1000000

theorem near_due (running : now < Micros.last) (close : now ≤ start + watch.counted * (1000000 + gap))
    (armed : watch.uptime.tick = .due now second) : Near start gap now watch := by
  have ahead : ∀ now last : Nat, now < last → now < min (now + 1000000) last := by omega
  have bound : ∀ now last late : Nat, now ≤ late → min (now + 1000000) last ≤ late + 1000000 := by omega
  exact ⟨now.after second, by rw [armed]; rfl, ahead now Micros.last running, bound now Micros.last _ close⟩

theorem near_watching {first : Look} (running : first.now < Micros.last) :
    Near first.now gap first.now (watching first) :=
  near_due running (Nat.le_add_right _ _) rfl

theorem Near.look (near : Near start gap now watch) (soon : next.now ≤ now + gap) (usual : Usual next) :
    Near start gap next.now (watch.look next) := by
  obtain ⟨deadline, set, ahead, bound⟩ := near
  have looked := look_looked watch usual.1
  generalize watch.look next = after at looked
  cases looked with
  | armed idle =>
    rw [set] at idle
    cases idle
  | counted set' due =>
    refine near_due usual.2 ?_ rfl
    -- the look before came ahead of the deadline, so this one is less than a gap behind it
    have close : ∀ start gap now deadline later count : Nat, later ≤ now + gap → now < deadline →
        deadline ≤ start + count * (1000000 + gap) + 1000000 →
        later ≤ start + (count + 1) * (1000000 + gap) := by
      intro start gap now deadline later count soon ahead bound
      rw [Nat.succ_mul]
      omega
    exact close start gap now deadline next.now watch.counted soon ahead bound
  | waiting set' early =>
    rw [set] at set'
    rw [← Option.some.inj set'] at early
    exact ⟨deadline, set, early, bound⟩

/-- The seconds are those counted, as far as 32 bits hold them. -/
theorem seconds_look (same : watch.seconds = UInt32.ofNat watch.counted)
    (up : next.telemetry.isConnected = true) :
    (watch.look next).seconds = UInt32.ofNat (watch.look next).counted := by
  have looked := look_looked watch up
  generalize watch.look next = after at looked
  cases looked with
  | armed idle => exact same
  | counted set due =>
    dsimp only
    rw [same, UInt32.ofNat_add]
    rfl
  | waiting set early => exact same

/-- The seconds of a connection stay close to the clock. Over a row of looks at a connected link, from the
first look on: the count is never ahead of the time that has passed, and when the looks are at most `gap`
apart it loses at most a gap with each second. A look at a disconnected link sets it to zero. -/
theorem uptime_close_to_clock {start : Watch} (fresh : Fresh start) (first : Look) (rest : List Look)
    (sorted : ((first :: rest).map Look.now).IsChain (· ≤ ·))
    (connected : ∀ look ∈ first :: rest, look.telemetry.isConnected = true)
    (running : ∀ look ∈ first :: rest, look.now < Micros.last)
    (few : (start.lookAll (first :: rest)).counted < 2 ^ 32) :
    let uptime := (start.lookAll (first :: rest)).seconds.toNat
    let elapsed := (rest.getLastD first).now - first.now
    uptime * 1000000 ≤ elapsed ∧
    (∀ gap, ((first :: rest).map Look.now).IsChain (fun earlier later => later ≤ earlier + gap) →
      elapsed < (uptime + 1) * (1000000 + gap)) ∧
    (∀ (task : Uptime) now telemetry, telemetry.isConnected = false →
      (task.poll now telemetry).2.uptime = 0) := by
  obtain rfl := fresh.eq_new
  have usual : ∀ look ∈ first :: rest, Usual look := fun look member =>
    ⟨connected look member, running look member⟩
  have later : ∀ look ∈ rest, Usual look := fun look member =>
    usual look (List.mem_cons_of_mem first member)
  obtain ⟨up, early⟩ := usual first List.mem_cons_self
  have run : ({} : Watch).lookAll (first :: rest) = (watching first).lookAll rest := by
    rw [lookAll, List.foldl_cons, look_new up]
    rfl
  rw [run] at few ⊢
  have none : (watching first).seconds = UInt32.ofNat (watching first).counted := rfl
  have seconds := lookAll_keeps (fun _ watch => watch.seconds = UInt32.ofNat watch.counted)
    (fun same _ allowed => seconds_look same allowed.1) none sorted later
  have behind := lookAll_keeps (Behind first.now) Behind.look (behind_watching first) sorted later
  rw [seconds, UInt32.toNat_ofNat_of_lt' few]
  have lower : ∀ start now count : Nat, start + count * 1000000 ≤ now →
      count * 1000000 ≤ now - start := by omega
  refine ⟨lower _ _ _ behind.passed, fun gap close => ?_, fun task now telemetry down => ?_⟩
  · obtain ⟨deadline, -, ahead, bound⟩ :=
      lookAll_keeps (Near first.now gap) Near.look (near_watching early) close later
    have upper : ∀ start now count deadline : Nat, now < deadline →
        deadline ≤ start + count * (1000000 + gap) + 1000000 →
        now - start < (count + 1) * (1000000 + gap) := by
      intro start now count deadline ahead bound
      rw [Nat.succ_mul]
      omega
    exact upper _ _ _ deadline ahead bound
  · rw [poll_of_down task now down]

def disconnected : Watch :=
  let polled := poll { tick := .due 5 second } 900 { uptime := 7 }
  { uptime := polled.1, seconds := polled.2.uptime }

/-- One look comes just when a second is over, the next half a second late, and the last one just before
the third second is over. -/
def uneven : List Look :=
  [⟨2000000, { statusFlags := 1 }⟩, ⟨3500000, { statusFlags := 3 }⟩, ⟨4499999, { statusFlags := 1 }⟩]

theorem uptime_close_to_clock_uneven :
    let first : Look := ⟨1000000, { statusFlags := 1 }⟩
    let watch := disconnected.lookAll (first :: uneven)
    disconnected.Fresh ∧ watch.counted < 2 ^ 32 ∧ watch.seconds = 2 ∧
      2 * 1000000 ≤ (uneven.getLastD first).now - first.now ∧
      (uneven.getLastD first).now - first.now < (2 + 1) * (1000000 + 1500000) := by
  intro first watch
  have fresh : disconnected.Fresh := .disconnected _ _ _ (by decide)
  have few : watch.counted < 2 ^ 32 := by decide
  have seconds : watch.seconds = 2 := by decide
  obtain ⟨lower, upper, -⟩ := uptime_close_to_clock fresh first uneven (by decide) (by decide) (by decide) few
  have close := upper 1500000 (by decide)
  rw [show (disconnected.lookAll (first :: uneven)).seconds = 2 from seconds] at lower close
  exact ⟨fresh, few, seconds, lower, close⟩

end Watch

end RadioLink.Uptime
