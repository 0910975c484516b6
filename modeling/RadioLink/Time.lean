/-!
Time in whole microseconds on a counter that stops at its largest value, and one-shot alarms
measured against it.
-/

namespace RadioLink

/-- Microseconds since an arbitrary, fixed origin. -/
abbrev Micros := Nat

namespace Micros

/-- The largest value of the counter; time does not run past it. -/
def last : Micros := 0xffffffffffffffff

/-- The moment `span` after `moment`. -/
def after (moment span : Micros) : Micros := min (moment + span) last

/-- Time passed from `start` to `now`, zero when `start` lies ahead. -/
def elapsed (now start : Micros) : Micros := now - start

def ofMillis (ms : Nat) : Micros := ms * 1000

theorem after_le_after_after (moment span more : Micros) :
    moment.after more ≤ (moment.after span).after more := by
  have later : ∀ moment span more last : Nat,
      min (moment + more) last ≤ min (min (moment + span) last + more) last := by omega
  exact later moment span more last

theorem after_le_after {early late : Micros} (le : early ≤ late) (span : Micros) :
    early.after span ≤ late.after span := by
  have moved : ∀ early late span last : Nat, early ≤ late →
      min (early + span) last ≤ min (late + span) last := by omega
  exact moved early late span last le

theorem after_mono (moment : Micros) {span longer : Micros} (le : span ≤ longer) :
    moment.after span ≤ moment.after longer := by
  have mono : ∀ moment span longer last : Nat, span ≤ longer →
      min (moment + span) last ≤ min (moment + longer) last := by omega
  exact mono moment span longer last le

theorem after_le_add (moment span : Micros) : moment.after span ≤ moment + span := Nat.min_le_left _ _

/-- Nothing is due later than at the end of the clock. -/
theorem after_zero_after (moment span : Micros) :
    (moment.after span).after 0 = moment.after span := by
  have stops : ∀ moment span last : Nat, min (min (moment + span) last + 0) last =
      min (moment + span) last := by omega
  exact stops moment span last

theorem after_le {moment later now span : Nat} (order : min moment last ≤ later)
    (waited : later + span ≤ now) : after moment span ≤ now := by
  change min (moment + span) last ≤ now
  omega

end Micros

/-- A one-shot timeout. Once armed it cannot be pushed back: arming again fails until it is
cancelled, and an expired alarm stays armed until then. -/
structure Alarm where
  deadline : Option Micros := none
  deriving DecidableEq, Repr, Inhabited

/-- An alarm that is armed already cannot be armed again. -/
inductive AlarmError where
  | alreadyArmed
  deriving DecidableEq, Repr

def AlarmError.message : AlarmError → String
  | .alreadyArmed => "alarm is already armed"

namespace Alarm

def off : Alarm := {}

/-- An alarm that expires `timeout` after `now`, whatever was armed before. -/
def due (now timeout : Micros) : Alarm := ⟨some (now.after timeout)⟩

def isArmed (alarm : Alarm) : Bool := alarm.deadline.isSome

def arm (alarm : Alarm) (now timeout : Micros) : Except AlarmError Alarm :=
  if alarm.isArmed then .error .alreadyArmed else .ok (due now timeout)

def expired (alarm : Alarm) (now : Micros) : Bool :=
  match alarm.deadline with
  | some deadline => deadline ≤ now
  | none => false

/-- Whether the alarm has gone off, and the alarm afterwards: one that has gone off is disarmed. -/
def fired (alarm : Alarm) (now : Micros) : Bool × Alarm :=
  if alarm.expired now then (true, off) else (false, alarm)

/-- Arms the alarm unless it is armed already. -/
def ensure (alarm : Alarm) (now timeout : Micros) : Alarm :=
  if alarm.isArmed then alarm else due now timeout

end Alarm

end RadioLink
