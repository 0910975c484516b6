import RadioLink.Proofs.JoinRequests
import RadioLink.Proofs.Reception
import RadioLink.Simulation.Peer

/-!
The order in which the configured networks are tried. Slots are taken in turn, empty ones are passed over, and
the turn of a slot is over only when the attempt to join its network has timed out; a request that does not go
out is made again. What the manager is going to ask for next, and when at the earliest, can be told in each of
its phases, and a poll either leaves that as it is or fulfils it.
-/

namespace RadioLink

namespace Config

def slotsFrom (slot : Nat) : List Nat :=
  (List.range stationCount).map fun step => (slot + step) % stationCount

def isNamed (config : Config) (slot : Nat) : Bool := !(config.station slot).isEmpty

def nextNamed (config : Config) (slot : Nat) : Option Nat := (slotsFrom slot).find? config.isNamed

def gap (config : Config) (slot : Nat) : Nat := (slotsFrom slot).findIdx config.isNamed

theorem slotsFrom_eq {slot : Nat} (inside : slot < stationCount) :
    ∃ others, slotsFrom slot = slot :: others ∧ slotsFrom ((slot + 1) % stationCount) = others ++ [slot] := by
  have turns : ∀ slot < stationCount, slotsFrom slot = slot :: (slotsFrom slot).tail ∧
      slotsFrom ((slot + 1) % stationCount) = (slotsFrom slot).tail ++ [slot] := by decide
  exact ⟨_, turns slot inside⟩

theorem isNamed_of_empty {config : Config} {slot : Nat} (empty : (config.station slot).isEmpty = true) :
    config.isNamed slot = false := by
  rw [isNamed, empty]
  rfl

theorem nextNamed_of_named {config : Config} {slot : Nat} (inside : slot < stationCount)
    (named : (config.station slot).isEmpty = false) : config.nextNamed slot = some slot := by
  obtain ⟨others, here, -⟩ := slotsFrom_eq inside
  rw [nextNamed, here, List.find?_cons_of_pos]
  rw [isNamed, named]
  rfl

/-- An empty slot makes no difference to the search. -/
theorem nextNamed_of_empty {config : Config} {slot : Nat} (inside : slot < stationCount)
    (empty : (config.station slot).isEmpty = true) :
    config.nextNamed ((slot + 1) % stationCount) = config.nextNamed slot := by
  obtain ⟨others, here, next⟩ := slotsFrom_eq inside
  have unnamed := isNamed_of_empty empty
  rw [nextNamed, nextNamed, here, next, List.find?_append, List.find?_cons_of_neg (by simp [unnamed])]
  simp [unnamed]

theorem exists_named {config : Config} (some : config.noStations = false) {slot : Nat}
    (inside : slot < stationCount) : ∃ other ∈ slotsFrom slot, config.isNamed other = true := by
  have around : ∀ slot < stationCount, ∀ other < stationCount, other ∈ slotsFrom slot := by decide
  by_contra none
  push Not at none
  have all : config.noStations = true := by
    rw [noStations, Vector.all_eq_true]
    intro other present
    have unnamed := none other (around slot inside other present)
    rw [isNamed, station, Vector.getElem?_eq_getElem present, Option.getD_some] at unnamed
    simpa using unnamed
  rw [all] at some
  cases some

theorem gap_lt {config : Config} (some : config.noStations = false) {slot : Nat}
    (inside : slot < stationCount) : config.gap slot < stationCount := by
  have found := List.findIdx_lt_length_of_exists (exists_named some inside)
  have length : (slotsFrom slot).length = stationCount := by rw [slotsFrom, List.length_map, List.length_range]
  rwa [length] at found

theorem gap_of_empty {config : Config} (some : config.noStations = false) {slot : Nat}
    (inside : slot < stationCount) (empty : (config.station slot).isEmpty = true) :
    config.gap slot = config.gap ((slot + 1) % stationCount) + 1 := by
  obtain ⟨others, here, next⟩ := slotsFrom_eq inside
  have unnamed := isNamed_of_empty empty
  obtain ⟨other, member, named⟩ := exists_named some inside
  have later : other ∈ others := by
    rw [here] at member
    rcases List.mem_cons.mp member with rfl | later
    · rw [unnamed] at named
      cases named
    · exact later
  have found := List.findIdx_lt_length_of_exists ⟨other, later, named⟩
  rw [gap, gap, here, next, List.findIdx_append, if_pos found, List.findIdx_cons, unnamed]
  rfl

end Config

/-- A manager that is free to choose waits only for the hardware address. -/
theorem Association.Waits.of_select {σ : Type} {assoc : Association σ} {telemetry : Telemetry}
    (waits : assoc.Waits telemetry) (phase : assoc.manager.phase = .select)
    (ready : assoc.transport.isReady = true) : assoc.tries = false ∧ telemetry.mac = Octets.zero 6 := by
  unfold Waits at waits
  rw [phase] at waits
  exact waits.2 ready

structure Visit (σ : Type) where
  manager : Manager
  occasion : Occasion σ

theorem Transport.bodyOf?_nextParcel {σ : Type} (transport : Transport σ) (dataId : UInt8)
    {payload : Bytes} (fits : payload.length ≤ Frame.maxPayload) :
    Frame.bodyOf? dataId (transport.nextParcel dataId fits).wire = some payload :=
  (Parcel.bodyOf?_wire _ _).trans (if_pos rfl)

namespace Visit

variable {σ : Type} [Peer σ]

def polled (visit : Visit σ) : Association σ := visit.manager.polled visit.occasion

def time (visit : Visit σ) : Micros := visit.occasion.transport.now

def events (visit : Visit σ) : List Event :=
  visit.occasion.transport.line.since visit.polled.transport.line

def tried (visit : Visit σ) (dataId : UInt8) : List Bytes :=
  (visit.events.filterMap Event.written?).filterMap (Frame.bodyOf? dataId)

def sent (visit : Visit σ) (dataId : UInt8) : List Bytes :=
  (visit.events.filterMap Event.sent?).filterMap (Frame.bodyOf? dataId)

theorem polled_cases (visit : Visit σ) : Association.Polled (visit.manager.on visit.occasion)
    visit.occasion.telemetry visit.occasion.timeout visit.polled :=
  Association.poll_cases _ _ _

theorem events_of_noted {visit : Visit σ}
    (noted : visit.occasion.transport.Noted visit.polled.transport) : visit.events = [] :=
  noted.events_eq

/-- The frame of a request that the manager tries to send. -/
theorem tried_of_tries {visit : Visit σ} {dataId : UInt8} {payload : Bytes} {result : Except LinkError Unit}
    (tries : visit.occasion.transport.Tries dataId payload result visit.polled.transport)
    (fits : payload.length ≤ Frame.maxPayload) (ready : visit.occasion.transport.isReady = true) :
    visit.tried dataId = [payload] := by
  rw [tried, events, tries.written fits ready, List.filterMap_cons,
    Transport.bodyOf?_nextParcel]
  rfl

theorem sent_of_tries {visit : Visit σ} {dataId : UInt8} {payload : Bytes}
    (tries : visit.occasion.transport.Tries dataId payload (.ok ()) visit.polled.transport)
    (fits : payload.length ≤ Frame.maxPayload) : visit.sent dataId = [payload] := by
  rw [sent, events, tries.sent_of_ok fits, List.filterMap_cons,
    Transport.bodyOf?_nextParcel]
  rfl

end Visit

def Manager.visits {σ : Type} [Peer σ] (manager : Manager) : List (Occasion σ) → List (Visit σ)
  | [] => []
  | occasion :: rest => ⟨manager, occasion⟩ :: (manager.polled occasion).manager.visits rest

structure JoinRequest where
  slot : Nat
  time : Micros
  timeout : Micros
  body : Bytes
  deriving DecidableEq, Repr

namespace Visit

variable {σ : Type} [Peer σ]

def joins (visit : Visit σ) : List JoinRequest :=
  (visit.sent Message.connectId).map (⟨visit.manager.router, visit.time, visit.occasion.timeout, ·⟩)

def request (config : Config) (visit : Visit σ) : JoinRequest :=
  ⟨visit.manager.router, visit.time, visit.occasion.timeout, (config.station visit.manager.router).bytes⟩

def begins (visit : Visit σ) : Bool :=
  visit.manager.phase = .select ∧ visit.polled.manager.phase = .joining

/-- Whether a manager that is free to choose asks for a network; `none` where it is not free. -/
def choice? (visit : Visit σ) : Option Bool :=
  if visit.manager.phase = .select ∧ visit.occasion.transport.isReady = true then
    some !(visit.tried Message.connectId).isEmpty
  else none

structure Searches (config : Config) (visit : Visit σ) : Prop where
  off : config.accessPointEnabled = false
  some : config.noStations = false
  same : visit.occasion.store.config = config
  apart : visit.occasion.telemetry.isConnected = false

inductive Searched (config : Config) (visit : Visit σ) : Option Bool → List JoinRequest → Manager → Prop where
  | waited : Searched config visit none [] visit.manager
  /-- The slot is empty. -/
  | passed (phase : visit.manager.phase = .select)
      (empty : (config.station visit.manager.router).isEmpty = true) :
      Searched config visit (some false) [] { visit.manager with generatedAp := false }.advance
  /-- The request does not go out. -/
  | unheard (phase : visit.manager.phase = .select)
      (named : (config.station visit.manager.router).isEmpty = false) :
      Searched config visit (some true) [] { visit.manager with generatedAp := false }
  | asked (phase : visit.manager.phase = .select)
      (named : (config.station visit.manager.router).isEmpty = false) :
      Searched config visit (some true) [visit.request config]
        ({ visit.manager with generatedAp := false }.enter .joining visit.time visit.occasion.timeout)
  | timedOut (phase : visit.manager.phase = .joining)
      (late : visit.manager.alarm.expired visit.time = true) :
      Searched config visit none [] (visit.manager.advance.enterBackoff visit.time)
  | resumed (phase : visit.manager.phase = .backoff)
      (late : visit.manager.alarm.expired visit.time = true) :
      Searched config visit none [] visit.manager.restart

theorem choice?_of_other {visit : Visit σ}
    (other : ¬(visit.manager.phase = .select ∧ visit.occasion.transport.isReady = true)) :
    visit.choice? = none :=
  if_neg other

theorem joins_of_error {visit : Visit σ} {dataId : UInt8} {payload : Bytes} {error : LinkError}
    (tries : visit.occasion.transport.Tries dataId payload (.error error) visit.polled.transport) :
    visit.joins = [] := by
  rw [joins, sent, events, tries.sent_of_error]
  rfl

omit [Peer σ] in
theorem Searches.tries {config : Config} {visit : Visit σ} (searches : Searches config visit) :
    (visit.manager.on visit.occasion).tries = true := by
  obtain ⟨off, some, rfl, -⟩ := searches
  change (!visit.occasion.store.config.accessPointEnabled && !visit.occasion.store.config.noStations) = true
  rw [off, some]
  rfl

omit [Peer σ] in
/-- All that is asked for is the network of the slot. -/
theorem Searches.asks {config : Config} {visit : Visit σ} (searches : Searches config visit) {phase : Phase}
    {dataId : UInt8} {credentials : Credentials} {generated : Bool}
    (asks : (visit.manager.on visit.occasion).Asks visit.occasion.telemetry phase dataId credentials generated) :
    phase = .joining ∧ dataId = Message.connectId ∧ credentials = config.station visit.manager.router ∧
      generated = false ∧ (config.station visit.manager.router).isEmpty = false := by
  have tries := searches.tries
  obtain ⟨-, -, rfl, -⟩ := searches
  cases asks with
  | network _ named => exact ⟨rfl, rfl, rfl, rfl, named⟩
  | generated offers | configured offers =>
    rw [tries] at offers
    cases offers

theorem searched {config : Config} {visit : Visit σ} (searches : Searches config visit)
    (phase : visit.manager.phase ∈ [.select, .joining, .backoff]) :
    Searched config visit visit.choice? visit.joins visit.polled.manager := by
  have fits (slot : Nat) : (config.station slot).bytes.length ≤ Frame.maxPayload := by
    rw [Credentials.length_bytes]
    decide
  have free (chooses : (visit.manager.on visit.occasion).Chooses visit.occasion.telemetry) :
      visit.choice? = some !(visit.tried Message.connectId).isEmpty :=
    if_pos ⟨chooses.phase, chooses.ready⟩
  obtain ⟨after, reached⟩ : ∃ after, visit.polled = after := ⟨_, rfl⟩
  have cases := visit.polled_cases
  rw [reached] at cases
  have silent (noted : visit.occasion.transport.Noted after.transport) : visit.events = [] :=
    events_of_noted (by rwa [reached])
  -- a poll that sends nothing
  have still {choice : Option Bool} (noted : visit.occasion.transport.Noted after.transport)
      (chosen : visit.choice? = choice) (searched : Searched config visit choice [] after.manager) :
      Searched config visit visit.choice? visit.joins visit.polled.manager := by
    rw [chosen, joins, sent, silent noted, reached]
    exact searched
  cases cases with
  | waited waits =>
    refine still ⟨_, rfl⟩ (choice?_of_other ?_) .waited
    rintro ⟨choosing, ready⟩
    cases searches.tries.symm.trans (waits.of_select choosing ready).1
  | connected _ up =>
    rw [searches.apart] at up
    cases up
  | passed chooses _ unnamed =>
    obtain ⟨-, -, rfl, -⟩ := searches
    refine still ⟨_, rfl⟩ ?_ (.passed chooses.phase unnamed)
    rw [free chooses, tried, silent ⟨_, rfl⟩]
    rfl
  | @unheard _ _ _ _ _ transport chooses asks attempt =>
    obtain ⟨rfl, rfl, rfl, rfl, named⟩ := searches.asks asks
    have moved : visit.polled.transport = transport := by rw [reached]
    rw [← moved] at attempt
    rw [free chooses, tried_of_tries attempt (fits _) chooses.ready, joins_of_error attempt, reached]
    exact .unheard chooses.phase named
  | @asked _ _ _ _ transport chooses asks attempt =>
    obtain ⟨rfl, rfl, rfl, rfl, named⟩ := searches.asks asks
    have moved : visit.polled.transport = transport := by rw [reached]
    rw [← moved] at attempt
    rw [free chooses, tried_of_tries attempt (fits _) chooses.ready, joins, sent_of_tries attempt (fits _),
      reached]
    exact .asked chooses.phase named
  | disabled _ offers =>
    rw [searches.tries] at offers
    cases offers
  | joinTimedOut joining _ late noted =>
    exact still noted (choice?_of_other fun free => by cases joining.symm.trans free.1) (.timedOut joining late)
  | resumed resting _ late =>
    exact still ⟨_, rfl⟩ (choice?_of_other fun free => by cases resting.symm.trans free.1)
      (.resumed resting late)
  | offerTimedOut other | dropped other | pushed other =>
    change visit.manager.phase = _ at other
    rw [other] at phase
    simp at phase

omit [Peer σ] in
theorem Searched.phase_mem {config : Config} {visit : Visit σ} {choice : Option Bool} {joins : List JoinRequest}
    {manager : Manager} (searched : Searched config visit choice joins manager)
    (phase : visit.manager.phase ∈ [.select, .joining, .backoff]) :
    manager.phase ∈ [.select, .joining, .backoff] := by
  cases searched with
  | waited | passed | unheard => exact phase
  | asked | timedOut | resumed => simp [Manager.enter, Manager.enterBackoff, Manager.restart]

/-- A request goes out exactly when the manager begins to wait for a network. -/
theorem Searched.joins_eq {config : Config} {visit : Visit σ} {choice : Option Bool} {joins : List JoinRequest}
    (searched : Searched config visit choice joins visit.polled.manager) :
    joins = if visit.begins then [visit.request config] else [] := by
  obtain ⟨after, reached⟩ : ∃ after, visit.polled.manager = after := ⟨_, rfl⟩
  rw [begins, reached]
  rw [reached] at searched
  cases searched with
  | waited => cases phase : visit.manager.phase <;> rfl
  | passed phase => simp [phase, Manager.advance]
  | unheard phase => simp [phase]
  | asked phase => simp [phase, Manager.enter]
  | timedOut phase | resumed phase => simp [phase]

end Visit

/-- The slot that a manager asks for next, and the moment before which it does not. -/
inductive Manager.Awaits (config : Config) (target : Option Nat) (earliest : Micros) :
    Manager → (now : Micros) → Prop where
  | choosing {manager : Manager} {now : Micros} (phase : manager.phase = .select)
      (inside : manager.router < stationCount) (next : config.nextNamed manager.router = target)
      (rested : earliest ≤ now) : Awaits config target earliest manager now
  | joining {manager : Manager} {now start timeout : Micros} (phase : manager.phase = .joining)
      (inside : manager.router < stationCount) (next : config.nextNamed manager.advance.router = target)
      (alarm : manager.alarm = .due start timeout)
      (rested : earliest ≤ (start.after timeout).after backoffTime) : Awaits config target earliest manager now
  | resting {manager : Manager} {now start : Micros} (phase : manager.phase = .backoff)
      (inside : manager.router < stationCount) (next : config.nextNamed manager.router = target)
      (alarm : manager.alarm = .due start backoffTime) (rested : earliest ≤ start.after backoffTime) :
      Awaits config target earliest manager now

namespace Manager.Awaits

variable {config : Config} {target : Option Nat} {earliest now : Micros} {manager : Manager}

theorem phase_mem (awaits : Awaits config target earliest manager now) :
    manager.phase ∈ [.select, .joining, .backoff] := by
  cases awaits with
  | choosing phase | joining phase | resting phase => simp [phase]

theorem inside (awaits : Awaits config target earliest manager now) : manager.router < stationCount := by
  cases awaits with
  | choosing _ inside | joining _ inside | resting _ inside => exact inside

theorem later (awaits : Awaits config target earliest manager now) {time : Micros} (after : now ≤ time) :
    Awaits config target earliest manager time := by
  cases awaits with
  | choosing phase inside next rested => exact .choosing phase inside next (rested.trans after)
  | joining phase inside next alarm rested => exact .joining phase inside next alarm rested
  | resting phase inside next alarm rested => exact .resting phase inside next alarm rested

end Manager.Awaits

namespace Visit

variable {σ : Type}

/-- A poll asks for what is awaited, or leaves open what that is. -/
theorem Searched.awaits {config : Config} {visit : Visit σ} {choice : Option Bool} {joins : List JoinRequest}
    {manager : Manager} (searched : Searched config visit choice joins manager) {target : Option Nat}
    {earliest : Micros} (awaits : visit.manager.Awaits config target earliest visit.time) :
    joins = [] ∧ manager.Awaits config target earliest visit.time ∨
    ∃ join, joins = [join] ∧ target = some join.slot ∧ earliest ≤ join.time ∧
      join.body = (config.station join.slot).bytes ∧
      manager.Awaits config (config.nextNamed ((join.slot + 1) % stationCount))
        ((join.time.after join.timeout).after Manager.backoffTime) visit.time := by
  have turn {phase other : Phase} (is : visit.manager.phase = phase) (was : visit.manager.phase = other) :
      phase = other := is.symm.trans was
  cases searched with
  | waited => exact .inl ⟨rfl, awaits⟩
  | passed choosing empty =>
    cases awaits with
    | choosing phase inside next rested =>
      refine .inl ⟨rfl, .choosing phase (Manager.advance_lt _) ?_ rested⟩
      exact (Config.nextNamed_of_empty inside empty).trans next
    | joining phase | resting phase => cases turn choosing phase
  | unheard choosing named =>
    cases awaits with
    | choosing phase inside next rested => exact .inl ⟨rfl, .choosing phase inside next rested⟩
    | joining phase | resting phase => cases turn choosing phase
  | asked choosing named =>
    cases awaits with
    | choosing phase inside next rested =>
      refine .inr ⟨_, rfl, ?_, rested, rfl, .joining rfl inside rfl rfl le_rfl⟩
      exact next.symm.trans (Config.nextNamed_of_named inside named)
    | joining phase | resting phase => cases turn choosing phase
  | timedOut joining late =>
    cases awaits with
    | joining phase inside next alarm rested =>
      -- the rest begins with this poll, which is not earlier than the end of the wait
      rw [alarm, Alarm.expired_due] at late
      exact .inl ⟨rfl, .resting rfl (Manager.advance_lt _) next rfl
        (rested.trans (Micros.after_le_after late Manager.backoffTime))⟩
    | choosing phase | resting phase => cases turn joining phase
  | resumed resting late =>
    cases awaits with
    | resting phase inside next alarm rested =>
      rw [alarm, Alarm.expired_due] at late
      exact .inl ⟨rfl, .choosing rfl inside next (rested.trans late)⟩
    | choosing phase | joining phase => cases turn resting phase

def patience (config : Config) (manager : Manager) : Nat :=
  if manager.phase = .select then config.gap manager.router else 3

theorem patience_of_select {config : Config} {manager : Manager} (phase : manager.phase = .select) :
    patience config manager = config.gap manager.router :=
  if_pos phase

theorem patience_of_other {config : Config} {manager : Manager} (other : manager.phase ≠ .select) :
    patience config manager = 3 :=
  if_neg other

theorem patience_le {config : Config} (some : config.noStations = false) {manager : Manager}
    (inside : manager.router < stationCount) : patience config manager ≤ 3 := by
  unfold patience
  split
  · exact Nat.le_of_lt_succ (Config.gap_lt some inside)
  · exact le_rfl

theorem Searched.patience {config : Config} (some : config.noStations = false) {visit : Visit σ}
    {choice : Option Bool} {joins : List JoinRequest} {manager : Manager}
    (searched : Searched config visit choice joins manager) (inside : visit.manager.router < stationCount) :
    choice = .some true ∨
    choice = .some false ∧ patience config manager + 1 = patience config visit.manager ∨
    choice = none ∧ patience config manager ≤ patience config visit.manager := by
  cases searched with
  | waited => exact .inr (.inr ⟨rfl, le_rfl⟩)
  | passed phase empty =>
    have goesOn : (Manager.advance { visit.manager with generatedAp := false }).phase = .select := phase
    refine .inr (.inl ⟨rfl, ?_⟩)
    rw [patience_of_select goesOn, patience_of_select phase, Config.gap_of_empty some inside empty]
    rfl
  | unheard | asked => exact .inl rfl
  | timedOut phase =>
    have waits : visit.manager.phase ≠ .select := by
      rw [phase]
      decide
    rw [patience_of_other waits]
    exact .inr (.inr ⟨rfl, patience_le some (Manager.advance_lt _)⟩)
  | resumed phase =>
    have waits : visit.manager.phase ≠ .select := by
      rw [phase]
      decide
    rw [patience_of_other waits]
    exact .inr (.inr ⟨rfl, patience_le some inside⟩)

end Visit

def JoinRequest.InTurn (config : Config) : Option Nat → Micros → List JoinRequest → Prop
  | _, _, [] => True
  | target, earliest, join :: rest =>
    target = some join.slot ∧ earliest ≤ join.time ∧ join.body = (config.station join.slot).bytes ∧
      InTurn config (config.nextNamed ((join.slot + 1) % stationCount))
        ((join.time.after join.timeout).after Manager.backoffTime) rest

namespace JoinRequest

/-- The second request is for the slot whose turn it is after the first one, and it does not go out before the
first one has timed out and half a second has passed, unless the clock has reached its end. -/
def Precedes (config : Config) (earlier later : JoinRequest) : Prop :=
  config.nextNamed ((earlier.slot + 1) % stationCount) = some later.slot ∧
    (later.time < Micros.last → earlier.time + earlier.timeout + 500000 ≤ later.time)

theorem InTurn.body_eq {config : Config} {target : Option Nat} {earliest : Micros} {joins : List JoinRequest}
    (inTurn : InTurn config target earliest joins) {join : JoinRequest} (member : join ∈ joins) :
    join.body = (config.station join.slot).bytes := by
  induction joins generalizing target earliest with
  | nil => cases member
  | cons first rest ih =>
    obtain ⟨-, -, body, later⟩ := inTurn
    rcases List.mem_cons.mp member with rfl | other
    · exact body
    · exact ih later other

theorem InTurn.isChain {config : Config} {target : Option Nat} {earliest : Micros} {joins : List JoinRequest}
    (inTurn : InTurn config target earliest joins) : joins.IsChain (Precedes config) := by
  -- before its last moment the clock adds like numbers
  have running : ∀ time timeout last later : Nat, min (min (time + timeout) last + 500000) last ≤ later →
      later < last → time + timeout + 500000 ≤ later := by omega
  induction joins generalizing target earliest with
  | nil => exact .nil
  | cons first rest ih =>
    obtain ⟨-, -, -, later⟩ := inTurn
    cases rest with
    | nil => exact .singleton first
    | cons next more =>
      obtain ⟨turn, inTime, -, -⟩ := id later
      exact List.isChain_cons_cons.mpr ⟨⟨turn, running _ _ _ _ inTime⟩, ih later⟩

end JoinRequest

namespace Manager

variable {σ : Type} [Peer σ]

def joins (manager : Manager) (occasions : List (Occasion σ)) : List JoinRequest :=
  (manager.visits occasions).flatMap Visit.joins

theorem joins_cons (manager : Manager) (occasion : Occasion σ) (rest : List (Occasion σ)) :
    manager.joins (occasion :: rest) =
      (Visit.mk manager occasion).joins ++ (manager.polled occasion).manager.joins rest :=
  List.flatMap_cons

def choices (manager : Manager) (occasions : List (Occasion σ)) : List Bool :=
  (manager.visits occasions).filterMap Visit.choice?

def passes (choices : List Bool) : Nat := (choices.takeWhile (! ·)).length

/-- A search in order: requests come in turn, and no more than three choices in a row pass over a slot. -/
structure InOrder (config : Config) (target : Option Nat) (earliest : Micros) (patience : Nat)
    (joins : List JoinRequest) (choices : List Bool) : Prop where
  inTurn : JoinRequest.InTurn config target earliest joins
  soon : passes choices ≤ patience
  always : ∀ count, passes (choices.drop count) ≤ 3

/-- One more choice at the front. -/
theorem passes_cons {choice : Bool} {choices : List Bool} {before after : Nat}
    (step : choice = true ∨ choice = false ∧ after + 1 = before) (few : before ≤ 3)
    (soon : passes choices ≤ after) (always : ∀ count, passes (choices.drop count) ≤ 3) :
    passes (choice :: choices) ≤ before ∧ ∀ count, passes ((choice :: choices).drop count) ≤ 3 := by
  have first : passes (choice :: choices) ≤ before := by
    rcases step with rfl | ⟨rfl, less⟩
    · exact Nat.zero_le before
    · have counted : passes (false :: choices) = passes choices + 1 := rfl
      omega
  refine ⟨first, fun count => ?_⟩
  cases count with
  | zero => exact first.trans few
  | succ count => exact always count

theorem inOrder {config : Config} (off : config.accessPointEnabled = false) (some : config.noStations = false)
    {occasions : List (Occasion σ)}
    (steady : ∀ occasion ∈ occasions,
      occasion.store.config = config ∧ occasion.telemetry.isConnected = false)
    {target : Option Nat} {earliest now : Micros} {manager : Manager}
    (forward : (now :: occasions.map (·.transport.now)).Pairwise (· ≤ ·))
    (awaits : manager.Awaits config target earliest now) :
    InOrder config target earliest (Visit.patience config manager) (manager.joins occasions)
      (manager.choices occasions) := by
  -- what is awaited, from when on, and how much patience is left say all about the polls so far
  induction occasions generalizing manager target earliest now with
  | nil => exact ⟨trivial, Nat.zero_le _, fun count => by simp [choices, visits, passes]⟩
  | cons occasion rest ih =>
    obtain ⟨same, apart⟩ := steady occasion List.mem_cons_self
    rw [List.map_cons, List.pairwise_cons] at forward
    obtain ⟨started, forward⟩ := forward
    let visit : Visit σ := ⟨manager, occasion⟩
    have due : visit.manager.Awaits config target earliest visit.time :=
      awaits.later (started _ List.mem_cons_self)
    have searched : Visit.Searched config visit visit.choice? visit.joins visit.polled.manager :=
      Visit.searched ⟨off, some, same, apart⟩ due.phase_mem
    obtain ⟨target', earliest', next, turn⟩ : ∃ target' earliest',
        visit.polled.manager.Awaits config target' earliest' visit.time ∧
        ∀ later, JoinRequest.InTurn config target' earliest' later →
          JoinRequest.InTurn config target earliest (visit.joins ++ later) := by
      rcases searched.awaits due with ⟨none, next⟩ | ⟨join, one, turn, inTime, body, next⟩
      · exact ⟨_, _, next, fun later inTurn => by rwa [none]⟩
      · exact ⟨_, _, next, fun later inTurn => by rw [one]; exact ⟨turn, inTime, body, inTurn⟩⟩
    obtain ⟨inTurn, soon, always⟩ := ih (fun other member => steady other (List.mem_cons_of_mem _ member))
      forward next
    have few := Visit.patience_le some due.inside
    have asked : manager.joins (occasion :: rest) = visit.joins ++ visit.polled.manager.joins rest :=
      joins_cons manager occasion rest
    have chosen : ∀ choice, visit.choice? = choice → manager.choices (occasion :: rest) =
        choice.toList ++ visit.polled.manager.choices rest := by
      rintro choice rfl
      rw [choices, visits, List.filterMap_cons]
      cases visit.choice? <;> rfl
    rw [asked]
    rcases searched.patience some due.inside with tries | ⟨passed, less⟩ | ⟨busy, le⟩
    · rw [chosen _ tries]
      obtain ⟨first, later⟩ := passes_cons (.inl rfl) few soon always
      exact ⟨turn _ inTurn, first, later⟩
    · rw [chosen _ passed]
      obtain ⟨first, later⟩ := passes_cons (.inr ⟨rfl, less⟩) few soon always
      exact ⟨turn _ inTurn, first, later⟩
    · rw [chosen _ busy]
      exact ⟨turn _ inTurn, soon.trans le, always⟩

theorem joins_eq {config : Config} (off : config.accessPointEnabled = false) (some : config.noStations = false)
    {occasions : List (Occasion σ)}
    (steady : ∀ occasion ∈ occasions,
      occasion.store.config = config ∧ occasion.telemetry.isConnected = false)
    {manager : Manager} (phase : manager.phase ∈ [.select, .joining, .backoff]) :
    manager.joins occasions = ((manager.visits occasions).filter Visit.begins).map (Visit.request config) := by
  induction occasions generalizing manager with
  | nil => rfl
  | cons occasion rest ih =>
    obtain ⟨same, apart⟩ := steady occasion List.mem_cons_self
    let visit : Visit σ := ⟨manager, occasion⟩
    have searched : Visit.Searched config visit visit.choice? visit.joins visit.polled.manager :=
      Visit.searched ⟨off, some, same, apart⟩ phase
    have later := ih (fun other member => steady other (List.mem_cons_of_mem _ member))
      (searched.phase_mem phase)
    change _ = ((visit :: visit.polled.manager.visits rest).filter Visit.begins).map (Visit.request config)
    rw [joins_cons, searched.joins_eq, List.filter_cons]
    cases visit.begins with
    | true => exact congrArg (visit.request config :: ·) later
    | false => exact later

/-- The configured networks are tried in turn. In every run of polls of a manager that chooses, whatever becomes of
its requests, with the same networks configured all the time and none joined: each request that goes out carries
the credentials of its slot, the first one is for the first slot with a network, from the one that the manager
looks at on, and each further one for the next such slot around, after a timeout and a pause; and no more than
three choices in a row pass over an empty slot. -/
theorem stations_tried_in_turn {config : Config} (off : config.accessPointEnabled = false)
    (some : config.noStations = false) {manager : Manager} (phase : manager.phase = .select)
    (inside : manager.router < stationCount) {occasions : List (Occasion σ)}
    (steady : ∀ occasion ∈ occasions,
      occasion.store.config = config ∧ occasion.telemetry.isConnected = false)
    (forward : (occasions.map (·.transport.now)).Pairwise (· ≤ ·)) :
    (∀ join ∈ manager.joins occasions, join.body = (config.station join.slot).bytes) ∧
    (∀ first ∈ (manager.joins occasions).head?, config.nextNamed manager.router = .some first.slot) ∧
    (manager.joins occasions).IsChain (JoinRequest.Precedes config) ∧
    ∀ count, passes ((manager.choices occasions).drop count) ≤ 3 := by
  have begun : manager.Awaits config (config.nextNamed manager.router) 0 0 := .choosing phase inside rfl le_rfl
  have started : ((0 : Micros) :: occasions.map (·.transport.now)).Pairwise (· ≤ ·) :=
    List.pairwise_cons.mpr ⟨fun time _ => Nat.zero_le time, forward⟩
  obtain ⟨inTurn, -, always⟩ := inOrder off some steady started begun
  refine ⟨fun join member => inTurn.body_eq member, fun first head => ?_, inTurn.isChain, always⟩
  cases found : manager.joins occasions with
  | nil =>
    rw [found] at head
    cases head
  | cons join rest =>
    rw [found] at head inTurn
    cases head
    exact inTurn.1

def twoNetworks : Config :=
  (Config.setStation {} 1 { ssid := "attic", password := "cobwebs" }).setStation 3
    { ssid := "barn", password := "haystack" }

def searchAt (now : Micros) (ready plugged : Bool) : Occasion Simulation.Script :=
  { transport :=
      { line :=
          { peer := { failures := if plugged then [] else [(.write, 0)] }
            now
            ready := ⟨ready, true⟩ }
        timeout := 20000 }
    store := { config := twoNetworks }
    ports := .empty
    telemetry := {}
    timeout := 10000000 }

/-- An empty slot, a link that is not ready, a write that fails, a network that is not joined in time, and the
next one. -/
def fruitlessSearch : List (Occasion Simulation.Script) :=
  [searchAt 0 true true, searchAt 1 false true, searchAt 2 true false, searchAt 3 true true,
    searchAt 10000003 true true, searchAt 10500003 true true, searchAt 10500004 true true,
    searchAt 10500005 true true]

theorem stations_tried_in_turn_around :
    let manager : Manager := { router := 2 }
    manager.joins fruitlessSearch =
      [⟨3, 3, 10000000, (twoNetworks.station 3).bytes⟩, ⟨1, 10500005, 10000000, (twoNetworks.station 1).bytes⟩] ∧
    twoNetworks.nextNamed 2 = some 3 ∧
    (manager.joins fruitlessSearch).IsChain (JoinRequest.Precedes twoNetworks) ∧
    ∀ count, passes ((manager.choices fruitlessSearch).drop count) ≤ 3 := by
  intro manager
  have some : twoNetworks.noStations = false := by decide +kernel
  have steady : ∀ occasion ∈ fruitlessSearch,
      occasion.store.config = twoNetworks ∧ occasion.telemetry.isConnected = false := by
    decide +kernel
  have joined := joins_eq rfl some steady (show manager.phase ∈ _ by decide)
  obtain ⟨-, first, chain, few⟩ := stations_tried_in_turn rfl some (show manager.phase = .select from rfl)
    (by decide) steady (by decide +kernel)
  refine ⟨joined.trans (by decide +kernel), first ⟨3, 3, 10000000, (twoNetworks.station 3).bytes⟩ ?_, chain, few⟩
  rw [joined]
  decide +kernel

end Manager

end RadioLink
