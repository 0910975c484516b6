import RadioLink.Proofs.Operations
import RadioLink.Proofs.ReadySignal
import RadioLink.Simulation.Peer

/-!
Every frame uses up a ready edge of its own. The ready signal is taken down right before a frame or a reset
byte is written, and for a frame it has to be up then, so an edge was heard since it was last taken down.
The far side may raise the next edge before the write is made. That edge counts for the frame after this
one, so the edge that a frame uses up need not lie between the two writes.
-/

namespace RadioLink

namespace Event

/-- A write that starts with a control byte, whether it went well or not. -/
def writes (control : UInt8) (event : Event) : Bool :=
  event.written?.any fun data => data.head? == some control

def usesEdge (event : Event) : Bool := event.writes Control.data || event.writes Control.reset

/-- Whether an edge is open after the event, one that was heard since the signal was taken down. -/
def leavesOpen (event : Event) (isOpen : Bool) : Bool :=
  event = .edge true || isOpen && event ≠ .lowered

end Event

theorem Idle.usesEdge_eq {events : List Event} (idle : Idle events) :
    ∀ event ∈ events, event.usesEdge = false := by
  intro event member
  have quiet := idle event member
  cases event <;> simp [Event.isIdle, Event.usesEdge, Event.writes, Event.written?] at quiet ⊢

theorem Idle.not_mem_of_usesEdge {events : List Event} {event : Event} (idle : Idle events)
    (uses : event.usesEdge = true) : event ∉ events := by
  intro member
  rw [idle.usesEdge_eq event member] at uses
  cases uses

def edgeOpen (isOpen : Bool) (events : List Event) : Bool :=
  events.foldl (fun isOpen event => event.leavesOpen isOpen) isOpen

theorem edgeOpen_append (isOpen : Bool) (first second : List Event) :
    edgeOpen isOpen (first ++ second) = edgeOpen (edgeOpen isOpen first) second :=
  List.foldl_append

theorem edgeOpen_lowered (isOpen : Bool) (events : List Event) :
    edgeOpen isOpen (.lowered :: events) = edgeOpen false events := by
  have down : Event.lowered.leavesOpen isOpen = false := by
    simp [Event.leavesOpen]
  rw [edgeOpen, List.foldl_cons, down, edgeOpen]

theorem edgeOpen_of_heard {isOpen : Bool} {events : List Event} (kept : .lowered ∉ events)
    (heard : isOpen = true ∨ .edge true ∈ events) : edgeOpen isOpen events = true := by
  induction events generalizing isOpen with
  | nil => simpa [edgeOpen] using heard
  | cons event rest ih =>
    have other : event ≠ .lowered := fun same => kept (same ▸ List.mem_cons_self)
    refine ih (fun later => kept (List.mem_cons_of_mem _ later)) ?_
    rw [List.mem_cons, ← or_assoc] at heard
    refine heard.imp_left fun known => ?_
    rcases known with rfl | rfl
    · simp [Event.leavesOpen, other]
    · rfl

/-- Right before every frame and every reset byte the signal was taken down, for a frame while an edge was
open. -/
def Covered (isOpen : Bool) (events : List Event) : Prop :=
  ∀ (before : List Event) (event : Event) (after : List Event),
    events = before ++ event :: after → event.usesEdge = true →
    ∃ heard crossing : List Event, before = heard ++ .lowered :: crossing ∧ Noise crossing ∧
      (event.writes Control.data = true → edgeOpen isOpen heard = true)

namespace Covered

variable {isOpen : Bool}

theorem of_unused {events : List Event} (unused : ∀ event ∈ events, event.usesEdge = false) :
    Covered isOpen events := by
  rintro before event after rfl uses
  rw [unused event (List.mem_append_right _ List.mem_cons_self)] at uses
  cases uses

theorem append {first second : List Event} (early : Covered isOpen first)
    (late : Covered (edgeOpen isOpen first) second) : Covered isOpen (first ++ second) := by
  intro before event after split uses
  rcases List.append_eq_append_iff.mp split with ⟨middle, rfl, same⟩ | ⟨middle, rfl, same⟩
  · obtain ⟨heard, crossing, rfl, far, covers⟩ := late middle event after same uses
    refine ⟨first ++ heard, crossing, by rw [List.append_assoc], far, fun frame => ?_⟩
    rw [edgeOpen_append]
    exact covers frame
  · cases middle with
    | nil =>
      obtain ⟨heard, crossing, none, -⟩ := late [] event after same.symm uses
      exact absurd none (by simp)
    | cons head middle =>
      obtain ⟨rfl, rfl⟩ := List.cons.inj same
      exact early before event middle rfl uses

/-- The signal is taken down, and the write follows. -/
theorem write {crossing reaction : List Event} {event : Event} (far : Noise crossing)
    (away : Noise reaction) (ready : event.writes Control.data = true → isOpen = true) :
    Covered isOpen (.lowered :: crossing ++ event :: reaction) := by
  intro before other after split uses
  obtain ⟨rfl, rfl, -⟩ := (List.append_cons_inj_of_notMem (far.lowered.not_mem_of_usesEdge uses)
    (away.idle.not_mem_of_usesEdge uses)).mp split
  exact ⟨[], crossing, rfl, far, ready⟩

end Covered

namespace Line

variable {σ : Type}

/-- Between two moments frames were written only while an edge was open, and the ready signal is not
up without an open edge. -/
def Heeds (before after : Line σ) : Prop :=
  ∃ events, Did events before after ∧
    ∀ isOpen, (before.ready.isSet = true → isOpen = true) →
      Covered isOpen events ∧ (after.ready.isSet = true → edgeOpen isOpen events = true)

theorem Heeds.trans {before middle after : Line σ} (early : Heeds before middle)
    (late : Heeds middle after) : Heeds before after := by
  obtain ⟨first, did, heeds⟩ := early
  obtain ⟨second, next, heeding⟩ := late
  refine ⟨first ++ second, did.append next, fun isOpen known => ?_⟩
  obtain ⟨covered, reached⟩ := heeds isOpen known
  obtain ⟨covers, left⟩ := heeding _ reached
  rw [edgeOpen_append]
  exact ⟨covered.append covers, left⟩

/-- The host leaves the signal alone and writes neither a frame nor a reset byte. -/
theorem Hears.heeds {before after : Line σ} {events : List Event} (hears : Hears before after)
    (did : Did events before after) (unused : ∀ event ∈ events, event.usesEdge = false) :
    Heeds before after := by
  obtain ⟨heard, same, kept, up⟩ := hears
  obtain rfl : heard = events := same.since_eq.symm.trans did.since_eq
  refine ⟨heard, did, fun isOpen known => ⟨.of_unused unused, fun set => ?_⟩⟩
  exact edgeOpen_of_heard kept ((up.mp set).imp_left known)

instance : IsPreorder (Line σ) Heeds where
  refl line := (refl_of Hears line).heeds (.refl line) (by simp)
  trans _ _ _ := .trans

variable [Peer σ]

theorem heeds_clearReady (line : Line σ) : line.Heeds line.clearReady := by
  obtain ⟨crossing, far, did, up⟩ := clearReady_hears line
  refine ⟨_, did, fun isOpen known => ⟨?_, fun set => ?_⟩⟩
  · exact .of_unused far.lowered.usesEdge_eq
  · rw [edgeOpen_lowered]
    exact edgeOpen_of_heard far.not_mem_lowered (.inr (up.mp set))

/-- The signal is taken down for a write, and an edge that comes then stays open. -/
theorem heeds_write {line : Line σ} {data : Bytes}
    (ready : data.head? = some Control.data → line.ready.isSet = true) :
    line.Heeds ((call (.write data)).outcome line.clearReady).2 := by
  obtain ⟨crossing, far, lowered, up⟩ := clearReady_hears line
  obtain ⟨events, did, kept, heard⟩ := hears_call (.write data) line.clearReady
  have shape : ∃ event noise, events = event :: noise ∧ Noise noise ∧
      event.written? = some data := by
    rcases call_cases (.write data) line.clearReady with
      ⟨fault, -, failed⟩ | ⟨noise, away, -, written⟩
    · exact ⟨_, [], did.since_eq.symm.trans failed.did.since_eq, .nil, rfl⟩
    · exact ⟨_, noise, did.since_eq.symm.trans written.did.since_eq, away, rfl⟩
  obtain ⟨event, noise, rfl, away, writes⟩ := shape
  refine ⟨_, lowered.append did, fun isOpen known => ⟨.write far away fun frame => ?_, fun set => ?_⟩⟩
  · rw [Event.writes, writes] at frame
    exact known (ready (eq_of_beq frame))
  · have since : .lowered ∉ crossing ++ event :: noise :=
      fun member => (List.mem_append.mp member).elim far.not_mem_lowered kept
    rw [List.cons_append, edgeOpen_lowered]
    refine edgeOpen_of_heard since (.inr ?_)
    rw [List.mem_append, ← up]
    exact heard.mp set

theorem Step.heeds {before after : Line σ} (step : Step before after) : before.Heeds after := by
  cases step with
  | log log => exact (Hears.quiet rfl rfl).heeds (.same rfl) (by simp)
  | @call c other =>
    rcases call_cases c before with ⟨fault, -, failed⟩ | ⟨noise, far, -, done⟩
    · refine (hears_call c before).heeds failed.did ?_
      cases c <;> cases other <;> simp [Event.usesEdge, Event.writes, Event.written?]
    · refine (hears_call c before).heeds done.did (List.forall_mem_cons.mpr ⟨?_, far.idle.usesEdge_eq⟩)
      cases c <;> cases other <;> rfl
  | read room =>
    rcases read_cases room before with ⟨fault, -, failed⟩ | ⟨bytes, -, -, took⟩
    · exact (hears_read room before).heeds failed.did (by simp [Event.usesEdge, Event.writes, Event.written?])
    · refine (hears_read room before).heeds took.did fun event member => ?_
      rw [mem_taking member]
      rfl
  | delay span =>
    obtain ⟨noise, far, did, -⟩ := delay_events before span
    exact (hears_delay before span).heeds did far.idle.usesEdge_eq
  | irq enabled =>
    exact (hears_setIrq before enabled).heeds (.record before _)
      (by simp [Event.usesEdge, Event.writes, Event.written?])
  | clearReady => exact heeds_clearReady before
  | reset => exact heeds_write fun frame => by cases frame
  | frame parcel ready => exact heeds_write fun _ => ready

theorem Steps.heeds {before after : Line σ} (steps : Steps before after) : before.Heeds after := by
  induction steps with
  | refl => exact refl_of Heeds before
  | tail _ step ih => exact ih.trans step.heeds

end Line

namespace Link

variable {σ : Type} [Peer σ]

end Link

end RadioLink
