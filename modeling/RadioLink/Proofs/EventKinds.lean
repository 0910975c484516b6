import Mathlib
import RadioLink.Line

/-!
Kinds of events. What a list of events says about the host and the far side is mostly a matter of the
kinds of events in it: the far side acts alone, the host asks nothing of the device, listens, sends, or
arms its receiver.
-/

namespace RadioLink

namespace Event

def isFailure : Event → Bool
  | failed _ | readFailed => true
  | _ => false

def isFarSide : Event → Bool
  | edge _ | arrived _ => true
  | _ => false

/-- The host asks nothing of the device. -/
def isIdle : Event → Bool
  | lowered | edge _ | arrived _ => true
  | _ => false

def isListening : Event → Bool
  | took _ | readFailed | edge _ | arrived _ => true
  | _ => false

def isSending : Event → Bool
  | done (.write _) | failed (.write _) | lowered | edge _ | arrived _ => true
  | _ => false

/-- The event leaves the queue of received bytes as it is. -/
def isNeutral : Event → Bool
  | arrived _ | took _ | done .clear => false
  | _ => true

/-- The call that the host made, whether it went well or not. -/
def call? : Event → Option Call
  | done c | failed c => some c
  | _ => none

/-- What the host tried to write, whether that went well or not. -/
def written? : Event → Option Bytes
  | done (.write data) | failed (.write data) => some data
  | _ => none

/-- What the host wrote, where the write went well. -/
def sent? : Event → Option Bytes
  | done (.write data) => some data
  | _ => none

def taken : Event → Bytes
  | took bytes => bytes
  | _ => []

def delivered : Event → Bytes
  | arrived bytes => bytes
  | _ => []

variable {event : Event}

theorem isIdle_of_isFarSide (far : event.isFarSide = true) : event.isIdle = true := by
  cases event <;> simp [isFarSide, isIdle] at far ⊢

theorem isSending_of_isIdle (idle : event.isIdle = true) : event.isSending = true := by
  cases event <;> simp [isIdle, isSending] at idle ⊢

theorem isListening_of_isFarSide (far : event.isFarSide = true) : event.isListening = true := by
  cases event <;> simp [isFarSide, isListening] at far ⊢

theorem written?_of_call? (uncalled : event.call? = none) : event.written? = none := by
  cases event <;> simp [call?, written?] at uncalled ⊢

theorem sent?_of_call? (uncalled : event.call? = none) : event.sent? = none := by
  cases event <;> simp [call?, sent?] at uncalled ⊢

end Event

theorem filterMap_written_of_call {events : List Event} (uncalled : events.filterMap Event.call? = []) :
    events.filterMap Event.written? = [] := by
  rw [List.filterMap_eq_nil_iff] at uncalled ⊢
  exact fun event member => Event.written?_of_call? (uncalled event member)

theorem filterMap_sent_of_call {events : List Event} (uncalled : events.filterMap Event.call? = []) :
    events.filterMap Event.sent? = [] := by
  rw [List.filterMap_eq_nil_iff] at uncalled ⊢
  exact fun event member => Event.sent?_of_call? (uncalled event member)

def takenBytes (events : List Event) : Bytes := events.flatMap Event.taken

def arrivedBytes (events : List Event) : Bytes := events.flatMap Event.delivered

def pulseCount (events : List Event) : Nat := events.count (.done .pulse)

@[simp] theorem takenBytes_nil : takenBytes [] = [] := rfl

@[simp] theorem takenBytes_cons (event : Event) (events : List Event) :
    takenBytes (event :: events) = event.taken ++ takenBytes events := rfl

@[simp] theorem takenBytes_append (first second : List Event) :
    takenBytes (first ++ second) = takenBytes first ++ takenBytes second :=
  List.flatMap_append

@[simp] theorem arrivedBytes_nil : arrivedBytes [] = [] := rfl

@[simp] theorem arrivedBytes_cons (event : Event) (events : List Event) :
    arrivedBytes (event :: events) = event.delivered ++ arrivedBytes events := rfl

@[simp] theorem arrivedBytes_append (first second : List Event) :
    arrivedBytes (first ++ second) = arrivedBytes first ++ arrivedBytes second :=
  List.flatMap_append

@[simp] theorem pulseCount_nil : pulseCount [] = 0 := rfl

theorem pulseCount_append (first second : List Event) :
    pulseCount (first ++ second) = pulseCount first + pulseCount second :=
  List.count_append

/-- The event of a read that returned these bytes; a read that returned none leaves no event. -/
def taking (bytes : Bytes) : List Event := if bytes = [] then [] else [.took bytes]

@[simp] theorem takenBytes_taking (bytes : Bytes) : takenBytes (taking bytes) = bytes := by
  unfold taking
  split
  next none => simp [none]
  next some => simp [Event.taken]

@[simp] theorem arrivedBytes_taking (bytes : Bytes) : arrivedBytes (taking bytes) = [] := by
  unfold taking
  split <;> simp [Event.delivered]

theorem mem_taking {event : Event} {bytes : Bytes} (member : event ∈ taking bytes) :
    event = .took bytes := by
  unfold taking at member
  split at member
  · simp at member
  · simpa using member

theorem pulseCount_taking (bytes : Bytes) : pulseCount (taking bytes) = 0 := by
  apply List.count_eq_zero.mpr
  intro member
  have took := mem_taking member
  contradiction

def Sound (events : List Event) : Prop := ∀ event ∈ events, event.isFailure = false

instance (events : List Event) : Decidable (Sound events) :=
  inferInstanceAs (Decidable (∀ event ∈ events, event.isFailure = false))

theorem Sound.append {first second : List Event} (left : Sound first) (right : Sound second) :
    Sound (first ++ second) :=
  List.forall_mem_append.mpr ⟨left, right⟩

theorem Sound.of_append {first second : List Event} (sound : Sound (first ++ second)) :
    Sound first ∧ Sound second :=
  List.forall_mem_append.mp sound

/-- Only the far side acts. -/
def Noise (events : List Event) : Prop := ∀ event ∈ events, event.isFarSide = true

def Idle (events : List Event) : Prop := ∀ event ∈ events, event.isIdle = true

def Listening (events : List Event) : Prop := ∀ event ∈ events, event.isListening = true

def Sending (events : List Event) : Prop := ∀ event ∈ events, event.isSending = true

namespace Sending

variable {events : List Event}

theorem append {first second : List Event} (left : Sending first) (right : Sending second) :
    Sending (first ++ second) :=
  List.forall_mem_append.mpr ⟨left, right⟩

theorem takenBytes_eq (sending : Sending events) : takenBytes events = [] := by
  apply List.flatMap_eq_nil_iff.mpr
  intro event member
  have sends := sending event member
  cases event <;> simp [Event.isSending, Event.taken] at sends ⊢

theorem pulseCount_eq (sending : Sending events) : pulseCount events = 0 := by
  apply List.count_eq_zero.mpr
  intro member
  cases sending _ member

theorem not_mem_readFailed (sending : Sending events) : .readFailed ∉ events := by
  intro member
  cases sending _ member

end Sending

namespace Idle

variable {events : List Event}

theorem append {first second : List Event} (left : Idle first) (right : Idle second) :
    Idle (first ++ second) :=
  List.forall_mem_append.mpr ⟨left, right⟩

theorem sending (idle : Idle events) : Sending events :=
  fun event member => Event.isSending_of_isIdle (idle event member)

theorem takenBytes_eq (idle : Idle events) : takenBytes events = [] := idle.sending.takenBytes_eq

/-- What only a call or a read can say is not said. -/
theorem filterMap_eq {α : Type} {f : Event → Option α} (idle : Idle events)
    (silent : ∀ event : Event, event.isIdle = true → f event = none) : events.filterMap f = [] :=
  List.filterMap_eq_nil_iff.mpr fun event member => silent event (idle event member)

theorem filterMap_call (idle : Idle events) : events.filterMap Event.call? = [] := by
  apply idle.filterMap_eq
  intro event idle
  cases event <;> simp [Event.isIdle, Event.call?] at idle ⊢

theorem filterMap_written (idle : Idle events) : events.filterMap Event.written? = [] :=
  filterMap_written_of_call idle.filterMap_call

theorem filterMap_sent (idle : Idle events) : events.filterMap Event.sent? = [] :=
  filterMap_sent_of_call idle.filterMap_call

theorem sound (idle : Idle events) : Sound events := by
  intro event member
  have quiet := idle event member
  cases event <;> simp [Event.isIdle, Event.isFailure] at quiet ⊢

theorem not_mem_done (idle : Idle events) (c : Call) : .done c ∉ events := by
  intro member
  cases idle _ member

end Idle

namespace Noise

variable {events : List Event}

theorem nil : Noise [] := by simp [Noise]

theorem append {first second : List Event} (left : Noise first) (right : Noise second) :
    Noise (first ++ second) :=
  List.forall_mem_append.mpr ⟨left, right⟩

theorem idle (noise : Noise events) : Idle events :=
  fun event member => Event.isIdle_of_isFarSide (noise event member)

theorem sending (noise : Noise events) : Sending events := noise.idle.sending

theorem takenBytes_eq (noise : Noise events) : takenBytes events = [] := noise.sending.takenBytes_eq

theorem listening (noise : Noise events) : Listening events :=
  fun event member => Event.isListening_of_isFarSide (noise event member)

/-- The far side may act at once when the host has taken the ready signal down. -/
theorem not_mem_lowered (noise : Noise events) : .lowered ∉ events := by
  intro member
  cases noise _ member

theorem lowered (noise : Noise events) : Idle (.lowered :: events) :=
  List.forall_mem_cons.mpr ⟨rfl, noise.idle⟩

end Noise

namespace Listening

variable {events : List Event}

theorem nil : Listening [] := by simp [Listening]

theorem append {first second : List Event} (left : Listening first) (right : Listening second) :
    Listening (first ++ second) :=
  List.forall_mem_append.mpr ⟨left, right⟩

theorem taking (bytes : Bytes) : Listening (taking bytes) := by
  intro event member
  rw [mem_taking member]
  rfl

theorem filterMap_call (listening : Listening events) : events.filterMap Event.call? = [] := by
  apply List.filterMap_eq_nil_iff.mpr
  intro event member
  have heard := listening event member
  cases event <;> simp [Event.isListening, Event.call?] at heard ⊢

theorem filterMap_written (listening : Listening events) : events.filterMap Event.written? = [] :=
  filterMap_written_of_call listening.filterMap_call

theorem filterMap_sent (listening : Listening events) : events.filterMap Event.sent? = [] :=
  filterMap_sent_of_call listening.filterMap_call

end Listening

/-- The host drops its input and tells the far side that it may send. -/
def Arming (events : List Event) : Prop :=
  ∃ early late, Noise early ∧ Noise late ∧
    events = .done .clear :: (early ++ .done .pulse :: late)

namespace Arming

variable {events : List Event}

theorem takenBytes_eq (arming : Arming events) : takenBytes events = [] := by
  obtain ⟨early, late, far, away, rfl⟩ := arming
  simp [Event.taken, far.takenBytes_eq, away.takenBytes_eq]

theorem pulseCount_eq (arming : Arming events) : pulseCount events = 1 := by
  obtain ⟨early, late, far, away, rfl⟩ := arming
  have first := far.sending.pulseCount_eq
  have second := away.sending.pulseCount_eq
  rw [pulseCount] at first second ⊢
  simp [first, second]

theorem takenBytes_taking_append (arming : Arming events) (bytes : Bytes) :
    takenBytes (taking bytes ++ events) = bytes := by
  rw [takenBytes_append, takenBytes_taking, arming.takenBytes_eq, List.append_nil]

theorem pulseCount_taking_append (arming : Arming events) (bytes : Bytes) :
    pulseCount (taking bytes ++ events) = 1 := by
  rw [pulseCount_append, pulseCount_taking, arming.pulseCount_eq]

theorem filterMap_call (arming : Arming events) :
    events.filterMap Event.call? = [.clear, .pulse] := by
  obtain ⟨early, late, far, away, rfl⟩ := arming
  simp [Event.call?, far.idle.filterMap_call, away.idle.filterMap_call]

theorem filterMap_sent (arming : Arming events) : events.filterMap Event.sent? = [] := by
  obtain ⟨early, late, far, away, rfl⟩ := arming
  rw [List.filterMap_cons, List.filterMap_append, far.idle.filterMap_sent, List.filterMap_cons,
    away.idle.filterMap_sent]
  rfl

theorem sound (arming : Arming events) : Sound events := by
  obtain ⟨early, late, far, away, rfl⟩ := arming
  exact List.forall_mem_cons.mpr ⟨rfl, far.idle.sound.append (List.forall_mem_cons.mpr ⟨rfl, away.idle.sound⟩)⟩

end Arming

end RadioLink
