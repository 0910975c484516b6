import RadioLink.Bytes

/-!
The ports that the host listens on. The co-processor gets a copy of the table and forwards only
what arrives for a port in it. Zero marks a free slot.
-/

namespace RadioLink

namespace PortTable

/-- How many ports can be open at once. -/
def capacity : Nat := 16

/-- Puts a port into the first free slot, if there is one. -/
def place (port : UInt16) : List UInt16 → Option (List UInt16)
  | [] => none
  | slot :: rest => if slot = 0 then some (port :: rest) else (place port rest).map (slot :: ·)

/-- Frees every slot that holds a port. -/
def free (port : UInt16) (slots : List UInt16) : List UInt16 :=
  slots.map fun slot => if slot = port then 0 else slot

theorem length_place {port : UInt16} {slots placed : List UInt16}
    (found : place port slots = some placed) : placed.length = slots.length := by
  induction slots generalizing placed with
  | nil => simp [place] at found
  | cons slot rest ih =>
    simp only [place] at found
    split at found
    · cases found; rfl
    · obtain ⟨tail, tailFound, rfl⟩ := Option.map_eq_some_iff.1 found
      simp [ih tailFound]

@[simp] theorem length_free (port : UInt16) (slots : List UInt16) :
    (free port slots).length = slots.length := by
  simp [free]

/-- The slots as the co-processor gets them. -/
def encode (slots : List UInt16) : Bytes := slots.flatMap Bytes.ofUInt16

end PortTable

structure PortTable where
  slots : List UInt16 := List.replicate PortTable.capacity 0
  /-- Whether a slot was written since the flag was last cleared. -/
  changed : Bool := false
  size : slots.length = PortTable.capacity := by simp
  deriving DecidableEq, Repr

namespace PortTable

/-- The table without a port. -/
def empty : PortTable := {}

instance : Inhabited PortTable := ⟨empty⟩

def contains (table : PortTable) (port : UInt16) : Bool := port ≠ 0 && table.slots.contains port

/-- Opens a port; `false` when the table is full. Opening a port twice changes nothing. -/
def openPort (table : PortTable) (port : UInt16) : Bool × PortTable :=
  if port = 0 ∨ table.contains port then (true, table)
  else
    match found : place port table.slots with
    | some slots => (true, { slots, changed := true, size := (length_place found).trans table.size })
    | none => (false, table)

/-- Closes a port. Closing port zero writes the free slots. -/
def closePort (table : PortTable) (port : UInt16) : PortTable :=
  { slots := free port table.slots
    changed := table.changed || table.slots.contains port
    size := (length_free port table.slots).trans table.size }

def clearChanged (table : PortTable) : PortTable := { table with changed := false }

def bytes (table : PortTable) : Bytes := encode table.slots

end PortTable

end RadioLink
