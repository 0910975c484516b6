import RadioLink.Proofs.PortMirror

/-!
The port table as a set. Zero marks a free slot and is no port, slots are freed and filled again in any
order, and still no port ever stands in two slots. So closing a port removes it, and the table is full
exactly when sixteen ports are open.
-/

namespace RadioLink.PortTable

variable {table : PortTable} {port other : UInt16} {slots : List UInt16} {i j : Nat}

def slotAt (copy : Bytes) (i : Nat) : UInt16 := copy.uint16At (2 * i)

theorem slotAt_bytes (table : PortTable) (i : Nat) : slotAt table.bytes i = table.slots.getD i 0 :=
  uint16At_encode table.slots i

theorem contains_iff (table : PortTable) (port : UInt16) :
    table.contains port = true ↔ port ≠ 0 ∧ port ∈ table.slots := by
  simp [contains]

theorem contains_eq_false_iff (table : PortTable) (port : UInt16) :
    table.contains port = false ↔ (port ≠ 0 → port ∉ table.slots) := by
  rw [← Bool.not_eq_true, contains_iff, not_and]

theorem place_some {placed : List UInt16} (found : place port slots = some placed) :
    ∃ front back, slots = front ++ 0 :: back ∧ placed = front ++ port :: back := by
  induction slots generalizing placed with
  | nil => cases found
  | cons slot rest ih =>
    rw [place] at found
    split at found
    next zero => exact ⟨[], rest, by rw [zero]; rfl, (Option.some.inj found).symm⟩
    next =>
      obtain ⟨tail, tailFound, rfl⟩ := Option.map_eq_some_iff.mp found
      obtain ⟨front, back, rfl, rfl⟩ := ih tailFound
      exact ⟨slot :: front, back, rfl, rfl⟩

theorem place_none (found : place port slots = none) : 0 ∉ slots := by
  induction slots with
  | nil => exact List.not_mem_nil
  | cons slot rest ih =>
    rw [place] at found
    split at found
    · cases found
    next zero =>
      rw [List.mem_cons, not_or]
      exact ⟨fun same => zero same.symm, ih (Option.map_eq_none_iff.mp found)⟩

inductive Opened (table : PortTable) (port : UInt16) : Bool × PortTable → Prop where
  | kept (known : port ≠ 0 → table.contains port = true) : Opened table port (true, table)
  | placed {next : PortTable} {front back : List UInt16} (proper : port ≠ 0) (absent : port ∉ table.slots)
      (before : table.slots = front ++ 0 :: back) (after : next.slots = front ++ port :: back)
      (raised : next.changed = true) : Opened table port (true, next)
  | full (proper : port ≠ 0) (absent : port ∉ table.slots) (occupied : 0 ∉ table.slots) :
      Opened table port (false, table)

theorem openPort_opened (table : PortTable) (port : UInt16) :
    Opened table port (table.openPort port) := by
  unfold openPort
  split
  next known => exact .kept fun proper => known.resolve_left proper
  next unknown =>
    obtain ⟨proper, closed⟩ := not_or.mp unknown
    have absent : port ∉ table.slots := fun member =>
      closed ((table.contains_iff port).mpr ⟨proper, member⟩)
    split
    next found =>
      obtain ⟨front, back, before, after⟩ := place_some found
      exact .placed proper absent before after rfl
    next found => exact .full proper absent (place_none found)

def Distinct (slots : List UInt16) : Prop :=
  slots.Pairwise fun first second => first = second → first = 0

theorem Distinct.index_eq (distinct : Distinct slots) (proper : port ≠ 0) (first : slots.getD i 0 = port)
    (second : slots.getD j 0 = port) : i = j := by
  have inside : ∀ {k}, slots.getD k 0 = port → ∃ bound : k < slots.length, slots[k] = port := by
    intro k found
    by_cases bound : k < slots.length
    · exact ⟨bound, by rw [← found, List.getD_eq_getElem]⟩
    · rw [List.getD_eq_default _ _ (Nat.not_lt.mp bound)] at found
      exact absurd found.symm proper
  obtain ⟨bound, first⟩ := inside first
  obtain ⟨bound', second⟩ := inside second
  have apart := List.pairwise_iff_getElem.mp distinct
  rcases Nat.lt_trichotomy i j with before | same | after
  · exact absurd (first.symm.trans (apart i j bound bound' before (first.trans second.symm))) proper
  · exact same
  · exact absurd (second.symm.trans (apart j i bound' bound after (second.trans first.symm))) proper

theorem distinct_openPort (distinct : Distinct table.slots) (port : UInt16) :
    Distinct (table.openPort port).2.slots := by
  have opened := openPort_opened table port
  generalize table.openPort port = run at opened
  cases opened with
  | kept _ => exact distinct
  | placed proper absent before after _ =>
    rw [after]
    rw [before] at distinct absent
    simp only [Distinct, List.pairwise_append, List.pairwise_cons, List.mem_cons] at distinct ⊢
    grind
  | full _ _ _ => exact distinct

theorem distinct_closePort (distinct : Distinct table.slots) (port : UInt16) :
    Distinct (table.closePort port).slots := by
  refine List.Pairwise.map _ (fun first second apart same => ?_) distinct
  by_cases closed : first = port
  · exact if_pos closed
  · rw [if_neg closed] at same ⊢
    split at same
    · exact same
    · exact apart same

theorem contains_openPort (table : PortTable) (port other : UInt16) :
    (table.openPort port).2.contains other = true ↔
      table.contains other = true ∨ other = port ∧ port ≠ 0 ∧ (table.openPort port).1 = true := by
  have opened := openPort_opened table port
  generalize table.openPort port = run at opened ⊢
  simp only [contains_iff]
  cases opened with
  | kept known =>
    rw [contains_iff] at known
    grind
  | placed proper absent before after _ =>
    rw [before, after]
    grind
  | full _ _ _ => grind

theorem contains_closePort (table : PortTable) (port other : UInt16) :
    (table.closePort port).contains other = true ↔ table.contains other = true ∧ other ≠ port := by
  simp only [contains_iff, closePort, free, List.mem_map]
  grind

theorem contains_clearChanged (table : PortTable) (port : UInt16) :
    table.clearChanged.contains port = table.contains port := rfl

/-- Another port stays in its slot when a port is opened. -/
theorem slot_openPort (table : PortTable) (proper : other ≠ 0) (apart : other ≠ port) (i : Nat) :
    (table.openPort port).2.slots.getD i 0 = other ↔ table.slots.getD i 0 = other := by
  have opened := openPort_opened table port
  generalize table.openPort port = run at opened
  cases opened with
  | kept _ => exact Iff.rfl
  | placed _ _ before after _ =>
    rw [before, after]
    simp only [List.getD_eq_getElem?_getD, List.getElem?_append, List.getElem?_cons]
    grind
  | full _ _ _ => exact Iff.rfl

theorem slot_closePort (table : PortTable) (proper : other ≠ 0) (apart : other ≠ port) (i : Nat) :
    (table.closePort port).slots.getD i 0 = other ↔ table.slots.getD i 0 = other := by
  simp only [closePort, free, List.getD_eq_getElem?_getD, List.getElem?_map]
  grind

theorem openPort_false_iff (table : PortTable) (port : UInt16) :
    (table.openPort port).1 = false ↔
      port ≠ 0 ∧ table.contains port = false ∧ 0 ∉ table.slots := by
  have opened := openPort_opened table port
  generalize table.openPort port = run at opened
  rw [contains_eq_false_iff]
  cases opened with
  | kept known =>
    rw [contains_iff] at known
    grind
  | placed proper absent before after _ =>
    rw [before]
    simp
  | full proper absent occupied => exact iff_of_true rfl ⟨proper, fun _ => absent, occupied⟩

def ports (table : PortTable) : Finset UInt16 := table.slots.toFinset.erase 0

theorem mem_ports (table : PortTable) (port : UInt16) :
    port ∈ table.ports ↔ table.contains port = true := by
  rw [ports, Finset.mem_erase, List.mem_toFinset, contains_iff]

theorem card_slots_le (table : PortTable) : table.slots.toFinset.card ≤ 16 :=
  (List.toFinset_card_le _).trans table.size.le

theorem card_le_card_ports {others : Finset UInt16}
    (opened : ∀ other ∈ others, table.contains other = true) : others.card ≤ table.ports.card :=
  Finset.card_le_card fun other member => (table.mem_ports other).mpr (opened other member)

theorem card_ports_le (table : PortTable) : table.ports.card ≤ 16 :=
  Finset.card_erase_le.trans table.card_slots_le

/-- As many ports as there are slots leave no slot free. -/
theorem card_ports_eq_iff (distinct : Distinct table.slots) :
    table.ports.card = 16 ↔ 0 ∉ table.slots := by
  constructor
  · intro count free
    have fewer := Finset.card_erase_lt_of_mem (List.mem_toFinset.mpr free)
    have few := table.card_slots_le
    rw [ports] at count
    omega
  · intro occupied
    have nodup : table.slots.Nodup := by
      refine distinct.imp_of_mem fun member _ apart same => occupied ?_
      rwa [← apart same]
    rw [ports, Finset.erase_eq_of_notMem (by rwa [List.mem_toFinset]),
      List.toFinset_card_of_nodup nodup, table.size]
    rfl

theorem full_iff (distinct : Distinct table.slots) (absent : table.contains port = false) :
    0 ∉ table.slots ↔ ∃ others : Finset UInt16, others.card = 16 ∧
      ∀ other ∈ others, other ≠ port ∧ table.contains other = true := by
  rw [← card_ports_eq_iff distinct]
  constructor
  · intro count
    refine ⟨table.ports, count, fun other member => ?_⟩
    rw [mem_ports] at member
    refine ⟨?_, member⟩
    rintro rfl
    rw [member] at absent
    contradiction
  · rintro ⟨others, count, opened⟩
    have most := card_le_card_ports fun other member => (opened other member).2
    exact le_antisymm table.card_ports_le (count ▸ most)

inductive Call where
  | openPort (port : UInt16)
  | closePort (port : UInt16)
  | clearChanged

def call (table : PortTable) : Call → PortTable
  | .openPort port => (table.openPort port).2
  | .closePort port => table.closePort port
  | .clearChanged => table.clearChanged

def callAll (table : PortTable) (calls : List Call) : PortTable := calls.foldl call table

theorem callAll_append (table : PortTable) (first second : List Call) :
    table.callAll (first ++ second) = (table.callAll first).callAll second :=
  List.foldl_append

theorem callAll_concat (table : PortTable) (calls : List Call) (next : Call) :
    table.callAll (calls ++ [next]) = (table.callAll calls).call next :=
  table.callAll_append calls [next]

theorem distinct_call (distinct : Distinct table.slots) (next : Call) :
    Distinct (table.call next).slots := by
  cases next with
  | openPort port => exact distinct_openPort distinct port
  | closePort port => exact distinct_closePort distinct port
  | clearChanged => exact distinct

theorem distinct_callAll (calls : List Call) : Distinct (empty.callAll calls).slots := by
  induction calls using List.reverseRecOn with
  | nil => exact List.pairwise_replicate.mpr (.inr fun _ => rfl)
  | append_singleton calls next ih =>
    rw [callAll_concat]
    exact distinct_call ih next

/-- Some call did a thing, and no later call has undone it. -/
def Since (did : List Call → Call → Prop) (undoes : Call → Prop) (calls : List Call) : Prop :=
  ∃ before next after, calls = before ++ next :: after ∧ did before next ∧ ∀ later ∈ after, ¬undoes later

section

variable {did : List Call → Call → Prop} {undoes : Call → Prop}

theorem not_since_nil : ¬Since did undoes [] := by
  rintro ⟨before, next, after, cut, -⟩
  simp at cut

theorem since_concat (calls : List Call) (last : Call) : Since did undoes (calls ++ [last]) ↔
    did calls last ∨ (Since did undoes calls ∧ ¬undoes last) := by
  constructor
  · rintro ⟨before, next, after, cut, done, kept⟩
    rcases List.eq_nil_or_concat after with rfl | ⟨later, final, rfl⟩
    · obtain ⟨rfl, same⟩ := List.append_inj' cut rfl
      rw [List.singleton_inj.mp same]
      exact .inl done
    · rw [List.concat_eq_append] at cut kept
      rw [← List.cons_append, ← List.append_assoc] at cut
      obtain ⟨rfl, same⟩ := List.append_inj' cut rfl
      rw [List.singleton_inj.mp same]
      exact .inr ⟨⟨before, next, later, rfl, done, fun call member => kept call (by simp [member])⟩,
        kept final (by simp)⟩
  · rintro (done | ⟨⟨before, next, after, rfl, done, kept⟩, harmless⟩)
    · exact ⟨calls, last, [], rfl, done, by simp⟩
    · refine ⟨before, next, after ++ [last], by simp, done, fun call member => ?_⟩
      rcases List.mem_append.mp member with earlier | same
      · exact kept call earlier
      · rwa [List.mem_singleton.mp same]

end

/-- A port was opened with success, that is stored or found in the table, and has not been closed since. -/
def HeldOpen (port : UInt16) : List Call → Prop :=
  Since (fun before next => next = .openPort port ∧ ((empty.callAll before).openPort port).1 = true)
    (· = .closePort port)

theorem contains_callAll (calls : List Call) (port : UInt16) :
    (empty.callAll calls).contains port = true ↔ port ≠ 0 ∧ HeldOpen port calls := by
  induction calls using List.reverseRecOn with
  | nil =>
    have vacant : empty.contains port = false := by
      rw [contains_eq_false_iff]
      exact fun proper member => proper (List.eq_of_mem_replicate member)
    exact iff_of_false (by rw [callAll, List.foldl_nil, vacant]; decide) fun held => not_since_nil held.2
  | append_singleton calls next ih =>
    rw [callAll_concat, HeldOpen, since_concat, ← HeldOpen]
    cases next with
    | openPort opened =>
      rw [call, contains_openPort, ih]
      grind
    | closePort closed =>
      rw [call, contains_closePort, ih]
      grind
    | clearChanged =>
      rw [call, contains_clearChanged, ih]
      grind

/-- A call writes a slot: it stores a port, or frees the slots of one. The slots of port zero are the free
ones. -/
def Writes (table : PortTable) : Call → Prop
  | .openPort port => port ≠ 0 ∧ table.contains port = false ∧ (table.openPort port).1 = true
  | .closePort port => port ∈ table.slots
  | .clearChanged => False

theorem changed_call (table : PortTable) (next : Call) : (table.call next).changed = true ↔
    table.Writes next ∨ (table.changed = true ∧ next ≠ .clearChanged) := by
  cases next with
  | openPort port =>
    have opened := openPort_opened table port
    rw [call, Writes]
    generalize table.openPort port = run at opened
    cases opened with
    | kept known => grind
    | placed proper absent _ _ raised =>
      exact iff_of_true raised (.inl ⟨proper, (table.contains_eq_false_iff port).mpr fun _ => absent, rfl⟩)
    | full _ _ _ => grind
  | closePort port =>
    rw [call, closePort, Writes, Bool.or_eq_true, List.contains_iff_mem, or_comm]
    simp
  | clearChanged => simp [call, clearChanged, Writes]

theorem changed_callAll (calls : List Call) : (empty.callAll calls).changed = true ↔
    Since (fun before next => (empty.callAll before).Writes next) (· = .clearChanged) calls := by
  induction calls using List.reverseRecOn with
  | nil => exact iff_of_false (by decide) not_since_nil
  | append_singleton calls next ih => rw [callAll_concat, changed_call, since_concat, ih]

theorem Flagged.trans {before middle after : PortTable} (early : Flagged before middle)
    (late : Flagged middle after) : Flagged before after := by
  intro down
  obtain ⟨same, bytes⟩ := late down
  obtain ⟨same', bytes'⟩ := early same
  exact ⟨same', bytes.trans bytes'⟩

/-- Until the flag is cleared, every difference shows in it. -/
theorem flagged_callAll (table : PortTable) {calls : List Call} (uncleared : .clearChanged ∉ calls) :
    Flagged table (table.callAll calls) := by
  induction calls generalizing table with
  | nil => exact .refl table
  | cons next rest ih =>
    rw [List.mem_cons, not_or] at uncleared
    refine Flagged.trans ?_ (ih (table.call next) uncleared.2)
    cases next with
    | openPort port => exact flagged_openPort table port
    | closePort port => exact flagged_closePort table port
    | clearChanged => exact absurd rfl uncleared.1

/-- The table is a set of at most sixteen ports, whatever is called on it and whatever the port numbers:
no port stands in two slots; a port is in the table if it was opened and not closed since; opening fails
for a new port when sixteen others are open, and then changes nothing; other ports keep their slots; and a
difference from any state since the flag was last cleared, or since the start, shows in the flag, which is
raised by calls that write a slot and by no other. -/
theorem bounded_set_of_ports (calls : List Call) :
    let table := empty.callAll calls
    (∀ port i j, port ≠ 0 → slotAt table.bytes i = port → slotAt table.bytes j = port → i = j) ∧
    (∀ port, table.contains port = true ↔ port ≠ 0 ∧ HeldOpen port calls) ∧
    (∀ ports : Finset UInt16, (∀ port ∈ ports, table.contains port = true) → ports.card ≤ 16) ∧
    (∀ port, (table.openPort port).1 = false ↔ port ≠ 0 ∧ table.contains port = false ∧
      ∃ others : Finset UInt16, others.card = 16 ∧
        ∀ other ∈ others, other ≠ port ∧ table.contains other = true) ∧
    (∀ port, (table.openPort port).1 = false → (table.openPort port).2 = table) ∧
    (∀ port other i, other ≠ 0 → other ≠ port →
      (slotAt (table.openPort port).2.bytes i = other ↔ slotAt table.bytes i = other) ∧
      (slotAt (table.closePort port).bytes i = other ↔ slotAt table.bytes i = other)) ∧
    (∀ before after, calls = before ++ after → .clearChanged ∉ after →
      table.bytes ≠ (empty.callAll before).bytes → table.changed = true) ∧
    (table.changed = true ↔
      Since (fun before next => (empty.callAll before).Writes next) (· = .clearChanged) calls) := by
  have distinct := distinct_callAll calls
  refine ⟨?_, contains_callAll calls, fun _ opened => ?_, ?_, ?_, ?_, ?_, changed_callAll calls⟩
  · intro port i j proper first second
    rw [slotAt_bytes] at first second
    exact distinct.index_eq proper first second
  · exact (card_le_card_ports opened).trans (card_ports_le _)
  · intro port
    rw [openPort_false_iff]
    exact and_congr_right fun _ => and_congr_right fun absent => full_iff distinct absent
  · intro port refused
    have opened := openPort_opened (empty.callAll calls) port
    generalize (empty.callAll calls).openPort port = run at opened refused
    cases opened with
    | kept _ => cases refused
    | placed _ _ _ _ _ => cases refused
    | full _ _ _ => rfl
  · intro port other i proper apart
    simp only [slotAt_bytes]
    exact ⟨slot_openPort _ proper apart i, slot_closePort _ proper apart i⟩
  · rintro before after rfl uncleared differs
    rw [← Bool.not_eq_false]
    intro down
    rw [callAll_append] at differs down
    exact differs (flagged_callAll _ uncleared down).2

end RadioLink.PortTable
