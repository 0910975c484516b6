import Mathlib
import RadioLink.PortListing

/-!
What the wait for a port waits for. A look at the listed ports ends the wait if some label starts with the path, and
otherwise if a shutdown was requested. The label of the requested device starts with its path, so the wait is not given
up while that device is listed; but so does the label of a device whose name goes on after the path.
-/

namespace RadioLink

variable {path : String}

namespace ListedPort

def details (port : ListedPort) : String :=
  match port.kind with
  | .usb manufacturer product => ": (" ++ manufacturer.getD "" ++ " / " ++ product.getD "" ++ ")"
  | _ => ""

theorem label_eq (port : ListedPort) : port.label = port.name ++ port.details := by
  obtain ⟨name, kind⟩ := port
  cases kind with
  | usb manufacturer product => simp only [label, details, String.append_assoc]
  | pci | bluetooth | unknown => exact String.append_empty.symm

def Resembles (port : ListedPort) (path : String) : Prop := path.toList <+: port.label.toList

theorem resembles_of_name {port : ListedPort} (same : port.name = path) : port.Resembles path := by
  rw [Resembles, label_eq, String.toList_append, same]
  exact List.prefix_append _ _

/-- A label that starts with a path: the name does, or the path goes on into what stands after the name. -/
theorem resembles_iff {port : ListedPort} :
    port.Resembles path ↔ path.toList <+: port.name.toList ∨
      ∃ start : String, path = port.name ++ start ∧ start.toList <+: port.details.toList := by
  rw [Resembles, label_eq, String.toList_append]
  constructor
  · intro starts
    rcases List.prefix_or_prefix_of_prefix starts (List.prefix_append _ _) with short | ⟨start, long⟩
    · exact .inl short
    · refine .inr ⟨String.ofList start, ?_, ?_⟩
      · apply String.toList_inj.mp
        rw [String.toList_append, String.toList_ofList, long]
      · rw [← long] at starts
        rw [String.toList_ofList]
        exact (List.prefix_append_right_inj _).mp starts
  · rintro (short | ⟨start, rfl, inside⟩)
    · exact short.trans (List.prefix_append _ _)
    · rw [String.toList_append]
      exact (List.prefix_append_right_inj _).mpr inside

end ListedPort

namespace Listing

def ports : Listing → List ListedPort
  | .ok ports => ports
  | .error _ => []

theorem offers_iff {listing : Listing} :
    listing.offers path = true ↔ ∃ port ∈ ports listing, port.Resembles path := by
  have labels : labels listing = (ports listing).map ListedPort.label := by
    cases listing <;> rfl
  rw [offers, labels, List.any_map, List.any_eq_true]
  simp only [Function.comp_apply, String.isPrefixOf, String.startsWith_string_iff, ListedPort.Resembles]

end Listing

namespace Look

def answer? (path : String) (look : Look) : Option Bool :=
  if look.listing.offers path then some true else if look.shutdown then some false else none

def Lists (look : Look) (path : String) : Prop := ∃ port ∈ look.listing.ports, port.name = path

def Shows (look : Look) (path : String) : Prop := ∃ port ∈ look.listing.ports, port.Resembles path

variable {look : Look}

theorem Lists.shows (listed : look.Lists path) : look.Shows path := by
  obtain ⟨port, member, same⟩ := listed
  exact ⟨port, member, ListedPort.resembles_of_name same⟩

theorem answer?_eq_true_iff : look.answer? path = some true ↔ look.Shows path := by
  rw [answer?, Shows, ← Listing.offers_iff]
  cases look.listing.offers path <;> cases look.shutdown <;> decide

theorem answer?_eq_false_iff :
    look.answer? path = some false ↔ look.shutdown = true ∧ ¬look.Shows path := by
  rw [answer?, Shows, ← Listing.offers_iff]
  cases look.listing.offers path <;> cases look.shutdown <;> decide

theorem answer?_eq_none_iff :
    look.answer? path = none ↔ look.shutdown = false ∧ ¬look.Shows path := by
  rw [answer?, Shows, ← Listing.offers_iff]
  cases look.listing.offers path <;> cases look.shutdown <;> decide

end Look

/-- The wait ends with the first look that decides. -/
theorem awaitPort_eq_findSome? (path : String) (looks : List Look) :
    (awaitPort path looks).1 = looks.findSome? (Look.answer? path) := by
  fun_induction awaitPort path looks with
  | case1 => rfl
  | case2 look rest found => simp [Look.answer?, found]
  | case3 look rest missing given => simp [Look.answer?, missing, given]
  | case4 look rest missing waits found notices ran ih =>
    have undecided : look.answer? path = none := by
      rw [Look.answer?, if_neg missing, if_neg waits]
    rw [List.findSome?_cons, undecided, ← ih, ran]

section

variable {earlier : List Look} {last : Look}

theorem awaitPort_concat (waits : (awaitPort path earlier).1 = none) :
    (awaitPort path (earlier ++ [last])).1 = last.answer? path := by
  rw [awaitPort_eq_findSome?] at waits
  rw [awaitPort_eq_findSome?, List.findSome?_append, waits, Option.none_or, List.findSome?_singleton]

/-- Looks after the one that decides are not made. -/
theorem awaitPort_eq_some_iff {looks : List Look} {found : Bool} :
    (awaitPort path looks).1 = some found ↔
      ∃ earlier last later, looks = earlier ++ last :: later ∧ (awaitPort path earlier).1 = none ∧
        (awaitPort path (earlier ++ [last])).1 = some found := by
  rw [awaitPort_eq_findSome?, List.findSome?_eq_some_iff]
  constructor
  · rintro ⟨earlier, last, later, rfl, decides, undecided⟩
    have waits : (awaitPort path earlier).1 = none := by
      rw [awaitPort_eq_findSome?, List.findSome?_eq_none_iff]
      exact undecided
    exact ⟨earlier, last, later, rfl, waits, (awaitPort_concat waits).trans decides⟩
  · rintro ⟨earlier, last, later, rfl, waits, ended⟩
    have undecided := waits
    rw [awaitPort_eq_findSome?, List.findSome?_eq_none_iff] at undecided
    exact ⟨earlier, last, later, rfl, (awaitPort_concat waits).symm.trans ended, undecided⟩

theorem not_shows_of_waits (waits : (awaitPort path earlier).1 = none) {look : Look} (member : look ∈ earlier) :
    ¬look.Shows path := by
  rw [awaitPort_eq_findSome?, List.findSome?_eq_none_iff] at waits
  exact (Look.answer?_eq_none_iff.mp (waits look member)).2

end

/-- What an answer of the wait should say about the looks that were made: one of them lists the device, or a shutdown
was requested and the last one does not list it. -/
def RightAnswer (path : String) (earlier : List Look) (last : Look) : (found : Bool) → Prop
  | true => ∃ look ∈ earlier ++ [last], look.Lists path
  | false => last.shutdown = true ∧ ¬last.Lists path

theorem rightAnswer_true_iff {earlier : List Look} {last : Look} (waits : (awaitPort path earlier).1 = none) :
    RightAnswer path earlier last true ↔ last.Lists path := by
  constructor
  · rintro ⟨look, member, listed⟩
    rcases List.mem_append.mp member with before | only
    · -- the label of the device would have ended the wait
      exact absurd listed.shows (not_shows_of_waits waits before)
    · rwa [List.mem_singleton.mp only] at listed
  · intro listed
    exact ⟨last, List.mem_append_right _ (List.mem_singleton_self _), listed⟩

theorem rightAnswer_false {earlier : List Look} {last : Look} (waits : (awaitPort path earlier).1 = none)
    (ended : (awaitPort path (earlier ++ [last])).1 = some false) : RightAnswer path earlier last false := by
  rw [awaitPort_concat waits, Look.answer?_eq_false_iff] at ended
  exact ⟨ended.1, fun listed => ended.2 listed.shows⟩

/-- The wait answers about labels that start with the path. Of any sequence of looks it makes those up to the first one
that decides: it ends with `true` at the first look that shows such a label, and with `false` at the first look that
shows none when a shutdown is requested. So `false` is always right, and `true` is right exactly if the look that ended
the wait lists the device itself. It is right whatever the looks list out of a set of devices exactly if every device of
the set with such a label has the path for its name; any other device with such a label has a name that the path is only
the start of, or that is only the start of the path. -/
theorem wait_right_iff (path : String) :
    (∀ (looks : List Look) (found : Bool), (awaitPort path looks).1 = some found ↔
      ∃ earlier last later, looks = earlier ++ last :: later ∧ (awaitPort path earlier).1 = none ∧
        (awaitPort path (earlier ++ [last])).1 = some found) ∧
    (∀ (earlier : List Look) (last : Look), (awaitPort path earlier).1 = none →
      ((awaitPort path (earlier ++ [last])).1 = some true ↔ last.Shows path) ∧
      ((awaitPort path (earlier ++ [last])).1 = some false ↔ last.shutdown = true ∧ ¬last.Shows path) ∧
      ((awaitPort path (earlier ++ [last])).1 = some false → RightAnswer path earlier last false) ∧
      (RightAnswer path earlier last true ↔ last.Lists path)) ∧
    (∀ devices : Set ListedPort,
      (∀ (earlier : List Look) (last : Look) (found : Bool),
        (∀ look ∈ earlier ++ [last], ∀ port ∈ look.listing.ports, port ∈ devices) →
        (awaitPort path earlier).1 = none → (awaitPort path (earlier ++ [last])).1 = some found →
          RightAnswer path earlier last found) ↔
        ∀ port ∈ devices, port.Resembles path → port.name = path) ∧
    ∀ port : ListedPort, port.Resembles path ↔
      path.toList <+: port.name.toList ∨
        ∃ start : String, path = port.name ++ start ∧ start.toList <+: port.details.toList := by
  refine ⟨fun looks found => awaitPort_eq_some_iff,
    fun earlier last waits => ⟨?_, ?_, rightAnswer_false waits, rightAnswer_true_iff waits⟩,
    fun devices => ⟨?_, ?_⟩, fun port => ListedPort.resembles_iff⟩
  · rw [awaitPort_concat waits, Look.answer?_eq_true_iff]
  · rw [awaitPort_concat waits, Look.answer?_eq_false_iff]
  · -- one look at one device
    intro right port member resembles
    have shown : Look.Shows ⟨.ok [port], false⟩ path := ⟨port, List.mem_singleton_self _, resembles⟩
    have answer := right [] ⟨.ok [port], false⟩ true (by simpa [Listing.ports] using member) rfl
      ((awaitPort_concat rfl).trans (Look.answer?_eq_true_iff.mpr shown))
    obtain ⟨other, only, named⟩ := (rightAnswer_true_iff rfl).mp answer
    rwa [List.mem_singleton.mp only] at named
  · intro named earlier last found within waits ended
    cases found with
    | false => exact rightAnswer_false waits ended
    | true =>
      rw [awaitPort_concat waits, Look.answer?_eq_true_iff] at ended
      obtain ⟨port, member, resembles⟩ := ended
      have inside : last ∈ earlier ++ [last] := List.mem_append_right _ (List.mem_singleton_self _)
      exact (rightAnswer_true_iff waits).mpr
        ⟨port, member, named port (within last inside port member) resembles⟩

/-- A device whose name has one more digit than the requested one. -/
def neighbour : ListedPort := ⟨"/dev/ttyUSB1" ++ "0", .usb (some "FTDI") (some "FT232R")⟩

theorem wait_right_iff_neighbour :
    (awaitPort "/dev/ttyUSB1" [⟨.ok [neighbour], true⟩]).1 = some true ∧
      ¬RightAnswer "/dev/ttyUSB1" [] ⟨.ok [neighbour], true⟩ true := by
  obtain ⟨-, answers, -, resembles⟩ := wait_right_iff "/dev/ttyUSB1"
  obtain ⟨ends, -, -, right⟩ := answers [] ⟨.ok [neighbour], true⟩ rfl
  have longer : neighbour.Resembles "/dev/ttyUSB1" :=
    (resembles neighbour).mpr (.inl (by rw [neighbour, String.toList_append]; exact List.prefix_append _ _))
  refine ⟨ends.mpr ⟨neighbour, List.mem_singleton_self _, longer⟩, fun answer => ?_⟩
  obtain ⟨other, only, named⟩ := right.mp answer
  rw [List.mem_singleton.mp only] at named
  exact absurd named (by decide)

end RadioLink
