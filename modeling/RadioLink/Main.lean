import RadioLink.CommandLine.Session

/-!
The program. Serial devices are not within reach of this build, so a session ends where its port
would be opened.
-/

open RadioLink.CommandLine in
def main (arguments : List String) : IO UInt32 := do
  let run := run arguments
    { selected := none, appears := true, opened := .error ⟨"no serial device support"⟩, status := 0 }
  IO.print run.output
  return UInt32.ofNat run.status
