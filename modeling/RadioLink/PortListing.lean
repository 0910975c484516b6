import RadioLink.Error
import RadioLink.Log

/-!
Serial devices that the system lists, and the wait for one of them.
-/

namespace RadioLink

/-- What kind of device a listed port is. A USB device may tell its maker and its product. -/
inductive PortKind where
  | usb (manufacturer product : Option String)
  | pci
  | bluetooth
  | unknown
  deriving DecidableEq, Repr

structure ListedPort where
  name : String
  kind : PortKind
  deriving DecidableEq, Repr

/-- The name of a listed port; that of a USB device goes on with maker and product. -/
def ListedPort.label (port : ListedPort) : String :=
  match port.kind with
  | .usb manufacturer product =>
    port.name ++ ": (" ++ manufacturer.getD "" ++ " / " ++ product.getD "" ++ ")"
  | _ => port.name

/-- What the system lists at one moment. -/
abbrev Listing := Except Fault (List ListedPort)

namespace Listing

/-- The labels of the listed ports; a listing that failed has none. -/
def labels : Listing → List String
  | .ok ports => ports.map ListedPort.label
  | .error _ => []

def notices : Listing → List Notice
  | .ok _ => []
  | .error fault => [.listingFailed fault]

/-- Some label starts with the path. -/
def offers (listing : Listing) (path : String) : Bool :=
  (labels listing).any fun label => path.isPrefixOf label

end Listing

/-- One look at the listed ports, and whether a shutdown had been requested by then. -/
structure Look where
  listing : Listing
  shutdown : Bool

/-- Waits until a path is listed. `some false` when the wait was given up for a shutdown, `none`
when all looks were made and the wait goes on. -/
def awaitPort (path : String) : List Look → Option Bool × List Notice
  | [] => (none, [])
  | look :: rest =>
    if look.listing.offers path then (some true, look.listing.notices)
    else if look.shutdown then (some false, look.listing.notices)
    else
      let (found, notices) := awaitPort path rest
      (found, look.listing.notices ++ notices)

end RadioLink
