import RadioLink.Firmware.Image

/-!
A tree of files for running the library without a file system, with the rules by which a path is
followed: one name after the other, from the root or from the working directory.
-/

namespace RadioLink.Simulation

structure FileTree where
  /-- Files with their content, and directories without one, each by the names on the way to it from
  the root. What lies on the way is a directory, too. -/
  entries : List (List String × Option Bytes)
  /-- The working directory, where a path starts that does not start at the root. -/
  home : List String := []
  deriving DecidableEq, Repr, Inhabited

namespace FileTree

inductive Node where
  | file (content : Bytes)
  | directory
  deriving DecidableEq, Repr

/-- What is found at a place. -/
def node? (tree : FileTree) (place : List String) : Option Node :=
  match tree.entries.lookup place with
  | some (some content) => some (.file content)
  | some none => some .directory
  | none =>
    if place = [] ∨ tree.entries.any (fun entry => place.isPrefixOf entry.1) then some .directory
    else none

/-- The longest name of one file or directory, in bytes. -/
def maxName : Nat := 255

/-- The longest path, in bytes. -/
def maxPath : Nat := 4095

/-- Follows names from a place. An empty name and a single dot stay there, two dots go up. -/
def follow (tree : FileTree) (place : List String) : List String → Except Firmware.FileError Node
  | [] =>
    match tree.node? place with
    | some node => .ok node
    | none => .error .notFound
  | name :: rest =>
    match tree.node? place with
    | none => .error .notFound
    | some (.file _) => .error (.other .notADirectory)
    | some .directory =>
      if name = "" ∨ name = "." then tree.follow place rest
      else if name = ".." then tree.follow place.dropLast rest
      else if maxName < name.utf8ByteSize then .error (.other .nameTooLong)
      else tree.follow (place ++ [name]) rest

/-- Opens what a path leads to. A directory can be opened, and reading it fails. -/
def openFile (tree : FileTree) : Firmware.Files := fun path =>
  if path.toList.contains '\x00' then .error (.other .zeroInPath)
  else if path = "" then .error .notFound
  else if maxPath < path.utf8ByteSize then .error (.other .nameTooLong)
  else
    let start := if "/".isPrefixOf path then [] else tree.home
    match tree.follow start (path.splitOn "/") with
    | .ok (.file content) => .ok (.ok content)
    | .ok .directory => .ok (.error .isADirectory)
    | .error error => .error error

/-- What every system has: some directories, and a device that is always empty. -/
def common : FileTree :=
  { entries :=
      [(["dev", "null"], some []), (["bin"], none), (["etc"], none), (["home"], none),
        (["proc"], none), (["root"], none), (["sys"], none), (["tmp"], none), (["usr"], none),
        (["var"], none), (["work"], none)]
    home := ["work"] }

end FileTree

end RadioLink.Simulation
