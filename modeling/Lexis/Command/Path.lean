import Lexis.Text.Pieces

/-!
# Paths and files

A path is cut into components at its slashes. Where it leads is found by following them one by one
from the working directory: an empty component and a single dot stay where they are, two dots go
up, and a name goes to what the place holds by that name. Only a directory can be left in any
direction, so whatever follows a file leads nowhere. A place above the working directory is always
a directory, and nothing else is known there unless it was put there. A path has at most 4095
bytes, and what is longer leads nowhere either.
-/

namespace Lexis.Command

/-- What a path leads to. -/
inductive Entry where
  | missing
  | directory
  | file (content : List UInt8)
deriving DecidableEq, Repr

/-- What stands somewhere. -/
inductive Node where
  | directory
  | file (content : List UInt8)
deriving DecidableEq, Repr

/-- Where something stands: so many levels above the working directory, and from there by the names
that lead to it, the last one first. Each location is written in one way. -/
structure Location where
  /-- The levels above the working directory. -/
  levels : Nat
  /-- The names from there, the last one first. -/
  names : List String
deriving DecidableEq, Repr

/-- The known files and directories around the working directory. -/
structure Directory where
  /-- What stands where; of two nodes at one location the first counts. -/
  nodes : List (Location × Node)
deriving DecidableEq, Repr

/-- A place that a path leads through. -/
inductive Place where
  | directory (location : Location)
  | file (content : List UInt8)
deriving DecidableEq, Repr

namespace Path

/-- The components of a path, empty ones included. -/
def components (path : String) : List String :=
  (Text.pieces (· == '/') path.toList).map String.ofList

/-- The greatest number of bytes of a path. -/
def maximalLength : Nat := 4095

/-- A component that stays where it is. -/
def isIdle (component : String) : Bool := component == "" || component == "."

/-- The start of a path that does not depend on the working directory: two slashes are kept, and
any other number of them is one. -/
def root (path : String) : String :=
  match (path.toList.takeWhile (· == '/')).length with
  | 0 => ""
  | 2 => "//"
  | _ => "/"

/-- The path without idle components; two dots stay, because what they lead to depends on what is
there. -/
def normal (path : String) : String :=
  let plain := root path ++ "/".intercalate ((components path).filter (!isIdle ·))
  if plain = "" then "." else plain

end Path

namespace Location

def here : Location := ⟨0, []⟩

/-- The directory that holds a location. -/
def up : Location → Location
  | ⟨levels, []⟩ => ⟨levels + 1, []⟩
  | ⟨levels, _ :: outer⟩ => ⟨levels, outer⟩

/-- The location of a name in a directory. -/
def down (location : Location) (name : String) : Location :=
  ⟨location.levels, name :: location.names⟩

/-- Go one component on. -/
def step (location : Location) (component : String) : Location :=
  if Path.isIdle component then location
  else if component = ".." then location.up
  else location.down component

/-- Where some components lead. -/
def walk (location : Location) (components : List String) : Location :=
  components.foldl step location

/-- The locations that some components pass before the last one is followed. -/
def passed (location : Location) : List String → List Location
  | [] => []
  | component :: rest => location :: (location.step component).passed rest

end Location

namespace Directory

/-- The working directory when nothing is in it. -/
def empty : Directory := ⟨[]⟩

/-- Put a node where a path leads: all that the path passes is a directory. -/
def put (directory : Directory) (path : String) (node : Node) : Directory :=
  let components := Path.components path
  let outer := (Location.passed .here components).map fun location => (location, Node.directory)
  ⟨(Location.walk .here components, node) :: outer ++ directory.nodes⟩

/-- What stands at a location. -/
def find? (directory : Directory) (location : Location) : Option Node :=
  (directory.nodes.find? fun entry => entry.1 == location).map Prod.snd

/-- Follow one component: only a name has to be known. -/
def follow (directory : Directory) : Place → String → Option Place
  | .file _, _ => none
  | .directory location, component =>
    let next := location.step component
    if Path.isIdle component ∨ component = ".." then some (.directory next)
    else
      match directory.find? next with
      | some .directory => some (.directory next)
      | some (.file content) => some (.file content)
      | none => none

/-- What a place is. -/
def entryOf : Place → Entry
  | .file content => .file content
  | .directory _ => .directory

/-- What a path leads to. An empty path leads nowhere, as one does that is too long, and of a path
from the root only the root itself is known. -/
def entry (directory : Directory) (path : String) : Entry :=
  if path = "" ∨ Path.maximalLength < path.utf8ByteSize then .missing
  else if Path.root path ≠ "" then
    if (Path.components path).all fun component => Path.isIdle component || component == ".." then
      .directory
    else .missing
  else
    match (Path.components path).foldlM directory.follow (.directory .here) with
    | some place => entryOf place
    | none => .missing

end Directory

end Lexis.Command
