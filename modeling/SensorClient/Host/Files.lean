import SensorClient.Host.Basic
import SensorClient.Text.Split

/-!
# Files and sockets in a folder

Paths are walked part by part from the root or from the folder at hand. Only a folder can be
walked through, also where the next part leads nowhere else.

## Main definitions

* `Files`: what is where
* `Files.usual`: what is found on every machine
* `Files.put`: makes a file and the folders around it
* `Files.locate`: the place that a path leads to
* `Files.look`, `Files.accept`: what is found there, and who accepts connections
-/

namespace SensorClient

/-- The place of a file: the names on the way from the root. -/
abbrev Place := List String

/-- What is where, and the folder that paths start in. -/
structure Files where
  home : Place
  entries : List (Place × FileKind)

namespace Files

/-- What is at a place. The folders on the way home are there. -/
def kind? (f : Files) (place : Place) : Option FileKind :=
  if place.isPrefixOf f.home then some .directory else f.entries.lookup place

/-- A folder that is still empty, on a machine with the usual folders at its root. -/
def usual (home : Place) : Files :=
  let roots := ["tmp", "var", "run", "etc", "usr", "dev", "root", "proc", "home", "sys", "bin",
    "sbin", "lib", "opt", "mnt", "media", "srv", "boot"].map fun name => [name]
  let folders := roots ++ [["var", "run"], ["var", "tmp"], ["var", "lib"], ["var", "log"],
    ["usr", "bin"], ["usr", "lib"], ["usr", "local"], ["dev", "shm"]]
  let files := [["dev", "null"], ["dev", "zero"], ["etc", "passwd"], ["etc", "hosts"],
    ["etc", "hostname"], ["bin", "sh"]]
  ⟨home, folders.map (·, .directory) ++ files.map (·, .file)⟩

/-- Makes something of a kind in the folder at hand, and the folders on the way there. -/
def put (f : Files) (path : String) (kind : FileKind) : Files :=
  let parts := ((Text.split '/' path.toList).map String.ofList).filter fun part =>
    part ≠ "" && part ≠ "."
  let folders := (List.range parts.length).tail.map fun count =>
    (f.home ++ parts.take count, FileKind.directory)
  { f with entries := f.entries ++ (f.home ++ parts, kind) :: folders }

/-- Goes from a place to the next one. -/
def enter (f : Files) (place : Place) (part : String) : Except SystemError Place :=
  if f.kind? place ≠ some .directory then .error .notDirectory
  else if part = "" ∨ part = "." then .ok place
  else if part = ".." then .ok place.dropLast
  else if (f.kind? (place ++ [part])).isSome then .ok (place ++ [part])
  else .error .noSuchFile

/-- The place that a path leads to. -/
def locate (f : Files) (path : String) : Except SystemError Place :=
  let parts := (Text.split '/' path.toList).map String.ofList
  match path.toList with
  | [] => .error .noSuchFile
  | '/' :: _ => parts.foldlM f.enter []
  | _ => parts.foldlM f.enter f.home

/-- What a path leads to. -/
def look (f : Files) (path : String) : Except SystemError FileKind := do
  match f.kind? (← f.locate path) with
  | some kind => .ok kind
  | none => .error .noSuchFile

/-- The connection to whoever listens at a path; everything else refuses. An empty path is no
address, and neither is one with a null. -/
def accept (f : Files) (listeners : List (Place × Link)) (path : String) :
    Except SystemError Link := do
  if path = "" then .error .invalidArgument
  else if path.toList.contains '\x00' then .error .nullInPath
  else
    match listeners.lookup (← f.locate path) with
    | some link => .ok link
    | none => .error .connectionRefused

end Files

end SensorClient
