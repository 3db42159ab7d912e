import TableLoad.Frame.Cell
import TableLoad.Storage.Place

/-!
# Files

The files and directories that a load reads from and writes to.
-/

set_option autoImplicit false

namespace TableLoad

namespace Storage

inductive Content
  | bytes (bytes : List UInt8)
  | columns (frame : Frame)

inductive Entry
  | file (content : Content)
  | directory

end Storage

open Storage

structure Folder where
  entries : List (Place × Entry)

namespace Folder

def empty : Folder := ⟨[]⟩

def rootDirectories : List Place :=
  ["dev", "etc", "home", "proc", "sys", "tmp", "usr", "var"].map fun name =>
    { rooted := true, names := [name] }

def nullDevice : Place :=
  { rooted := true, names := ["dev", "null"] }

/-- What stands at a place on its own account.  The root, the working directory
and all above it are directories. -/
def standing? (place : Place) : Option Entry :=
  if place.isAbove ∨ place ∈ rootDirectories then some .directory
  else if place = nullDevice then some (.file (.bytes []))
  else none

def entry? (folder : Folder) (place : Place) : Option Entry :=
  (folder.entries.lookup place).or (standing? place)

/-- Follows names from a place on; only directories can be passed through. -/
def walk (folder : Folder) : Place → List String → Option Place
  | place, [] => some place
  | place, name :: rest =>
    match folder.entry? place with
    | some .directory => folder.walk (place.step name) rest
    | _ => none

def place? (folder : Folder) (path : String) : Option Place :=
  if isPath path then folder.walk (.origin path) (pathSteps path) else none

def find? (folder : Folder) (path : String) : Option Entry := do
  folder.entry? (← folder.place? path)

def put (folder : Folder) (place : Place) (entry : Entry) : Folder :=
  ⟨(place, entry) :: folder.entries.filter fun held => held.1 ≠ place⟩

/-- Creates or replaces a file.  Its directory must exist, and no directory may
be at its place. -/
def write? (folder : Folder) (path : String) (bytes : List UInt8) : Option Folder := do
  let place ← folder.place? path
  match folder.entry? place with
  | some .directory => none
  | _ =>
    return if place = nullDevice then folder else folder.put place (.file (.bytes bytes))

def plant (folder : Folder) (path : String) (entry : Entry) : Folder :=
  let rec along (folder : Folder) (place : Place) : List String → Folder
    | [] => folder.put place entry
    | name :: rest =>
      match folder.entry? place with
      | some .directory => along folder (place.step name) rest
      | _ => along (folder.put place .directory) (place.step name) rest
  along folder (.origin path) (pathSteps path)

end Folder

end TableLoad
