import TableLoad.Text.Split

/-!
# Places of files

A file path is a text of names between slashes.  It leads from the root or from
the working directory to a place.
-/

set_option autoImplicit false

namespace TableLoad.Storage

structure Place where
  /-- The way starts at the root, not at the working directory. -/
  rooted : Bool
  names : List String
deriving DecidableEq, Repr

namespace Place

/-- Only steps upwards lead to such a place, so it is always a directory. -/
def isAbove (place : Place) : Bool :=
  place.names.all (· == "..")

/-- The directory that a place lies in; the root lies in itself. -/
def parent (place : Place) : Place :=
  if place.isAbove then
    if place.rooted then place else { place with names := ".." :: place.names }
  else { place with names := place.names.dropLast }

def step (place : Place) (name : String) : Place :=
  if name = "" ∨ name = "." then place
  else if name = ".." then place.parent
  else { place with names := place.names ++ [name] }

def origin (path : String) : Place :=
  { rooted := path.startsWith "/", names := [] }

end Place

/-- The names in a path, in order; names between two slashes or at an end may be
empty. -/
def pathSteps (path : String) : List String :=
  splitText '/' path

def maxPathBytes : Nat := 4095

def maxNameBytes : Nat := 255

/-- A path that can be followed: it is not empty, holds no null character, and
neither it nor a name in it is too long. -/
def isPath (path : String) : Bool :=
  path ≠ "" && path.toList.all (· ≠ '\x00') && path.utf8ByteSize ≤ maxPathBytes &&
    (pathSteps path).all fun name => name.utf8ByteSize ≤ maxNameBytes

end TableLoad.Storage
