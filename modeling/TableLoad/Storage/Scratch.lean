import TableLoad.Batch.Writer

/-!
# Scratch directories

Batches on their way to an engine are files in directories of their own, which
live as long as the load that made them.
-/

set_option autoImplicit false

namespace TableLoad

/-- The directories made for batches, each with the content of its batch file
once that is written. -/
structure Scratch where
  /-- Directories can be made at all. -/
  available : Bool
  directories : List (Nat × Option (List UInt8))
  /-- Directories made so far; they are numbered in order. -/
  made : Nat
deriving DecidableEq, Repr

namespace Scratch

def fileName : String := "elements.tbrb"

def empty : Scratch :=
  { available := true, directories := [], made := 0 }

def missing : Scratch :=
  { empty with available := false }

def make (scratch : Scratch) : Except Batch.Error Nat × Scratch :=
  if scratch.available then
    (.ok scratch.made,
      { scratch with
        directories := (scratch.made, none) :: scratch.directories
        made := scratch.made + 1 })
  else (.error .noScratchDirectory, scratch)

def content? (scratch : Scratch) (directory : Nat) : Option (List UInt8) :=
  (scratch.directories.lookup directory).join

def write (scratch : Scratch) (directory : Nat) (bytes : List UInt8) : Scratch :=
  { scratch with
    directories := scratch.directories.map fun held =>
      if held.1 = directory then (directory, some bytes) else held }

def remove (scratch : Scratch) (directory : Nat) : Scratch :=
  { scratch with
    directories := scratch.directories.filter fun held => held.1 ≠ directory }

end Scratch

end TableLoad
