import TableLoad.CommandLine.Outcome

/-!
# The program

Looks up the files that the arguments speak of, does what is asked for and writes
down what came of it.
-/

set_option autoImplicit false

namespace TableLoad.CommandLine

open Storage

/-- What stands at the end of a path on the disk.  What can be opened but not read
is a directory. -/
def look (path : String) : IO (Option Entry) := do
  match ← (IO.FS.Handle.mk path .read).toBaseIO with
  | .error _ => return none
  | .ok handle =>
    match ← handle.readBinToEnd.toBaseIO with
    | .error _ => return some .directory
    | .ok bytes => return some (.file (.bytes bytes.toList))

def survey (folder : Folder) (place : Place) : List String → IO Folder
  | [] => return folder
  | name :: rest => do
    let place := place.step name
    let root := if place.rooted then "/" else ""
    match ← look (root ++ "/".intercalate place.names) with
    | some entry => survey (folder.put place entry) place rest
    | none => survey folder place rest

def fileBytes? (folder : Folder) (path : String) : Option (List UInt8) :=
  match folder.find? path with
  | some (.file (.bytes bytes)) => some bytes
  | _ => none

def writeChanges (before after : Folder) : List String → IO Unit
  | [] => return
  | path :: rest => do
    match fileBytes? after path with
    | some bytes =>
      if fileBytes? before path ≠ some bytes then
        IO.FS.writeBinFile path (ByteArray.mk bytes.toArray)
    | none => pure ()
    writeChanges before after rest

def answer (arguments : List String) : IO Ending := do
  let start ← IO.monoMsNow
  let wish := Wish.ofArguments arguments
  let folder ← wish.files.foldlM
    (fun folder path => survey folder (.origin path) (pathSteps path)) Folder.empty
  let (ending, disk) := wish.run { folder, scratch := .empty }
  writeChanges folder disk.folder wish.files
  return ending ((← IO.monoMsNow) - start)

end TableLoad.CommandLine

open TableLoad.CommandLine in
def main (arguments : List String) : IO UInt32 := do
  let ending ← answer arguments
  for line in ending.lines do
    IO.println line
  if let some error := ending.error then
    IO.eprintln error
  return ending.code.toUInt32
