import TableLoad.CommandLine.Help
import TableLoad.Inspection
import TableLoad.Unicode.WhiteSpace

/-!
# Outcomes of commands

Carries out a command and says what the program prints and how it ends.
-/

set_option autoImplicit false

namespace TableLoad.CommandLine

inductive CommandError
  | format (text : String)
  /-- A name in a list of names is empty; positions count from one. -/
  | emptyName (position : Nat) (names : String)
  | path (error : Path.Error)
  | load (error : LoadError)
  | inspection (error : InspectionError)

def CommandError.message : CommandError → String
  | .format text => Source.Format.unsupportedMessage text
  | .emptyName position names =>
    s!"Field name {position} is empty in '{names}'. Expected format: 'a,b,c'"
  | .path error => error.message
  | .load error => error.message
  | .inspection error => error.message

/-- Reads names between commas; white space around a name is no part of it. -/
def readNames (text : String) : Except CommandError (List String) :=
  let names := (splitText ',' text).map Unicode.trimString
  match names.findIdx? (· == "") with
  | some position => .error (.emptyName (position + 1) text)
  | none => .ok names

def readFormat (text : String) : Except CommandError Source.Format :=
  match Source.Format.parse? text with
  | some format => .ok format
  | none => .error (.format text)

inductive Report
  | resolved (path : ObjectPath)
  | inspected (schema : Schema) (rows : List Row) (limit : Nat)
  | loaded (summary : LoadSummary)

def underline : String := "============"

def secondsText (milliseconds : Nat) : String :=
  let hundredths := (milliseconds + 5) / 10
  String.ofList
    (Digits.ofNat (hundredths / 100) ++ '.' :: Digits.padded 2 (hundredths % 100))

def summaryLines (summary : LoadSummary) (milliseconds : Nat) : List String :=
  let view := summary.view.map fun path => s!"View: {path.text}"
  let output := summary.output.map fun path => s!"Batch file: {path}"
  [ "",
    "Load Summary",
    underline,
    s!"Table ID: {summary.table.id.text}",
    s!"Schema: {summary.table.schema.text}",
    s!"Rows loaded: {summary.rowsLoaded}" ] ++
  view.toList ++ output.toList ++
  [s!"Duration: {secondsText milliseconds}s"]

def inspectionLines (schema : Schema) (rows : List Row) (limit : Nat) : List String :=
  let more := rows.length - limit
  [ s!"Schema: {schema.text}",
    s!"Rows: {rows.length}" ] ++
  (rows.take limit).map Row.text ++
  if limit < rows.length then [s!"... {more} more"] else []

def Report.lines (report : Report) (milliseconds : Nat) : List String :=
  match report with
  | .resolved path => [path.text]
  | .inspected schema rows limit => inspectionLines schema rows limit
  | .loaded summary => summaryLines summary milliseconds

def bannerLines (load : LoadRequest) : List String :=
  [ "Table Bridge",
    underline,
    s!"Source: {load.source}" ] ++
  (load.view.map fun view => s!"View: {view}").toList ++
  [""]

/-- How a command went: the lines before its result, and the result. -/
structure Outcome where
  banner : List String
  result : Except CommandError Report

def completeLoad (load : LoadRequest) (format names : Option String) :
    Except CommandError LoadRequest := do
  let format ← format.mapM readFormat
  let names ← names.mapM readNames
  return { load with format, names }

namespace Command

def run (command : Command) (disk : Disk) : Outcome × Disk :=
  match command with
  | .load request format names quiet =>
    match completeLoad request format names with
    | .error error => ({ banner := [], result := .error error }, disk)
    | .ok request =>
      let ((loaded, disk), _) := request.run disk
      let result := (loaded.mapError .load).map .loaded
      ({ banner := if quiet then [] else bannerLines request, result }, disk)
  | .resolve path catalog database =>
    let resolved := ObjectPath.ofText path catalog database
    ({ banner := [], result := (resolved.mapError .path).map .resolved }, disk)
  | .inspect file limit =>
    let inspected := inspectBatchFile disk.folder file
    let result := (inspected.mapError .inspection).map fun (schema, rows) =>
      .inspected schema rows limit
    ({ banner := [], result }, disk)

def files : Command → List String
  | .load request _ _ _ => request.source :: request.output.toList
  | .resolve _ _ _ => []
  | .inspect file _ => [file]

end Command

/-- How the program ends: what it prints, what it says about a failure, and its
exit code. -/
structure Ending where
  lines : List String
  error : Option String
  code : UInt8
deriving DecidableEq, Repr

namespace Ending

def well (lines : List String) : Ending :=
  { lines, error := none, code := 0 }

def misuse : Ending :=
  { lines := [], error := some s!"Usage: {programName} <COMMAND>", code := 2 }

def ofOutcome (outcome : Outcome) (milliseconds : Nat) : Ending :=
  match outcome.result with
  | .ok report => .well (outcome.banner ++ report.lines milliseconds)
  | .error error =>
    { lines := outcome.banner, error := some s!"Error: {error.message}", code := 1 }

end Ending

namespace Wish

def files : Wish → List String
  | .command wanted => wanted.files
  | _ => []

/-- Does what the arguments ask for.  The ending may state the time that this
took in milliseconds. -/
def run (wish : Wish) (disk : Disk) : (Nat → Ending) × Disk :=
  match wish with
  | .command wanted =>
    let (outcome, disk) := wanted.run disk
    (.ofOutcome outcome, disk)
  | .help topic => (fun _ => .well topic.helpLines, disk)
  | .version => (fun _ => .well [versionLine], disk)
  | .misuse => (fun _ => .misuse, disk)

end Wish

end TableLoad.CommandLine
