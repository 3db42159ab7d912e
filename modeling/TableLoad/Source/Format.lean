import TableLoad.Text.Split

/-!
# Source formats

The formats of source files, by name and by file extension.  Case is ignored;
only ASCII letters have lower-case forms that occur in the names.
-/

set_option autoImplicit false

namespace TableLoad.Source

inductive Format
  | csv
  | tsv
  | json
  | parquet
deriving DecidableEq, Repr

namespace Format

def ofName? (name : String) : Option Format :=
  if name = "csv" then some .csv
  else if name = "tsv" then some .tsv
  else if name = "json" ∨ name = "jsonl" ∨ name = "ndjson" then some .json
  else if name = "parquet" then some .parquet
  else none

def lower (text : List Char) : String :=
  String.ofList (text.map Char.toLower)

def parse? (text : String) : Option Format :=
  ofName? (lower text.toList)

def unsupportedMessage (text : String) : String :=
  s!"Unsupported format: {text}. Supported formats: csv, tsv, json, parquet"

/-- The last name in a path that names something; a step upwards names
nothing. -/
def fileName? (path : List Char) : Option (List Char) :=
  match (splitFrom '/' [] path).filter fun name => name != [] && name != ['.'] with
  | [] => none
  | first :: rest =>
    let name := rest.getLastD first
    if name = ['.', '.'] then none else some name

/-- What follows the last dot of a file name, unless the dot is its first
character. -/
def extension? (name : List Char) : Option (List Char) :=
  let reversed := name.reverse
  let extension := reversed.takeWhile (· != '.')
  match reversed.drop extension.length with
  | [] => none
  | [_] => none
  | _ :: _ :: _ => some extension.reverse

def detect? (path : String) : Option Format := do
  let name ← fileName? path.toList
  let extension ← extension? name
  ofName? (lower extension)

end Format

end TableLoad.Source
