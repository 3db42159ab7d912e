import TableLoad.Calendar.Text
import TableLoad.Number.Shortest
import TableLoad.Text.Hex
import TableLoad.Value.Basic

/-!
# Text of values, records and rows

The listing form of values: lists in brackets, maps in braces with `=` between
key and value, mappings in braces with `:`, rows by name.
-/

set_option autoImplicit false

namespace TableLoad

def commaSeparated (texts : List String) : String :=
  String.intercalate ", " texts

mutual

def Value.text : Value → String
  | .null => "NULL"
  | .bool b => if b then "true" else "false"
  | .int n => String.ofList (Digits.ofInt n.toInt)
  | .long n => String.ofList (Digits.ofInt n.toInt)
  | .float x => x.text
  | .double x => x.text
  | .decimal d => String.ofList d.text
  | .string text => text
  | .bytes content => "x'" ++ String.ofList (Hex.ofBytes content) ++ "'"
  | .date d => String.ofList d.text
  | .time t => String.ofList t.text
  | .timestamp t => String.ofList t.text
  | .duration d => String.ofList d.text
  | .list items => "[" ++ commaSeparated (itemTexts items) ++ "]"
  | .map entries => "\x7b" ++ commaSeparated (pairTexts entries) ++ "\x7d"
  | .record r => r.text

def Record.text : Record → String
  | .positional .tuple items => "(" ++ commaSeparated (itemTexts items) ++ ")"
  | .positional .sequence items => "[" ++ commaSeparated (itemTexts items) ++ "]"
  | .positional .row items => "Row(" ++ commaSeparated (itemTexts items) ++ ")"
  | .named .mapping entries => "\x7b" ++ commaSeparated (entryTexts ": " entries) ++ "\x7d"
  | .named .row entries => "Row(" ++ commaSeparated (entryTexts "=" entries) ++ ")"

def itemTexts : List Value → List String
  | [] => []
  | v :: rest => v.text :: itemTexts rest

def pairTexts : List (Value × Value) → List String
  | [] => []
  | (k, v) :: rest => (k.text ++ "=" ++ v.text) :: pairTexts rest

def entryTexts (between : String) : List (String × Value) → List String
  | [] => []
  | (name, v) :: rest => (name ++ between ++ v.text) :: entryTexts between rest

end

def Row.text (row : Row) : String :=
  "+I[" ++ commaSeparated (itemTexts row) ++ "]"

def Value.describe : Value → String
  | .null => "NULL"
  | .list items => s!"ARRAY of {items.length} elements"
  | .map entries => s!"MAP of {entries.length} entries"
  | .record r => s!"ROW of {r.arity} fields"
  | .string _ => "STRING"
  | .bytes _ => "BYTES"
  | other => other.kindName ++ " " ++ other.text

end TableLoad
