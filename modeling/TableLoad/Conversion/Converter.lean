import TableLoad.Conversion.Convert
import TableLoad.Conversion.Verify

/-!
# Converters

A converter turns the elements of one collection into rows of one schema.  It
verifies elements only when the types come from the caller: inferred types fit
the elements they were inferred from.
-/

set_option autoImplicit false

namespace TableLoad

/-- How the elements of a collection become rows. -/
structure Converter where
  schema : Schema
  /-- The names that values of named records are found under, one a column. -/
  lookupNames : List String
  /-- Elements are verified before they are converted. -/
  verifies : Bool
  /-- Elements are single values, so named records are refused. -/
  scalar : Bool

namespace Converter

def ofSchema (schema : Schema) (verifies : Bool) : Converter :=
  { schema, lookupNames := schema.names, verifies, scalar := false }

def notScalar (index : Nat) (record : Record) : ValidationError :=
  { record := index
    field := pathName ""
    expected := "a single value"
    actual := s!"{record.shape.text} record {record.text}" }

def verify (converter : Converter) (index : Nat) (record : Record) :
    Except ValidationError Unit :=
  verifyUnder converter.schema.fields converter.lookupNames index record

def convert (converter : Converter) (index : Nat) (record : Record) :
    Except ValidationError Row := do
  if converter.scalar && record.isNamed then
    throw (notScalar index record)
  if converter.verifies then
    converter.verify index record
  convertUnder converter.schema.fields converter.lookupNames index record

/-- The outcome of every element, numbered from zero. -/
def convertAll (converter : Converter) (records : List Record) :
    List (Except ValidationError Row) :=
  records.mapIdx converter.convert

end Converter

/-- Infers the schema of some elements, or takes it from the hint, and gives the
converter for them. -/
def converterFor (records : List Record) (hint : Option Hint) (verify : Bool) :
    Except InferenceError Converter := do
  let schema ← inferSchema records hint
  match hint with
  | some (.schema _) => return .ofSchema schema verify
  | some (.scalar _) => return { Converter.ofSchema schema verify with scalar := true }
  | some (.names _) =>
    let converter := Converter.ofSchema schema false
    match records.head?.bind Record.names? with
    | some names => return { converter with lookupNames := names }
    | none => return converter
  | none => return .ofSchema schema false

end TableLoad
