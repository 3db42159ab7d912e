import TableLoad.DataType.Basic

/-!
# Text of column types

The declaration of a type as it appears in messages and listings.
-/

set_option autoImplicit false

namespace TableLoad

def Atom.text : Atom → String
  | .null => "NULL"
  | .boolean => "BOOLEAN"
  | .int => "INT"
  | .bigInt => "BIGINT"
  | .float => "FLOAT"
  | .double => "DOUBLE"
  | .decimal precision scale => s!"DECIMAL({precision}, {scale})"
  | .string => "STRING"
  | .bytes => "BYTES"
  | .date => "DATE"
  | .time => "TIME"
  | .timestamp => "TIMESTAMP"
  | .interval => "INTERVAL"

namespace DataType

def nullText (nullable : Bool) : String :=
  if nullable then "" else " NOT NULL"

mutual

def text : DataType → String
  | .atom kind nullable => kind.text ++ nullText nullable
  | .array element nullable => "ARRAY<" ++ text element ++ ">" ++ nullText nullable
  | .map key value nullable =>
    "MAP<" ++ text key ++ ", " ++ text value ++ ">" ++ nullText nullable
  | .row fields nullable =>
    "ROW<" ++ String.intercalate ", " (fieldTexts fields) ++ ">" ++ nullText nullable

def fieldTexts : List (String × DataType) → List String
  | [] => []
  | (name, type) :: rest => ("`" ++ name ++ "` " ++ text type) :: fieldTexts rest

end

end DataType

end TableLoad
