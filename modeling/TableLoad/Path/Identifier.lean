import TableLoad.Unicode.Alphanumeric

/-!
# Identifiers

A name made of letters, numbers, `_` and `$` that is no keyword is written as it
is; any other name is written between backticks, each of its own backticks
doubled.
-/

set_option autoImplicit false

namespace TableLoad.Path

/-- Words that are no identifiers in either case. -/
def keywords : List String :=
  ["ALL", "ALTER", "AND", "ANY", "ARRAY", "AS", "ASC", "BETWEEN", "BIGINT", "BINARY", "BOOLEAN",
   "BOTH", "BY", "CASE", "CAST", "CHAR", "CHECK", "COLUMN", "CONSTRAINT", "CREATE", "CROSS",
   "CURRENT", "DATABASE", "DATE", "DECIMAL", "DEFAULT", "DELETE", "DESC", "DESCRIBE", "DISTINCT",
   "DOUBLE", "DROP", "ELSE", "END", "ESCAPE", "EXCEPT", "EXISTS", "EXPLAIN", "FALSE", "FETCH",
   "FLOAT", "FOR", "FROM", "FULL", "FUNCTION", "GROUP", "HAVING", "IN", "INNER", "INSERT", "INT",
   "INTEGER", "INTERSECT", "INTERVAL", "INTO", "IS", "JOIN", "LATERAL", "LEADING", "LEFT",
   "LIKE", "LIMIT", "MAP", "MATCH", "MERGE", "MINUS", "MULTISET", "NATURAL", "NOT", "NULL",
   "OF", "OFFSET", "ON", "OR", "ORDER", "OUTER", "OVER", "PARTITION", "PRIMARY", "RANGE",
   "REFERENCES", "RIGHT", "ROW", "ROWS", "SELECT", "SET", "SHOW", "SMALLINT", "SOME", "TABLE",
   "THEN", "TIME", "TIMESTAMP", "TINYINT", "TO", "TRAILING", "TRUE", "UNION", "UNIQUE",
   "UNKNOWN", "UPDATE", "USE", "USER", "USING", "VALUES", "VARCHAR", "VIEW", "WHEN", "WHERE",
   "WINDOW", "WITH"]

/-- The ASCII letters in upper case; other characters are kept. -/
def upperAscii (name : List Char) : List Char :=
  name.map Char.toUpper

def isReserved (name : List Char) : Bool :=
  keywords.any fun keyword => keyword.toList = upperAscii name

def isIdentifierChar (c : Char) : Bool :=
  Unicode.isAlphanumeric c || c = '_' || c = '$'

/-- The name can be written without backticks. -/
def isPlain (name : List Char) : Bool :=
  !name.isEmpty && name.all isIdentifierChar && !isReserved name

def doubleBackticks : List Char → List Char
  | [] => []
  | c :: rest => if c = '`' then '`' :: '`' :: doubleBackticks rest else c :: doubleBackticks rest

def escape (name : List Char) : List Char :=
  if isPlain name then name else '`' :: doubleBackticks name ++ ['`']

end TableLoad.Path
