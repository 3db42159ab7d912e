import TableLoad.Text.Hex
import TableLoad.Unicode.Printable

/-!
# Quoted names

Names inside messages are quoted so that every character can be seen: quotes
and backslashes are escaped, and a character that cannot be printed is written
by its code point.
-/

set_option autoImplicit false

namespace TableLoad.Quoted

def escape (c : Char) : List Char :=
  if c = '\x00' then ['\\', '0']
  else if c = '\t' then ['\\', 't']
  else if c = '\n' then ['\\', 'n']
  else if c = '\r' then ['\\', 'r']
  else if c = '"' then ['\\', '"']
  else if c = '\\' then ['\\', '\\']
  else if Unicode.isPrintable c then [c]
  else ['\\', 'u', '\x7b'] ++ Hex.ofNat c.toNat ++ ['\x7d']

def text (name : String) : String :=
  String.ofList ('"' :: name.toList.flatMap escape ++ ['"'])

def texts (names : List String) : String :=
  "[" ++ String.intercalate ", " (names.map text) ++ "]"

end TableLoad.Quoted
