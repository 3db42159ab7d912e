import TableLoad.Unicode.Ranges

/-!
# White space

The Unicode property `White_Space`, and trimming of text by it.
-/

set_option autoImplicit false

namespace TableLoad.Unicode

def whiteSpace : Ranges :=
  [(0x9, 0xd), (0x20, 0x20), (0x85, 0x85), (0xa0, 0xa0), (0x1680, 0x1680), (0x2000, 0x200a),
   (0x2028, 0x2029), (0x202f, 0x202f), (0x205f, 0x205f), (0x3000, 0x3000)]

def isWhiteSpace (c : Char) : Bool :=
  whiteSpace.has c

def trimStart (text : List Char) : List Char :=
  text.dropWhile isWhiteSpace

def trimEnd (text : List Char) : List Char :=
  (text.reverse.dropWhile isWhiteSpace).reverse

def trim (text : List Char) : List Char :=
  trimEnd (trimStart text)

def trimString (text : String) : String :=
  String.ofList (trim text.toList)

end TableLoad.Unicode
