/-!
# Splitting text

The parts of a text between separators.
-/

set_option autoImplicit false

namespace TableLoad

/-- The parts between separators, empty ones included.  `part` is the part read so
far, newest first. -/
def splitFrom (separator : Char) : (part : List Char) → List Char → List (List Char)
  | part, [] => [part.reverse]
  | part, c :: rest =>
    if c = separator then part.reverse :: splitFrom separator [] rest
    else splitFrom separator (c :: part) rest

def splitText (separator : Char) (text : String) : List String :=
  (splitFrom separator [] text.toList).map String.ofList

end TableLoad
