import TableLoad.Path.Identifier
import TableLoad.Unicode.WhiteSpace

/-!
# Paths of catalog objects

A path names an object, or a database and an object, or a catalog, a database
and an object, separated by dots.  What a path leaves out is taken from the
current catalog and database.
-/

set_option autoImplicit false

namespace TableLoad.Path

inductive Fault
  | empty
  | emptySegment
  | unterminated
  | afterBacktick (c : Char)
  | invalidCharacter (c : Char)
  | reserved (word : String)
  | tooManySegments
deriving DecidableEq, Repr

def maxSegments : Nat := 3

def Fault.message : Fault → String
  | .empty => "path is empty"
  | .emptySegment => "empty path segment"
  | .unterminated => "unterminated backtick"
  | .afterBacktick c => s!"unexpected character '{c}' after closing backtick"
  | .invalidCharacter c => s!"invalid character '{c}' in unescaped identifier"
  | .reserved word => s!"'{word}' is a reserved keyword and must be escaped with backticks"
  | .tooManySegments => s!"expected at most {maxSegments} segments"

structure Error where
  input : String
  fault : Fault
deriving DecidableEq, Repr

def Error.message (error : Error) : String :=
  s!"Invalid object path '{error.input}': {error.fault.message}"

/-! ## Segments -/

/-- The name up to the closing backtick, and what follows it. -/
def readEscaped : List Char → Except Fault (List Char × List Char)
  | [] => .error .unterminated
  | '`' :: '`' :: rest => (readEscaped rest).map fun (name, rest) => ('`' :: name, rest)
  | '`' :: rest => .ok ([], rest)
  | c :: rest => (readEscaped rest).map fun (name, rest) => (c :: name, rest)

/-- Identifier characters up to the next dot or the end, and what follows. -/
def readPlain : List Char → Except Fault (List Char × List Char)
  | [] => .ok ([], [])
  | c :: rest =>
    if c = '.' then .ok ([], c :: rest)
    else if isIdentifierChar c then
      (readPlain rest).map fun (name, rest) => (c :: name, rest)
    else .error (.invalidCharacter c)

def readSegment (text : List Char) : Except Fault (List Char × List Char) := do
  let (name, rest) ←
    match text with
    | '`' :: body => do
      let (name, rest) ← readEscaped body
      match rest with
      | [] => pure (name, rest)
      | c :: _ => if c = '.' then pure (name, rest) else throw (.afterBacktick c)
    | _ => do
      let (name, rest) ← readPlain text
      if isReserved name then throw (.reserved (String.ofList name))
      pure (name, rest)
  if name.isEmpty then throw .emptySegment
  return (name, rest)

/-- The segments of a text that may have `room` of them.  One segment too many
is read before it is refused. -/
def readSegments : (room : Nat) → List Char → Except Fault (List (List Char))
  | 0, text => do
    let _ ← readSegment text
    throw .tooManySegments
  | room + 1, text => do
    let (name, rest) ← readSegment text
    match rest with
    | [] => return [name]
    | _ :: rest => return name :: (← readSegments room rest)

/-! ## Paths -/

end TableLoad.Path

namespace TableLoad

structure WrittenPath where
  catalog : Option String
  database : Option String
  object : String
deriving DecidableEq, Repr

/-- A path without gaps. -/
structure ObjectPath where
  catalog : String
  database : String
  object : String
deriving DecidableEq, Repr

namespace WrittenPath

/-- The path of one to three segments; the last is the object. -/
def ofSegments? : List (List Char) → Option WrittenPath
  | [object] => some ⟨none, none, String.ofList object⟩
  | [database, object] => some ⟨none, some (String.ofList database), String.ofList object⟩
  | [catalog, database, object] =>
    some ⟨some (String.ofList catalog), some (String.ofList database), String.ofList object⟩
  | _ => none

def parseChars (text : List Char) : Except Path.Fault WrittenPath := do
  let trimmed := Unicode.trim text
  if trimmed.isEmpty then throw .empty
  match ofSegments? (← Path.readSegments Path.maxSegments trimmed) with
  | some path => return path
  | none => throw .tooManySegments

def parse (input : String) : Except Path.Error WrittenPath :=
  match parseChars input.toList with
  | .ok path => .ok path
  | .error fault => .error { input, fault }

def resolve (path : WrittenPath) (catalog database : String) : ObjectPath :=
  { catalog := path.catalog.getD catalog
    database := path.database.getD database
    object := path.object }

end WrittenPath

namespace ObjectPath

def chars (path : ObjectPath) : List Char :=
  Path.escape path.catalog.toList ++ '.' :: Path.escape path.database.toList ++
    '.' :: Path.escape path.object.toList

def text (path : ObjectPath) : String :=
  String.ofList path.chars

def ofText (input catalog database : String) : Except Path.Error ObjectPath := do
  return (← WrittenPath.parse input).resolve catalog database

end ObjectPath

end TableLoad
