import TableLoad.Text.Digits
import TableLoad.Text.Split

/-!
# Command-line arguments

A command takes one value and options.  An option is written `--name value`,
`--name=value`, `-n value`, `-nvalue` or `-n=value`, a flag without a value, and
the letters of flags may be joined.  After `--` nothing is an option any more.
Arguments are read from left to right, and what is wrong first is what counts.
-/

set_option autoImplicit false

namespace TableLoad.CommandLine

inductive Kind
  | text
  /-- A file path, which is not empty. -/
  | path
  /-- A whole number below 2⁶⁴. -/
  | count
deriving DecidableEq, Repr

structure Parameter where
  name : String
  letter : Option Char
  value : Option Kind
  about : String
  /-- The value of an option that is not given. -/
  byDefault : Option String
deriving DecidableEq, Repr

namespace Parameter

def flag (name : String) (letter : Option Char) (about : String) : Parameter :=
  { name, letter, value := none, about, byDefault := none }

def option (name : String) (letter : Option Char) (kind : Kind) (about : String)
    (byDefault : Option String) : Parameter :=
  { name, letter, value := some kind, about, byDefault }

end Parameter

/-- A command: the value it takes and its options. -/
structure CommandForm where
  name : String
  about : String
  argument : String
  argumentKind : Kind
  argumentAbout : String
  parameters : List Parameter
deriving DecidableEq, Repr

inductive Stop
  | misuse
  | help
  | version
deriving DecidableEq, Repr

structure Given where
  values : List String
  options : List (String × String)
  /-- The option whose value must come next. -/
  awaiting : Option Parameter
  /-- Nothing is an option any more. -/
  closed : Bool
deriving DecidableEq, Repr

/-- A number below 2⁶⁴, written in digits, perhaps after a plus sign. -/
def count? (text : String) : Option Nat :=
  let digits :=
    match text.toList with
    | '+' :: digits => digits
    | digits => digits
  let n := Digits.value 0 digits
  if digits ≠ [] ∧ digits.all Digits.isDigit ∧ n < Nat.pow 2 64 then some n else none

def Kind.admits (kind : Kind) (value : String) : Bool :=
  match kind with
  | .text => true
  | .path => value != ""
  | .count => (count? value).isSome

namespace Given

def nothing : Given :=
  { values := [], options := [], awaiting := none, closed := false }

def has (given : Given) (name : String) : Bool :=
  (given.options.lookup name).isSome

def take (given : Given) (parameter : Parameter) (value : String) : Except Stop Given :=
  if given.has parameter.name then .error .misuse
  else if (parameter.value.map fun kind => kind.admits value).getD true then
    .ok { given with options := (parameter.name, value) :: given.options, awaiting := none }
  else .error .misuse

end Given

namespace CommandForm

def takeArgument (form : CommandForm) (given : Given) (value : String) : Except Stop Given :=
  if given.values.isEmpty && form.argumentKind.admits value then
    .ok { given with values := [value] }
  else .error .misuse

def takeLong (form : CommandForm) (given : Given) (written : List Char) : Except Stop Given :=
  let name := String.ofList (written.takeWhile (· != '='))
  let attached :=
    match written.dropWhile (· != '=') with
    | [] => none
    | _ :: value => some (String.ofList value)
  if name = "help" then .error (if attached.isNone then .help else .misuse)
  else
    match form.parameters.find? fun parameter => parameter.name == name with
    | none => .error .misuse
    | some parameter =>
      match parameter.value, attached with
      | none, none => given.take parameter ""
      | none, some _ => .error .misuse
      | some _, some value => given.take parameter value
      | some _, none =>
        if given.has name then .error .misuse else .ok { given with awaiting := some parameter }

/-- The value of an option right after its letter. -/
def attachedValue : List Char → String
  | '=' :: value => String.ofList value
  | value => String.ofList value

/-- Reads the letters after one dash, up to an option with a value. -/
def takeLetters (form : CommandForm) (given : Given) : List Char → Except Stop Given
  | [] => .ok given
  | 'h' :: _ => .error .help
  | letter :: rest =>
    match form.parameters.find? fun parameter => parameter.letter == some letter with
    | none => .error .misuse
    | some parameter =>
      if parameter.value.isNone then do
        let given ← given.take parameter ""
        form.takeLetters given rest
      else if rest.isEmpty then
        if given.has parameter.name then .error .misuse
        else .ok { given with awaiting := some parameter }
      else given.take parameter (attachedValue rest)

def takeFresh (form : CommandForm) (given : Given) (argument : String) : Except Stop Given :=
  match argument.toList with
  | ['-', '-'] => .ok { given with closed := true }
  | '-' :: '-' :: written => form.takeLong given written
  | '-' :: letter :: rest => form.takeLetters given (letter :: rest)
  | _ => form.takeArgument given argument

def looksLikeOption (argument : String) : Bool :=
  argument != "-" && argument.toList.head? == some '-'

def takeArgumentText (form : CommandForm) (given : Given) (argument : String) :
    Except Stop Given :=
  if given.closed then form.takeArgument given argument
  else
    match given.awaiting with
    | none => form.takeFresh given argument
    | some parameter =>
      if looksLikeOption argument then .error .misuse else given.take parameter argument

def takeAll (form : CommandForm) : Given → List String → Except Stop Given
  | given, [] => .ok given
  | given, argument :: rest => do
    let given ← form.takeArgumentText given argument
    form.takeAll given rest

def read (form : CommandForm) (arguments : List String) :
    Except Stop (String × List (String × String)) := do
  let given ← form.takeAll .nothing arguments
  match given.awaiting, given.values with
  | none, [value] => return (value, given.options)
  | _, _ => throw .misuse

end CommandForm

end TableLoad.CommandLine
