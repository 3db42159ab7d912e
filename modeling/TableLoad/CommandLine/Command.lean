import TableLoad.CommandLine.Arguments
import TableLoad.Engine.State
import TableLoad.Load

/-!
# Commands

The program loads files, resolves paths and inspects batch files.
-/

set_option autoImplicit false

namespace TableLoad.CommandLine

inductive Command
  /-- The format and the names of the request are still to be read. -/
  | load (request : LoadRequest) (format names : Option String) (quiet : Bool)
  | resolve (path catalog database : String)
  | inspect (file : String) (limit : Nat)

def defaultLimit : Nat := 20

def loadForm : CommandForm :=
  { name := "load"
    about := "Infer a schema for a file, convert its rows and load them into a table"
    argument := "SOURCE"
    argumentKind := .path
    argumentAbout := "Path to the source file"
    parameters :=
      [ .option "format" (some 'f') .text
          ("File format (csv, tsv, json, parquet) - " ++
            "auto-detected from extension if not specified") none,
        .option "names" (some 'n') .text
          "Field names replacing the inferred ones (format: a,b,c)" none,
        .flag "no-verify" none "Skip verifying records against a supplied schema",
        .flag "no-header" none "Treat the first line of a delimited file as data",
        .option "view" none .text
          "Register the table as a temporary view at this path" none,
        .option "catalog" none .text
          "Catalog to switch the session to before loading" none,
        .option "database" none .text
          "Database to switch the session to before loading" none,
        .option "output" (some 'o') .path
          "Write the loaded rows to this batch file" none,
        .flag "quiet" (some 'q') "Quiet mode - minimal output, only show summary" ] }

def resolveForm : CommandForm :=
  { name := "resolve"
    about := "Resolve an object path against a current catalog and database"
    argument := "PATH"
    argumentKind := .text
    argumentAbout := ""
    parameters :=
      [ .option "catalog" none .text "" (some Engine.defaultCatalog),
        .option "database" none .text "" (some Engine.defaultDatabase) ] }

def inspectForm : CommandForm :=
  { name := "inspect"
    about := "Print the schema and rows of a batch file"
    argument := "FILE"
    argumentKind := .path
    argumentAbout := ""
    parameters :=
      [ .option "limit" (some 'l') .count "Maximum number of rows to print"
          (some (String.ofList (Digits.ofNat defaultLimit))) ] }

def forms : List CommandForm := [loadForm, resolveForm, inspectForm]

/-! ## Reading commands -/

def readLoad (arguments : List String) : Except Stop Command := do
  let (source, options) ← loadForm.read arguments
  let isGiven (name : String) : Bool := (options.lookup name).isSome
  let request : LoadRequest :=
    { LoadRequest.ofSource source with
      verify := !isGiven "no-verify"
      hasHeader := !isGiven "no-header"
      view := options.lookup "view"
      catalog := options.lookup "catalog"
      database := options.lookup "database"
      output := options.lookup "output" }
  return .load request (options.lookup "format") (options.lookup "names") (isGiven "quiet")

def readResolve (arguments : List String) : Except Stop Command := do
  let (path, options) ← resolveForm.read arguments
  return .resolve path ((options.lookup "catalog").getD Engine.defaultCatalog)
    ((options.lookup "database").getD Engine.defaultDatabase)

def readInspect (arguments : List String) : Except Stop Command := do
  let (file, options) ← inspectForm.read arguments
  return .inspect file (((options.lookup "limit").bind count?).getD defaultLimit)

inductive Topic
  | program
  | command (form : CommandForm)
  | help
deriving DecidableEq, Repr

/-- What the arguments of the program ask for: a command, or a text about the
program or one of its commands. -/
inductive Wish
  | command (command : Command)
  | help (topic : Topic)
  | version
  | misuse

def Wish.ofCommand (form : CommandForm) : Except Stop Command → Wish
  | .ok read => .command read
  | .error .help => .help (.command form)
  | .error .version => .version
  | .error .misuse => .misuse

def Wish.ofLetters : List Char → Wish
  | 'h' :: _ => .help .program
  | 'V' :: _ => .version
  | _ => .misuse

def Wish.ofTopic : List String → Wish
  | [] => .help .program
  | ["help"] => .help .help
  | [name] =>
    match forms.find? fun form => form.name == name with
    | some form => .help (.command form)
    | none => .misuse
  | _ => .misuse

def Wish.ofArguments : List String → Wish
  | [] => .misuse
  | "load" :: rest => .ofCommand loadForm (readLoad rest)
  | "resolve" :: rest => .ofCommand resolveForm (readResolve rest)
  | "inspect" :: rest => .ofCommand inspectForm (readInspect rest)
  | "help" :: rest => .ofTopic rest
  | "--help" :: _ => .help .program
  | "--version" :: _ => .version
  | argument :: _ =>
    match argument.toList with
    | '-' :: letters => .ofLetters letters
    | _ => .misuse

end TableLoad.CommandLine
