import TableLoad.CommandLine.Command

/-!
# Help

The texts about the program and its commands.
-/

set_option autoImplicit false

namespace TableLoad.CommandLine

def programName : String := "table-bridge"

def programVersion : String := "0.1.0"

def versionLine : String := s!"{programName} {programVersion}"

def columns (lines : List (String × String)) : List String :=
  let width := (lines.map fun line => line.1.length).foldl max 0
  lines.map fun (left, right) =>
    String.ofList
      (' ' :: ' ' :: left.toList ++ List.replicate (width - left.length) ' ' ++
        ' ' :: ' ' :: right.toList)

namespace Parameter

def placeholder (parameter : Parameter) : String :=
  String.ofList (parameter.name.toList.map Char.toUpper)

def usage (parameter : Parameter) : String :=
  let letter :=
    match parameter.letter with
    | some c => String.ofList ['-', c, ',', ' ']
    | none => "    "
  let value := if parameter.value.isSome then s!" <{parameter.placeholder}>" else ""
  letter ++ "--" ++ parameter.name ++ value

def purpose (parameter : Parameter) : String :=
  match parameter.byDefault with
  | none => parameter.about
  | some value =>
    let note := s!"[default: {value}]"
    if parameter.about = "" then note else parameter.about ++ " " ++ note

end Parameter

def CommandForm.helpLines (form : CommandForm) : List String :=
  [ form.about,
    "",
    s!"Usage: {programName} {form.name} [OPTIONS] <{form.argument}>",
    "",
    "Arguments:" ] ++
  columns [(s!"<{form.argument}>", form.argumentAbout)] ++
  [ "",
    "Options:" ] ++
  columns (form.parameters.map (fun parameter => (parameter.usage, parameter.purpose)) ++
    [("-h, --help", "Print help")])

def helpAbout : String := "Print this message or the help of the given subcommand(s)"

/-- The help for the help, which takes the names of commands and no options. -/
def helpHelpLines : List String :=
  [ helpAbout,
    "",
    s!"Usage: {programName} help [COMMAND]...",
    "",
    "Arguments:" ] ++
  columns [("[COMMAND]...", "Print help for the subcommand(s)")]

def programHelpLines : List String :=
  [ s!"Usage: {programName} <COMMAND>",
    "",
    "Commands:" ] ++
  columns (forms.map (fun form => (form.name, form.about)) ++
    [("help", helpAbout)]) ++
  [ "",
    "Options:" ] ++
  columns [("-h, --help", "Print help"), ("-V, --version", "Print version")]

def Topic.helpLines : Topic → List String
  | .program => programHelpLines
  | .command form => form.helpLines
  | .help => helpHelpLines

end TableLoad.CommandLine
