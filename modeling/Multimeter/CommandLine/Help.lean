import Multimeter.CommandLine.Basic
import Multimeter.Text.Terminal
import Multimeter.Text.Unprintable

/-!
# Help texts

The summary has a line for each option; the full text has a paragraph. The names of options are in
bold type. A default that contains white space is shown in quotes.
-/

namespace Multimeter.CommandLine

def programName : String := "victor-daemon"

def version : String := "0.1.0"

/-- What a character is written as between quotes. -/
def quotedChar (c : Char) : String :=
  if c = '\x22' then "\\\""
  else if c = '\x5c' then "\\\\"
  else if c = '\t' then "\\t"
  else if c = '\n' then "\\n"
  else if c = '\r' then "\\r"
  else if c = '\x00' then "\\0"
  else if Text.isUnprintable c then
    "\\u\x7b" ++ String.ofList (Nat.toDigits 16 c.toNat) ++ "\x7d"
  else c.toString

def quoted (s : String) : String := "\"" ++ String.join (s.toList.map quotedChar) ++ "\""

def shownDefault (s : String) : String := if s.toList.any Text.isBlank then quoted s else s

structure HelpEntry where
  /-- The option with its placeholder. -/
  left : String
  summary : String
  /-- What the full text says in place of the summary. -/
  full : String
  /-- The values to choose from, with what they mean. -/
  choices : List (String × String) := []
  default? : Option String := none

def parameterEntry (p : Parameter) (description : String) : HelpEntry :=
  { left := "      " ++ Text.bold s!"--{p.name}" ++ s!" <{p.placeholder}>"
    summary := description
    full := description }

def entries (settings : Path) : List HelpEntry :=
  [{ parameterEntry .logLevel "Minimum log level to print out" with
      choices := Verbosity.table.map fun (name, _, meaning) => (name, meaning)
      default? := some "info" },
    { parameterEntry .config "Location of the daemon configuration file on disk" with
      default? := some (shownDefault settings.text) },
    { left := "      " ++ Text.bold listFlag
      summary := "List attached meters and exit"
      full := "List attached meters and exit" },
    parameterEntry .device
      "Which meter to read from, as bus:address (defaults to the first one found)",
    parameterEntry .limitMsec "Stop after this many milliseconds (0 for no limit)",
    parameterEntry .limitSamples "Stop after this many samples (0 for no limit)",
    { left := "  " ++ Text.bold "-h" ++ ", " ++ Text.bold "--help"
      summary := "Print help (see more with '--help')"
      full := "Print help (see a summary with '-h')" },
    { left := "  " ++ Text.bold "-V" ++ ", " ++ Text.bold "--version"
      summary := "Print version"
      full := "Print version" }]

/-- How many columns a text takes. -/
def columns (s : String) : Nat := (Text.plain s).length

def padTo (width : Nat) (s : String) : String :=
  s ++ String.ofList (List.replicate (width - columns s) ' ')

def widest (ss : List String) : Nat := ss.foldl (fun w s => Nat.max w (columns s)) 0

/-- The line of an option in the summary. -/
def HelpEntry.line (width : Nat) (e : HelpEntry) : String :=
  let default := match e.default? with
    | none => ""
    | some d => s!" [default: {d}]"
  let choices := if e.choices.isEmpty then "" else
    " [possible values: " ++ ", ".intercalate (e.choices.map (·.1)) ++ "]"
  padTo width e.left ++ "  " ++ e.summary ++ default ++ choices

def indent (s : String) : String := "          " ++ s

/-- The paragraph of an option in the full text. -/
def HelpEntry.paragraph (e : HelpEntry) : List String :=
  let width := widest (e.choices.map (·.1)) + 1
  let choices := if e.choices.isEmpty then [] else
    ["", indent "Possible values:"] ++
      e.choices.map fun (name, meaning) => indent ("- " ++ padTo width s!"{name}:" ++ " " ++ meaning)
  let default := match e.default? with
    | none => []
    | some d => [indent "", indent s!"[default: {d}]"]
  [e.left, indent e.full] ++ choices ++ default

def heading : List String :=
  ["Reads a Victor digital multimeter over USB, and logs its raw reports until told to stop.", "",
    s!"Usage: {programName} [OPTIONS]", "", "Options:"]

/-- The paragraphs with an empty line between them. -/
def paragraphs : List (List String) → List String
  | [] => []
  | [p] => p
  | p :: q :: ps => p ++ "" :: paragraphs (q :: ps)

def helpLines (full : Bool) (settings : Path) : List String :=
  let es := entries settings
  heading ++
    if full then paragraphs (es.map HelpEntry.paragraph)
    else es.map (HelpEntry.line (widest (es.map (·.left))))

/-- The help text as it is shown, where `settings` is the default location of the settings. A
location that holds commands to a terminal can take parts of the text away with it. -/
def helpText (full : Bool) (settings : Path) : List String :=
  (Text.plain ("\n".intercalate (helpLines full settings))).splitOn "\n"

def versionText : String := s!"{programName} {version}"

end Multimeter.CommandLine
