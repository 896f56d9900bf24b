import Benchtop.CommandLine.Command

/-!
# Help and version

The texts that the program shows about itself: of the whole, of one command, and of the command
`help`.
-/

namespace Benchtop.CommandLine

/-- Lines, each with a line end. -/
def textOf (lines : List String) : String := String.join (lines.map (· ++ "\n"))

def versionText : String := textOf ["usbtmc-cli 0.1.0"]

/-- A name in a column of its own, and what it stands for. -/
def column (width : Nat) (name about : String) : String :=
  "  " ++ name ++ String.ofList (List.replicate (width - name.length) ' ') ++ "  " ++ about

/-- A line on an option, with its short form if it has one. -/
def optionLine (short : Option Char) (long about : String) : String :=
  let short := match short with
    | some c => String.ofList ['-', c, ',', ' ']
    | none => "    "
  column 29 (short ++ "--" ++ long) about

def helpAbout : String := "Print this message or the help of the given subcommand(s)"

/-- The lines on the options; `rawAbout` and `hasVersion` tell of those that not all help texts
show. -/
def optionLines (rawAbout : Option String) (hasVersion : Bool) : List String :=
  ["Options:", optionLine none "config <CONFIG>" "Session configuration (TOML)"] ++
    (match rawAbout with
      | some about => [optionLine none "raw" about]
      | none => []) ++
    [optionLine none "timeout-ms <TIMEOUT_MS>" "Transfer timeout in milliseconds",
     optionLine (some 'r') "resource <RESOURCE>"
       ("Instrument address (USB::0x0957::0x1755::INSTR or 0957:1755[:serial]); " ++
         "defaults to the only attached instrument"),
     optionLine (some 'v') "verbose" "Enable verbose logging",
     optionLine (some 'h') "help" "Print help"] ++
    (if hasVersion then [optionLine (some 'V') "version" "Print version"] else [])

/-- Help on the whole program. -/
def helpText : String :=
  textOf <|
    ["USBTMC Instrument Tool (Pure Rust)", "", "Usage: usbtmc [OPTIONS] <COMMAND>", "",
     "Commands:"] ++
    CommandName.all.map (fun c => column 7 c.name c.about) ++
    [column 7 "help" helpAbout, ""] ++
    optionLines none true

/-- Help on a command. -/
def commandHelpText (c : CommandName) : String :=
  textOf <|
    [c.about, "",
     "Usage: usbtmc " ++ c.name ++ " [OPTIONS]" ++ (if c.takesText then " <COMMAND>" else ""),
     ""] ++
    (if c.takesText then ["Arguments:", "  <COMMAND>  ", ""] else []) ++
    optionLines c.rawAbout false

/-- Help on the command `help`. -/
def helpHelpText : String :=
  textOf
    [helpAbout, "", "Usage: usbtmc help [COMMAND]...", "", "Arguments:",
     "  [COMMAND]...  Print help for the subcommand(s)"]

end Benchtop.CommandLine
