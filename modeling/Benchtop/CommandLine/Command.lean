/-!
# Commands

What the program can be told to do, and the names and descriptions of its commands and options.
`CommandName` lists the commands that can be named on the command line, in the order in which help
shows them; a `Command` is one with its arguments.
-/

namespace Benchtop.CommandLine

inductive CommandName where
  | list
  | info
  | write
  | read
  | ask
  | stb
  | clear
  | trigger
  | pulse
  | lock
  | unlock
  | myid
  deriving DecidableEq, Repr

namespace CommandName

/-- All commands, in the order of the help text. -/
def all : List CommandName :=
  [list, info, write, read, ask, stb, clear, trigger, pulse, lock, unlock, myid]

def name : CommandName → String
  | list => "list"
  | info => "info"
  | write => "write"
  | read => "read"
  | ask => "ask"
  | stb => "stb"
  | clear => "clear"
  | trigger => "trigger"
  | pulse => "pulse"
  | lock => "lock"
  | unlock => "unlock"
  | myid => "myid"

def about : CommandName → String
  | list => "List attached instruments"
  | info => "Show capabilities and endpoints"
  | write => "Send a command"
  | read => "Read one response"
  | ask => "Send a command and print the response"
  | stb => "Read the status byte"
  | clear => "Device clear"
  | trigger => "Trigger the instrument"
  | pulse => "Blink the activity indicator"
  | lock => "Lock the front panel"
  | unlock => "Unlock the front panel"
  | myid => "Read the diagnostic vendor id"

/-- The command takes a text to send. -/
def takesText : CommandName → Bool
  | write => true
  | ask => true
  | _ => false

/-- What the option `--raw` does for the command, if it has that option. -/
def rawAbout : CommandName → Option String
  | read => some "Write the raw bytes to stdout"
  | ask => some "Write the raw response bytes to stdout"
  | _ => none

/-- The command of a name. -/
def ofName? (name : String) : Option CommandName := all.find? fun c => c.name == name

end CommandName

/-- A command for an open instrument. -/
inductive DeviceCommand where
  | info
  | write (text : String)
  | read (raw : Bool)
  | ask (text : String) (raw : Bool)
  | stb
  | clear
  | trigger
  | pulse
  | lock
  | unlock
  | myid
  deriving DecidableEq, Repr

inductive Command where
  | list
  | device (command : DeviceCommand)
  deriving DecidableEq, Repr

/-- What the program is called for. -/
structure Invocation where
  /-- The path of the settings file. -/
  config : Option String := none
  timeoutMs : Option UInt64 := none
  resource : Option String := none
  verbose : Bool := false
  command : Command
  deriving DecidableEq, Repr

end Benchtop.CommandLine
