import Benchtop.CommandLine.Help
import Benchtop.Text.Digits

/-!
# The arguments of the program

Arguments are read from left to right, first those of the program and then, after its name, those of
the command. Options may stand before or after the command's name, the latter count; the same option
twice on one side is refused. The value of an option stands in the same argument or in the next one.
It is looked at when the next option is met, or at the end; the end of the program's own options is
that of all arguments.

Reading stops at the first thing to refuse, or at the first request for help or the version.
-/

namespace Benchtop.CommandLine

/-! ## Options -/

inductive OptionName where
  | config
  | timeoutMs
  | resource
  | verbose
  | raw
  | help
  | version
  deriving DecidableEq, Repr

namespace OptionName

def takesValue : OptionName → Bool
  | config => true
  | timeoutMs => true
  | resource => true
  | _ => false

def ofLong? (name : String) : Option OptionName :=
  match name with
  | "config" => some config
  | "timeout-ms" => some timeoutMs
  | "resource" => some resource
  | "verbose" => some verbose
  | "raw" => some raw
  | "help" => some help
  | "version" => some version
  | _ => none

def ofShort? (c : Char) : Option OptionName :=
  if c == 'r' then some resource
  else if c == 'v' then some verbose
  else if c == 'h' then some help
  else if c == 'V' then some version
  else none

end OptionName

/-- Whose arguments are read: the program's own, or a command's. -/
inductive Level where
  | program
  | command (name : CommandName)
  deriving DecidableEq, Repr

/-- Whether there is an option at a level. -/
def Level.has : Level → OptionName → Bool
  | program, .raw => false
  | program, _ => true
  | command _, .version => false
  | command c, .raw => c.rawAbout.isSome
  | command _, _ => true

/-- What help is at a level. -/
def Level.helpText : Level → String
  | program => CommandLine.helpText
  | command c => commandHelpText c

/-! ## Reading -/

/-- Why reading ends early. -/
inductive Stop where
  /-- A text is to be shown, and that is all. -/
  | shows (text : String)
  /-- The arguments make no sense. -/
  | refused
  deriving DecidableEq, Repr

/-- What has been given at a level. -/
structure Given where
  config : Option String := none
  timeoutMs : Option UInt64 := none
  resource : Option String := none
  verbose : Bool := false
  raw : Bool := false
  text : Option String := none
  /-- An option whose value is still to be given, or to be looked at. -/
  pending : Option (OptionName × Option String) := none
  deriving DecidableEq, Repr

abbrev Reading := Except Stop

namespace Given

/-- Sets an option to a value, unless it has one already. -/
def setValue (g : Given) (option : OptionName) (value : String) : Reading Given :=
  match option with
  | .config =>
    if g.config.isSome || value.isEmpty then throw .refused
    else return { g with config := some value }
  | .timeoutMs =>
    match Text.readUnsigned 10 (UInt64.size - 1) value.toList with
    | some n =>
      if g.timeoutMs.isSome then throw .refused
      else return { g with timeoutMs := some (UInt64.ofNat n) }
    | none => throw .refused
  | .resource =>
    if g.resource.isSome then throw .refused else return { g with resource := some value }
  | _ => throw .refused

/-- Looks at the value of the option before, if there is one. -/
def settle (g : Given) : Reading Given :=
  match g.pending with
  | none => return g
  | some (option, some value) => setValue { g with pending := none } option value
  | some (_, none) => throw .refused

/-- An option still waits for its value. -/
def awaitsValue (g : Given) : Bool :=
  match g.pending with
  | some (_, none) => true
  | _ => false

/-- Meets an option that takes no value. -/
def meetFlag (level : Level) (option : OptionName) (g : Given) : Reading Given := do
  let g ← g.settle
  match option with
  | .verbose => if g.verbose then throw .refused else return { g with verbose := true }
  | .raw => if g.raw then throw .refused else return { g with raw := true }
  | .help => throw (.shows level.helpText)
  | .version => throw (.shows versionText)
  | _ => throw .refused

/-- Meets an option that takes a value, which may be in the same argument. -/
def meetOption (option : OptionName) (value : Option String) (g : Given) : Reading Given := do
  let g ← g.settle
  match value with
  | some value => g.setValue option value
  | none => return { g with pending := some (option, none) }

/-- Reads an argument that begins with two dashes. -/
def readLong (level : Level) (argument : List Char) (g : Given) : Reading Given :=
  let (name, rest) := argument.span (· != '=')
  match (OptionName.ofLong? (String.ofList name)).filter level.has, rest with
  | none, _ => throw .refused
  | some option, [] =>
    if option.takesValue then g.meetOption option none else g.meetFlag level option
  | some option, _ :: value =>
    if option.takesValue then g.meetOption option (some (String.ofList value)) else throw .refused

/-- Reads an argument of options of one letter. The rest of it is the value of the first that takes
one. -/
def readShort (level : Level) : List Char → Given → Reading Given
  | [], g => return g
  | c :: rest, g =>
    match (OptionName.ofShort? c).filter level.has with
    | none => throw .refused
    | some option =>
      if option.takesValue then
        match rest with
        | [] => g.meetOption option none
        | '=' :: value => g.meetOption option (some (String.ofList value))
        | value => g.meetOption option (some (String.ofList value))
      else do
        readShort level rest (← g.meetFlag level option)

/-- Reads an argument that is no option. -/
def readPlain (level : Level) (argument : String) (g : Given) : Reading Given := do
  match level with
  | .program => throw .refused
  | .command c =>
    let g ← g.settle
    if c.takesText && g.text.isNone then return { g with text := some argument }
    else throw .refused

/-- Reads an argument, after `--` or not. -/
def readArgument (level : Level) (onlyPlain : Bool) (argument : String) (g : Given) :
    Reading Given :=
  if onlyPlain then g.readPlain level argument
  else
    match argument.toList with
    | '-' :: '-' :: rest => g.readLong level rest
    | '-' :: c :: rest => g.readShort level (c :: rest)
    | _ =>
      match g.pending with
      | some (option, none) => return { g with pending := some (option, some argument) }
      | _ => g.readPlain level argument

end Given

/-- Reads the arguments of a command. -/
def readCommand (name : CommandName) : (onlyPlain : Bool) → List String → Given → Reading Given
  | _, [], g => g.settle
  | onlyPlain, argument :: rest, g =>
    if !onlyPlain && argument == "--" then
      if g.awaitsValue then throw .refused else readCommand name true rest g
    else do
      readCommand name onlyPlain rest (← g.readArgument (.command name) onlyPlain argument)

/-- The command with what was given for it. -/
def CommandName.command (name : CommandName) (g : Given) : Reading Command :=
  match name, g.text with
  | .list, _ => return .list
  | .info, _ => return .device .info
  | .write, some text => return .device (.write text)
  | .write, none => throw .refused
  | .read, _ => return .device (.read g.raw)
  | .ask, some text => return .device (.ask text g.raw)
  | .ask, none => throw .refused
  | .stb, _ => return .device .stb
  | .clear, _ => return .device .clear
  | .trigger, _ => return .device .trigger
  | .pulse, _ => return .device .pulse
  | .lock, _ => return .device .lock
  | .unlock, _ => return .device .unlock
  | .myid, _ => return .device .myid

/-- Reads the names after the command `help`. -/
def readHelp : List String → Stop
  | [] => .shows helpText
  | [name] =>
    if name == "help" then .shows helpHelpText
    else
      match CommandName.ofName? name with
      | some c => .shows (commandHelpText c)
      | none => .refused
  | _ => .refused

/-- Reads the arguments up to the name of the command, and those of the command. -/
def readProgram : List String → Given → Reading Invocation
  | [], _ => throw .refused
  | argument :: rest, g =>
    if !g.awaitsValue && argument == "help" then throw (readHelp rest)
    else
      match if g.awaitsValue then none else CommandName.ofName? argument with
      | some name => do
        let inner ← readCommand name false rest {}
        let command ← name.command inner
        let g ← g.settle
        return {
          config := inner.config <|> g.config
          timeoutMs := inner.timeoutMs <|> g.timeoutMs
          resource := inner.resource <|> g.resource
          verbose := inner.verbose || g.verbose
          command }
      | none =>
        if argument == "--" then throw .refused
        else do readProgram rest (← g.readArgument .program false argument)

/-- What the program is called for with these arguments. -/
def parse (arguments : List String) : Reading Invocation := readProgram arguments {}

end Benchtop.CommandLine
