import SecretLayers.Cli.Render
import SecretLayers.Text.Blank
/-!
Command lines.

A command line is read on two levels, the program's and that of a command. Arguments of
the program can also stand behind the command, and count more there. A value is looked at
only when the next argument is taken up, or the level ends; so of two faults the one that
is met first in this order is reported.
-/
namespace SecretLayers.Cli

inductive Command where
  | contexts
  | resolve (showValues : Bool) (output : Format)
  | health (output : Format)
  deriving DecidableEq, Repr

/-- What a command line asks for. -/
structure Invocation where
  command : Command
  /-- The configuration file; without one the environment is read. -/
  config : Option String
  profiles : List String
  verbose : Bool
  jsonLogs : Bool
  deriving DecidableEq, Repr

/-- Why a command line is not carried out. -/
inductive Refusal where
  /-- Help was asked for. -/
  | help
  /-- The version was asked for. -/
  | version
  | nothingGiven
  | missingCommand
  | unknownCommand
  | unknownArgument
  /-- A value that is missing, or not among those allowed. -/
  | invalidValue
  /-- A value for an argument that takes none. -/
  | needlessValue
  /-- An argument that was given before. -/
  | repeated
  deriving DecidableEq, Repr

/-! ## Arguments -/

inductive Argument where
  | config
  | profiles
  | verbose
  | jsonLogs
  | showValues
  | output
  | help
  | version
  deriving DecidableEq, Repr

namespace Argument

def long : Argument → String
  | config => "config"
  | profiles => "profiles"
  | verbose => "verbose"
  | jsonLogs => "json-logs"
  | showValues => "show-values"
  | output => "output"
  | help => "help"
  | version => "version"

def short? : Argument → Option Char
  | config => some 'c'
  | profiles => some 'p'
  | verbose => some 'v'
  | output => some 'o'
  | help => some 'h'
  | version => some 'V'
  | jsonLogs | showValues => none

def takesValue : Argument → Bool
  | config | profiles | output => true
  | _ => false

end Argument

/-- The commands by name, before their own arguments are known. -/
inductive CommandName where
  | contexts
  | resolve
  | health
  deriving DecidableEq, Repr

/-- Where on a command line an argument stands. -/
inductive Level where
  | program
  | command (name : CommandName)
  deriving DecidableEq, Repr

namespace Level

/-- Arguments that both levels know. -/
def shared : List Argument := [.config, .profiles, .verbose, .jsonLogs, .help]

def arguments : Level → List Argument
  | program => .version :: shared
  | command .contexts => shared
  | command .resolve => .showValues :: .output :: shared
  | command .health => .output :: shared

def long? (l : Level) (name : String) : Option Argument :=
  l.arguments.find? fun a => a.long == name

def short? (l : Level) (letter : Char) : Option Argument :=
  l.arguments.find? fun a => a.short? == some letter

end Level

def commandNames : List (String × CommandName) :=
  [("contexts", .contexts), ("resolve", .resolve), ("health", .health)]

/-- The command that explains the others. -/
def helpCommand : String := "help"

def isCommand (s : String) : Bool := s == helpCommand || (commandNames.lookup s).isSome

/-! ## Reading a level -/

/-- What has been read of a level. -/
structure Given where
  /-- Arguments with their values, the latest first. -/
  values : List (Argument × List String) := []
  /-- An argument whose value has not been looked at, and the value if it is there. -/
  pending : Option (Argument × Option String) := none

namespace Given

def values? (g : Given) (a : Argument) : Option (List String) := g.values.lookup a

def has (g : Given) (a : Argument) : Bool := (g.values? a).isSome

/-- The argument that waits for its value. -/
def awaiting? (g : Given) : Option Argument :=
  match g.pending with
  | some (a, none) => some a
  | _ => none

def formats : List (String × Format) := [("json", .json), ("yaml", .yaml), ("table", .table)]

/-- Whether a single value of an argument is allowed. -/
def isAllowed : Argument → String → Bool
  | .config, s => s ≠ ""
  | .output, s => (formats.lookup s).isSome
  | _, _ => true

/-- Takes up an argument with its value. Profiles add up, anything else stands once. -/
def add (g : Given) (a : Argument) (value : Option String) : Except Refusal Given :=
  match a, value with
  | .help, _ => .error .help
  | .version, _ => .error .version
  | .profiles, some s =>
    .ok { g with values := (a, (g.values? a).getD [] ++ Text.splitAt ',' s) :: g.values }
  | a, value =>
    if a.takesValue && value.isNone then .error .invalidValue
    else if g.has a then .error .repeated
    else if !value.all (isAllowed a) then .error .invalidValue
    else .ok { g with values := (a, value.toList) :: g.values }

/-- Takes up the argument whose value has not been looked at. -/
def settle (g : Given) : Except Refusal Given :=
  match g.pending with
  | none => .ok g
  | some (a, value) => { g with pending := none }.add a value

/-- Takes up an argument that is complete. -/
def take (g : Given) (a : Argument) (value : Option String) : Except Refusal Given := do
  (← g.settle).add a value

/-- Lets an argument wait for its value. -/
def await (g : Given) (a : Argument) : Except Refusal Given := do
  return { ← g.settle with pending := some (a, none) }

end Given

/-- A long argument, with the text behind `=`. -/
def readLong (l : Level) (g : Given) (name : String) (value : Option String) :
    Except Refusal Given :=
  match l.long? name with
  | none => .error .unknownArgument
  | some a =>
    if !a.takesValue then if value.isSome then .error .needlessValue else g.take a none
    else if value.isSome then g.take a value
    else g.await a

/-- A run of short arguments; the rest of the run is the value of one that takes one. -/
def readShorts (l : Level) (g : Given) : List Char → Except Refusal Given
  | [] => .ok g
  | c :: cs =>
    match l.short? c with
    | none => .error .unknownArgument
    | some a =>
      if !a.takesValue then do readShorts l (← g.take a none) cs
      else match cs with
        | [] => g.await a
        | '=' :: value => g.take a (some (String.ofList value))
        | value => g.take a (some (String.ofList value))

/-- Parts of a command line by their form. -/
inductive Form where
  /-- Two hyphens alone: all that follows is plain. -/
  | escape
  | long (name : String) (value : Option String)
  | shorts (letters : List Char)
  | plain

def formOf (s : String) : Form :=
  match s.toList with
  | ['-', '-'] => .escape
  | '-' :: '-' :: cs =>
    let name := cs.takeWhile (· ≠ '=')
    .long (String.ofList name)
      (if cs.contains '=' then some (String.ofList (cs.drop (name.length + 1))) else none)
  | '-' :: c :: cs => .shorts (c :: cs)
  | _ => .plain

/-- How a text is refused that is no argument, before or after two hyphens. -/
def refusePlain (l : Level) (escaped : Bool) (s : String) : Refusal :=
  match l with
  | .command _ => .unknownArgument
  | .program => if escaped && isCommand s then .unknownArgument else .unknownCommand

/-- A level up to its end, or up to the name of a command and what stands behind that. -/
def readLevel (l : Level) (g : Given) :
    List String → Except Refusal (Given × Option (String × List String))
  | [] => .ok (g, none)
  | s :: rest =>
    if g.awaiting?.isNone && l == .program && isCommand s then .ok (g, some (s, rest))
    else
      match formOf s, g.awaiting? with
      | .escape, _ => match rest with
        | [] => .ok (g, none)
        | next :: _ => .error (refusePlain l true next)
      | .long name value, _ => do readLevel l (← readLong l g name value) rest
      | .shorts letters, _ => do readLevel l (← readShorts l g letters) rest
      | .plain, some a => readLevel l { g with pending := some (a, some s) } rest
      | .plain, none => .error (refusePlain l false s)

/-! ## Command lines -/

/-- Help on a command, or on none. -/
def refuseHelp : List String → Refusal
  | [] => .help
  | [name] => if isCommand name then .help else .unknownCommand
  | _ => .unknownCommand

/-- The format of a command's output. -/
def Given.format (g : Given) (default : Format) : Format :=
  (((g.values? .output).bind List.head?).bind fun s => formats.lookup s).getD default

/-- The command with the arguments of its own. -/
def commandOf (name : CommandName) (g : Given) : Command :=
  match name with
  | .contexts => .contexts
  | .resolve => .resolve (g.has .showValues) (g.format .table)
  | .health => .health (g.format .json)

/-- What is said by two levels together; the inner one counts more. -/
def invocation (name : CommandName) (outer inner : Given) : Invocation :=
  let values (a : Argument) := (inner.values? a).or (outer.values? a)
  { command := commandOf name inner
    config := (values .config).bind List.head?
    profiles := (values .profiles).getD []
    verbose := (values .verbose).isSome
    jsonLogs := (values .jsonLogs).isSome }

/-- How a command line without a command is refused. -/
def refuseBare (g : Given) : Refusal := if g.values.isEmpty then .nothingGiven else .missingCommand

def Invocation.parse (args : List String) : Except Refusal Invocation := do
  match ← readLevel .program {} args with
  | (outer, none) => .error (refuseBare (← outer.settle))
  | (outer, some (s, rest)) =>
    match commandNames.lookup s with
    | none => .error (refuseHelp rest)
    | some name =>
      let (inner, _) ← readLevel (.command name) {} rest
      let inner ← inner.settle
      let outer ← outer.settle
      .ok (invocation name outer inner)

end SecretLayers.Cli
