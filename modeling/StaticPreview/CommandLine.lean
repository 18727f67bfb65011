/-
# StaticPreview.CommandLine -- the arguments of the program

The program takes at most one port, and three options with a value each; an
option may be written short or long, with its value attached or as the next
argument.  What starts with a dash is an option unless it is a lone dash or stands
after `--`.

Arguments are read from the left.  The value last read is held back until the next
argument has been looked at: only then is it checked (`settle`).  So of two faults
an unknown option wins over a bad value just before it, and loses to any other.

* `read`: what the arguments say;
* `Refusal.message`: the first line of what is said about arguments that are
  refused.
-/
import StaticPreview.Number.Integer64

namespace StaticPreview

/-- What the arguments say. -/
structure CommandLine where
  /-- The port to listen on. -/
  port : Option UInt16 := none
  /-- The directory to serve. -/
  root : Option String := none
  /-- The address to listen on. -/
  host : Option String := none
  /-- The settings file. -/
  config : String := "preview.toml"
  deriving DecidableEq, Repr

namespace CommandLine

/-- What can be given a value. -/
inductive Param where
  | port
  | root
  | host
  | config
  deriving DecidableEq, Repr

/-- How a parameter is written. -/
def Param.usage : Param → String
  | .port => "[PORT]"
  | .root => "--root <ROOT>"
  | .host => "--host <HOST>"
  | .config => "--config <CONFIG>"

/-- What is wrong with a port. -/
inductive PortRefusal where
  | number (cause : Number.Integer64.Refusal)
  | range (port : Int)
  deriving DecidableEq, Repr

/-- The text of what is wrong with a port. -/
def PortRefusal.message : PortRefusal → String
  | .number cause => cause.message
  | .range port => String.ofList (Text.Decimal.signed port) ++ " is not in 0..=65535"

/-- Why the arguments are not followed. -/
inductive Refusal where
  /-- Help was asked for. -/
  | help
  /-- An option or an argument that is not known, as it is written. -/
  | unknown (argument : String)
  /-- An option without its value. -/
  | missingValue (param : Param)
  /-- A value for an option that takes none. -/
  | surplusValue (option value : String)
  /-- An option given twice. -/
  | repeated (param : Param)
  /-- A port that is none. -/
  | port (text : String) (cause : PortRefusal)
  deriving DecidableEq, Repr

/-- What the program says about itself. -/
def helpText : String :=
  "No-cache static file server for mobile preview\n\n" ++
  "Usage: preview-server [OPTIONS] [PORT]\n\n" ++
  "Arguments:\n" ++
  "  [PORT]  Port to listen on (default 8081)\n\n" ++
  "Options:\n" ++
  "  -r, --root <ROOT>      Directory to serve (default: current directory)\n" ++
  "      --host <HOST>      Address to bind (default: all interfaces)\n" ++
  "  -c, --config <CONFIG>  Optional configuration file [default: preview.toml]\n" ++
  "  -h, --help             Print help\n"

/-- What is said about arguments that are not followed. -/
def Refusal.message : Refusal → String
  | .help => helpText
  | .unknown argument => "error: unexpected argument '" ++ argument ++ "' found"
  | .missingValue param =>
      "error: a value is required for '" ++ param.usage ++ "' but none was supplied"
  | .surplusValue option value =>
      "error: unexpected value '" ++ value ++ "' for '" ++ option ++
        "' found; no more were expected"
  | .repeated param =>
      "error: the argument '" ++ param.usage ++ "' cannot be used multiple times"
  | .port text cause =>
      "error: invalid value '" ++ text ++ "' for '" ++ Param.port.usage ++ "': " ++ cause.message

/-- The port that a text stands for. -/
def readPort (s : String) : Except PortRefusal UInt16 :=
  match Number.Integer64.read s.toList with
  | .error e => .error (.number e)
  | .ok n => if 0 ≤ n ∧ n < 65536 then .ok (UInt16.ofNat n.toNat) else .error (.range n)

/-- What has been read so far. -/
structure Progress where
  line : CommandLine := {}
  /-- The parameters that have their value. -/
  settled : List Param := []
  /-- The parameter whose value, if it has come, is still held back. -/
  pending : Option (Param × Option String) := none
  /-- Whether there was an argument for the port. -/
  portSeen : Bool := false

/-- The arguments with the value of one parameter put in. -/
def assign (line : CommandLine) (value : String) : Param → Except Refusal CommandLine
  | .port =>
      match readPort value with
      | .ok port => .ok { line with port := some port }
      | .error cause => .error (.port value cause)
  | .root => .ok { line with root := some value }
  | .host => .ok { line with host := some value }
  | .config => .ok { line with config := value }

/-- Check the value that was held back and put it in. -/
def settle (p : Progress) : Except Refusal Progress :=
  match p.pending with
  | none => .ok p
  | some (param, none) => .error (.missingValue param)
  | some (param, some value) =>
      if param ∈ p.settled then .error (.repeated param)
      else do
        let line ← assign p.line value param
        .ok { p with line, settled := param :: p.settled, pending := none }

/-- The option of a long name. -/
def long? (name : List Char) : Option Param :=
  if name = ['r', 'o', 'o', 't'] then some .root
  else if name = ['h', 'o', 's', 't'] then some .host
  else if name = ['c', 'o', 'n', 'f', 'i', 'g'] then some .config
  else none

/-- The option of a letter. -/
def short? (letter : Char) : Option Param :=
  if letter = 'r' then some .root else if letter = 'c' then some .config else none

/-- An option with the value attached to it, if there is one. -/
def option (p : Progress) (param : Param) (value : Option (List Char)) :
    Except Refusal Progress := do
  let p := { (← settle p) with pending := some (param, value.map String.ofList) }
  if value.isSome then settle p else .ok p

/-- An argument that starts with two dashes, without them. -/
def longArgument (p : Progress) (text : List Char) : Except Refusal Progress :=
  let name := text.takeWhile (· ≠ '=')
  let value := if '=' ∈ text then some (text.drop (name.length + 1)) else none
  match long? name, value with
  | some param, value => option p param value
  | none, value =>
      if name = ['h', 'e', 'l', 'p'] then
        match value with
        | some v => .error (.surplusValue "--help" (String.ofList v))
        | none => do
            let _ ← settle p
            .error .help
      else .error (.unknown (String.ofList ('-' :: '-' :: name)))

/-- An argument that starts with one dash, without it: a letter and what follows. -/
def shortArgument (p : Progress) (letter : Char) (text : List Char) : Except Refusal Progress :=
  match short? letter with
  | some param =>
      option p param
        (match text with
          | [] => none
          | '=' :: value => some value
          | value => some value)
  | none =>
      if letter = 'h' then do
        let _ ← settle p
        .error .help
      else .error (.unknown (String.ofList ['-', letter]))

/-- An argument that is no option. -/
def plainArgument (p : Progress) (argument : String) : Except Refusal Progress :=
  if p.portSeen then .error (.unknown argument)
  else do .ok { (← settle p) with pending := some (.port, some argument), portSeen := true }

/-- An argument before `--` that is no option: the value that an option waits for, or
the port. -/
def valueArgument (p : Progress) (argument : String) : Except Refusal Progress :=
  match p.pending with
  | some (param, none) => .ok { p with pending := some (param, some argument) }
  | _ => plainArgument p argument

/-- The arguments read from a point on; `plain` says that none of them is an option. -/
def readFrom (plain : Bool) (p : Progress) : List String → Except Refusal CommandLine
  | [] => do .ok (← settle p).line
  | argument :: rest =>
      if plain then do readFrom true (← plainArgument p argument) rest
      else
        match argument.toList with
        | ['-', '-'] => readFrom true p rest
        | '-' :: '-' :: text => do readFrom false (← longArgument p text) rest
        | '-' :: letter :: text => do readFrom false (← shortArgument p letter text) rest
        | _ => do readFrom false (← valueArgument p argument) rest

/-- What the arguments say. -/
def read (arguments : List String) : Except Refusal CommandLine := readFrom false {} arguments

end CommandLine

end StaticPreview
