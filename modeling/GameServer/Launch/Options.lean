import GameServer.Server.Address
import GameServer.Server.Config
import GameServer.Text.Integer

/-! The options on the command line: their names, their defaults, and what values they take. -/

namespace GameServer.Launch

inductive Field
  | host
  | port
  | tickRate
  | timeoutTicks
  | maxSessions
  | world
  | motd
  deriving DecidableEq

inductive Inquiry
  | help
  | version
  deriving DecidableEq

structure Options where
  host : String
  port : Nat
  tickRate : Nat
  timeoutTicks : Nat
  maxSessions : Nat
  world : String
  motd : String

def Options.default : Options where
  host := "127.0.0.1"
  port := 25565
  tickRate := 20
  timeoutTicks := defaultTimeoutTicks
  maxSessions := 32
  world := "world"
  motd := Service.defaultMotd

structure Label where
  short : Option Char
  long : String
  value : Option String
  about : String
  preset : Option String

def Field.label : Field → Label
  | .host =>
    { short := some 'H', long := "host", value := some "HOST"
      about := "Server IP address to bind to", preset := some Options.default.host }
  | .port =>
    { short := some 'p', long := "port", value := some "PORT"
      about := "Server port to listen on", preset := some (toString Options.default.port) }
  | .tickRate =>
    { short := some 't', long := "tick-rate", value := some "TICK_RATE"
      about := "Tick rate (updates per second)"
      preset := some (toString Options.default.tickRate) }
  | .timeoutTicks =>
    { short := none, long := "timeout-ticks", value := some "TIMEOUT_TICKS"
      about := "Ticks without traffic before a keepalive is sent"
      preset := some (toString Options.default.timeoutTicks) }
  | .maxSessions =>
    { short := some 'm', long := "max-sessions", value := some "MAX_SESSIONS"
      about := "Maximum number of concurrent connections"
      preset := some (toString Options.default.maxSessions) }
  | .world =>
    { short := some 'w', long := "world", value := some "WORLD"
      about := "Name of the world players join", preset := some Options.default.world }
  | .motd =>
    { short := none, long := "motd", value := some "MOTD"
      about := "Message shown in server list pings"
      preset := some ("\"" ++ Options.default.motd ++ "\"") }

def Inquiry.label : Inquiry → Label
  | .help =>
    { short := some 'h', long := "help", value := none
      about := "Print help", preset := none }
  | .version =>
    { short := some 'V', long := "version", value := none
      about := "Print version", preset := none }

def Field.all : List Field :=
  [.host, .port, .tickRate, .timeoutTicks, .maxSessions, .world, .motd]

def Inquiry.all : List Inquiry := [.help, .version]

namespace Label

def name (label : Label) : String :=
  "--" ++ label.long ++
    match label.value with
    | some value => " <" ++ value ++ ">"
    | none => ""

def column : Nat := 39

def helpLine (label : Label) : String :=
  let short := match label.short with
    | some c => "  -" ++ c.toString ++ ", "
    | none => "      "
  let left := short ++ label.name
  let gap := String.ofList (List.replicate (column - left.length) ' ')
  let preset := match label.preset with
    | some preset => " [default: " ++ preset ++ "]"
    | none => ""
  left ++ gap ++ label.about ++ preset

end Label

def helpText : String :=
  "Usage: server [OPTIONS]\n\nOptions:\n" ++
    String.join ((Field.all.map Field.label ++ Inquiry.all.map Inquiry.label).map fun label =>
      label.helpLine ++ "\n")

def versionText : String := "server " ++ Service.release ++ "\n"

inductive ValueFault
  | number (fault : Text.NumberFault)
  | outOfRange (value : Int) (high : Nat)
  deriving DecidableEq

def ValueFault.message : ValueFault → String
  | .number fault => fault.message
  | .outOfRange value high => s!"{value} is not in 0..={high}"

/-- A number up to `high`, which is read with 64 bits and a sign before its range is checked. -/
def readRanged (high : Nat) (value : String) : Except ValueFault Nat :=
  match Text.readInteger (UInt64.size / 2) (UInt64.size / 2 - 1) value.toList with
  | .error fault => .error (.number fault)
  | .ok n => if 0 ≤ n ∧ n ≤ high then .ok n.toNat else .error (.outOfRange n high)

def readCount (value : String) : Except ValueFault Nat :=
  match Text.readInteger 0 (UInt64.size - 1) value.toList with
  | .error fault => .error (.number fault)
  | .ok n => .ok n.toNat

def Options.assign (options : Options) (field : Field) (value : String) :
    Except ValueFault Options :=
  match field with
  | .host => .ok { options with host := value }
  | .port => do return { options with port := ← readRanged maxPort value }
  | .tickRate => do return { options with tickRate := ← readRanged (UInt32.size - 1) value }
  | .timeoutTicks => do return { options with timeoutTicks := ← readRanged (UInt32.size - 1) value }
  | .maxSessions => do return { options with maxSessions := ← readCount value }
  | .world => .ok { options with world := value }
  | .motd => .ok { options with motd := value }

end GameServer.Launch
