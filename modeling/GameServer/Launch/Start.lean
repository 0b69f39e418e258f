import GameServer.Launch.Arguments

/-! Starting the program: what it says, and whether a server comes of it. -/

namespace GameServer

namespace Launch

inductive BindFault
  | permissionDenied
  | addressNotAvailable
  deriving DecidableEq

def BindFault.message : BindFault → String
  | .permissionDenied =>
    "Os \x7b code: 13, kind: PermissionDenied, message: \"Permission denied\" \x7d"
  | .addressNotAvailable =>
    "Os \x7b code: 99, kind: AddrNotAvailable, message: \"Cannot assign requested address\" \x7d"

inductive Fate
  | answered (inquiry : Inquiry)
  | refused (misuse : Misuse)
  | unbound (fault : BindFault)
  | noPeriod
  | serving (config : Config)

namespace Fate

def exitCode : Fate → Option Nat
  | .answered _ => some 0
  | .refused _ => some 2
  | .unbound _ => some 1
  | .noPeriod => some 101
  | .serving _ => none

def output : Fate → String
  | .answered .help => helpText
  | .answered .version => versionText
  | .refused _ | .unbound _ | .noPeriod | .serving _ => ""

def complaint : Fate → Option String
  | .refused misuse => some ("error: " ++ misuse.message)
  | .unbound fault => some ("Error: " ++ fault.message)
  | .noPeriod => some "`period` must be non-zero."
  | .answered _ | .serving _ => none

end Fate

end Launch

structure Launch where
  lines : List String
  fate : Launch.Fate

namespace Launch

-- Callers name the record by this namespace, as they do everything else in it.
set_option linter.all false in
export GameServer (Launch)

def hint : String := "Set RUST_LOG=info for detailed logging"

def Options.rate (options : Options) : Nat := max options.tickRate 1

/-- The time between two ticks in nanoseconds, to the nearest. -/
def Options.period (options : Options) : Nat :=
  (2 * 1000000000 + options.rate) / (2 * options.rate)

def Options.config (options : Options) : Config where
  bindAddress := options.host ++ ":" ++ toString options.port
  tickNanos := options.period
  maxSessions := options.maxSessions
  worldName := options.world
  motd := options.motd
  timeoutTicks := max options.timeoutTicks 1

/-- Starts the program on a machine that answers by `bind` whether an address can be had. Without
a log only the hint is given. -/
def launch (bind : String → Nat → Option BindFault) (logging : Bool) (arguments : List String) :
    Launch :=
  let hints := if logging then [] else [hint]
  match parseArguments arguments with
  | .error (.inquiry inquiry) => { lines := hints, fate := .answered inquiry }
  | .error (.misuse misuse) => { lines := hints, fate := .refused misuse }
  | .ok options =>
    let config := options.config
    let say (notice : Notice) : List String := if logging then [notice.text] else []
    let lines := hints ++ say (.launching config.bindAddress options.rate config.timeoutTicks)
    match bind options.host options.port with
    | some fault => { lines, fate := .unbound fault }
    | none =>
      let lines := lines ++ say (.listening config.bindAddress)
      { lines, fate := if options.period = 0 then .noPeriod else .serving config }

end Launch

end GameServer
