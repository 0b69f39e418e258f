import GameServer.Text.Integer

/-! The address that a server is bound to: a host and a port with a colon between them. The host
may hold colons of its own. -/

namespace GameServer

inductive AddressFault
  | noPort
  | badPort
  deriving DecidableEq

def AddressFault.message : AddressFault → String
  | .noPort => "invalid socket address"
  | .badPort => "invalid port value"

def maxPort : Nat := 65535

def parseAddress (address : String) : Except AddressFault (String × Nat) :=
  let reversed := address.toList.reverse
  match reversed.dropWhile (· != ':') with
  | [] => .error .noPort
  | _ :: host =>
    match Text.readInteger 0 maxPort (reversed.takeWhile (· != ':')).reverse with
    | .ok port => .ok (String.ofList host.reverse, port.toNat)
    | .error _ => .error .badPort

end GameServer
