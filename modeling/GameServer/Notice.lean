import GameServer.Session.Fault
import GameServer.Wire.Frame

/-! The lines of the log. `who` is a session's own name for itself, an address is that of a
client, and a key is the number of a connection. -/

namespace GameServer

inductive Level
  | error
  | warn
  | info
  | debug
  deriving DecidableEq

inductive Notice
  | moved (who : String) (before after : Phase)
  | loginRefused (name reason : String)
  | kickCancelled (name : String)
  | kicked (name reason : String)
  | keepAliveIssued (id : Int32) (who : String)
  | unhandled (kind : Kind) (who : String) (phase : Phase)
  | entered (name : String) (id : UInt32) (world : String)
  | removed (name world : String)
  | broadcast (text : String)
  | invalidTarget (who : String) (next : Phase)
  | refused (who : String) (fault : SessionFault)
  | foreignVersion (who : String) (version server : UInt32)
  | secondLogin (who : String)
  | wrongEcho (who : String) (id outstanding : Int32)
  | duplicatePlacement (who : String)
  | placed (who : String) (placement : Placement)
  | writeFailed (address : String) (error : FrameError)
  | packetDropped (address : String)
  | shutdownFailed (address reason : String)
  | listening (address : String)
  | started
  | shuttingDown
  | connected (key : Nat) (address : String)
  | serverFull (address : String)
  | disconnected (key : Nat)
  | phaseReached (key : Nat) (phase : Phase)
  | census (tick sessions players : Nat) (world : String)
  | hungUp (address : String)
  | dropping (address : String) (error : FrameError)
  | launching (address : String) (tickRate timeoutTicks : Nat)
  deriving DecidableEq

namespace Notice

def level : Notice → Level
  | .writeFailed .. => .error
  | .unhandled .. | .invalidTarget .. | .refused .. | .secondLogin .. | .serverFull ..
  | .dropping .. => .warn
  | .loginRefused .. | .kicked .. | .entered .. | .removed .. | .broadcast .. | .foreignVersion ..
  | .listening .. | .started | .shuttingDown | .connected .. | .disconnected ..
  | .launching .. => .info
  | .moved .. | .kickCancelled .. | .keepAliveIssued .. | .wrongEcho .. | .duplicatePlacement ..
  | .placed .. | .packetDropped .. | .shutdownFailed .. | .phaseReached .. | .census ..
  | .hungUp .. => .debug

/-- The line, with keepalive ids written by `idText`. -/
def textWith (idText : Int32 → String) : Notice → String
  | .moved who before after => s!"{who} moved from {before.name} to {after.name}"
  | .loginRefused name reason => s!"Login of {name} refused: {reason}"
  | .kickCancelled name => s!"Kick of {name} was cancelled"
  | .kicked name reason => s!"Player {name} kicked: {reason}"
  | .keepAliveIssued id who => s!"Issued keepalive {idText id} to {who}"
  | .unhandled kind who phase =>
    s!"Packet {kind.name} from {who} was not handled in state {phase.name}"
  | .entered name id world => s!"Player {name} (entity {id.toNat}) entered world {world}"
  | .removed name world => s!"Removed player {name} from world {world}"
  | .broadcast text => s!"[broadcast] {text}"
  | .invalidTarget who next => s!"{who} requested invalid state {next.name}"
  | .refused who fault => s!"{who}: {fault.message}"
  | .foreignVersion who version server =>
    s!"{who} uses protocol {version.toNat} (server is on {server.toNat})"
  | .secondLogin who => s!"{who} sent a second login start"
  | .wrongEcho who id outstanding =>
    s!"{who} answered keepalive {idText id} but {idText outstanding} is outstanding"
  | .duplicatePlacement who => s!"{who} sent a duplicate placement, dropping it"
  | .placed who p =>
    s!"{who} placed item {p.heldItem.toInt} at ({p.x.toInt}, {p.y.toInt}, {p.z.toInt}) " ++
      s!"facing {p.direction.toInt}"
  | .writeFailed address error => s!"Failed to write to {address}: {error.message}"
  | .packetDropped address => s!"Dropping packet for {address}: writer already closed"
  | .shutdownFailed address reason => s!"Shutdown of {address} failed: {reason}"
  | .listening address => s!"Server listening on {address}"
  | .started => "Server started successfully"
  | .shuttingDown => "Server shutting down"
  | .connected key address => s!"Client {key} connected from {address}"
  | .serverFull address => s!"Refusing connection from {address}: server full"
  | .disconnected key => s!"Client {key} disconnected"
  | .phaseReached key phase => s!"Client {key} is now in state {phase.name}"
  | .census tick sessions players world =>
    s!"Tick {tick}: {sessions} sessions, {players} players in {world}"
  | .hungUp address => s!"{address} closed the connection"
  | .dropping address error => s!"Dropping connection from {address}: {error.message}"
  | .launching address tickRate timeoutTicks =>
    s!"Starting server at {address} ({tickRate} ticks/s, timeout after {timeoutTicks} ticks)"

def text (notice : Notice) : String := notice.textWith fun id => toString id.toInt

end Notice

end GameServer
