import GameServer.Notice
import GameServer.Policy
import GameServer.World

/-! The events of a session's life, in the order in which they happen. -/

namespace GameServer

inductive Event
  /-- A packet is taken up in the phase the session is in then. -/
  | took (phase : Phase) (packet : Packet)
  | log (notice : Notice)
  | write (packet : Packet)
  /-- The transport is told to close once the packet just given is out. -/
  | closeAfterWrite
  /-- The transport is told to close and to send nothing further. -/
  | close
  | asked (question : Question)
  | broadcast (text : String)
  | attached (player : Player)
  | entered (player : Player)
  | left (player : Player)
  | remark (text : String)
  deriving DecidableEq

/-- Either way the transport ends after what it was given before. -/
def Event.isClosing : Event → Bool
  | .closeAfterWrite | .close => true
  | _ => false

end GameServer
