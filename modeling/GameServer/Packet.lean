import GameServer.Phase
import GameServer.Text.Json

/-! The packets that server and clients exchange. -/

namespace GameServer

structure Placement where
  x : Int32
  y : Int32
  z : Int32
  direction : Int8
  heldItem : Int16
  deriving DecidableEq

inductive Packet
  | handshake (version : UInt32) (address : String) (port : UInt16) (next : Phase)
  | statusRequest
  | statusResponse (json : String)
  | ping (time : Int64)
  | loginStart (name : String)
  | loginSuccess (name : String)
  | keepAlive (id : Int32)
  | chat (message : String)
  | blockPlacement (placement : Placement)
  | kick (json : String)
  deriving DecidableEq

inductive Kind
  | handshake
  | statusRequest
  | statusResponse
  | ping
  | loginStart
  | loginSuccess
  | keepAlive
  | chat
  | blockPlacement
  | kick
  deriving DecidableEq

namespace Kind

def all : List Kind :=
  [.handshake, .statusRequest, .statusResponse, .ping, .loginStart, .loginSuccess, .keepAlive,
    .chat, .blockPlacement, .kick]

def name : Kind → String
  | .handshake => "Handshake"
  | .statusRequest => "StatusRequest"
  | .statusResponse => "StatusResponse"
  | .ping => "Ping"
  | .loginStart => "LoginStart"
  | .loginSuccess => "LoginSuccess"
  | .keepAlive => "KeepAlive"
  | .chat => "Chat"
  | .blockPlacement => "BlockPlacement"
  | .kick => "Kick"

end Kind

/-- Whether a packet is handled the moment it arrives or waits for the next tick. -/
inductive Route
  | immediate
  | queued
  deriving DecidableEq

namespace Packet

def kind : Packet → Kind
  | .handshake .. => .handshake
  | .statusRequest => .statusRequest
  | .statusResponse _ => .statusResponse
  | .ping _ => .ping
  | .loginStart _ => .loginStart
  | .loginSuccess _ => .loginSuccess
  | .keepAlive _ => .keepAlive
  | .chat _ => .chat
  | .blockPlacement _ => .blockPlacement
  | .kick _ => .kick

def isHandshake (packet : Packet) : Bool := packet.kind = .handshake

/-- A handshake settles how the rest of the stream is read, so it cannot wait. -/
def route (packet : Packet) : Route :=
  if packet.isHandshake then .immediate else .queued

def farewell (reason : String) : Packet :=
  .kick (Text.Json.object [("text", .text reason)]).render

end Packet

def protocolVersion : UInt32 := 4

end GameServer
