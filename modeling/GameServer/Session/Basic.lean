import GameServer.Event

/-! A session: what the server keeps for one connection. It is never looked at alone; a scene
puts it beside what it shares with the other sessions, the world and the owner's policy, and the
trace of what has happened. -/

namespace GameServer

/-- Zero stands for "no keepalive outstanding" and so is the id of none. -/
abbrev KeepAliveId := { id : Int32 // 0 < id }

instance : Inhabited KeepAliveId := ⟨1, by decide⟩

structure Session where
  phase : Phase
  /-- The ticks since the client was last heard of, up to `idleLimit`. -/
  idle : Nat
  /-- The keepalive that the client has yet to echo. -/
  outstanding : Option KeepAliveId
  issued : Nat
  player : Option Player
  /-- The last placement the client has sent, against clients that send each of them twice. -/
  placement : Option Placement
  inbox : List Packet

namespace Session

def fresh : Session where
  phase := .handshake
  idle := 0
  outstanding := none
  issued := 0
  player := none
  placement := none
  inbox := []

def idleLimit : Nat := 4294967295

def pingId (session : Session) : Int32 :=
  match session.outstanding with
  | some id => id.val
  | none => 0

end Session

structure Setting where
  address : Option String
  /-- The ticks without a word from the client before it is sent a keepalive, and after that
  before it is given up. -/
  timeoutTicks : Nat
  /-- The ids that are drawn for the keepalives, by how many were issued before. -/
  drawn : Nat → KeepAliveId
  /-- A number drawn for the session, by which a client can be recognised. -/
  token : UInt64

namespace Setting

def who (setting : Setting) : String :=
  match setting.address with
  | some address => s!"Session [address={address}]"
  | none => "Session [address=unknown]"

def tokenText (setting : Setting) : String :=
  String.ofList (Nat.toDigits 16 setting.token.toNat)

end Setting

structure Scene where
  session : Session
  world : World
  /-- What the owner decides at present. A handler may change it, and then it holds from the next
  question on, for every session. -/
  policy : Policy
  asked : Nat
  trace : List Event

namespace Scene

def record (scene : Scene) (event : Event) : Scene :=
  { scene with trace := scene.trace ++ [event] }

def note (scene : Scene) (notice : Notice) : Scene := scene.record (.log notice)

def send (scene : Scene) (packet : Packet) : Scene := scene.record (.write packet)

def ask (scene : Scene) (question : Question) : Scene :=
  { scene.record (.asked question) with asked := scene.asked + 1 }

def broadcast (scene : Scene) (text : String) : Scene :=
  let scene := scene.record (.broadcast text)
  if scene.policy.echoes then scene.note (.broadcast text) else scene

def announce (scene : Scene) : Option String → Scene
  | none => scene
  | some text => if text.isEmpty then scene else scene.broadcast text

def pong (scene : Scene) : Scene :=
  { scene with session := { scene.session with idle := 0, outstanding := none } }

def remember (scene : Scene) (placement : Placement) : Scene :=
  { scene with session := { scene.session with placement := some placement } }

def enqueue (scene : Scene) (packet : Packet) : Scene :=
  { scene with session := { scene.session with inbox := scene.session.inbox ++ [packet] } }

end Scene

end GameServer
