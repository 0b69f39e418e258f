import GameServer.Outbox.Basic
import GameServer.Session.Tick
import GameServer.Wire.Source

/-! The server: the sessions it owns, the connections it has accepted, and the messages by which
the readers of the connections talk to its loop. Only the loop touches a session; a reader can
put packets into its inbox and can wait for the loop to handle a handshake. -/

namespace GameServer

/-- Accepted connections are numbered from one. -/
abbrev Key := Nat

structure Setup where
  policy : Policy
  table : Table
  maxSessions : Nat
  timeoutTicks : Nat
  drawn : Key → Nat → KeepAliveId
  token : Key → UInt64

inductive Asker
  | reader
  | control
  deriving DecidableEq

inductive Message
  /-- A packet that has to be handled before its connection is read further. -/
  | handshake (key : Key) (packet : Packet) (asker : Asker)
  | closed (key : Key)
  | shutdown
  deriving DecidableEq

inductive ReaderState
  | reading
  /-- A packet has been read and is still to be handed over. -/
  | holding (packet : Packet)
  | asking
  | told (phase : Phase)
  | untold
  | ended
  deriving DecidableEq

structure Connection where
  key : Key
  address : String
  reader : ReaderState
  arrived : List UInt8
  ending : Wire.Ending
  outbox : Outbox

namespace Connection

def source (connection : Connection) : Wire.Source :=
  .ofBytes connection.arrived connection.ending

/-- A reader that waits for an answer learns that there will be none. -/
def abandon (connection : Connection) : Connection :=
  if connection.reader = .asking then { connection with reader := .untold } else connection

end Connection

structure Seat where
  key : Key
  address : String
  session : Session

def Setup.setting (setup : Setup) (seat : Seat) : Setting where
  address := some seat.address
  timeoutTicks := setup.timeoutTicks
  drawn := setup.drawn seat.key
  token := setup.token seat.key

inductive Record
  | log (notice : Notice)
  | session (key : Key) (event : Event)
  | writer (key : Key) (event : WriterEvent)
  | read (key : Key) (packet : Packet)
  | answered (key : Key) (phase : Phase)
  /-- The loop has ended with so many sessions left. -/
  | ended (sessions : Nat)

structure Server where
  world : World
  policy : Policy
  asked : Nat
  seats : List Seat
  connections : List Connection
  nextKey : Key
  ticks : Nat
  mailbox : List Message
  running : Bool
  records : List Record

namespace Server

def create (worldName : String) (policy : Policy) : Server where
  world := World.create worldName
  policy
  asked := 0
  seats := []
  connections := []
  nextKey := 1
  ticks := 0
  mailbox := []
  running := true
  records := []

def record (server : Server) (record : Record) : Server :=
  { server with records := server.records ++ [record] }

def note (server : Server) (notice : Notice) : Server := server.record (.log notice)

def seat? (server : Server) (key : Key) : Option Seat := server.seats.find? (·.key == key)

def connection? (server : Server) (key : Key) : Option Connection :=
  server.connections.find? (·.key == key)

def updateConnection (server : Server) (key : Key) (change : Connection → Connection) : Server :=
  { server with connections := server.connections.map fun connection =>
      if connection.key = key then change connection else connection }

/-- Tells the loop something, unless there is no loop any more. -/
def post (server : Server) (message : Message) : Server :=
  if server.running then { server with mailbox := server.mailbox ++ [message] } else server

def put (server : Server) (key : Key) (item : Outgoing) : Server :=
  match server.connection? key with
  | none => server
  | some connection =>
    let (outbox, events) := connection.outbox.put item
    let server := server.updateConnection key ({ · with outbox })
    { server with records := server.records ++ events.map (.writer key) }

/-- Records what a session did and passes on what it sends. -/
def relay (server : Server) (key : Key) (event : Event) : Server :=
  let server := server.record (.session key event)
  match event.outgoing? with
  | some item => server.put key item
  | none => server

def act (server : Server) (setup : Setup) (key : Key) (action : Setting → Scene → Scene) :
    Server :=
  match server.seat? key with
  | none => server
  | some seat =>
    let scene := action (setup.setting seat) {
      session := seat.session, world := server.world, policy := server.policy
      asked := server.asked, trace := [] }
    let server := { server with
      world := scene.world
      policy := scene.policy
      asked := scene.asked
      seats := server.seats.map fun other =>
        if other.key = key then { other with session := scene.session } else other }
    scene.trace.foldl (·.relay key ·) server

/-- Takes a session out of the table. Nothing can be sent for it any more. -/
def unseat (server : Server) (key : Key) : Server :=
  { server with seats := server.seats.filter (·.key != key) }.updateConnection key
    fun connection => { connection with outbox := connection.outbox.release }

end Server

end GameServer
