import GameServer.Server.Step

/-! Running a server for as long as there is something to do without a further tick. The loop
comes first, then the writers, then the readers, and a reader whose writer has ended does not
read on. -/

namespace GameServer

namespace Connection

def canRead (connection : Connection) : Bool :=
  match connection.reader with
  | .asking | .ended => false
  | .told _ | .untold | .holding _ => true
  | .reading => !(connection.source.next.1 matches .waiting)

def canHeed (connection : Connection) : Bool :=
  connection.reader = .reading && connection.outbox.closed

/-- No less than the steps that the connection can still take. -/
def effort (connection : Connection) : Nat :=
  connection.arrived.length + connection.outbox.waiting.length + 8

end Connection

namespace Server

def due? (server : Server) : Option Step :=
  if server.running && !server.mailbox.isEmpty then some .serve
  else
    match server.connections.find? (·.outbox.isDue) with
    | some connection => some (.write connection.key)
    | none =>
      match server.connections.find? (·.canHeed) with
      | some connection => some (.heed connection.key)
      | none => (server.connections.find? (·.canRead)).map fun connection => .read connection.key

def settleWithin (setup : Setup) : (bound : Nat) → Server → Server
  | 0, server => server
  | bound + 1, server =>
    match server.due? with
    | none => server
    | some step => settleWithin setup bound (server.perform setup step)

/-- A frame has at least eight bytes and takes five steps at most. A message takes one, and sets
off a few more. -/
def effort (server : Server) : Nat :=
  server.connections.foldl (fun total connection => total + connection.effort)
    (4 * server.mailbox.length + 8)

def settle (server : Server) (setup : Setup) : Server :=
  settleWithin setup server.effort server

end Server

end GameServer
