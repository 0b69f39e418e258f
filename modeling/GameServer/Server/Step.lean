import GameServer.Server.Loop

/-! The reader and the writer of a connection, one step at a time, and the steps of a server as a
whole. Which step comes next is for whoever runs the server to say. -/

namespace GameServer

namespace Server

def endReader (server : Server) (key : Key) : Server :=
  (server.updateConnection key ({ · with reader := .ended })).post (.closed key)

/-- Hands over a packet that has been read. A handshake goes to the loop, and the reader waits;
anything else goes into the session's inbox. The reader ends if nobody is there to take it. -/
def deliver (server : Server) (setup : Setup) (key : Key) (packet : Packet) : Server :=
  match packet.route with
  | .queued =>
    if (server.seat? key).isSome then
      (server.updateConnection key ({ · with reader := .reading })).act setup key
        fun _ scene => scene.enqueue packet
    else server.endReader key
  | .immediate =>
    if server.running then
      (server.updateConnection key ({ · with reader := .asking })).post
        (.handshake key packet .reader)
    else server.endReader key

def read (server : Server) (setup : Setup) (key : Key) : Server :=
  match server.connection? key with
  | none => server
  | some connection =>
    match connection.reader with
    | .asking | .ended => server
    | .told phase =>
      (server.updateConnection key ({ · with reader := .reading })).note (.phaseReached key phase)
    | .untold => server.endReader key
    | .holding packet => server.deliver setup key packet
    | .reading =>
      match connection.source.next with
      | (.waiting, _) => server
      | (.packet packet, rest) =>
        (server.updateConnection key
          ({ · with arrived := rest.arrived, reader := .holding packet })).record (.read key packet)
      | (.finished, _) => (server.note (.hungUp connection.address)).endReader key
      | (.failed error, _) => (server.note (.dropping connection.address error)).endReader key

/-- The reader learns that the writer has ended, and ends too. It learns this only between two
packets. -/
def heed (server : Server) (key : Key) : Server :=
  match server.connection? key with
  | none => server
  | some connection =>
    if connection.reader = .reading ∧ connection.outbox.closed then server.endReader key
    else server

def write (server : Server) (key : Key) : Server :=
  match server.connection? key with
  | none => server
  | some connection =>
    let (outbox, events) := connection.outbox.run
    let server := server.updateConnection key ({ · with outbox })
    { server with records := server.records ++ events.map (.writer key) }

def shuffle (server : Server) (first : Key) : Server :=
  { server with
    seats := server.seats.filter (·.key == first) ++ server.seats.filter (·.key != first) }

end Server

inductive Step
  | accept (address : String) (sink : Sink)
  | arrive (key : Key) (bytes : List UInt8)
  | cease (key : Key) (ending : Wire.Ending)
  | read (key : Key)
  | heed (key : Key)
  | write (key : Key)
  | post (message : Message)
  | serve
  | tick
  /-- The table keeps its sessions in no order of its own. From now on it gives this one first. -/
  | shuffle (first : Key)

namespace Server

def perform (server : Server) (setup : Setup) : Step → Server
  | .accept address sink => if server.running then server.accept setup address sink else server
  | .arrive key bytes =>
    server.updateConnection key fun connection =>
      { connection with arrived := connection.arrived ++ bytes }
  | .cease key ending => server.updateConnection key ({ · with ending })
  | .read key => server.read setup key
  | .heed key => server.heed key
  | .write key => server.write key
  | .post message => server.post message
  | .serve => server.serve setup
  | .tick => server.tick setup
  | .shuffle first => server.shuffle first

def start (setup : Setup) (address worldName : String) : Server :=
  (((create worldName setup.policy).note (.listening address)).note .started).tick setup

def runSteps (server : Server) (setup : Setup) (steps : List Step) : Server :=
  steps.foldl (·.perform setup ·) server

end Server

end GameServer
