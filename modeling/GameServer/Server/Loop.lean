import GameServer.Server.Basic

/-! The loop of a server: it accepts connections, serves messages, and ticks. -/

namespace GameServer.Server

/-- Accepts a connection, unless there are as many sessions as there may be: a client that has
not shaken hands cannot be told anything, so it is let go without a word. -/
def accept (server : Server) (setup : Setup) (address : String) (sink : Sink) : Server :=
  if setup.maxSessions ≤ server.seats.length then server.note (.serverFull address)
  else
    let key := server.nextKey
    let server := server.note (.connected key address)
    { server with
      nextKey := key + 1
      seats := server.seats ++ [{ key, address, session := .fresh }]
      connections := server.connections ++ [{
        key, address, reader := .reading, arrived := [], ending := .pending
        outbox := .empty address sink }] }

/-- Answers whoever sent a handshake with the phase it has led to. Without a session there is no
answer. -/
def answer (server : Server) (key : Key) (asker : Asker) : Server :=
  match asker, server.seat? key with
  | .reader, some seat =>
    server.updateConnection key ({ · with reader := .told seat.session.phase })
  | .reader, none => server.updateConnection key ({ · with reader := .untold })
  | .control, some seat => server.record (.answered key seat.session.phase)
  | .control, none => server

def remove (server : Server) (setup : Setup) (key : Key) : Server :=
  match server.seat? key with
  | none => server
  | some _ =>
    ((server.act setup key fun _ scene => scene.dispose true).note
      (.disconnected key)).unseat key

def closingReason : String := "Server closed"

/-- Sends the client of a session away and removes the session, even if the kick is called
off. -/
def evict (setup : Setup) (server : Server) (key : Key) : Server :=
  (server.act setup key fun _ scene =>
    (scene.disconnect closingReason).dispose true).unseat key

/-- Ends the loop. Handshakes that were still to be handled get no answer. -/
def stop (server : Server) (setup : Setup) : Server :=
  let server := server.note .shuttingDown
  let server := (server.seats.map (·.key)).foldl (evict setup) server
  let server := { server with
    running := false
    mailbox := []
    connections := server.connections.map Connection.abandon }
  server.record (.ended server.seats.length)

def serve (server : Server) (setup : Setup) : Server :=
  if !server.running then server
  else
    match server.mailbox with
    | [] => server
    | message :: rest =>
      let server := { server with mailbox := rest }
      match message with
      | .handshake key packet asker =>
        let server := server.act setup key fun setting scene =>
          scene.receive setup.table setting packet
        server.answer key asker
      | .closed key => server.remove setup key
      | .shutdown => server.stop setup

def censusPeriod : Nat := 600

def tick (server : Server) (setup : Setup) : Server :=
  if !server.running then server
  else
    let server := (server.seats.map (·.key)).foldl
      (fun server key => server.act setup key fun setting scene => scene.pulse setup.table setting)
      server
    let server := { server with ticks := server.ticks + 1 }
    if server.ticks % censusPeriod = 0 ∧ !server.seats.isEmpty then
      server.note (.census server.ticks server.seats.length server.world.online server.world.name)
    else server

end GameServer.Server
