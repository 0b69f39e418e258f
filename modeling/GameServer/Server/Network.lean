import GameServer.Server.Settle

/-! A server together with its clients, each of which has a name and one connection. Everybody
waits after each move until the server has done all it can without a further tick. -/

namespace GameServer

structure Client where
  name : String
  key : Option Key
  ceased : Bool
  /-- How many of the packets sent to it have been reported. -/
  seen : Nat

structure Network where
  server : Server
  setup : Setup
  reachable : Bool
  clients : List Client

structure Delivery where
  client : String
  packets : List Packet
  closed : Bool

namespace Network

def start (setup : Setup) (address worldName : String) (reachable : Bool) : Network :=
  { server := .start setup address worldName, setup, reachable, clients := [] }

def client? (network : Network) (name : String) : Option Client :=
  network.clients.find? (·.name == name)

def advance (network : Network) (step : Step) : Network :=
  { network with server := (network.server.perform network.setup step).settle network.setup }

/-- A client connects, if anybody listens. -/
def connect (network : Network) (name : String) : Option Network :=
  if network.reachable && network.server.running then
    let key := network.server.nextKey
    let network := network.advance (.accept name .unlimited)
    let client : Client := {
      name, ceased := false, seen := 0
      key := if network.server.nextKey = key then none else some key }
    some { network with clients := network.clients.filter (·.name != name) ++ [client] }
  else none

def isClosed (network : Network) (client : Client) : Bool :=
  match client.key with
  | none => true
  | some key => (network.server.connection? key).all (·.outbox.closed)

/-- A client sends bytes, unless it knows that they would be lost. -/
def send (network : Network) (client : Client) (bytes : List UInt8) : Option Network :=
  match client.key with
  | none => none
  | some key =>
    if client.ceased || network.isClosed client then none
    else some (network.advance (.arrive key bytes))

def cease (network : Network) (client : Client) : Network :=
  match client.key with
  | none => network
  | some key =>
    let network := network.advance (.cease key .closed)
    { network with clients := network.clients.map fun other =>
        if other.name = client.name then { other with ceased := true } else other }

def tick (network : Network) : (ticks : Nat) → Network
  | 0 => network
  | ticks + 1 => (network.advance .tick).tick ticks

/-- A message by the control channel; nothing comes of it if the loop has ended. -/
def post (network : Network) (message : Message) : Network := network.advance (.post message)

def packetsTo (network : Network) (client : Client) : List Packet :=
  match client.key.bind network.server.connection? with
  | none => []
  | some connection =>
    ((Wire.Source.ofBytes connection.outbox.sink.taken .closed).packets []).packets

def delivery (network : Network) (client : Client) : Delivery where
  client := client.name
  packets := (network.packetsTo client).drop client.seen
  closed := network.isClosed client

def report (network : Network) : List Delivery × Network :=
  (network.clients.map network.delivery,
    { network with
      server := { network.server with records := [] }
      clients := network.clients.map fun client =>
        { client with seen := (network.packetsTo client).length } })

end Network

end GameServer
