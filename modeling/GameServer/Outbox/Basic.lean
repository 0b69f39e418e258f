import GameServer.Event
import GameServer.Outbox.Sink

/-! The outgoing side of a connection. A session never waits for the network: it puts packets
into the outbox, and a writer takes them out and sends them whenever it gets to run. A close is
put into the outbox like a packet, and so comes after everything put in before it. -/

namespace GameServer

inductive Outgoing
  | packet (packet : Packet)
  | close
  deriving DecidableEq

/-- What an event of a session puts into the outbox. Whether the close follows a packet or comes
alone makes no difference here, because the order is kept. -/
def Event.outgoing? : Event → Option Outgoing
  | .write packet => some (.packet packet)
  | .closeAfterWrite | .close => some .close
  | _ => none

structure Outbox where
  address : String
  waiting : List Outgoing
  /-- Nobody can put anything into it any more. -/
  released : Bool
  /-- The writer has ended and has shut the sink down. -/
  closed : Bool
  sink : Sink

inductive WriterEvent
  | log (notice : Notice)
  | shutdown
  deriving DecidableEq

namespace Outbox

def empty (address : String) (sink : Sink) : Outbox :=
  { address, waiting := [], released := false, closed := false, sink }

/-- Puts something into the outbox. Once the writer has ended it is lost, which for a packet is
reported. -/
def put (outbox : Outbox) (item : Outgoing) : Outbox × List WriterEvent :=
  if outbox.closed then
    match item with
    | .packet _ => (outbox, [.log (.packetDropped outbox.address)])
    | .close => (outbox, [])
  else ({ outbox with waiting := outbox.waiting ++ [item] }, [])

def release (outbox : Outbox) : Outbox := { outbox with released := true }

def finish (outbox : Outbox) : Outbox × List WriterEvent :=
  ({ outbox with waiting := [], closed := true, sink := outbox.sink.shutdown },
    match outbox.sink.shutdownFault with
    | none => [.shutdown]
    | some reason => [.shutdown, .log (.shutdownFailed outbox.address reason)])

def transmit (sink : Sink) (packet : Packet) : Except FrameError Unit × Sink :=
  match packet.frame with
  | .error error => (.error error, sink)
  | .ok bytes =>
    match sink.write bytes with
    | (.ok (), sink) => (.ok (), sink)
    | (.error fault, sink) => (.error (.connection fault), sink)

/-- The writer takes out `items`, which are all that waits, until it comes to a close or fails,
or ends because nobody can put in more. -/
def work (outbox : Outbox) : List Outgoing → Outbox × List WriterEvent
  | [] =>
    if outbox.released then { outbox with waiting := [] }.finish
    else ({ outbox with waiting := [] }, [])
  | .close :: _ => outbox.finish
  | .packet packet :: rest =>
    match transmit outbox.sink packet with
    | (.ok (), sink) => work { outbox with sink } rest
    | (.error error, sink) =>
      let (outbox, events) := { outbox with sink }.finish
      (outbox, .log (.writeFailed outbox.address error) :: events)

def run (outbox : Outbox) : Outbox × List WriterEvent :=
  if outbox.closed then (outbox, []) else outbox.work outbox.waiting

def isDue (outbox : Outbox) : Bool :=
  !outbox.closed && (outbox.released || !outbox.waiting.isEmpty)

end Outbox

end GameServer
