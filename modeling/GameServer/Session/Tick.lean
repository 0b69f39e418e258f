import GameServer.Session.Lifecycle
import GameServer.Session.Table

/-! Taking up packets, at once or tick by tick, and giving up clients that have gone silent. -/

namespace GameServer.Scene

def dispatch (scene : Scene) (table : Table) (setting : Setting) (packet : Packet) : Scene :=
  let phase := scene.session.phase
  let scene := scene.record (.took phase packet)
  match table.handle? phase setting scene.session.player packet scene with
  | some scene => scene
  | none => scene.note (.unhandled packet.kind setting.who phase)

def receive (scene : Scene) (table : Table) (setting : Setting) (packet : Packet) : Scene :=
  match packet.route with
  | .immediate => scene.dispatch table setting packet
  | .queued => scene.enqueue packet

/-- Takes up the packets that wait, oldest first, at most `bound` of them. Each of them counts as
a word from the client. -/
def drain (table : Table) (setting : Setting) : (bound : Nat) → Scene → Scene
  | 0, scene => scene
  | bound + 1, scene =>
    match scene.session.inbox with
    | [] => scene
    | packet :: rest =>
      let scene := { scene with session := { scene.session with inbox := rest } }
      let scene := scene.dispatch table setting packet
      drain table setting bound { scene with session := { scene.session with idle := 0 } }

/-- Outside of play the id is drawn and kept like any other, but the client is not told. -/
def issueKeepAlive (scene : Scene) (setting : Setting) : Scene :=
  let id := setting.drawn scene.session.issued
  let scene := { scene with session := { scene.session with
    outstanding := some id, idle := 0, issued := scene.session.issued + 1 } }
  let scene := scene.note (.keepAliveIssued id.val setting.who)
  if scene.session.phase = .play then scene.send (.keepAlive id.val) else scene

def timeoutReason : String := "Timed out"

/-- A client that has been silent for too long is sent a keepalive, and if it is silent for as
long again while that is outstanding, it is sent away. -/
def checkSilence (scene : Scene) (setting : Setting) : Scene :=
  if scene.session.idle < setting.timeoutTicks then scene
  else
    match scene.session.outstanding with
    | none => scene.issueKeepAlive setting
    | some _ => scene.disconnect timeoutReason

def pulse (scene : Scene) (table : Table) (setting : Setting) : Scene :=
  let idle := min (scene.session.idle + 1) Session.idleLimit
  let scene := { scene with session := { scene.session with idle } }
  let scene := drain table setting (scene.session.inbox.length + table.allowance) scene
  scene.checkSilence setting

end GameServer.Scene
