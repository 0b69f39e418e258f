import GameServer.Session.Basic

/-! How a session moves through its phases, comes by a player, loses it, and sends its client
away. A player leaves through `dispose` alone, and so leaves once. -/

namespace GameServer.Scene

def setPhase (scene : Scene) (setting : Setting) (next : Phase) : Except SessionFault Scene :=
  let now := scene.session.phase
  if !now.canAdvanceTo next then .error (.illegalTransition now next)
  else
    let scene := if now = next then scene else scene.note (.moved setting.who now next)
    .ok { scene with session := { scene.session with phase := next } }

def enterWorld (scene : Scene) (player : Player) : Scene :=
  let scene := scene.record (.entered player)
  match player with
  | .guest _ => scene
  | .native entity =>
    { scene with world := scene.world.enter entity }.note
      (.entered entity.name entity.id scene.world.name)

/-- To leave a world one does not live in is allowed and changes nothing. -/
def leaveWorld (scene : Scene) (player : Player) : Scene :=
  let scene := scene.record (.left player)
  match player with
  | .guest _ => scene
  | .native entity =>
    if scene.world.isLive entity.id then
      { scene with world := scene.world.leave entity.id }.note
        (.removed entity.name scene.world.name)
    else scene

/-- Parts with the player, if there is one. The owner is always asked for a message, which is
broadcast only if `tell` is set. -/
def dispose (scene : Scene) (tell : Bool) : Scene :=
  match scene.session.player with
  | none => scene
  | some player =>
    let scene := { scene with session := { scene.session with player := none } }
    let scene := scene.leaveWorld player
    let message := scene.policy.quit scene.asked player.name
    let scene := scene.ask (.quit player.name)
    if tell then scene.announce message else scene

def sendAway (scene : Scene) (reason : String) : Scene :=
  if scene.session.phase.hasFarewell then
    (scene.send (.farewell reason)).record .closeAfterWrite
  else scene.record .close

/-- Sends the client away. If it has a player and `force` is not set, the owner may call it off
or give another reason; the player is then disposed of without a word, because the leave message
has been broadcast already. -/
def disconnectWith (scene : Scene) (reason : String) (force : Bool) : Scene :=
  match force, scene.session.player with
  | false, some player =>
    let verdict := scene.policy.kick scene.asked player.name reason
    let scene := scene.ask (.kick player.name reason)
    match verdict with
    | .cancelled => scene.note (.kickCancelled player.name)
    | .proceed reason leave =>
      let scene := (scene.announce leave).note (.kicked player.name reason)
      (scene.dispose false).sendAway reason
  | _, _ => scene.sendAway reason

def disconnect (scene : Scene) (reason : String) : Scene :=
  scene.disconnectWith reason false

/-- Gives the session its player. A denied login sends the client away at once, and nobody is
asked whether to kick it. -/
def attach (scene : Scene) (player : Player) : Except SessionFault Scene :=
  if scene.session.player.isSome then .error .playerAlreadyAttached
  else
    let scene := { scene with session := { scene.session with player := some player } }
    let scene := scene.record (.attached player)
    let verdict := scene.policy.login scene.asked player.name
    let scene := scene.ask (.login player.name)
    match verdict with
    | .denied reason =>
      .ok ((scene.note (.loginRefused player.name reason)).disconnectWith reason true)
    | .allowed =>
      let scene := scene.enterWorld player
      let message := scene.policy.join scene.asked player.name
      .ok ((scene.ask (.join player.name)).announce message)

end GameServer.Scene
