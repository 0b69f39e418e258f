import GameServer.Session.Tick

/-! Logging in. -/

namespace GameServer.Service

def maxNameLength : Nat := 16

def isNameChar (c : Char) : Bool :=
  ('a' ≤ c && c ≤ 'z') || ('A' ≤ c && c ≤ 'Z') || ('0' ≤ c && c ≤ '9') || c == '_'

def isValidName (name : String) : Bool :=
  !name.isEmpty && name.length ≤ maxNameLength && name.toList.all isNameChar

def loginStart : Handler
  | setting, _, .loginStart name, scene =>
    if scene.session.player.isSome then scene.note (.secondLogin setting.who)
    else if !isValidName name then scene.disconnect "Invalid username"
    else
      match scene.setPhase setting .play with
      | .error fault => scene.note (.refused setting.who fault)
      | .ok scene =>
        let scene := scene.send (.loginSuccess name)
        let (entity, world) := scene.world.spawn name
        let scene := { scene with world }
        match scene.attach (.native entity) with
        | .error fault => scene.note (.refused setting.who fault)
        | .ok scene => scene
  | _, _, _, scene => scene

end GameServer.Service
