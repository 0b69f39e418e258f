import GameServer.Session.Tick

/-! The start of a connection: the handshake that says what it is for, and the questions of a
client that only wants to list the server. -/

namespace GameServer.Service

structure Listing where
  motd : String
  maxPlayers : Nat

def release : String := "0.1.0"

def Listing.json (listing : Listing) (online : Nat) : Text.Json :=
  .object
    [("description", .object [("text", .text listing.motd)]),
      ("players", .object [("max", .number listing.maxPlayers), ("online", .number online)]),
      ("version", .object
        [("name", .text release), ("protocol", .number protocolVersion.toNat)])]

/-- A handshake leads into a status query or a login, and a login asks for the server's own
revision of the packets. -/
def handshake : Handler
  | setting, _, .handshake version _ _ next, scene =>
    if next = .status ∨ next = .login then
      match scene.setPhase setting next with
      | .error fault =>
        (scene.note (.refused setting.who fault)).disconnect "Invalid handshake"
      | .ok scene =>
        if next = .login ∧ version ≠ protocolVersion then
          (scene.note (.foreignVersion setting.who version protocolVersion)).disconnect
            (if version < protocolVersion then "Outdated client!" else "Outdated server!")
        else scene
    else (scene.note (.invalidTarget setting.who next)).disconnect "Invalid handshake"
  | _, _, _, scene => scene

def statusRequest (listing : Listing) : Handler
  | _, _, _, scene => scene.send (.statusResponse (listing.json scene.world.online).render)

def ping : Handler
  | _, _, packet, scene => (scene.send packet).disconnect ""

end GameServer.Service
