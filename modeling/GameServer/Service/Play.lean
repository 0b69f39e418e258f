import GameServer.Session.Tick
import GameServer.Text.Blank

/-! The packets of play. -/

namespace GameServer.Service

def maxChatLength : Nat := 100

/-- Only the id that is outstanding is an answer. With none outstanding that id is zero. -/
def keepAlive : Handler
  | setting, _, .keepAlive id, scene =>
    if id = scene.session.pingId then scene.pong
    else scene.note (.wrongEcho setting.who id scene.session.pingId)
  | _, _, _, scene => scene

def chatLine (name message : String) : String := "<" ++ name ++ "> " ++ message

/-- The blanks at the ends of a message do not count, and nothing else than blanks is no
message. -/
def chat : Handler
  | _, some player, .chat message, scene =>
    let message := Text.trim message
    if message.isEmpty then scene
    else if message.length > maxChatLength then
      scene.disconnect "Chat message too long"
    else scene.broadcast (chatLine player.name message)
  | _, _, _, scene => scene

def blockPlacement : Handler
  | setting, _, .blockPlacement placement, scene =>
    if scene.session.placement = some placement then
      scene.note (.duplicatePlacement setting.who)
    else (scene.remember placement).note (.placed setting.who placement)
  | _, _, _, scene => scene

end GameServer.Service
