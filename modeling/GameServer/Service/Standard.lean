import GameServer.Service.Opening
import GameServer.Service.Login
import GameServer.Service.Play

/-! The handlers that the server registers. None of them puts a packet into an inbox. -/

namespace GameServer.Service

def standard (listing : Listing) : Table :=
  Table.empty
    |>.on .handshake .handshake handshake
    |>.on .status .statusRequest (statusRequest listing)
    |>.on .status .ping ping
    |>.on .login .loginStart loginStart
    |>.on .play .keepAlive keepAlive
    |>.on .play .chat chat
    |>.on .play .blockPlacement blockPlacement

end GameServer.Service
