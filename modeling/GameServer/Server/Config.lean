import GameServer.Server.Basic
import GameServer.Service.Standard

/-! How a server is set up, and how it is if nothing else is said. -/

namespace GameServer

namespace Service

def defaultMotd : String := "A Rust game server"

def Listing.default : Listing := { motd := defaultMotd, maxPlayers := 20 }

end Service

def defaultTimeoutTicks : Nat := 300

structure Config where
  bindAddress : String
  tickNanos : Nat
  maxSessions : Nat
  worldName : String
  motd : String
  timeoutTicks : Nat

namespace Config

def default : Config where
  bindAddress := "127.0.0.1:25565"
  tickNanos := 50000000
  maxSessions := 32
  worldName := "world"
  motd := Service.defaultMotd
  timeoutTicks := defaultTimeoutTicks

def listing (config : Config) : Service.Listing :=
  { motd := config.motd, maxPlayers := config.maxSessions }

def setup (config : Config) (policy : Policy) (drawn : Key → Nat → KeepAliveId)
    (token : Key → UInt64) : Setup where
  policy
  table := Service.standard config.listing
  maxSessions := config.maxSessions
  timeoutTicks := config.timeoutTicks
  drawn
  token

end Config

end GameServer
