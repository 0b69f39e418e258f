/-! What the server's owner decides: who may log in, whether a kick goes ahead, and which messages
tell the others of a player's coming and going. Every answer may depend on how many questions
were asked before, so that an owner may change its mind between two questions. -/

namespace GameServer

inductive Question
  | login (name : String)
  | join (name : String)
  | kick (name reason : String)
  | quit (name : String)
  deriving DecidableEq

inductive LoginVerdict
  | allowed
  | denied (reason : String)
  deriving DecidableEq

/-- A kick may be called off, or given another reason and a message for those who stay. -/
inductive KickVerdict
  | cancelled
  | proceed (reason : String) (leave : Option String)
  deriving DecidableEq

structure Policy where
  login : Nat → String → LoginVerdict
  join : Nat → String → Option String
  kick : Nat → String → String → KickVerdict
  quit : Nat → String → Option String
  /-- Whether a broadcast is written to the log as well. -/
  echoes : Bool

namespace Policy

def joinMessage (name : String) : String := name ++ " joined the game"

def leaveMessage (name : String) : String := name ++ " left the game"

def console : Policy where
  login _ _ := .allowed
  join _ name := some (joinMessage name)
  kick _ name reason := .proceed reason (some (leaveMessage name))
  quit _ name := some (leaveMessage name)
  echoes := true

/-- Answers that depend on what is asked alone. -/
structure Steady (policy : Policy) : Prop where
  login : ∀ m n name, policy.login m name = policy.login n name
  join : ∀ m n name, policy.join m name = policy.join n name
  kick : ∀ m n name reason, policy.kick m name reason = policy.kick n name reason
  quit : ∀ m n name, policy.quit m name = policy.quit n name

end Policy

end GameServer
