import GameServer.Phase

/-! What a session refuses to its callers. -/

namespace GameServer

inductive SessionFault
  | playerAlreadyAttached
  | illegalTransition (before after : Phase)
  deriving DecidableEq

def SessionFault.message : SessionFault → String
  | .playerAlreadyAttached => "a player is already attached to this session"
  | .illegalTransition before after =>
    s!"illegal protocol state transition from {before.name} to {after.name}"

end GameServer
