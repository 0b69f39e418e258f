/-! The phase of a connection. It decides which packets are understood, and whether a client
that is sent away can still be told why. -/

namespace GameServer

inductive Phase
  | handshake
  | status
  | login
  | play
  deriving DecidableEq, Inhabited

namespace Phase

def all : List Phase := [.handshake, .status, .login, .play]

def name : Phase → String
  | .handshake => "handshake"
  | .status => "status"
  | .login => "login"
  | .play => "play"

/-- A connection opens into a status query or a login, and a login leads into play. Staying in a
phase is always allowed, going back never is. -/
def canAdvanceTo : Phase → Phase → Bool
  | .handshake, .status => true
  | .handshake, .login => true
  | .login, .play => true
  | now, next => now == next

def hasFarewell : Phase → Bool
  | .login | .play => true
  | .handshake | .status => false

theorem mem_all (phase : Phase) : phase ∈ all := by
  cases phase <;> simp [all]

@[simp] theorem canAdvanceTo_self (phase : Phase) : phase.canAdvanceTo phase = true := by
  cases phase <;> rfl

end Phase

end GameServer
