import GameServer.Wire.Frame

/-! Where the bytes for a client go. A sink may take fewer bytes than it is offered, and may fail
for good once it has taken a certain number of them. It keeps a record of what is done to it. -/

namespace GameServer

inductive Sink.Act
  | took (bytes : List UInt8)
  | shutdown
  deriving DecidableEq

structure Sink where
  /-- The most bytes that one write takes; `none` is no limit. -/
  perWrite : Option Nat
  /-- The bytes that are taken in all; `none` is no limit. -/
  capacity : Option Nat
  fault : ConnectionFault
  shutdownFault : Option String
  taken : List UInt8
  /-- What has happened at it so far, the bytes it took as well as the end. -/
  acts : List Sink.Act := []

namespace Sink

def unlimited : Sink :=
  { perWrite := none, capacity := none, fault := .noProgress, shutdownFault := none, taken := [] }

/-- How many bytes the next write takes, if `offered` are offered and `used` have been taken. -/
def grant (sink : Sink) (used offered : Nat) : Nat :=
  min ((sink.perWrite.map (min offered)).getD offered)
    ((sink.capacity.map (· - used)).getD offered)

theorem grant_le (sink : Sink) (used offered : Nat) : sink.grant used offered ≤ offered := by
  unfold grant
  cases sink.perWrite with
  | none => exact Nat.min_le_left _ _
  | some limit => exact Nat.le_trans (Nat.min_le_left _ _) (Nat.min_le_left offered limit)

/-- Offers `offered` bytes, write after write, until all are taken or a write takes none. What is
left over at the end is returned. -/
def offer (sink : Sink) (used offered : Nat) : Nat :=
  match _h : sink.grant used offered with
  | 0 => offered
  | granted + 1 => sink.offer (used + (granted + 1)) (offered - (granted + 1))
termination_by offered
decreasing_by
  have := sink.grant_le used offered
  omega

def refusal (sink : Sink) (used : Nat) : ConnectionFault :=
  if sink.capacity.any (· ≤ used) then sink.fault else .noProgress

def take (sink : Sink) (bytes : List UInt8) : Sink :=
  { sink with taken := sink.taken ++ bytes, acts := sink.acts ++ [.took bytes] }

def write (sink : Sink) (bytes : List UInt8) : Except ConnectionFault Unit × Sink :=
  let left := sink.offer sink.taken.length bytes.length
  let after := sink.take (bytes.take (bytes.length - left))
  (if left = 0 then .ok () else .error (sink.refusal after.taken.length), after)

def shutdown (sink : Sink) : Sink := { sink with acts := sink.acts ++ [.shutdown] }

end Sink

end GameServer
