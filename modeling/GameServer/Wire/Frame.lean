import GameServer.Wire.Body

/-! A frame is the length of a packet's body in four bytes, most significant first, and then the
body. A body of more than two mebibytes has no frame. -/

namespace GameServer

namespace Frame

def headerLength : Nat := 4

def maxLength : Nat := 2 * 1024 * 1024

end Frame

inductive ConnectionFault
  /-- It ended inside the four bytes of a length. -/
  | headerCut
  /-- It ended inside a body. -/
  | bodyCut
  | noProgress
  | broken (text : String)
  deriving DecidableEq

def ConnectionFault.message : ConnectionFault → String
  | .headerCut => "connection closed inside a frame header"
  | .bodyCut => "early eof"
  | .noProgress => "write zero"
  | .broken text => text

inductive FrameError
  | connection (fault : ConnectionFault)
  | body (error : BodyError)
  | tooLarge (length : Nat)
  deriving DecidableEq

def FrameError.message : FrameError → String
  | .connection fault => "frame io error: " ++ fault.message
  | .body error => "frame codec error: " ++ error.message
  | .tooLarge length => s!"frame of {length} bytes exceeds the 2 MiB limit"

namespace Frame

def checkLength (length : Nat) : Except FrameError Unit :=
  if length ≤ maxLength then .ok () else .error (.tooLarge length)

theorem checkLength_eq_ok_iff {length : Nat} :
    checkLength length = .ok () ↔ length ≤ maxLength := by
  unfold checkLength
  split <;> simp [*]

end Frame

def Packet.frame (packet : Packet) : Except FrameError (List UInt8) :=
  let body := packet.body
  if Frame.maxLength < body.length then .error (.tooLarge body.length)
  else .ok (Wire.bigEndian Frame.headerLength body.length ++ body)

end GameServer
