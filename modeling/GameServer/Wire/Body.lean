import GameServer.Packet
import GameServer.Wire.Word
import GameServer.Wire.Utf8

/-! The body of a packet: a tag of four bytes for its kind, then its fields in order. Numbers
are little-endian in their own width, negative ones in two's complement. A text is its length in
eight bytes and then its UTF-8 bytes; a phase is a tag. -/

namespace GameServer

def Phase.tag : Phase → Nat
  | .handshake => 0
  | .status => 1
  | .login => 2
  | .play => 3

def Phase.ofTag? (tag : Nat) : Option Phase := all[tag]?

def Kind.tag : Kind → Nat
  | .handshake => 0
  | .statusRequest => 1
  | .statusResponse => 2
  | .ping => 3
  | .loginStart => 4
  | .loginSuccess => 5
  | .keepAlive => 6
  | .chat => 7
  | .blockPlacement => 8
  | .kick => 9

def Kind.ofTag? (tag : Nat) : Option Kind := all[tag]?

@[simp] theorem Phase.ofTag?_tag (phase : Phase) : ofTag? phase.tag = some phase := by
  cases phase <;> rfl

@[simp] theorem Kind.ofTag?_tag (kind : Kind) : ofTag? kind.tag = some kind := by
  cases kind <;> rfl

namespace Wire

def textField (text : String) : List UInt8 :=
  let bytes := textBytes text
  littleEndian 8 bytes.length ++ bytes

end Wire

open Wire

def Placement.fields (placement : Placement) : List UInt8 :=
  littleEndian 4 placement.x.toUInt32.toNat ++
  (littleEndian 4 placement.y.toUInt32.toNat ++
  (littleEndian 4 placement.z.toUInt32.toNat ++
  (littleEndian 1 placement.direction.toUInt8.toNat ++
  littleEndian 2 placement.heldItem.toUInt16.toNat)))

def Packet.fields : Packet → List UInt8
  | .handshake version address port next =>
    littleEndian 4 version.toNat ++ (textField address ++
      (littleEndian 2 port.toNat ++ littleEndian 4 next.tag))
  | .statusRequest => []
  | .statusResponse json => textField json
  | .ping time => littleEndian 8 time.toUInt64.toNat
  | .loginStart name => textField name
  | .loginSuccess name => textField name
  | .keepAlive id => littleEndian 4 id.toUInt32.toNat
  | .chat message => textField message
  | .blockPlacement placement => placement.fields
  | .kick json => textField json

def Packet.body (packet : Packet) : List UInt8 :=
  littleEndian 4 packet.kind.tag ++ packet.fields

inductive BodyError
  /-- They end inside a number or a tag. -/
  | numberCut
  /-- A text announces more bytes than are left. -/
  | textCut
  /-- A tag names none of the `count` things it could name. -/
  | unknownTag (tag count : Nat)
  | badText (fault : TextFault)
  deriving DecidableEq

namespace BodyError

def isEndOfInput : BodyError → Bool
  | .numberCut | .textCut => true
  | .unknownTag .. | .badText _ => false

def message : BodyError → String
  | .numberCut => "io error: unexpected end of file"
  | .textCut => "io error: "
  | .unknownTag tag count =>
    s!"invalid value: integer `{tag}`, expected variant index 0 <= i < {count}"
  | .badText fault => "string is not valid utf8: " ++ fault.message

end BodyError

namespace Wire

/-- Reads a value off the front of the bytes, or finds the first thing wrong with them. -/
abbrev Reader (α : Type) := StateT (List UInt8) (Except BodyError) α

namespace Reader

/-- The next `count` bytes; it is `cut` if there are fewer. -/
def bytes (count : Nat) (cut : BodyError) : Reader (List UInt8) := fun input =>
  let taken := input.take count
  if taken.length = count then .ok (taken, input.drop count) else .error cut

def number (width : Nat) : Reader Nat := do
  return ofLittleEndian (← bytes width .numberCut)

/-- The length is checked against the bytes left before any of them is looked at. -/
def text : Reader String := do
  let taken ← bytes (← number 8) .textCut
  match textOfBytes? taken with
  | some text => return text
  | none => throw (.badText ((TextFault.find 0 0 taken).getD ⟨taken.length, none⟩))

def phase : Reader Phase := do
  let tag ← number 4
  match Phase.ofTag? tag with
  | some phase => return phase
  | none => throw (.unknownTag tag Phase.all.length)

def kind : Reader Kind := do
  let tag ← number 4
  match Kind.ofTag? tag with
  | some kind => return kind
  | none => throw (.unknownTag tag Kind.all.length)

def int32 : Reader Int32 := do
  return (UInt32.ofNat (← number 4)).toInt32

def placement : Reader Placement := do
  let x ← int32
  let y ← int32
  let z ← int32
  let direction := (UInt8.ofNat (← number 1)).toInt8
  let heldItem := (UInt16.ofNat (← number 2)).toInt16
  return { x, y, z, direction, heldItem }

def fields : Kind → Reader Packet
  | .handshake => do
    let version := UInt32.ofNat (← number 4)
    let address ← text
    let port := UInt16.ofNat (← number 2)
    return .handshake version address port (← phase)
  | .statusRequest => return .statusRequest
  | .statusResponse => return .statusResponse (← text)
  | .ping => return .ping (UInt64.ofNat (← number 8)).toInt64
  | .loginStart => return .loginStart (← text)
  | .loginSuccess => return .loginSuccess (← text)
  | .keepAlive => return .keepAlive (← int32)
  | .chat => return .chat (← text)
  | .blockPlacement => return .blockPlacement (← placement)
  | .kick => return .kick (← text)

def packet : Reader Packet := do
  fields (← kind)

end Reader

end Wire

/-- Fields are read in order and the first thing wrong decides. Bytes behind the last field
are not looked at. -/
def Packet.ofBody (body : List UInt8) : Except BodyError Packet :=
  (·.1) <$> Reader.packet.run body

end GameServer
