import GameServer.Wire.Body
import Mathlib.Algebra.Group.Nat.Defs

/-! Reading back what was written. A reader given the bytes of a value, with anything behind them,
returns the value and what is behind it. -/

namespace GameServer

namespace Wire

/-- What did not fit is lost, and nothing else. -/
theorem ofLittleEndian_littleEndian (width n : Nat) :
    ofLittleEndian (littleEndian width n) = n % 256 ^ width := by
  induction width generalizing n with
  | zero => simp [littleEndian, ofLittleEndian, Nat.mod_one]
  | succ width ih =>
    have byte : (UInt8.ofNat (n % 256)).toNat = n % 256 := by
      rw [UInt8.toNat_ofNat']
      exact Nat.mod_eq_of_lt (Nat.mod_lt n (by decide))
    rw [littleEndian, ofLittleEndian, ih, byte, Nat.pow_succ', Nat.mod_mul]

theorem ofLittleEndian_lt (bytes : List UInt8) : ofLittleEndian bytes < 256 ^ bytes.length := by
  induction bytes with
  | nil => simp [ofLittleEndian]
  | cons byte rest ih =>
    have h : byte.toNat < 256 := byte.toNat_lt
    rw [ofLittleEndian, List.length_cons, Nat.pow_succ]
    omega

theorem ofBigEndian_bigEndian (width n : Nat) :
    ofBigEndian (bigEndian width n) = n % 256 ^ width := by
  rw [ofBigEndian, bigEndian, List.reverse_reverse, ofLittleEndian_littleEndian]

namespace Reader

theorem run_bind_of_run {α β : Type} {first : Reader α} {input rest : List UInt8} {a : α}
    (h : first.run input = .ok (a, rest)) (next : α → Reader β) :
    (first >>= next).run input = (next a).run rest := by
  rw [StateT.run_bind, h]
  rfl

theorem run_bytes_append (taken rest : List UInt8) (cut : BodyError) :
    (bytes taken.length cut).run (taken ++ rest) = .ok (taken, rest) := by
  simp [bytes, StateT.run]

theorem run_number_append {width n : Nat} (h : n < 256 ^ width) (rest : List UInt8) :
    (number width).run (littleEndian width n ++ rest) = .ok (n, rest) := by
  have hb := run_bytes_append (littleEndian width n) rest .numberCut
  rw [length_littleEndian] at hb
  rw [number, run_bind_of_run hb, ofLittleEndian_littleEndian, Nat.mod_eq_of_lt h]
  rfl

theorem run_text_append (text : String) (h : (textBytes text).length < 256 ^ 8)
    (rest : List UInt8) : Reader.text.run (textField text ++ rest) = .ok (text, rest) := by
  rw [Reader.text, textField, List.append_assoc, run_bind_of_run (run_number_append h _),
    run_bind_of_run (run_bytes_append _ _ _), textOfBytes?_textBytes]
  rfl

theorem run_phase_append (next : Phase) (rest : List UInt8) :
    Reader.phase.run (littleEndian 4 next.tag ++ rest) = .ok (next, rest) := by
  have h : next.tag < 256 ^ 4 := by cases next <;> decide
  rw [Reader.phase, run_bind_of_run (run_number_append h _), Phase.ofTag?_tag]
  rfl

theorem run_kind_append (kind : Kind) (rest : List UInt8) :
    Reader.kind.run (littleEndian 4 kind.tag ++ rest) = .ok (kind, rest) := by
  have h : kind.tag < 256 ^ 4 := by cases kind <;> decide
  rw [Reader.kind, run_bind_of_run (run_number_append h _), Kind.ofTag?_tag]
  rfl

theorem run_int32_append (n : Int32) (rest : List UInt8) :
    int32.run (littleEndian 4 n.toUInt32.toNat ++ rest) = .ok (n, rest) := by
  rw [int32, run_bind_of_run (run_number_append n.toUInt32.toNat_lt _), UInt32.ofNat_toNat]
  rfl

theorem run_placement_append (placement : Placement) (rest : List UInt8) :
    Reader.placement.run (placement.fields ++ rest) = .ok (placement, rest) := by
  obtain ⟨x, y, z, direction, heldItem⟩ := placement
  simp only [Reader.placement, Placement.fields, List.append_assoc]
  rw [run_bind_of_run (run_int32_append x _), run_bind_of_run (run_int32_append y _),
    run_bind_of_run (run_int32_append z _),
    run_bind_of_run (run_number_append direction.toUInt8.toNat_lt _),
    run_bind_of_run (run_number_append heldItem.toUInt16.toNat_lt _),
    UInt8.ofNat_toNat, UInt16.ofNat_toNat]
  rfl

end Reader

end Wire

open Wire

def Packet.text : Packet → String
  | .handshake _ address _ _ => address
  | .statusRequest | .ping _ | .keepAlive _ | .blockPlacement _ => ""
  | .statusResponse text | .loginStart text | .loginSuccess text | .chat text | .kick text => text

theorem Packet.length_text_lt_length_body (packet : Packet) :
    (textBytes packet.text).length < packet.body.length := by
  have he : textBytes "" = [] := by decide
  cases packet <;> simp [body, fields, textField, text, he] <;> omega

namespace Wire.Reader

theorem run_fields_append {packet : Packet} (h : (textBytes packet.text).length < 256 ^ 8)
    (rest : List UInt8) :
    (fields packet.kind).run (packet.fields ++ rest) = .ok (packet, rest) := by
  cases packet with
  | handshake version address port next =>
    simp only [Packet.kind, Packet.fields, fields, List.append_assoc]
    rw [run_bind_of_run (run_number_append version.toNat_lt _),
      run_bind_of_run (run_text_append address h _),
      run_bind_of_run (run_number_append port.toNat_lt _),
      run_bind_of_run (run_phase_append next _), UInt32.ofNat_toNat, UInt16.ofNat_toNat]
    rfl
  | statusRequest => rfl
  | ping time =>
    simp only [Packet.kind, Packet.fields, fields]
    rw [run_bind_of_run (run_number_append time.toUInt64.toNat_lt _), UInt64.ofNat_toNat]
    rfl
  | keepAlive id =>
    simp only [Packet.kind, Packet.fields, fields]
    rw [run_bind_of_run (run_int32_append id _)]
    rfl
  | blockPlacement placement =>
    simp only [Packet.kind, Packet.fields, fields]
    rw [run_bind_of_run (run_placement_append placement _)]
    rfl
  | statusResponse text | loginStart text | loginSuccess text | chat text | kick text =>
    simp only [Packet.kind, Packet.fields, fields]
    rw [run_bind_of_run (run_text_append text h _)]
    rfl

theorem run_packet_append {packet : Packet} (h : (textBytes packet.text).length < 256 ^ 8)
    (rest : List UInt8) : Reader.packet.run (packet.body ++ rest) = .ok (packet, rest) := by
  rw [Reader.packet, Packet.body, List.append_assoc,
    run_bind_of_run (run_kind_append packet.kind _), run_fields_append h]

end Wire.Reader

theorem Packet.ofBody_body {packet : Packet} (h : (textBytes packet.text).length < 256 ^ 8) :
    ofBody packet.body = .ok packet := by
  have hr := Reader.run_packet_append h []
  rw [List.append_nil] at hr
  rw [ofBody, hr]
  rfl

end GameServer
