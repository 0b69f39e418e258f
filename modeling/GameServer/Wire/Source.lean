import GameServer.Wire.Frame

/-! Reading frames off a stream of bytes that arrives in pieces. A read gives at least one of the
bytes that have arrived and at most as many as it is asked for, so a frame may take many reads.
Where the pieces are cut has no part in what is read. -/

namespace GameServer.Wire

/-- What comes after the bytes that have arrived. -/
inductive Ending
  | closed
  | broken (text : String)
  | pending
  deriving DecidableEq

structure Source where
  arrived : List UInt8
  ending : Ending
  /-- The most bytes that each read gives, by its number; no read of arrived bytes gives none. -/
  pace : Nat → Nat
  reads : Nat

inductive Reading
  | packet (packet : Packet)
  | finished
  | failed (error : FrameError)
  | waiting
  deriving DecidableEq

namespace Source

/-- Every read gives all it is asked for, as far as it has arrived. -/
def ofBytes (bytes : List UInt8) (ending : Ending) : Source :=
  { arrived := bytes, ending, pace := fun _ => bytes.length, reads := 0 }

def grant (source : Source) (want : Nat) : Nat := min want (max 1 (source.pace source.reads))

/-- Reads until `want` bytes are together or no more have arrived. `got` is what has been read
before, last byte first. -/
def fill (source : Source) (want : Nat) (got : List UInt8) : List UInt8 × Source :=
  if want = 0 ∨ source.arrived = [] then (got.reverse, source)
  else
    let chunk := source.arrived.take (source.grant want)
    fill
      { source with
        arrived := source.arrived.drop (source.grant want), reads := source.reads + 1 }
      (want - chunk.length) (chunk.reverse ++ got)
termination_by want
decreasing_by
  rename_i h
  have : 0 < source.arrived.length := List.length_pos_iff.mpr (fun e => h (.inr e))
  have : 0 < want := Nat.pos_of_ne_zero (fun e => h (.inl e))
  simp only [List.length_take, grant]
  omega

theorem fill_append (source : Source) (want : Nat) (got : List UInt8) :
    (source.fill want got).1 ++ (source.fill want got).2.arrived =
      got.reverse ++ source.arrived := by
  fun_induction fill source want got with
  | case1 => rfl
  | case2 source want got h chunk ih =>
    rw [ih, List.reverse_append, List.reverse_reverse, List.append_assoc, List.take_append_drop]

/-- What a read that falls short of its count means. `cut` is the fault if it had begun. -/
def short (source : Source) (begun : Bool) (cut : ConnectionFault) : Reading :=
  match source.ending with
  | .closed => if begun then .failed (.connection cut) else .finished
  | .broken text => .failed (.connection (.broken text))
  | .pending => .waiting

/-- Reads one frame. A length that is too large is refused before any byte of the body is read,
and a body is complete before it is looked into. -/
def next (source : Source) : Reading × Source :=
  let (header, source) := source.fill Frame.headerLength []
  if header.length < Frame.headerLength then (source.short (!header.isEmpty) .headerCut, source)
  else
    let length := ofBigEndian header
    match Frame.checkLength length with
    | .error error => (.failed error, source)
    | .ok () =>
      let (body, source) := source.fill length []
      if body.length < length then (source.short true .bodyCut, source)
      else
        match Packet.ofBody body with
        | .ok packet => (.packet packet, source)
        | .error error => (.failed (.body error), source)

theorem short_ne_packet (source : Source) (begun : Bool) (cut : ConnectionFault)
    (packet : Packet) : source.short begun cut ≠ .packet packet := by
  unfold short
  repeat' split
  all_goals exact nofun

theorem arrived_length_of_next {source rest : Source} {packet : Packet}
    (h : source.next = (.packet packet, rest)) : rest.arrived.length < source.arrived.length := by
  have header := congrArg List.length (fill_append source Frame.headerLength [])
  simp only [next] at h
  generalize source.fill Frame.headerLength [] = first at header h
  split at h
  · exact absurd (congrArg Prod.fst h) (short_ne_packet _ _ _ _)
  rename_i full
  split at h
  · cases h
  have body := congrArg List.length (fill_append first.2 (ofBigEndian first.1) [])
  generalize first.2.fill (ofBigEndian first.1) [] = second at body h
  split at h
  · exact absurd (congrArg Prod.fst h) (short_ne_packet _ _ _ _)
  split at h
  · obtain ⟨-, rfl⟩ := Prod.mk.inj h
    simp only [List.length_append, List.reverse_nil, List.length_nil, Frame.headerLength]
      at header body full
    omega
  · cases h

structure Packets where
  packets : List Packet
  ending : Reading
  rest : Source

/-- Reads packets for as long as there are any. `done` are those read before, last first. -/
def packets (source : Source) (done : List Packet) : Packets :=
  match _h : source.next with
  | (.packet packet, rest) => packets rest (packet :: done)
  | (ending, rest) => { packets := done.reverse, ending, rest }
termination_by source.arrived.length
decreasing_by exact arrived_length_of_next _h

end Source

end GameServer.Wire
