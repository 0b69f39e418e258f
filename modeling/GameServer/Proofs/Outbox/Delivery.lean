import GameServer.Outbox.Basic
import GameServer.Proofs.Outbox.Capacity
import GameServer.Proofs.Wire.Framing

/-! What a writer sends. The sink takes frames of packets that were put in before the first close,
in their order, and may stop anywhere. -/

namespace GameServer

namespace Sink

theorem exists_taken_write (sink : Sink) (bytes : List UInt8) :
    ∃ n, (sink.write bytes).2.taken = sink.taken ++ bytes.take n ∧
      ((sink.write bytes).1 = .ok () → bytes.length ≤ n) := by
  refine ⟨_, rfl, fun h => ?_⟩
  simp only [write] at h
  split at h
  · omega
  · cases h

end Sink

namespace Outbox

def beforeClose : List Outgoing → List Packet
  | [] | .close :: _ => []
  | .packet packet :: rest => packet :: beforeClose rest

theorem beforeClose_append (items more : List Outgoing) : beforeClose (items ++ more) =
    beforeClose items ++ if .close ∈ items then [] else beforeClose more := by
  induction items with
  | nil => simp [beforeClose]
  | cons item items ih => cases item <;> simp [beforeClose, ih]

theorem beforeClose_packets (packets : List Packet) :
    beforeClose (packets.map .packet) = packets := by
  induction packets with
  | nil => rfl
  | cons packet packets ih => simp [beforeClose, ih]

theorem beforeClose_packets_append (packets : List Packet) (rest : List Outgoing) :
    beforeClose (packets.map .packet ++ rest) = packets ++ beforeClose rest := by
  rw [beforeClose_append, beforeClose_packets, if_neg (by simp)]

/-- The sink has taken frames of packets put in before the first close, the last of them perhaps in
part. For as long as the writer goes on, it has taken all that does not wait. -/
def Sends (outbox : Outbox) (items : List Outgoing) : Prop :=
  ∃ (packets : List Packet) (frames : List (List UInt8)),
    packets.map Packet.frame = frames.map .ok ∧
    packets <+: beforeClose items ∧ outbox.sink.taken <+: frames.flatten ∧
    (outbox.closed = false →
      items = packets.map .packet ++ outbox.waiting ∧ outbox.sink.taken = frames.flatten)

theorem sends_empty (address : String) (sink : Sink) :
    (empty address { sink with taken := [] }).Sends [] :=
  ⟨[], [], rfl, List.nil_prefix, List.nil_prefix, fun _ => ⟨rfl, rfl⟩⟩

variable {outbox : Outbox} {items : List Outgoing}

theorem Sends.put (h : outbox.Sends items) (item : Outgoing) :
    (outbox.put item).1.Sends (items ++ [item]) := by
  obtain ⟨packets, frames, hf, hp, ht, ho⟩ := h
  have hp' : packets <+: beforeClose (items ++ [item]) := by
    rw [beforeClose_append]
    exact hp.trans (List.prefix_append _ _)
  by_cases hc : outbox.closed
  · have he : (outbox.put item).1 = outbox := by cases item <;> simp [Outbox.put, hc]
    rw [he]
    exact ⟨packets, frames, hf, hp', ht, fun hn => by simp [hc] at hn⟩
  · simp only [Outbox.put, hc, Bool.false_eq_true, if_false]
    refine ⟨packets, frames, hf, hp', ht, fun _ => ?_⟩
    obtain ⟨hi, hs⟩ := ho (Bool.eq_false_iff.mpr hc)
    exact ⟨by simp [hi], hs⟩

theorem Sends.release (h : outbox.Sends items) : outbox.release.Sends items := by
  obtain ⟨packets, frames, h⟩ := h
  exact ⟨packets, frames, h⟩

theorem exists_transmit (sink : Sink) (packet : Packet) :
    ((transmit sink packet).2.taken = sink.taken ∧ (transmit sink packet).1 ≠ .ok ()) ∨
      ∃ frame, packet.frame = .ok frame ∧ ∃ n,
        (transmit sink packet).2.taken = sink.taken ++ frame.take n ∧
        ((transmit sink packet).1 = .ok () → frame.length ≤ n) := by
  unfold transmit
  cases hf : packet.frame with
  | error error => exact .inl ⟨rfl, nofun⟩
  | ok frame =>
    obtain ⟨n, ht, hn⟩ := sink.exists_taken_write frame
    refine .inr ⟨frame, rfl, n, ?_⟩
    dsimp only
    split
    · rename_i hw
      rw [hw] at ht hn
      exact ⟨ht, fun _ => hn rfl⟩
    · rename_i hw
      rw [hw] at ht
      exact ⟨ht, nofun⟩

theorem sends_work {packets : List Packet} {frames : List (List UInt8)}
    (hf : packets.map Packet.frame = frames.map .ok) (ht : outbox.sink.taken = frames.flatten)
    (hc : outbox.closed = false) (rest : List Outgoing) :
    (outbox.work rest).1.Sends (packets.map .packet ++ rest) := by
  have hb : ∀ packets rest, packets <+: beforeClose (packets.map .packet ++ rest) := by
    intro packets rest
    rw [beforeClose_packets_append]
    exact List.prefix_append _ _
  induction rest generalizing outbox packets frames with
  | nil =>
    simp only [work]
    split
    · exact ⟨packets, frames, hf, hb _ _, ht ▸ List.prefix_refl _, nofun⟩
    · exact ⟨packets, frames, hf, hb _ _, ht ▸ List.prefix_refl _, fun _ => ⟨rfl, ht⟩⟩
  | cons item rest ih =>
    cases item with
    | close => exact ⟨packets, frames, hf, hb _ _, ht ▸ List.prefix_refl _, nofun⟩
    | packet packet =>
      have hf' : ∀ frame, packet.frame = .ok frame →
          (packets ++ [packet]).map Packet.frame = (frames ++ [frame]).map .ok := by
        intro frame hp
        simp [hf, hp]
      have happ : packets.map .packet ++ .packet packet :: rest =
          (packets ++ [packet]).map .packet ++ rest := by simp
      have htransmit := exists_transmit outbox.sink packet
      cases hs : transmit outbox.sink packet with
      | mk result sink =>
        rw [hs] at htransmit
        simp only [work, hs]
        cases result with
        | error error =>
          rcases htransmit with ⟨hsame, -⟩ | ⟨frame, hp, n, hsome, -⟩
          · refine ⟨packets, frames, hf, hb _ _, ?_, nofun⟩
            exact (hsame.trans ht) ▸ List.prefix_refl _
          · refine ⟨packets ++ [packet], frames ++ [frame], hf' frame hp, happ ▸ hb _ _, ?_, nofun⟩
            have htaken : sink.taken = frames.flatten ++ frame.take n := ht ▸ hsome
            rw [List.flatten_append, List.flatten_singleton]
            exact htaken ▸ (List.prefix_append_right_inj _).mpr (List.take_prefix n frame)
        | ok =>
          rcases htransmit with ⟨-, hn⟩ | ⟨frame, hp, n, hsome, hn⟩
          · exact absurd rfl hn
          · rw [happ]
            refine ih (hf' frame hp) ?_ hc
            simpa [List.take_of_length_le (hn rfl), ht] using hsome

theorem Sends.run (h : outbox.Sends items) : outbox.run.1.Sends items := by
  obtain ⟨packets, frames, hf, hp, ht, ho⟩ := h
  unfold Outbox.run
  split
  · exact ⟨packets, frames, hf, hp, ht, ho⟩
  · rename_i hc
    obtain ⟨hi, hs⟩ := ho (Bool.eq_false_iff.mpr hc)
    rw [hi]
    exact sends_work hf hs (Bool.eq_false_iff.mpr hc) outbox.waiting

/-- The packets whose frames have reached the sink in full. -/
def received (outbox : Outbox) : List Packet :=
  ((Wire.Source.ofBytes outbox.sink.taken .closed).packets []).packets

theorem Sends.received_prefix (h : outbox.Sends items) :
    outbox.received <+: beforeClose items := by
  obtain ⟨packets, frames, hf, hp, ht, -⟩ := h
  have ha : (Wire.Source.ofBytes outbox.sink.taken .closed).arrived =
      frames.flatten.take outbox.sink.taken.length := List.prefix_iff_eq_take.mp ht
  obtain ⟨count, -, hr⟩ := Wire.Source.exists_readsComplete hf ht.length_le ha rfl
  rw [received, hr.packets_eq]
  exact (List.take_prefix count packets).trans hp

end Outbox

/-! A sink that takes everything. -/

namespace Sink

variable {sink : Sink}

theorem holds_of_unlimited (hwrite : sink.perWrite = none) (hcapacity : sink.capacity = none)
    (stream : List UInt8) : sink.Holds stream := by
  intro limit hl
  simp [Sink.limit, hwrite, hcapacity] at hl

theorem write_of_unlimited (hwrite : sink.perWrite = none) (hcapacity : sink.capacity = none)
    (bytes : List UInt8) :
    sink.write bytes = (.ok (), sink.take bytes) :=
  write_of_holds (holds_of_unlimited hwrite hcapacity _)

end Sink

namespace Outbox

theorem exists_frames {packets : List Packet}
    (h : ∀ packet ∈ packets, ∃ frame, packet.frame = .ok frame) :
    ∃ frames : List (List UInt8), packets.map Packet.frame = frames.map .ok := by
  induction packets with
  | nil => exact ⟨[], rfl⟩
  | cons packet packets ih =>
    obtain ⟨frame, hframe⟩ := h packet List.mem_cons_self
    obtain ⟨frames, hframes⟩ := ih fun other hm => h other (List.mem_cons_of_mem _ hm)
    exact ⟨frame :: frames, by simp [hframe, hframes]⟩

theorem exists_beforeClose (items : List Outgoing) : ∃ rest : List Outgoing,
    items = (beforeClose items).map .packet ++ rest ∧ (rest = [] ∨ ∃ more, rest = .close :: more) := by
  induction items with
  | nil => exact ⟨[], rfl, .inl rfl⟩
  | cons item items ih =>
    cases item with
    | close => exact ⟨.close :: items, rfl, .inr ⟨items, rfl⟩⟩
    | packet packet =>
      obtain ⟨rest, hi, hr⟩ := ih
      exact ⟨rest, congrArg (List.cons _) hi, hr⟩

variable {outbox : Outbox}

theorem taken_work (hwrite : outbox.sink.perWrite = none) (hcapacity : outbox.sink.capacity = none)
    {packets : List Packet} {frames : List (List UInt8)}
    (hf : packets.map Packet.frame = frames.map .ok) {rest : List Outgoing}
    (hrest : rest = [] ∨ ∃ more, rest = .close :: more) :
    (outbox.work (packets.map .packet ++ rest)).1.sink.taken =
      outbox.sink.taken ++ frames.flatten := by
  induction packets generalizing outbox frames with
  | nil =>
    obtain rfl : frames = [] := by simpa using hf
    rcases hrest with rfl | ⟨more, rfl⟩
    · simp only [List.map_nil, List.append_nil, List.flatten_nil, work]
      split <;> rfl
    · exact (List.append_nil _).symm
  | cons packet packets ih =>
    obtain _ | ⟨frame, frames⟩ := frames
    · simp at hf
    obtain ⟨hframe, hf⟩ := List.cons.inj hf
    have hsent : transmit outbox.sink packet = (.ok (), outbox.sink.take frame) := by
      simp only [transmit, hframe, Sink.write_of_unlimited hwrite hcapacity]
    simp only [List.map_cons, List.cons_append, work, hsent]
    have htail := @ih { outbox with sink := outbox.sink.take frame } hwrite hcapacity frames hf
    rw [htail, List.flatten_cons]
    exact List.append_assoc _ _ _

theorem received_of_taken {packets : List Packet} {frames : List (List UInt8)}
    (hf : packets.map Packet.frame = frames.map .ok) (ht : outbox.sink.taken = frames.flatten) :
    outbox.received = packets := by
  have ha : (Wire.Source.ofBytes outbox.sink.taken .closed).arrived =
      frames.flatten.take frames.flatten.length := ht.trans List.take_length.symm
  obtain ⟨count, -, hr⟩ := Wire.Source.exists_readsComplete hf (Nat.le_refl _) ha rfl
  have hcount : packets.length ≤ count := by
    refine Nat.le_of_not_lt fun hlt => ?_
    have hbeyond := hr.beyond hlt
    have hsplit := congrArg List.length (congrArg List.flatten (List.take_append_drop (count + 1) frames))
    rw [List.flatten_append, List.length_append] at hsplit
    omega
  rw [received, hr.packets_eq, List.take_of_length_le hcount]

/-- A sink that takes everything takes all frames before the first close. -/
theorem received_run (hopen : outbox.closed = false) (hnothing : outbox.sink.taken = [])
    (hwrite : outbox.sink.perWrite = none) (hcapacity : outbox.sink.capacity = none)
    (hframes : ∀ packet ∈ beforeClose outbox.waiting, ∃ frame, packet.frame = .ok frame) :
    outbox.run.1.received = beforeClose outbox.waiting := by
  obtain ⟨frames, hf⟩ := exists_frames hframes
  obtain ⟨rest, hwaiting, hrest⟩ := exists_beforeClose outbox.waiting
  have ht := taken_work hwrite hcapacity hf hrest
  rw [← hwaiting, hnothing, List.nil_append] at ht
  apply received_of_taken hf
  rw [Outbox.run, if_neg (by simp [hopen]), ht]

end Outbox
end GameServer
