import GameServer.Proofs.Wire.Chunking
import GameServer.Proofs.Wire.RoundTrip

/-! Frames in a row. A stream of frames that ends anywhere is read as the packets whose frames are
complete, and its end tells a cut between two frames from a cut inside one. -/

namespace GameServer

/-- What is sent is held to the same length as what is read. -/
theorem Packet.frame_eq_map_checkLength (packet : Packet) : packet.frame =
    (Frame.checkLength packet.body.length).map fun _ =>
      Wire.bigEndian Frame.headerLength packet.body.length ++ packet.body := by
  unfold Packet.frame Frame.checkLength
  by_cases h : packet.body.length ≤ Frame.maxLength
  · rw [if_neg (Nat.not_lt.mpr h), if_pos h]
    rfl
  · rw [if_pos (Nat.lt_of_not_le h), if_neg h]
    rfl

theorem Packet.frame_eq_ok_iff {packet : Packet} {frame : List UInt8} :
    packet.frame = .ok frame ↔ packet.body.length ≤ Frame.maxLength ∧
      frame = Wire.bigEndian Frame.headerLength packet.body.length ++ packet.body := by
  rw [Packet.frame_eq_map_checkLength, ← Frame.checkLength_eq_ok_iff]
  cases Frame.checkLength packet.body.length with
  | error error => simp [Except.map]
  | ok => simp [Except.map, eq_comm]

theorem Packet.exists_frame_iff {packet : Packet} :
    (∃ frame, packet.frame = .ok frame) ↔ packet.body.length ≤ Frame.maxLength := by
  simp only [frame_eq_ok_iff, exists_and_left, exists_eq, and_true]

theorem Packet.length_frame {packet : Packet} {frame : List UInt8} (h : packet.frame = .ok frame) :
    frame.length = Frame.headerLength + packet.body.length := by
  obtain ⟨-, rfl⟩ := frame_eq_ok_iff.mp h
  rw [List.length_append, Wire.length_bigEndian]

namespace Wire

theorem ofBody_body_of_frame {packet : Packet} {frame : List UInt8} (h : packet.frame = .ok frame) :
    Packet.ofBody packet.body = .ok packet := by
  apply Packet.ofBody_body
  have hb := (Packet.frame_eq_ok_iff.mp h).1
  have ht := packet.length_text_lt_length_body
  simp only [Frame.maxLength] at hb
  omega

theorem declared_frame {packet : Packet} {frame : List UInt8} (h : packet.frame = .ok frame)
    (rest : List UInt8) :
    ofBigEndian ((frame ++ rest).take Frame.headerLength) = packet.body.length := by
  obtain ⟨hb, rfl⟩ := Packet.frame_eq_ok_iff.mp h
  rw [List.append_assoc, List.take_left' (length_bigEndian _ _), ofBigEndian_bigEndian,
    Nat.mod_eq_of_lt]
  simp only [Frame.maxLength, Frame.headerLength] at hb ⊢
  omega

theorem readAtOnce_frame {packet : Packet} {frame : List UInt8} (h : packet.frame = .ok frame)
    (rest : List UInt8) (ending : Ending) :
    readAtOnce (frame ++ rest) ending = (.packet packet, frame.length) := by
  have hl := Packet.length_frame h
  have hd := declared_frame h rest
  have hb := (Packet.frame_eq_ok_iff.mp h).1
  have hbody : ((frame ++ rest).drop Frame.headerLength).take packet.body.length = packet.body := by
    obtain ⟨-, rfl⟩ := Packet.frame_eq_ok_iff.mp h
    rw [List.append_assoc, List.drop_left' (length_bigEndian _ _), List.take_left]
  simp only [readAtOnce, hd, Frame.checkLength_eq_ok_iff.mpr hb, List.length_append, hl]
  rw [if_neg (by omega), if_neg (by omega), hbody, ofBody_body_of_frame h]

def cutAfter (n : Nat) : Reading :=
  if n = 0 then .finished
  else .failed (.connection (if n < Frame.headerLength then .headerCut else .bodyCut))

theorem cutAfter_ne_packet (n : Nat) (packet : Packet) : cutAfter n ≠ .packet packet := by
  unfold cutAfter
  split <;> exact nofun

theorem readAtOnce_take_frame {packet : Packet} {frame : List UInt8} (h : packet.frame = .ok frame)
    {n : Nat} (hn : n < frame.length) :
    readAtOnce (frame.take n) .closed = (cutAfter n, n) := by
  have hl := Packet.length_frame h
  have ht : (frame.take n).length = n := by rw [List.length_take]; omega
  by_cases hs : n < Frame.headerLength
  · simp only [readAtOnce, ht, hs, if_true, cutAfter]
    cases n with
    | zero => rfl
    | succ n =>
      have he : (frame.take (n + 1)).isEmpty = false := by
        rw [List.isEmpty_eq_false_iff, ← List.length_pos_iff]
        omega
      rw [he]
      rfl
  · have hd : ofBigEndian ((frame.take n).take Frame.headerLength) = packet.body.length := by
      rw [List.take_take, Nat.min_eq_left (by omega), ← declared_frame h [],
        List.append_nil]
    have hb := (Packet.frame_eq_ok_iff.mp h).1
    simp only [readAtOnce, ht, hs, hd, Frame.checkLength_eq_ok_iff.mpr hb, if_false, cutAfter]
    rw [if_pos (by omega), if_neg (by simp only [Frame.headerLength] at hs; omega)]
    rfl

namespace Source

theorem packets_append (source : Source) (done before : List Packet) :
    source.packets (done ++ before) = { source.packets done with
      packets := before.reverse ++ (source.packets done).packets } := by
  fun_induction source.packets done with
  | case1 source done packet rest h ih => rw [packets_of_packet h, ← ih, List.cons_append]
  | case2 source done ending rest hn h => rw [packets_of_ne_packet h hn, List.reverse_append]

theorem next_of_frame {packet : Packet} {frame rest : List UInt8} (h : packet.frame = .ok frame)
    {source : Source} (ha : source.arrived = frame ++ rest) :
    source.next = (.packet packet, source.after 1) ∧ (source.after 1).arrived = rest ∧
      (source.after 1).ending = source.ending := by
  obtain ⟨hr, hd, he⟩ := next_eq_readAtOnce source
  rw [ha, readAtOnce_frame h] at hr hd
  exact ⟨Prod.ext hr rfl, hd.trans List.drop_left, he⟩

theorem next_of_take_frame {packet : Packet} {frame : List UInt8} (h : packet.frame = .ok frame)
    {n : Nat} (hn : n < frame.length) {source : Source} (ha : source.arrived = frame.take n)
    (he : source.ending = .closed) :
    source.next = (cutAfter n, source.after 1) ∧ (source.after 1).arrived = [] := by
  obtain ⟨hr, hd, -⟩ := next_eq_readAtOnce source
  rw [ha, he, readAtOnce_take_frame h hn] at hr hd
  exact ⟨Prod.ext hr rfl, hd.trans (List.drop_of_length_le (List.length_take_le _ _))⟩

theorem next_of_nothing {source : Source} (ha : source.arrived = []) (he : source.ending = .closed) :
    source.next = (cutAfter 0, source.after 1) ∧ (source.after 1).arrived = [] := by
  obtain ⟨hr, hd, -⟩ := next_eq_readAtOnce source
  rw [ha, he] at hr hd
  exact ⟨Prod.ext hr rfl, hd⟩

/-- What is read of `packets` when `n` bytes of their `frames` arrive: the first `count` packets,
and then the end of the stream. -/
structure ReadsComplete (source : Source) (packets : List Packet) (frames : List (List UInt8))
    (n count : Nat) : Prop where
  within : (frames.take count).flatten.length ≤ n
  beyond : count < packets.length → n < (frames.take (count + 1)).flatten.length
  each : ∀ i < count, ∃ packet, packets[i]? = some packet ∧
    (source.after i).next.1 = .packet packet
  consumed : ∀ i ≤ count,
    (source.after i).arrived = source.arrived.drop (frames.take i).flatten.length
  packets_eq : (source.packets []).packets = packets.take count
  ending_eq : (source.packets []).ending = cutAfter (n - (frames.take count).flatten.length)
  rest_eq : (source.packets []).rest.arrived = []

theorem ReadsComplete.nothing {source : Source} {packets : List Packet}
    {frames : List (List UInt8)} {n : Nat} {rest : Source} (hb : 0 < packets.length →
      n < (frames.take 1).flatten.length) (h : source.next = (cutAfter n, rest))
    (ha : rest.arrived = []) : source.ReadsComplete packets frames n 0 := by
  have hp := packets_of_ne_packet h (cutAfter_ne_packet n) []
  constructor
  case within => exact Nat.zero_le n
  case beyond => exact hb
  case each => exact fun i hi => absurd hi (Nat.not_lt_zero i)
  case consumed =>
    intro i hi
    obtain rfl := Nat.le_zero.mp hi
    simp [after]
  case packets_eq => simp [hp]
  case ending_eq => simp [hp]
  case rest_eq => rw [hp, ha]

theorem ReadsComplete.cons {source : Source} {packet : Packet} {packets : List Packet}
    {frame : List UInt8} {frames : List (List UInt8)} {n count : Nat}
    (hf : packet.frame = .ok frame) (hn : frame.length ≤ n)
    (ha : source.arrived = frame ++ (source.after 1).arrived)
    (h : (source.after 1).ReadsComplete packets frames (n - frame.length) count) :
    source.ReadsComplete (packet :: packets) (frame :: frames) n (count + 1) := by
  obtain ⟨hnext, -, -⟩ := next_of_frame hf ha
  have hp : source.packets [] = { (source.after 1).packets [] with
      packets := packet :: ((source.after 1).packets []).packets } := by
    rw [packets_of_packet hnext]
    exact packets_append (source.after 1) [] [packet]
  have hlength : ∀ i, ((frame :: frames).take (i + 1)).flatten.length =
      frame.length + (frames.take i).flatten.length := by
    intro i
    rw [List.take_succ_cons, List.flatten_cons, List.length_append]
  constructor
  case within =>
    have hwithin := h.within
    rw [hlength]
    omega
  case beyond =>
    intro hc
    have hbeyond := h.beyond (by simpa using hc)
    rw [hlength]
    omega
  case each =>
    intro i hi
    cases i with
    | zero => exact ⟨packet, rfl, congrArg Prod.fst hnext⟩
    | succ i => exact h.each i (by omega)
  case consumed =>
    intro i hi
    cases i with
    | zero => simp [after]
    | succ i =>
      have hconsumed := h.consumed i (by omega)
      rw [hlength, ha, List.drop_append, List.drop_of_length_le (by omega), List.nil_append,
        Nat.add_sub_cancel_left]
      exact hconsumed
  case packets_eq => rw [hp, List.take_succ_cons, ← h.packets_eq]
  case ending_eq =>
    rw [hp, hlength, Nat.sub_add_eq]
    exact h.ending_eq
  case rest_eq =>
    rw [hp]
    exact h.rest_eq

theorem exists_readsComplete {packets : List Packet} {frames : List (List UInt8)}
    (h : packets.map Packet.frame = frames.map .ok) {n : Nat} (hn : n ≤ frames.flatten.length)
    {source : Source} (ha : source.arrived = frames.flatten.take n)
    (he : source.ending = .closed) :
    ∃ count ≤ packets.length, source.ReadsComplete packets frames n count := by
  induction packets generalizing frames n source with
  | nil =>
    obtain rfl : frames = [] := by simpa using h
    obtain rfl : n = 0 := by simpa using hn
    obtain ⟨hnext, hrest⟩ := next_of_nothing (by simpa using ha) he
    exact ⟨0, Nat.le_refl 0, .nothing (by simp) hnext hrest⟩
  | cons packet packets ih =>
    obtain _ | ⟨frame, frames⟩ := frames
    · simp at h
    obtain ⟨hf, h⟩ := List.cons.inj h
    rw [List.flatten_cons] at ha hn
    by_cases hc : frame.length ≤ n
    · rw [List.take_append, List.take_of_length_le hc] at ha
      obtain ⟨-, hra, hre⟩ := next_of_frame hf ha
      obtain ⟨count, hcount, hr⟩ :=
        ih h (by rw [List.length_append] at hn; omega) hra (hre.trans he)
      exact ⟨count + 1, by simpa using hcount, hr.cons hf hc (by rw [hra, ha])⟩
    · rw [List.take_append_of_le_length (by omega)] at ha
      obtain ⟨hnext, hrest⟩ := next_of_take_frame hf (by omega) ha he
      exact ⟨0, Nat.zero_le _, .nothing (fun _ => by simpa using hc) hnext hrest⟩

/-- Frames that are cut off after any number of bytes and cut into reads in any way give the
packets whose frames are complete, and leave no byte unread. For bytes of any kind the cuts between
reads make no difference, and a length that is too large ends the reading behind its own four
bytes. The packets that have a frame are those whose body has an admissible length. -/
theorem frames_read_back :
    (∀ (packets : List Packet) (frames : List (List UInt8)),
      packets.map Packet.frame = frames.map .ok → ∀ n ≤ frames.flatten.length,
      ∀ source : Source, source.arrived = frames.flatten.take n → source.ending = .closed →
      ∃ count ≤ packets.length, source.ReadsComplete packets frames n count) ∧
    (∀ a b : Source, a.arrived = b.arrived → a.ending = b.ending →
      (∀ k, (a.after k).next.1 = (b.after k).next.1 ∧
        (a.after k).arrived = (b.after k).arrived) ∧
      (a.packets []).packets = (b.packets []).packets ∧
      (a.packets []).ending = (b.packets []).ending ∧
      (a.packets []).rest.arrived = (b.packets []).rest.arrived) ∧
    (∀ (source : Source) (length : Nat), Frame.headerLength ≤ source.arrived.length →
      ofBigEndian (source.arrived.take Frame.headerLength) = length → Frame.maxLength < length →
      (source.packets []).packets = [] ∧
      (source.packets []).ending = .failed (.tooLarge length) ∧
      (source.packets []).rest.arrived = source.arrived.drop Frame.headerLength) ∧
    (∀ packet : Packet,
      ((∃ frame, packet.frame = .ok frame) ↔ packet.body.length ≤ Frame.maxLength) ∧
      ((∃ frame, packet.frame = .ok frame) ↔
        Frame.checkLength packet.body.length = .ok ())) := by
  refine ⟨?_, ?_, ?_, ?_⟩
  · intro packets frames h n hn source ha he
    exact exists_readsComplete h hn ha he
  · intro a b ha he
    refine ⟨fun k => ?_, packets_congr ha he []⟩
    obtain ⟨hka, hke⟩ := after_congr ha he k
    exact ⟨next_fst_congr hka hke, hka⟩
  · rintro source length ha rfl hl
    obtain ⟨hr, hd⟩ := next_of_length_too_large ha hl
    rw [packets_of_ne_packet (Prod.ext hr rfl) (by simp)]
    exact ⟨rfl, rfl, hd⟩
  · intro packet
    rw [Frame.checkLength_eq_ok_iff]
    exact ⟨Packet.exists_frame_iff, Packet.exists_frame_iff⟩

theorem frames_read_back_byte_by_byte :
    [Packet.keepAlive 7, .statusRequest].map Packet.frame =
      [[0, 0, 0, 8, 6, 0, 0, 0, 7, 0, 0, 0], [0, 0, 0, 4, 1, 0, 0, 0]].map .ok ∧
    ReadsComplete ⟨[0, 0, 0, 8, 6, 0, 0, 0, 7, 0, 0, 0, 0, 0], .closed, fun _ => 1, 0⟩
      [.keepAlive 7, .statusRequest]
      [[0, 0, 0, 8, 6, 0, 0, 0, 7, 0, 0, 0], [0, 0, 0, 4, 1, 0, 0, 0]] 14 1 := by
  refine ⟨rfl, ?_⟩
  obtain ⟨count, -, hr⟩ := frames_read_back.1 [.keepAlive 7, .statusRequest]
    [[0, 0, 0, 8, 6, 0, 0, 0, 7, 0, 0, 0], [0, 0, 0, 4, 1, 0, 0, 0]] rfl 14 (by decide)
    ⟨[0, 0, 0, 8, 6, 0, 0, 0, 7, 0, 0, 0, 0, 0], .closed, fun _ => 1, 0⟩ rfl rfl
  match count, hr with
  | 0, hr => exact absurd (hr.beyond (by decide)) (by decide)
  | 1, hr => exact hr
  | count + 2, hr => exact absurd hr.within (by simp)

end Source

end Wire

end GameServer
