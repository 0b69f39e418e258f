import GameServer.Wire.Source

/-! Where a stream is cut into reads has no part in what is read off it: reading in pieces comes to
the same as reading off bytes that are all there. -/

namespace GameServer.Wire

/-- Reading a frame off bytes that are all there: what it comes to, and how many it takes. -/
def readAtOnce (bytes : List UInt8) (ending : Ending) : Reading × Nat :=
  let source := Source.ofBytes bytes ending
  let length := ofBigEndian (bytes.take Frame.headerLength)
  if bytes.length < Frame.headerLength then
    (source.short (!bytes.isEmpty) .headerCut, bytes.length)
  else
    match Frame.checkLength length with
    | .error error => (.failed error, Frame.headerLength)
    | .ok () =>
      if bytes.length < Frame.headerLength + length then
        (source.short true .bodyCut, bytes.length)
      else
        (match Packet.ofBody ((bytes.drop Frame.headerLength).take length) with
          | .ok packet => .packet packet
          | .error error => .failed (.body error), Frame.headerLength + length)

namespace Source

theorem fill_fst (source : Source) (want : Nat) (got : List UInt8) :
    (source.fill want got).1 = got.reverse ++ source.arrived.take want := by
  fun_induction fill source want got with
  | case1 source want got h => rcases h with rfl | h <;> simp [*]
  | case2 source want got h chunk ih =>
    have hg : source.grant want ≤ want := Nat.min_le_left _ _
    have hc : chunk.take want = chunk := by
      rw [List.take_of_length_le]
      exact Nat.le_trans (List.length_take_le _ _) hg
    calc _ = got.reverse ++ (chunk ++ (source.arrived.drop (source.grant want)).take
          (want - chunk.length)) := by simp [ih]
      _ = got.reverse ++ (chunk ++ source.arrived.drop (source.grant want)).take want := by
          rw [List.take_append, hc]
      _ = got.reverse ++ source.arrived.take want := by rw [List.take_append_drop]

theorem fill_snd_arrived (source : Source) (want : Nat) (got : List UInt8) :
    (source.fill want got).2.arrived = source.arrived.drop want := by
  have h := fill_append source want got
  rw [fill_fst, List.append_assoc] at h
  refine List.append_cancel_left ((List.append_cancel_left h).trans ?_)
  exact (List.take_append_drop want source.arrived).symm

theorem fill_snd_ending (source : Source) (want : Nat) (got : List UInt8) :
    (source.fill want got).2.ending = source.ending := by
  fun_induction fill source want got with
  | case1 => rfl
  | case2 source want got h chunk ih => exact ih

theorem exists_fill (source : Source) (want : Nat) :
    ∃ rest : Source, source.fill want [] = (source.arrived.take want, rest) ∧
      rest.arrived = source.arrived.drop want ∧ rest.ending = source.ending :=
  ⟨(source.fill want []).2, Prod.ext (fill_fst source want []) rfl,
    fill_snd_arrived source want [], fill_snd_ending source want []⟩

theorem short_congr {a b : Source} (h : a.ending = b.ending) (begun : Bool)
    (cut : ConnectionFault) : a.short begun cut = b.short begun cut := by
  simp only [short, h]

/-- Reading in pieces comes to the same as reading at once. -/
theorem next_eq_readAtOnce (source : Source) :
    source.next.1 = (readAtOnce source.arrived source.ending).1 ∧
    source.next.2.arrived =
      source.arrived.drop (readAtOnce source.arrived source.ending).2 ∧
    source.next.2.ending = source.ending := by
  obtain ⟨first, hf, hfa, hfe⟩ := exists_fill source Frame.headerLength
  have hs : first.ending = (ofBytes source.arrived source.ending).ending := hfe
  simp only [next, hf, readAtOnce, List.length_take]
  by_cases hshort : source.arrived.length < Frame.headerLength
  · have he : source.arrived.take Frame.headerLength = source.arrived :=
      List.take_of_length_le (by omega)
    have hm : min Frame.headerLength source.arrived.length < Frame.headerLength := by omega
    simp only [hshort, hm, if_true, he]
    refine ⟨short_congr hs _ _, ?_, hfe⟩
    rw [hfa, List.drop_of_length_le (by omega), List.drop_of_length_le (Nat.le_refl _)]
  · have hm : ¬ min Frame.headerLength source.arrived.length < Frame.headerLength := by omega
    simp only [hshort, hm, if_false]
    cases hc : Frame.checkLength (ofBigEndian (source.arrived.take Frame.headerLength)) with
    | error error => exact ⟨rfl, hfa, hfe⟩
    | ok =>
      obtain ⟨second, hb, hba, hbe⟩ :=
        exists_fill first (ofBigEndian (source.arrived.take Frame.headerLength))
      have hs' : second.ending = (ofBytes source.arrived source.ending).ending := hbe.trans hs
      simp only [hb, hfa, List.length_take, List.length_drop]
      split
      · rw [if_pos (by omega)]
        refine ⟨short_congr hs' _ _, ?_, hbe.trans hfe⟩
        rw [hba, hfa, List.drop_drop, List.drop_of_length_le (by omega),
          List.drop_of_length_le (Nat.le_refl _)]
      · rw [if_neg (by omega)]
        have hd : second.arrived = source.arrived.drop
            (Frame.headerLength + ofBigEndian (source.arrived.take Frame.headerLength)) := by
          rw [hba, hfa, List.drop_drop]
        cases Packet.ofBody ((source.arrived.drop Frame.headerLength).take
          (ofBigEndian (source.arrived.take Frame.headerLength))) with
        | ok packet => exact ⟨rfl, hd, hbe.trans hfe⟩
        | error error => exact ⟨rfl, hd, hbe.trans hfe⟩

theorem packets_of_packet {source rest : Source} {packet : Packet}
    (h : source.next = (.packet packet, rest)) (done : List Packet) :
    source.packets done = rest.packets (packet :: done) := by
  rw [packets]
  split
  · rename_i h'
    obtain ⟨hp, rfl⟩ := Prod.mk.inj (h.symm.trans h')
    cases hp
    rfl
  · rename_i hn h'
    exact absurd (Prod.mk.inj (h'.symm.trans h)).1 (hn packet)

theorem packets_of_ne_packet {source rest : Source} {ending : Reading}
    (h : source.next = (ending, rest)) (hn : ∀ packet, ending ≠ .packet packet)
    (done : List Packet) :
    source.packets done = { packets := done.reverse, ending, rest } := by
  rw [packets]
  split
  · rename_i packet rest' h'
    exact absurd (Prod.mk.inj (h.symm.trans h')).1 (hn packet)
  · rename_i ending' rest' _ h'
    obtain ⟨rfl, rfl⟩ := Prod.mk.inj (h.symm.trans h')
    rfl

def after (source : Source) : (readings : Nat) → Source
  | 0 => source
  | readings + 1 => source.next.2.after readings

theorem after_congr {a b : Source} (ha : a.arrived = b.arrived) (he : a.ending = b.ending)
    (readings : Nat) : (a.after readings).arrived = (b.after readings).arrived ∧
      (a.after readings).ending = (b.after readings).ending := by
  induction readings generalizing a b with
  | zero => exact ⟨ha, he⟩
  | succ readings ih =>
    obtain ⟨-, hna, hne⟩ := next_eq_readAtOnce a
    obtain ⟨-, hnb, hne'⟩ := next_eq_readAtOnce b
    exact ih (by rw [hna, hnb, ha, he]) (by rw [hne, hne', he])

theorem next_fst_congr {a b : Source} (ha : a.arrived = b.arrived) (he : a.ending = b.ending) :
    a.next.1 = b.next.1 := by
  rw [(next_eq_readAtOnce a).1, (next_eq_readAtOnce b).1, ha, he]

theorem packets_congr {a b : Source} (ha : a.arrived = b.arrived) (he : a.ending = b.ending)
    (done : List Packet) : (a.packets done).packets = (b.packets done).packets ∧
      (a.packets done).ending = (b.packets done).ending ∧
      (a.packets done).rest.arrived = (b.packets done).rest.arrived := by
  fun_induction a.packets done generalizing b with
  | case1 a done packet rest h ih =>
    have hb := next_fst_congr ha he
    obtain ⟨hra, hre⟩ := after_congr ha he 1
    simp only [after, h] at hb hra hre
    rw [packets_of_packet (Prod.ext hb.symm rfl)]
    exact ih hra hre
  | case2 a done ending rest hn h =>
    have hb := next_fst_congr ha he
    obtain ⟨hra, -⟩ := after_congr ha he 1
    simp only [after, h] at hb hra
    rw [packets_of_ne_packet (Prod.ext hb.symm rfl) hn]
    exact ⟨rfl, rfl, hra⟩

theorem next_of_length_too_large {source : Source}
    (ha : Frame.headerLength ≤ source.arrived.length)
    (hl : Frame.maxLength < ofBigEndian (source.arrived.take Frame.headerLength)) :
    source.next.1 =
        .failed (.tooLarge (ofBigEndian (source.arrived.take Frame.headerLength))) ∧
      source.next.2.arrived = source.arrived.drop Frame.headerLength := by
  obtain ⟨hr, hd, -⟩ := next_eq_readAtOnce source
  have hc : Frame.checkLength (ofBigEndian (source.arrived.take Frame.headerLength)) =
      .error (.tooLarge (ofBigEndian (source.arrived.take Frame.headerLength))) :=
    if_neg (by omega)
  rw [readAtOnce, if_neg (by omega), hc] at hr hd
  exact ⟨hr, hd⟩

end Source
end GameServer.Wire
