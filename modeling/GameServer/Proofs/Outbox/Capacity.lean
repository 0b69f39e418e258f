import GameServer.Outbox.Sink

/-! What a sink takes of the bytes it is offered, however many writes they need. -/

namespace GameServer

namespace Sink

/-- How many bytes the sink takes in all before a write fails; `none` is no limit. A sink that takes
no byte in a write fails the first one. -/
def limit (sink : Sink) : Option Nat :=
  if sink.perWrite = some 0 then some 0 else sink.capacity

/-- The sink takes all of the stream. -/
def Holds (sink : Sink) (stream : List UInt8) : Prop :=
  ∀ limit, sink.limit = some limit → stream.length ≤ limit

theorem limit_take (sink : Sink) (bytes : List UInt8) :
    (sink.take bytes).limit = sink.limit := rfl

def share (sink : Sink) (stream : List UInt8) : List UInt8 :=
  match sink.limit with
  | none => stream
  | some limit => stream.take limit

def room (sink : Sink) (used offered : Nat) : Nat :=
  match sink.limit with
  | none => offered
  | some limit => min offered (limit - used)

theorem room_eq_zero_of_grant {sink : Sink} {used offered : Nat}
    (h : sink.grant used offered = 0) : sink.room used offered = 0 := by
  unfold grant at h
  unfold room limit
  by_cases hnothing : sink.perWrite = some 0
  · rw [if_pos hnothing]
    simp
  · rw [if_neg hnothing]
    cases hw : sink.perWrite with
    | none =>
      cases hc : sink.capacity <;> simp only [hw, hc, Option.map_none, Option.map_some,
        Option.getD_none, Option.getD_some] at h ⊢ <;> omega
    | some size =>
      have hsize : size ≠ 0 := fun he => hnothing (he ▸ hw)
      cases hc : sink.capacity <;> simp only [hw, hc, Option.map_none, Option.map_some,
        Option.getD_none, Option.getD_some] at h ⊢ <;> omega

theorem room_eq_grant_add {sink : Sink} {used offered granted : Nat}
    (h : sink.grant used offered = granted) :
    sink.room used offered = granted + sink.room (used + granted) (offered - granted) := by
  unfold grant at h
  unfold room limit
  by_cases hnothing : sink.perWrite = some 0
  · rw [if_pos hnothing]
    simp only [hnothing, Option.map_some, Option.getD_some] at h ⊢
    omega
  · rw [if_neg hnothing]
    cases hw : sink.perWrite <;> cases hc : sink.capacity <;>
      simp only [hw, hc, Option.map_none, Option.map_some, Option.getD_none, Option.getD_some]
        at h ⊢ <;> omega

theorem offer_eq (sink : Sink) (used offered : Nat) :
    sink.offer used offered = offered - sink.room used offered := by
  fun_induction offer sink used offered with
  | case1 used offered h => rw [room_eq_zero_of_grant h, Nat.sub_zero]
  | case2 used offered granted h ih =>
    have hroom := room_eq_grant_add h
    rw [ih, hroom]
    exact Nat.sub_sub _ _ _

variable {sink : Sink} {stream bytes : List UInt8}

theorem holds_of_append {more : List UInt8} (h : sink.Holds (stream ++ more)) :
    sink.Holds stream := by
  intro limit hl
  have := h limit hl
  rw [List.length_append] at this
  omega

theorem share_of_holds (h : sink.Holds stream) : sink.share stream = stream := by
  unfold share
  split
  · rfl
  · rename_i limit hl
    exact List.take_of_length_le (h limit hl)

theorem share_append_of_not_holds (h : ¬ sink.Holds stream) (more : List UInt8) :
    sink.share (stream ++ more) = sink.share stream := by
  unfold share
  split
  · rename_i hl
    refine absurd (fun limit he => ?_) h
    cases hl.symm.trans he
  · rename_i limit hl
    refine List.take_append_of_le_length (Nat.le_of_lt (Nat.lt_of_not_le fun hle => h fun other he => ?_))
    obtain rfl := Option.some.inj (hl.symm.trans he)
    exact hle

theorem write_of_holds (h : sink.Holds (sink.taken ++ bytes)) :
    sink.write bytes = (.ok (), sink.take bytes) := by
  have hroom : sink.room sink.taken.length bytes.length = bytes.length := by
    unfold room
    split
    · rfl
    · rename_i limit hl
      have := h limit hl
      rw [List.length_append] at this
      omega
  simp [write, offer_eq, hroom]

theorem exists_write_of_not_holds (ht : sink.Holds sink.taken)
    (h : ¬ sink.Holds (sink.taken ++ bytes)) : ∃ fault accepted,
      sink.write bytes = (.error fault, sink.take accepted) ∧
      sink.taken ++ accepted = sink.share (sink.taken ++ bytes) := by
  obtain ⟨limit, hl, hlong⟩ : ∃ limit, sink.limit = some limit ∧
      ¬ (sink.taken ++ bytes).length ≤ limit := by
    simpa only [Holds, Classical.not_forall, exists_prop] using h
  have hfits := ht limit hl
  rw [List.length_append] at hlong
  have hroom : sink.room sink.taken.length bytes.length = limit - sink.taken.length := by
    simp only [room, hl]
    omega
  have hleft : ¬ bytes.length - (limit - sink.taken.length) = 0 := by omega
  have hpart : bytes.length - (bytes.length - (limit - sink.taken.length)) =
      limit - sink.taken.length := by omega
  let accepted := bytes.take (limit - sink.taken.length)
  refine ⟨sink.refusal (sink.take accepted).taken.length, accepted, ?_, ?_⟩
  · simp only [write, offer_eq, hroom, hpart, if_neg hleft, accepted]
  · simp only [share, hl, List.take_append, List.take_of_length_le hfits, accepted]

end Sink
end GameServer
