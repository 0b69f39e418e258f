import GameServer.Outbox.Basic
import GameServer.Proofs.Outbox.Capacity

/-! What has reached a sink once its writer has run: of the frames that were put in before the
first close, exactly as many bytes as the sink takes. The writer shuts the sink down once, behind
the last of them. -/

namespace GameServer

/-- The writer comes to its end here, at a close or at a packet that has no frame. -/
def Outgoing.isLast : Outgoing → Bool
  | .close => true
  | .packet content => content.frame matches .error _

/-- What can be done with an outbox: whoever owns it writes to it, closes it and drops it, and
every now and then the writer runs. -/
inductive Outbox.Call
  | write (packet : Packet)
  | writeAndClose (packet : Packet)
  | close
  | drop
  | settle

namespace Outbox

def Call.items : Call → List Outgoing
  | .write packet => [.packet packet]
  | .writeAndClose packet => [.packet packet, .close]
  | .close => [.close]
  | .drop | .settle => []

/-- What the calls put in. An outbox that has been dropped is out of everybody's hands. -/
def queued : List Call → List Outgoing
  | [] | .drop :: _ => []
  | call :: rest => call.items ++ queued rest

/-- The frames, one behind the other, up to the first close or the first packet that has none. -/
def stream : List Outgoing → List UInt8
  | [] | .close :: _ => []
  | .packet packet :: rest =>
    match packet.frame with
    | .ok frame => frame ++ stream rest
    | .error _ => []

def putAll (outbox : Outbox) : List Outgoing → Outbox × List WriterEvent
  | [] => (outbox, [])
  | item :: rest =>
    let (next, events) := outbox.put item
    let (last, more) := next.putAll rest
    (last, events ++ more)

/-- An outbox after some calls, with what the writer has reported up to then. -/
structure Trail where
  outbox : Outbox
  events : List WriterEvent

def Trail.step (trail : Trail) : Call → Trail
  | .drop => { trail with outbox := trail.outbox.release }
  | .settle =>
    let (outbox, events) := trail.outbox.run
    { outbox, events := trail.events ++ events }
  | call =>
    if trail.outbox.released then trail
    else
      let (outbox, events) := trail.outbox.putAll call.items
      { outbox, events := trail.events ++ events }

def trail (address : String) (sink : Sink) (calls : List Call) : Trail :=
  calls.foldl Trail.step
    { outbox := .empty address { sink with taken := [], acts := [] }, events := [] }

theorem queued_append (calls : List Call) (call : Call) : queued (calls ++ [call]) =
    queued calls ++ if calls.any (· matches .drop) then [] else call.items := by
  induction calls with
  | nil => cases call <;> simp [queued, Call.items]
  | cons first calls ih => cases first <;> simp [queued, ih]

theorem stream_append (items more : List Outgoing) : stream (items ++ more) =
    stream items ++ if items.any Outgoing.isLast then [] else stream more := by
  induction items with
  | nil => rfl
  | cons item items ih =>
    cases item with
    | close => simp [stream, Outgoing.isLast]
    | packet packet =>
      cases hf : packet.frame <;> simp [stream, Outgoing.isLast, hf, ih]

/-- Where the writer has come to with `items`: until it ends it has sent all that it has taken
out, and when it ends it has sent all that the sink takes. -/
structure Exact (outbox : Outbox) (items : List Outgoing) : Prop where
  going : outbox.closed = false → ∃ done, items = done ++ outbox.waiting ∧
    done.any Outgoing.isLast = false ∧ outbox.sink.taken = stream done ∧
    outbox.sink.Holds (stream done)
  ended : outbox.closed → outbox.sink.taken = outbox.sink.share (stream items) ∧
    (outbox.released ∨ items.any Outgoing.isLast ∨ ¬ outbox.sink.Holds (stream items))

/-- The writer has done all it can with `items`. -/
structure Finished (outbox : Outbox) (items : List Outgoing) : Prop where
  taken_eq : outbox.sink.taken = outbox.sink.share (stream items)
  closed_iff : outbox.closed ↔
    outbox.released ∨ items.any Outgoing.isLast ∨ ¬ outbox.sink.Holds (stream items)
  waiting_eq : outbox.closed = false → outbox.waiting = []

variable {outbox : Outbox} {items : List Outgoing}

theorem Finished.exact (h : outbox.Finished items) : outbox.Exact items where
  going hopen := by
    have hgoing : ¬ (outbox.released ∨ items.any Outgoing.isLast ∨
        ¬ outbox.sink.Holds (stream items)) := by
      rw [← h.closed_iff, hopen]
      exact Bool.false_ne_true
    simp only [not_or, Classical.not_not, Bool.not_eq_true] at hgoing
    obtain ⟨-, hlast, hholds⟩ := hgoing
    refine ⟨items, ?_, hlast, ?_, hholds⟩
    · rw [h.waiting_eq hopen, List.append_nil]
    · rw [h.taken_eq, Sink.share_of_holds hholds]
  ended hclosed := ⟨h.taken_eq, h.closed_iff.mp hclosed⟩

theorem Exact.finished_of_closed (h : outbox.Exact items) (hclosed : outbox.closed) :
    outbox.Finished items := by
  obtain ⟨htaken, hend⟩ := h.ended hclosed
  exact ⟨htaken, ⟨fun _ => hend, fun _ => hclosed⟩, fun hopen => by simp [hclosed] at hopen⟩

theorem transmit_cases {sink : Sink} (ht : sink.Holds sink.taken) (packet : Packet) :
    (∃ error, packet.frame = .error error ∧ transmit sink packet = (.error error, sink)) ∨
    ∃ frame, packet.frame = .ok frame ∧
      (sink.Holds (sink.taken ++ frame) ∧
          transmit sink packet = (.ok (), sink.take frame) ∨
        ¬ sink.Holds (sink.taken ++ frame) ∧ ∃ error accepted,
          transmit sink packet = (.error error, sink.take accepted) ∧
          sink.taken ++ accepted = sink.share (sink.taken ++ frame)) := by
  cases hf : packet.frame with
  | error error => exact .inl ⟨error, rfl, by simp only [transmit, hf]⟩
  | ok frame =>
    refine .inr ⟨frame, rfl, ?_⟩
    by_cases hh : sink.Holds (sink.taken ++ frame)
    · exact .inl ⟨hh, by simp only [transmit, hf, Sink.write_of_holds hh]⟩
    · obtain ⟨fault, accepted, hw, ha⟩ := Sink.exists_write_of_not_holds ht hh
      exact .inr ⟨hh, .connection fault, accepted, by simp only [transmit, hf, hw], ha⟩

/-- The writer may come to its end once it has a reason to and all that the sink takes is there. -/
theorem finished_finish (ht : outbox.sink.taken = outbox.sink.share (stream items))
    (hend : outbox.released ∨ items.any Outgoing.isLast ∨ ¬ outbox.sink.Holds (stream items)) :
    outbox.finish.1.Finished items :=
  ⟨ht, ⟨fun _ => hend, fun _ => rfl⟩, fun _ => rfl⟩

theorem finished_work {done : List Outgoing} (hopen : outbox.closed = false)
    (hlast : done.any Outgoing.isLast = false) (ht : outbox.sink.taken = stream done)
    (hholds : outbox.sink.Holds (stream done)) (rest : List Outgoing) :
    (outbox.work rest).1.Finished (done ++ rest) := by
  induction rest generalizing outbox done with
  | nil =>
    rw [List.append_nil]
    let emptied := { outbox with waiting := [] }
    have htaken : emptied.sink.taken = emptied.sink.share (stream done) :=
      ht.trans (Sink.share_of_holds hholds).symm
    simp only [work]
    split
    · rename_i hr
      exact finished_finish htaken (.inl hr)
    · rename_i hr
      refine ⟨htaken, ⟨fun hc => ?_, fun he => ?_⟩, fun _ => rfl⟩
      · simp [hopen] at hc
      · rcases he with he | he | he
        · exact absurd he hr
        · simp [hlast] at he
        · exact absurd hholds he
  | cons item rest ih =>
    have hrest : stream (done ++ item :: rest) = stream done ++ stream (item :: rest) := by
      rw [stream_append, hlast]
      rfl
    cases item with
    | close =>
      have hshare : outbox.sink.taken = outbox.sink.share (stream (done ++ .close :: rest)) := by
        rw [hrest, stream, List.append_nil, ht, Sink.share_of_holds hholds]
      exact finished_finish hshare (.inr (.inl (by simp [Outgoing.isLast])))
    | packet packet =>
      rcases transmit_cases (ht ▸ hholds) packet with
        ⟨error, hf, hs⟩ | ⟨frame, hf, ⟨hh, hs⟩ | ⟨hh, error, accepted, hs, ha⟩⟩
      · have hshare : outbox.sink.taken =
            outbox.sink.share (stream (done ++ .packet packet :: rest)) := by
          simp only [hrest, stream, hf, List.append_nil, ht, Sink.share_of_holds hholds]
        simp only [work, hs]
        exact finished_finish hshare (.inr (.inl (by simp [Outgoing.isLast, hf])))
      · have hdone : stream (done ++ [.packet packet]) = outbox.sink.taken ++ frame := by
          rw [stream_append, hlast, ht]
          simp [stream, hf]
        let after := { outbox with sink := outbox.sink.take frame }
        have hopen' : after.closed = false := hopen
        have htaken : after.sink.taken = stream (done ++ [.packet packet]) := hdone.symm
        have hholds' : after.sink.Holds (stream (done ++ [.packet packet])) := hdone ▸ hh
        have htail := ih hopen' (by simp [hlast, Outgoing.isLast, hf]) htaken hholds'
        simp only [work, hs]
        rwa [List.append_assoc] at htail
      · let after := { outbox with sink := outbox.sink.take accepted }
        have hmore : stream (done ++ .packet packet :: rest) =
            (outbox.sink.taken ++ frame) ++ stream rest := by
          simp only [hrest, stream, hf, ht, List.append_assoc]
        have hover : ¬ after.sink.Holds (stream (done ++ .packet packet :: rest)) := by
          rw [hmore]
          exact fun hall => hh (Sink.holds_of_append hall)
        have hshare : after.sink.taken =
            after.sink.share (stream (done ++ .packet packet :: rest)) := by
          rw [hmore]
          exact ha.trans (Sink.share_append_of_not_holds hh _).symm
        simp only [work, hs]
        exact finished_finish hshare (.inr (.inr hover))

theorem Exact.run (h : outbox.Exact items) : outbox.run.1.Finished items := by
  unfold Outbox.run
  split
  · rename_i hclosed
    exact h.finished_of_closed hclosed
  · rename_i hopen
    obtain ⟨done, hi, hlast, ht, hholds⟩ := h.going (Bool.eq_false_iff.mpr hopen)
    rw [hi]
    exact finished_work (Bool.eq_false_iff.mpr hopen) hlast ht hholds outbox.waiting

theorem Exact.put (h : outbox.Exact items) (hr : outbox.released = false) (item : Outgoing) :
    (outbox.put item).1.Exact (items ++ [item]) := by
  by_cases hclosed : outbox.closed
  · have he : (outbox.put item).1 = outbox := by cases item <;> simp [Outbox.put, hclosed]
    rw [he]
    refine ⟨fun hopen => by simp [hclosed] at hopen, fun _ => ?_⟩
    obtain ⟨ht, hreleased | hlast | hover⟩ := h.ended hclosed
    · simp [hr] at hreleased
    · refine ⟨?_, .inr (.inl (by simp [hlast]))⟩
      rw [ht, stream_append, if_pos hlast, List.append_nil]
    · rw [stream_append]
      exact ⟨ht.trans (Sink.share_append_of_not_holds hover _).symm,
        .inr (.inr fun hall => hover (Sink.holds_of_append hall))⟩
  · simp only [Outbox.put, hclosed, Bool.false_eq_true, if_false]
    obtain ⟨done, hi, hdone⟩ := h.going (Bool.eq_false_iff.mpr hclosed)
    exact ⟨fun _ => ⟨done, by rw [hi, List.append_assoc], hdone⟩, nofun⟩

theorem Exact.putAll (h : outbox.Exact items) (hr : outbox.released = false)
    (more : List Outgoing) : (outbox.putAll more).1.Exact (items ++ more) := by
  induction more generalizing outbox items with
  | nil => rwa [List.append_nil]
  | cons item more ih =>
    have hsame : (outbox.put item).1.released = false := by
      simp only [Outbox.put]
      repeat' split
      all_goals exact hr
    rw [List.append_cons]
    exact ih (h.put hr item) hsame

theorem Exact.release (h : outbox.Exact items) : outbox.release.Exact items where
  going := h.going
  ended hclosed := ⟨(h.ended hclosed).1, .inl rfl⟩

/-! What the writer and whoever owns the outbox leave alone. -/

theorem sink_transmit (sink : Sink) (packet : Packet) : (transmit sink packet).2 = sink ∨
    ∃ bytes, (transmit sink packet).2 = sink.take bytes := by
  unfold transmit
  cases packet.frame with
  | error error => exact .inl rfl
  | ok frame =>
    have hwrite : (sink.write frame).2 = sink.take _ := rfl
    refine .inr ⟨_, Eq.trans ?_ hwrite⟩
    dsimp only
    split
    all_goals
      rename_i hw
      exact congrArg Prod.snd hw.symm

theorem limit_transmit (sink : Sink) (packet : Packet) :
    (transmit sink packet).2.limit = sink.limit := by
  rcases sink_transmit sink packet with hs | ⟨bytes, hs⟩
  · rw [hs]
  · rw [hs, Sink.limit_take]

theorem work_leaves (rest : List Outgoing) :
    (outbox.work rest).1.released = outbox.released ∧
      (outbox.work rest).1.sink.limit = outbox.sink.limit := by
  induction rest generalizing outbox with
  | nil =>
    simp only [work]
    split <;> exact ⟨rfl, rfl⟩
  | cons item rest ih =>
    cases item with
    | close => exact ⟨rfl, rfl⟩
    | packet packet =>
      have hl := limit_transmit outbox.sink packet
      simp only [work]
      split
      · rename_i sink hs
        rw [hs] at hl
        obtain ⟨hr, hsame⟩ := @ih { outbox with sink }
        exact ⟨hr, hsame.trans hl⟩
      · rename_i error sink hs
        rw [hs] at hl
        exact ⟨rfl, hl⟩

theorem putAll_leaves (items : List Outgoing) :
    (outbox.putAll items).1.released = outbox.released ∧
      (outbox.putAll items).1.sink = outbox.sink ∧
      (outbox.putAll items).1.closed = outbox.closed ∧
      (outbox.putAll items).2.count .shutdown = 0 := by
  induction items generalizing outbox with
  | nil => exact ⟨rfl, rfl, rfl, rfl⟩
  | cons item items ih =>
    have hput : (outbox.put item).1.released = outbox.released ∧
        (outbox.put item).1.sink = outbox.sink ∧ (outbox.put item).1.closed = outbox.closed ∧
        (outbox.put item).2.count .shutdown = 0 := by
      simp only [Outbox.put]
      repeat' split
      all_goals simp [*]
    obtain ⟨hr, hs, hc, hn⟩ := @ih (outbox.put item).1
    simp only [putAll, List.count_append]
    exact ⟨hr.trans hput.1, hs.trans hput.2.1, hc.trans hput.2.2.1, by omega⟩

/-- What the sink has on record is that it took its bytes, and then, if the writer has come to its
end, that it was shut down. -/
def Recorded (outbox : Outbox) : Prop :=
  ∃ pieces : List (List UInt8), pieces.flatten = outbox.sink.taken ∧
    outbox.sink.acts = pieces.map .took ++ if outbox.closed then [.shutdown] else []

theorem Recorded.finish (h : outbox.Recorded) (hopen : outbox.closed = false) :
    outbox.finish.1.Recorded := by
  obtain ⟨pieces, hp, ha⟩ := h
  refine ⟨pieces, hp, ?_⟩
  have hbefore : outbox.sink.acts = pieces.map .took := by simpa [hopen] using ha
  exact congrArg (· ++ [Sink.Act.shutdown]) hbefore

theorem Recorded.transmit (h : outbox.Recorded) (hopen : outbox.closed = false)
    (packet : Packet) :
    { outbox with sink := (Outbox.transmit outbox.sink packet).2 }.Recorded := by
  rcases sink_transmit outbox.sink packet with hs | ⟨bytes, hs⟩
  · rw [hs]
    exact h
  · obtain ⟨pieces, hp, ha⟩ := h
    rw [hs]
    refine ⟨pieces ++ [bytes], ?_, ?_⟩
    · rw [List.flatten_append, List.flatten_singleton, hp]
      rfl
    · simp [Sink.take, ha, hopen]

theorem Recorded.work (h : outbox.Recorded) (hopen : outbox.closed = false)
    (rest : List Outgoing) : (outbox.work rest).1.Recorded := by
  induction rest generalizing outbox with
  | nil =>
    have hempty : { outbox with waiting := [] }.Recorded := h
    simp only [Outbox.work]
    split
    · exact hempty.finish hopen
    · exact hempty
  | cons item rest ih =>
    cases item with
    | close => exact h.finish hopen
    | packet packet =>
      have hsent := h.transmit hopen packet
      simp only [Outbox.work]
      split
      · rename_i sink hs
        rw [hs] at hsent
        exact ih hsent hopen
      · rename_i error sink hs
        rw [hs] at hsent
        exact hsent.finish hopen

theorem count_shutdown_finish (outbox : Outbox) : outbox.finish.2.count .shutdown = 1 := by
  unfold finish
  cases outbox.sink.shutdownFault <;> simp

theorem count_shutdown_work (hopen : outbox.closed = false) (rest : List Outgoing) :
    (outbox.work rest).2.count .shutdown = if (outbox.work rest).1.closed then 1 else 0 := by
  induction rest generalizing outbox with
  | nil =>
    simp only [work]
    split
    · exact count_shutdown_finish _
    · simp [hopen]
  | cons item rest ih =>
    cases item with
    | close => exact count_shutdown_finish _
    | packet packet =>
      cases hs : transmit outbox.sink packet with
      | mk result sink =>
        simp only [work, hs]
        cases result with
        | ok => exact @ih { outbox with sink } hopen
        | error error =>
          have hn := count_shutdown_finish { outbox with sink }
          simpa [finish] using hn

structure Trail.Sound (trail : Trail) (sink : Sink) (calls : List Call) : Prop where
  limit_eq : trail.outbox.sink.limit = sink.limit
  released_eq : trail.outbox.released = calls.any (· matches .drop)
  exact : trail.outbox.Exact (queued calls)
  shutdowns : trail.events.count .shutdown = if trail.outbox.closed then 1 else 0
  recorded : trail.outbox.Recorded

namespace Trail.Sound

variable {trail : Trail} {sink : Sink} {calls : List Call}

theorem put (h : trail.Sound sink calls) {call : Call}
    (hcall : (call matches .drop) = false)
    (hstep : trail.step call = if trail.outbox.released then trail else
      let (outbox, events) := trail.outbox.putAll call.items
      { outbox, events := trail.events ++ events }) :
    (trail.step call).Sound sink (calls ++ [call]) := by
  have hany : (calls ++ [call]).any (· matches .drop) = calls.any (· matches .drop) := by
    simp [hcall]
  have hqueued := queued_append calls call
  rw [← h.released_eq] at hqueued
  rw [hstep]
  by_cases hr : trail.outbox.released
  · rw [if_pos hr] at hqueued ⊢
    rw [List.append_nil] at hqueued
    exact ⟨h.limit_eq, hany ▸ h.released_eq, hqueued ▸ h.exact, h.shutdowns, h.recorded⟩
  · rw [if_neg hr] at hqueued ⊢
    obtain ⟨hreleased, hsink, hclosed, hcount⟩ := trail.outbox.putAll_leaves call.items
    have hputs := h.exact.putAll (Bool.eq_false_iff.mpr hr) call.items
    obtain ⟨pieces, hp, ha⟩ := h.recorded
    refine ⟨?_, ?_, hqueued ▸ hputs, ?_, pieces, ?_, ?_⟩
    · rw [hsink, h.limit_eq]
    · rw [hreleased, hany, h.released_eq]
    · rw [List.count_append, hcount, hclosed, h.shutdowns, Nat.add_zero]
    · rw [hsink, hp]
    · rw [hsink, hclosed, ha]

theorem drop (h : trail.Sound sink calls) :
    (trail.step .drop).Sound sink (calls ++ [.drop]) where
  limit_eq := h.limit_eq
  released_eq := by simp [Trail.step, release]
  exact := by
    rw [queued_append, Call.items, ite_self, List.append_nil]
    exact h.exact.release
  shutdowns := h.shutdowns
  recorded := h.recorded

theorem settle (h : trail.Sound sink calls) :
    (trail.step .settle).Sound sink (calls ++ [.settle]) where
  limit_eq := by
    simp only [Trail.step, Outbox.run]
    split
    · exact h.limit_eq
    · exact (work_leaves _).2.trans h.limit_eq
  released_eq := by
    simp only [Trail.step, Outbox.run, List.any_append]
    split
    · simpa using h.released_eq
    · rw [(work_leaves _).1, h.released_eq]
      simp
  exact := by
    rw [queued_append, Call.items, ite_self, List.append_nil]
    exact h.exact.run.exact
  shutdowns := by
    simp only [Trail.step, Outbox.run]
    split
    · rename_i hclosed
      simpa [hclosed] using h.shutdowns
    · rename_i hopen
      have hbefore := h.shutdowns
      rw [if_neg hopen] at hbefore
      rw [List.count_append, hbefore, Nat.zero_add]
      exact count_shutdown_work (Bool.eq_false_iff.mpr hopen) _
  recorded := by
    simp only [Trail.step, Outbox.run]
    split
    · exact h.recorded
    · rename_i hopen
      exact h.recorded.work (Bool.eq_false_iff.mpr hopen) _

theorem step (h : trail.Sound sink calls) (call : Call) :
    (trail.step call).Sound sink (calls ++ [call]) := by
  cases call with
  | drop => exact h.drop
  | settle => exact h.settle
  | write packet => exact h.put rfl rfl
  | writeAndClose packet => exact h.put rfl rfl
  | close => exact h.put rfl rfl

theorem steps (h : trail.Sound sink calls) (more : List Call) :
    (more.foldl Trail.step trail).Sound sink (calls ++ more) := by
  induction more generalizing trail calls with
  | nil => rwa [List.append_nil]
  | cons call more ih =>
    rw [List.append_cons]
    exact ih (h.step call)

end Trail.Sound

theorem sound_trail (address : String) (sink : Sink) (calls : List Call) :
    (trail address sink calls).Sound sink calls := by
  have hbegin : (trail address sink []).Sound sink [] :=
    ⟨rfl, rfl, ⟨fun _ => ⟨[], rfl, rfl, rfl, fun _ _ => Nat.zero_le _⟩, nofun⟩, rfl, [], rfl, rfl⟩
  exact hbegin.steps calls

theorem trail_append (address : String) (sink : Sink) (calls more : List Call) :
    trail address sink (calls ++ more) = more.foldl Trail.step (trail address sink calls) :=
  List.foldl_append

/-- Nothing reaches a sink whose writer has ended. -/
theorem Trail.closed_final {trail : Trail} (hclosed : trail.outbox.closed) (more : List Call) :
    (more.foldl Trail.step trail).outbox.closed ∧
      (more.foldl Trail.step trail).outbox.sink = trail.outbox.sink := by
  induction more generalizing trail with
  | nil => exact ⟨hclosed, rfl⟩
  | cons call more ih =>
    have hstep : (trail.step call).outbox.closed ∧
        (trail.step call).outbox.sink = trail.outbox.sink := by
      cases call with
      | drop => exact ⟨hclosed, rfl⟩
      | settle => simp [Trail.step, Outbox.run, hclosed]
      | write | writeAndClose | close =>
        simp only [Trail.step]
        split
        · exact ⟨hclosed, rfl⟩
        · obtain ⟨-, hs, hc, -⟩ := trail.outbox.putAll_leaves (Call.items _)
          exact ⟨hc.trans hclosed, hs⟩
    obtain ⟨hc, hs⟩ := ih hstep.1
    exact ⟨hc, hs.trans hstep.2⟩

theorem any_isLast_iff : items.any Outgoing.isLast ↔ .close ∈ items ∨
    ∃ packet error, .packet packet ∈ items ∧ packet.frame = .error error := by
  rw [List.any_eq_true]
  constructor
  · rintro ⟨item, hm, hl⟩
    cases item with
    | close => exact .inl hm
    | packet packet =>
      cases hf : packet.frame with
      | ok frame => simp [Outgoing.isLast, hf] at hl
      | error error => exact .inr ⟨packet, error, hm, hf⟩
  · rintro (hm | ⟨packet, error, hm, hf⟩)
    · exact ⟨.close, hm, rfl⟩
    · exact ⟨.packet packet, hm, by simp [Outgoing.isLast, hf]⟩

theorem any_drop_iff {calls : List Call} : calls.any (· matches .drop) ↔ .drop ∈ calls := by
  rw [List.any_eq_true]
  constructor
  · rintro ⟨call, hm, hd⟩
    cases call with
    | drop => exact hm
    | write | writeAndClose | close | settle => cases hd
  · intro hm
    exact ⟨.drop, hm, rfl⟩

/-- Whenever the writer has run, the sink has the frames of all that was put in before the first
close and the first packet without a frame, as far as it takes them. Up to any moment it has been
shut down once if the writer has come to its end and not at all otherwise. By its own record that
was done behind the last of the bytes that it has, and from then on nothing is done to it. -/
theorem settled_stream (address : String) (sink : Sink) (calls : List Call) :
    let now := trail address sink calls
    let settled := trail address sink (calls ++ [.settle])
    let sent := stream (queued calls)
    (sink.Holds sent → settled.outbox.sink.taken = sent) ∧
    (∀ limit, sink.limit = some limit → limit < sent.length →
      settled.outbox.sink.taken = sent.take limit) ∧
    (settled.outbox.closed ↔ .drop ∈ calls ∨ .close ∈ queued calls ∨
      (∃ packet error, .packet packet ∈ queued calls ∧ packet.frame = .error error) ∨
      ¬ sink.Holds sent) ∧
    now.events.count .shutdown = (if now.outbox.closed then 1 else 0) ∧
    (∃ pieces : List (List UInt8), pieces.flatten = now.outbox.sink.taken ∧
      now.outbox.sink.acts = pieces.map .took ++ if now.outbox.closed then [.shutdown] else []) ∧
    (now.outbox.closed → ∀ more,
      (trail address sink (calls ++ more)).outbox.closed ∧
      (trail address sink (calls ++ more)).outbox.sink = now.outbox.sink) := by
  intro now settled sent
  have hsound : now.Sound sink calls := sound_trail address sink calls
  have hsettled : settled.Sound sink (calls ++ [.settle]) := sound_trail address sink _
  have hstep : settled = now.step .settle := trail_append address sink calls [.settle]
  have hfinished : settled.outbox.Finished (queued calls) := hstep ▸ hsound.exact.run
  have hreleased : settled.outbox.released = calls.any (· matches .drop) := by
    simpa using hsettled.released_eq
  have hlimit := hsettled.limit_eq
  have hshare : settled.outbox.sink.share sent = sink.share sent := by
    simp only [Sink.share, hlimit]
  have htaken : settled.outbox.sink.taken = sink.share sent := hfinished.taken_eq.trans hshare
  refine ⟨fun hh => ?_, fun limit hl _ => ?_, ?_, hsound.shutdowns, hsound.recorded, ?_⟩
  · rw [htaken, Sink.share_of_holds hh]
  · rw [htaken, Sink.share, hl]
  · rw [hfinished.closed_iff, hreleased, any_drop_iff, any_isLast_iff, or_assoc]
    simp only [Sink.Holds, hlimit, sent]
  · intro hclosed more
    rw [trail_append]
    exact Trail.closed_final hclosed more

/-- The sink breaks two bytes into the second frame, which is to be the last. -/
theorem settled_stream_cut_short :
    let sink : Sink := {
      perWrite := some 5, capacity := some 14, fault := .broken "sink broken"
      shutdownFault := some "sink gone", taken := [] }
    let calls : List Call := [.write (.keepAlive 7), .writeAndClose .statusRequest, .close]
    let settled := trail "" sink (calls ++ [.settle])
    let sent : List UInt8 := [0, 0, 0, 8, 6, 0, 0, 0, 7, 0, 0, 0, 0, 0, 0, 4, 1, 0, 0, 0]
    (sink.limit = some 14 ∧ 14 < sent.length) ∧
      settled.outbox.sink.taken = sent.take 14 ∧
      settled.outbox.closed ∧
      (∃ pieces : List (List UInt8), pieces.flatten = sent.take 14 ∧
        settled.outbox.sink.acts = pieces.map .took ++ [.shutdown]) ∧
      (trail "" sink (calls ++ [.settle] ++ [.write .statusRequest, .settle])).outbox.sink =
        settled.outbox.sink := by
  intro sink calls settled sent
  have hlimit : sink.limit = some 14 ∧ 14 < sent.length := ⟨rfl, by decide⟩
  have hstream : stream (queued calls) = sent := by decide
  obtain ⟨-, hcut, hclosed, -⟩ := settled_stream "" sink calls
  obtain ⟨-, -, -, -, hrecord, hfinal⟩ := settled_stream "" sink (calls ++ [.settle])
  rw [hstream] at hcut
  have hend := hclosed.mpr (.inr (.inl (by decide)))
  have htaken := hcut 14 hlimit.1 hlimit.2
  rw [htaken, hend] at hrecord
  exact ⟨hlimit, htaken, hend, hrecord, (hfinal hend _).2⟩

end Outbox
end GameServer
