import GameServer.Proofs.Session.Intake
import GameServer.Proofs.Session.Keepalive

/-! How the packets of a client fall into ticks. However many of them wait for a tick, it takes them
up one after the other as if each had come alone, and counts no silence; so nobody can tell where
one tick ended and the next one began. -/

namespace GameServer

open Service Event

/-- The packets are handed in, and the next tick takes them up. -/
def batch (packets : List Packet) : List Move := packets.map .queue ++ [.pulse]

/-- The client has just been heard, and these packets wait. -/
def Guise.heard (waiting : List Packet) : Guise :=
  { past := [], idle := fun _ => 0, inbox := fun _ => waiting, idle_zero := rfl }

namespace Scene

/-- The packets are taken up one after the other. -/
def serve (scene : Scene) (table : Table) (setting : Setting) (packets : List Packet) : Scene :=
  packets.foldl (·.dispatch table setting ·) scene

variable {listing : Listing} {setting : Setting} (scene : Scene)

theorem serve_append (table : Table) (setting : Setting) (packets more : List Packet) :
    scene.serve table setting (packets ++ more) =
      (scene.serve table setting packets).serve table setting more := List.foldl_append

theorem serve_wear (guise : Guise) (packets : List Packet) :
    (scene.wear guise).serve (standard listing) setting packets =
      (scene.serve (standard listing) setting packets).wear guise := by
  induction packets generalizing scene with
  | nil => rfl
  | cons packet packets ih =>
    have hfirst := dispatch_wear guise scene setting listing packet
    exact (congrArg (serve · (standard listing) setting packets) hfirst).trans (ih _)

theorem taken_serve (packets : List Packet) :
    taken (scene.serve (standard listing) setting packets).trace = taken scene.trace ++ packets := by
  induction packets generalizing scene with
  | nil => exact (List.append_nil _).symm
  | cons packet packets ih =>
    calc taken (scene.serve (standard listing) setting (packet :: packets)).trace
        = taken (scene.dispatch (standard listing) setting packet).trace ++ packets := ih _
      _ = taken scene.trace ++ [packet] ++ packets := by
        rw [(takesUp_dispatch scene packet).taken_eq]
      _ = taken scene.trace ++ packet :: packets := List.append_assoc _ _ _

theorem inbox_serve (packets : List Packet) :
    (scene.serve (standard listing) setting packets).session.inbox = scene.session.inbox := by
  induction packets generalizing scene with
  | nil => rfl
  | cons packet packets ih => exact (ih _).trans (inbox_dispatch scene packet)

/-- Scenes that differ in the clock and in what waits do not do so any longer when a packet has been
taken up. -/
theorem takeUp_eq_wear (other : Scene) (packet : Packet) (rest : List Packet)
    (hother : other.wear (.heard rest) = scene.wear (.heard rest)) :
    other.takeUp (standard listing) setting packet rest =
      (scene.dispatch (standard listing) setting packet).wear (.heard rest) := by
  let opened : Scene := { other with session := { other.session with inbox := rest } }
  have hinbox : (opened.dispatch (standard listing) setting packet).session.inbox = rest :=
    inbox_dispatch opened packet
  calc other.takeUp (standard listing) setting packet rest
      = (opened.dispatch (standard listing) setting packet).wear (.heard rest) := by
        simp only [takeUp, opened, wear, Guise.heard, List.nil_append]
        rw [hinbox]
    _ = (opened.wear (.heard rest)).dispatch (standard listing) setting packet :=
        (dispatch_wear (.heard rest) opened setting listing packet).symm
    _ = (scene.wear (.heard rest)).dispatch (standard listing) setting packet :=
        congrArg (dispatch · (standard listing) setting packet) hother
    _ = (scene.dispatch (standard listing) setting packet).wear (.heard rest) :=
        dispatch_wear (.heard rest) scene setting listing packet

theorem drain_wear_heard {packets : List Packet} {bound : Nat} (hbound : packets.length ≤ bound) :
    drain (standard listing) setting bound (scene.wear (.heard packets)) =
      (scene.serve (standard listing) setting packets).wear (.heard []) := by
  induction packets generalizing scene bound with
  | nil => exact drain_of_nil rfl bound
  | cons packet rest ih =>
    cases bound with
    | zero => cases hbound
    | succ bound =>
      rw [drain_of_cons rfl, takeUp_eq_wear scene _ packet rest (by rfl)]
      exact ih _ (Nat.le_of_succ_le_succ hbound)

/-- A tick that has packets to take up does nothing else. -/
theorem pulse_eq_serve_wear (hticks : 1 ≤ setting.timeoutTicks)
    (hinbox : scene.session.inbox ≠ []) :
    scene.pulse (standard listing) setting =
      (scene.serve (standard listing) setting scene.session.inbox).wear (.heard []) := by
  obtain ⟨packet, rest, hcons⟩ := List.exists_cons_of_ne_nil hinbox
  let served : Scene := scene.serve (standard listing) setting (packet :: rest)
  have hdrained : scene.drained (standard listing) setting = served.wear (.heard []) := by
    -- The pulse has counted up, but with the first packet the count is at zero again.
    have hticked : scene.ticked.session.inbox = packet :: rest := hcons
    rw [drained, hcons, List.length_cons, Nat.add_right_comm, drain_of_cons hticked,
      takeUp_eq_wear scene _ packet rest (by rfl)]
    exact drain_wear_heard _ (Nat.le_add_right _ _)
  have hheard : (served.wear (.heard [])).session.idle < setting.timeoutTicks := hticks
  rw [pulse_eq_checkSilence, hdrained, checkSilence, if_pos hheard, hcons]

theorem run_queue (table : Table) (setting : Setting) (packets : List Packet) :
    scene.run table setting (packets.map .queue) =
      { scene with session := { scene.session with
        inbox := scene.session.inbox ++ packets } } := by
  induction packets generalizing scene with
  | nil => simp [run]
  | cons packet packets ih =>
    refine (ih (scene.enqueue packet)).trans ?_
    simp [enqueue]

theorem run_batch (hticks : 1 ≤ setting.timeoutTicks) (hinbox : scene.session.inbox = [])
    {packets : List Packet} (hpackets : packets ≠ []) :
    scene.run (standard listing) setting (batch packets) =
      (scene.serve (standard listing) setting packets).wear (.heard []) := by
  let guise : Guise := { past := [], idle := id, inbox := fun _ => packets, idle_zero := rfl }
  have hqueued : scene.run (standard listing) setting (packets.map .queue) = scene.wear guise := by
    rw [run_queue, hinbox]
    rfl
  have hwaits : (scene.wear guise).session.inbox = packets := rfl
  rw [batch, run_append, hqueued]
  calc (scene.wear guise).pulse (standard listing) setting
      = ((scene.wear guise).serve (standard listing) setting packets).wear (.heard []) :=
        pulse_eq_serve_wear _ hticks hpackets
    _ = (scene.serve (standard listing) setting packets).wear (.heard []) := by
        rw [serve_wear]
        rfl

theorem run_batches (hticks : 1 ≤ setting.timeoutTicks) (batches : List (List Packet))
    (hbatches : ∀ packets ∈ batches, packets ≠ []) :
    (scene.wear (.heard [])).run (standard listing) setting (batches.flatMap batch) =
      (scene.serve (standard listing) setting batches.flatten).wear (.heard []) := by
  induction batches generalizing scene with
  | nil => rfl
  | cons packets batches ih =>
    obtain ⟨hpackets, hrest⟩ := List.forall_mem_cons.mp hbatches
    have hfirst : (scene.wear (.heard [])).run (standard listing) setting (batch packets) =
        (scene.serve (standard listing) setting packets).wear (.heard []) := by
      rw [run_batch _ hticks rfl hpackets, serve_wear]
      rfl
    rw [List.flatMap_cons, run_append, hfirst, ih _ hrest, List.flatten_cons, serve_append]

/-- In which ticks the packets of a client are taken up makes no difference, as long as every tick has
some: they are taken up one after the other, each once and as it was handed in. -/
theorem run_batches_eq_run_batch (listing : Listing) (setting : Setting)
    (hticks : 1 ≤ setting.timeoutTicks) (start : Scene) (hinbox : start.session.inbox = [])
    (batches : List (List Packet)) (hsome : batches ≠ [])
    (hbatches : ∀ packets ∈ batches, packets ≠ []) :
    let packets := batches.flatten
    let served := start.serve (standard listing) setting packets
    let whole := start.run (standard listing) setting (batch packets)
    start.run (standard listing) setting (batches.flatMap batch) = whole ∧
      whole = { served with session := { served.session with idle := 0 } } ∧
      taken whole.trace = taken start.trace ++ packets := by
  intro packets served whole
  have hserved : served.session.inbox = [] := (inbox_serve start packets).trans hinbox
  have hheard : served.wear (.heard []) =
      { served with session := { served.session with idle := 0 } } := by
    simp only [wear, Guise.heard, List.nil_append]
    rw [hserved]
  obtain ⟨first, rest, rfl⟩ := List.exists_cons_of_ne_nil hsome
  obtain ⟨hfirst, hrest⟩ := List.forall_mem_cons.mp hbatches
  have hpackets : packets ≠ [] := by
    simp only [packets, List.flatten_cons]
    exact List.append_ne_nil_of_left_ne_nil hfirst _
  have hwhole : whole = served.wear (.heard []) := run_batch start hticks hinbox hpackets
  refine ⟨?_, hwhole.trans hheard, ?_⟩
  -- Only the first batch may find a client that has been silent; the others find it just heard.
  · rw [hwhole, List.flatMap_cons, run_append, run_batch start hticks hinbox hfirst,
      run_batches _ hticks rest hrest, ← serve_append]
    rfl
  · rw [hwhole.trans hheard]
    exact taken_serve start packets

/-- The session of a client that has long been silent before it logs in. -/
def owing : Scene :=
  (begin (World.create "world") Policy.console 0).run (standard .default) hasty
    [.receive (.handshake 4 "localhost" 25565 .login), .pulse, .pulse]

/-- The client logs in and talks, answers the keepalive that it owes, and answers it again. -/
def talk : List (List Packet) :=
  [[.loginStart "Alice", .chat "hello"], [.keepAlive 1], [.keepAlive 1, .chat "", .statusRequest]]

theorem run_batches_eq_run_batch_talk :
    1 ≤ hasty.timeoutTicks ∧ owing.session.inbox = [] ∧ owing.session.outstanding.isSome ∧
      talk ≠ [] ∧ (∀ packets ∈ talk, packets ≠ []) ∧
      let packets := talk.flatten
      let served := owing.serve (standard .default) hasty packets
      let whole := owing.run (standard .default) hasty (batch packets)
      owing.run (standard .default) hasty (talk.flatMap batch) = whole ∧
        whole = { served with session := { served.session with idle := 0 } } ∧
        taken whole.trace = taken owing.trace ++ packets := by
  have hticks : 1 ≤ hasty.timeoutTicks := by decide
  have hsome : talk ≠ [] := by simp [talk]
  have hbatches : ∀ packets ∈ talk, packets ≠ [] := by simp [talk]
  exact ⟨hticks, rfl, by decide, hsome, hbatches,
    run_batches_eq_run_batch .default hasty hticks owing rfl talk hsome hbatches⟩

end Scene
end GameServer
