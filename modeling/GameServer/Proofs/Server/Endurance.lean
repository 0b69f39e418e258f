import GameServer.Proofs.Server.View

/-! What lasts whatever steps a server takes: the outbox of a connection, the end of its writer, the
history, and the end of the loop. -/

namespace GameServer

open Service

namespace Outbox

/-- The one may become the other in time. -/
structure Precedes (outbox later : Outbox) : Prop where
  limit_eq : later.sink.limit = outbox.sink.limit
  closed : outbox.closed → later.closed

variable (outbox : Outbox)

theorem Precedes.refl : outbox.Precedes outbox := ⟨rfl, id⟩

theorem Precedes.trans {outbox between later : Outbox} (h : outbox.Precedes between)
    (h' : between.Precedes later) : outbox.Precedes later :=
  ⟨h'.limit_eq.trans h.limit_eq, fun hclosed => h'.closed (h.closed hclosed)⟩

theorem precedes_putAll (items : List Outgoing) : outbox.Precedes (outbox.putAll items).1 := by
  obtain ⟨-, hsink, hclosed, -⟩ := outbox.putAll_leaves items
  exact ⟨congrArg Sink.limit hsink, fun h => hclosed.trans h⟩

theorem precedes_release : outbox.Precedes outbox.release := ⟨rfl, id⟩

theorem precedes_run : outbox.Precedes outbox.run.1 := by
  unfold run
  split
  · exact .refl outbox
  · rename_i hopen
    exact ⟨(work_leaves _).2, fun h => absurd h hopen⟩

end Outbox

def View.Precedes (view later : View) : Prop :=
  ∀ outbox, view.outbox = some outbox → ∃ next, later.outbox = some next ∧ outbox.Precedes next

namespace View.Precedes

variable {view between later : View}

theorem of_outbox_eq (h : later.outbox = view.outbox) : view.Precedes later :=
  fun outbox ho => ⟨outbox, h.trans ho, .refl outbox⟩

theorem trans (h : view.Precedes between) (h' : between.Precedes later) : view.Precedes later := by
  intro outbox ho
  obtain ⟨next, hn, hp⟩ := h outbox ho
  obtain ⟨last, hl, hp'⟩ := h' next hn
  exact ⟨last, hl, hp.trans hp'⟩

theorem of_map {change : Outbox → Outbox} (h : later.outbox = view.outbox.map change)
    (hchange : ∀ outbox : Outbox, outbox.Precedes (change outbox)) : view.Precedes later := by
  intro outbox ho
  exact ⟨change outbox, by rw [h, ho, Option.map_some], hchange outbox⟩

end View.Precedes

namespace Server

variable {server after : Server} {setup : Setup} {listing : Listing} {key : Key}

theorem precedes_act (action : Setting → Scene → Scene) (other : Key) :
    (server.view other).Precedes ((server.act setup key action).view other) := by
  cases hs : server.seat? key with
  | none =>
    rw [act_of_none server key setup action hs]
    exact .of_outbox_eq rfl
  | some seat =>
    rw [view_act server key other setup action hs]
    split
    · exact .of_map rfl fun outbox => outbox.precedes_putAll _
    · exact .of_outbox_eq rfl

theorem precedes_unseat (other : Key) :
    (server.view other).Precedes ((server.unseat key).view other) := by
  rw [view_unseat]
  split
  · exact .of_map rfl Outbox.precedes_release
  · exact .of_outbox_eq rfl

theorem records_prefix_put (server : Server) (key : Key) (item : Outgoing) :
    server.records <+: (server.put key item).records := by
  unfold put
  split
  · exact List.prefix_refl _
  · exact List.prefix_append _ _

theorem records_prefix_write (server : Server) (key : Key) :
    server.records <+: (server.write key).records := by
  unfold write
  split
  · exact List.prefix_refl _
  · exact List.prefix_append _ _

theorem records_prefix_relay (server : Server) (key : Key) (event : Event) :
    server.records <+: (server.relay key event).records := by
  have hrecorded : server.records <+: (server.record (.session key event)).records :=
    List.prefix_append _ _
  unfold relay
  dsimp only
  split
  · exact hrecorded.trans (records_prefix_put _ key _)
  · exact hrecorded

theorem records_prefix_act (server : Server) (key : Key) (action : Setting → Scene → Scene) :
    server.records <+: (server.act setup key action).records := by
  have hrelays : ∀ (events : List Event) (server : Server),
      server.records <+: (events.foldl (·.relay key ·) server).records := by
    intro events
    induction events with
    | nil => exact fun _ => List.prefix_refl _
    | cons event events ih =>
      exact fun server => (records_prefix_relay server key event).trans (ih _)
  unfold act
  split
  · exact List.prefix_refl _
  · refine List.IsPrefix.trans ?_ (hrelays _ _)
    exact List.prefix_refl _

/-! What every shift keeps. -/

namespace Shift

theorem precedes (hs : Shift setup server after) (other : Key) :
    (server.view other).Precedes (after.view other) := by
  cases hs with
  | quiet _ hquiet => exact .of_outbox_eq (hquiet.outbox_eq other)
  | shuffled first => exact .of_outbox_eq rfl
  | acted key moves => exact precedes_act _ other
  | removed key moves => exact (precedes_act _ other).trans (precedes_unseat other)
  | wrote key =>
    rw [view_write]
    split
    · exact .of_map rfl Outbox.precedes_run
    · exact .of_outbox_eq rfl

theorem records_prefix (hs : Shift setup server after) : server.records <+: after.records := by
  cases hs with
  | quiet _ hquiet => exact hquiet.records_prefix
  | shuffled first => exact List.prefix_refl _
  | acted key moves => exact records_prefix_act server key _
  | removed key moves => exact records_prefix_act server key _
  | wrote key => exact records_prefix_write server key

theorem ended (hs : Shift setup server after) (hended : server.running = false) :
    after.running = false := by
  have hact : ∀ (key : Key) (action : Setting → Scene → Scene),
      (server.act setup key action).running = false := by
    intro key action
    cases hs : server.seat? key with
    | none => rwa [act_of_none server key setup action hs]
    | some seat =>
      have hview := congrArg View.running (view_act server key key setup action hs)
      rw [if_pos rfl] at hview
      exact hview.trans hended
  cases hs with
  | quiet _ hquiet => exact hquiet.ended hended
  | shuffled first => exact hended
  | acted key moves => exact hact key _
  | removed key moves => exact hact key _
  | wrote key =>
    have hview := congrArg View.running (view_write server key key)
    rw [if_pos rfl] at hview
    exact hview.trans hended

/-- Without sessions nothing happens any more. -/
theorem idle (hs : Shift setup server after) (hseats : server.seats = []) :
    after.seats = [] ∧ after.history = server.history ∧ after.world = server.world := by
  have hact : ∀ (key : Key) (action : Setting → Scene → Scene),
      server.act setup key action = server := by
    intro key action
    refine act_of_none server key setup action ?_
    simp [seat?, hseats]
  cases hs with
  | quiet _ hquiet =>
    exact ⟨hquiet.alike.seats.trans hseats, hquiet.alike.history, hquiet.alike.world⟩
  | shuffled first => exact ⟨by simp [shuffle, hseats], rfl, rfl⟩
  | acted key moves =>
    rw [hact]
    exact ⟨hseats, rfl, rfl⟩
  | removed key moves =>
    rw [hact]
    exact ⟨by simp [unseat, updateConnection, hseats], rfl, rfl⟩
  | wrote key =>
    have hw := alike_write server key
    exact ⟨hw.seats.trans hseats, hw.history, hw.world⟩

end Shift

theorem records_prefix_shifts (hs : Shifts setup server after) :
    server.records <+: after.records := by
  induction hs with
  | refl => exact List.prefix_refl _
  | tail _ hshift ih => exact ih.trans hshift.records_prefix

theorem ended_shifts (hs : Shifts setup server after) (hended : server.running = false) :
    after.running = false := by
  induction hs with
  | refl => exact hended
  | tail _ hshift ih => exact hshift.ended ih

theorem history_prefix_shifts (hs : Shifts setup server after) :
    server.history <+: after.history := (records_prefix_shifts hs).filterMap _

theorem records_prefix_perform (server : Server) (setup : Setup) (step : Step) :
    server.records <+: (server.perform setup step).records := by
  rcases perform_cases step with hs | ⟨address, sink, -, -, -, he⟩
  · exact records_prefix_shifts hs
  · rw [he]
    exact List.prefix_append _ _

theorem records_prefix_runSteps (server : Server) (setup : Setup) (steps : List Step) :
    server.records <+: (server.runSteps setup steps).records := by
  induction steps generalizing server with
  | nil => exact List.prefix_refl _
  | cons step steps ih => exact (records_prefix_perform server setup step).trans (ih _)

theorem running_of_perform {step : Step} (h : (server.perform setup step).running) :
    server.running := by
  cases hrunning : server.running with
  | true => rfl
  | false =>
    have hended : (server.perform setup step).running = false := by
      rcases perform_cases step with hs | ⟨address, sink, -, hopen, -, -⟩
      · exact ended_shifts hs hrunning
      · cases hrunning.symm.trans hopen
    cases hended.symm.trans h

theorem running_of_runSteps {steps : List Step} (h : (server.runSteps setup steps).running) :
    server.running := by
  induction steps generalizing server with
  | nil => exact h
  | cons step steps ih => exact running_of_perform (ih h)

theorem precedes_perform (setup : Setup) (step : Step) (key : Key) :
    (server.view key).Precedes ((server.perform setup step).view key) := by
  have hshifts : ∀ {after}, Shifts setup server after →
      (server.view key).Precedes (after.view key) := by
    intro after hs
    induction hs with
    | refl => exact .of_outbox_eq rfl
    | tail _ hshift ih => exact ih.trans (hshift.precedes key)
  rcases perform_cases step with hs | ⟨address, sink, -, -, -, he⟩
  · exact hshifts hs
  · intro outbox ho
    obtain ⟨connection, hc, rfl⟩ := Option.map_eq_some_iff.mp ho
    have hfound : (server.perform setup step).connection? key = some connection := by
      have hold : server.connections.find? (·.key == key) = some connection := hc
      rw [he]
      simp [connection?, install, note, record, hold]
    exact ⟨connection.outbox, congrArg (Option.map Connection.outbox) hfound, .refl _⟩

theorem precedes_runSteps (setup : Setup) (steps : List Step) (key : Key) :
    (server.view key).Precedes ((server.runSteps setup steps).view key) := by
  induction steps generalizing server with
  | nil => exact .of_outbox_eq rfl
  | cons step steps ih => exact (precedes_perform setup step key).trans ih

/-- The loop has ended, and no session is left. -/
structure Over (server : Server) : Prop where
  running_eq : server.running = false
  seats_eq : server.seats = []

theorem Over.shifts (h : server.Over) (hs : Shifts setup server after) :
    after.Over ∧ after.history = server.history ∧ after.world = server.world := by
  induction hs with
  | refl => exact ⟨h, rfl, rfl⟩
  | tail _ hshift ih =>
    obtain ⟨hover, hhistory, hworld⟩ := ih
    obtain ⟨hseats, hhistory', hworld'⟩ := hshift.idle hover.seats_eq
    exact ⟨⟨hshift.ended hover.running_eq, hseats⟩, hhistory'.trans hhistory,
      hworld'.trans hworld⟩

theorem Over.perform (h : server.Over) (setup : Setup) (step : Step) :
    (server.perform setup step).Over ∧
    (server.perform setup step).history = server.history ∧
    (server.perform setup step).world = server.world := by
  rcases perform_cases step with hs | ⟨address, sink, -, hrunning, -, -⟩
  · exact h.shifts hs
  · cases h.running_eq.symm.trans hrunning

theorem Over.runSteps (h : server.Over) (setup : Setup) (steps : List Step) :
    (server.runSteps setup steps).Over ∧
    (server.runSteps setup steps).history = server.history ∧
    (server.runSteps setup steps).world = server.world := by
  induction steps generalizing server with
  | nil => exact ⟨h, rfl, rfl⟩
  | cons step steps ih =>
    obtain ⟨hover, hhistory, hworld⟩ := h.perform setup step
    obtain ⟨hlast, hhistory', hworld'⟩ := ih hover
    exact ⟨hlast, hhistory'.trans hhistory, hworld'.trans hworld⟩

/-- The session of this key has been taken out of the table. -/
structure Gone (server : Server) (key : Key) : Prop where
  lt : key < server.nextKey
  seat_eq : server.seat? key = none

/-- Nobody else is given the key, and nothing is heard any more of who had it. -/
theorem Gone.shift (h : server.Gone key) (hs : Shift setup server after) :
    after.Gone key ∧ after.story key = server.story key := by
  have hact : ∀ (other : Key) (action : Setting → Scene → Scene),
      (server.act setup other action).view key = server.view key := by
    intro other action
    by_cases hkey : key = other
    · rw [act_of_none server other setup action (hkey ▸ h.seat_eq)]
    · exact view_act_of_ne hkey setup action
  have hkept : ∀ {view : View}, after.view key = view → view.nextKey = server.nextKey →
      view.seat = none → view.story = server.story key →
      after.Gone key ∧ after.story key = server.story key := by
    rintro view rfl hnext hseat hstory
    exact ⟨⟨Nat.lt_of_lt_of_eq h.lt hnext.symm, hseat⟩, hstory⟩
  cases hs with
  | quiet _ hquiet =>
    have hseats : after.seat? key = server.seat? key := by rw [seat?, seat?, hquiet.alike.seats]
    have hstory : after.story key = server.story key := by rw [story, story, hquiet.alike.history]
    exact hkept rfl hquiet.alike.nextKey (hseats.trans h.seat_eq) hstory
  | shuffled first => exact hkept (view_shuffle server key first) rfl h.seat_eq rfl
  | acted other moves => exact hkept (hact other _) rfl h.seat_eq rfl
  | removed other moves =>
    have hview := view_unseat (server.act setup other fun setting scene =>
      scene.run setup.table setting (moves ++ [.dispose true])) other key
    rw [hact other] at hview
    refine hkept hview ?_ ?_ ?_ <;> split <;> first | rfl | exact h.seat_eq
  | wrote other =>
    refine hkept (view_write server other key) ?_ ?_ ?_ <;> split <;> first | rfl | exact h.seat_eq

theorem Gone.perform (h : server.Gone key) (setup : Setup) (step : Step) :
    (server.perform setup step).Gone key ∧
      (server.perform setup step).story key = server.story key := by
  have hshifts : ∀ {after}, Shifts setup server after →
      after.Gone key ∧ after.story key = server.story key := by
    intro after hs
    induction hs with
    | refl => exact ⟨h, rfl⟩
    | tail _ hshift ih =>
      obtain ⟨hgone, hstory⟩ := ih
      obtain ⟨hgone', hstory'⟩ := hgone.shift hshift
      exact ⟨hgone', hstory'.trans hstory⟩
  rcases perform_cases step with hs | ⟨address, sink, -, -, -, he⟩
  · exact hshifts hs
  · obtain ⟨hgone, hstory⟩ := hshifts (quiet_note server (.connected server.nextKey address)).shifts
    rw [he]
    have hview := view_install_of_ne _ key (Nat.ne_of_lt hgone.lt) address sink
    exact ⟨⟨Nat.lt_succ_of_lt hgone.lt, (congrArg View.seat hview).trans hgone.seat_eq⟩,
      (congrArg View.story hview).trans hstory⟩

theorem Gone.runSteps (h : server.Gone key) (setup : Setup) (steps : List Step) :
    (server.runSteps setup steps).Gone key ∧
      (server.runSteps setup steps).story key = server.story key := by
  induction steps generalizing server with
  | nil => exact ⟨h, rfl⟩
  | cons step steps ih =>
    obtain ⟨hgone, hstory⟩ := h.perform setup step
    obtain ⟨hlast, hstory'⟩ := ih hgone
    exact ⟨hlast, hstory'.trans hstory⟩

end Server

end GameServer
