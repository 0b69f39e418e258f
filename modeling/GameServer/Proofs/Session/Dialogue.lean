import GameServer.Proofs.Outbox.Delivery
import GameServer.Proofs.Session.Run

/-! What a session says to its client, up to the first closing. What it says after that the client
never hears. -/

namespace GameServer

open Service Outbox

/-- What a client may come to hear from first to last. -/
inductive Dialogue : List Packet → Prop
  | listed (jsons : List String) : Dialogue (jsons.map .statusResponse)
  | echoed (jsons : List String) (time : Int64) :
      Dialogue (jsons.map .statusResponse ++ [.ping time])
  | kicked (json : String) : Dialogue [.kick json]
  | played (name : String) (ids : List Int32) :
      Dialogue (.loginSuccess name :: ids.map .keepAlive)
  | expelled (name : String) (ids : List Int32) (json : String) :
      Dialogue (.loginSuccess name :: (ids.map .keepAlive ++ [.kick json]))

/-- What a client in this phase has heard, if it has not been sent away. -/
def Phase.Heard : Phase → List Packet → Prop
  | .handshake, packets | .login, packets => packets = []
  | .status, packets => ∃ jsons : List String, packets = jsons.map .statusResponse
  | .play, packets => ∃ (name : String) (ids : List Int32),
      packets = .loginSuccess name :: ids.map .keepAlive

theorem Phase.Heard.dialogue {phase : Phase} {packets : List Packet} (h : phase.Heard packets) :
    Dialogue packets := by
  cases phase with
  | handshake => exact h ▸ .listed []
  | login => exact h ▸ .listed []
  | status =>
    obtain ⟨jsons, rfl⟩ := h
    exact .listed jsons
  | play =>
    obtain ⟨name, ids, rfl⟩ := h
    exact .played name ids

namespace Dialogue

theorem of_prefix_listed {jsons : List String} {packets : List Packet}
    (h : packets <+: jsons.map .statusResponse) : Dialogue packets := by
  rw [List.prefix_iff_eq_take.mp h, ← List.map_take]
  exact .listed _

theorem of_prefix_played {name : String} {ids : List Int32} {packets : List Packet}
    (h : packets <+: .loginSuccess name :: ids.map .keepAlive) : Dialogue packets := by
  rcases List.prefix_cons_iff.mp h with rfl | ⟨rest, rfl, hr⟩
  · exact .listed []
  · rw [List.prefix_iff_eq_take.mp hr, ← List.map_take]
    exact .played name _

theorem of_prefix {packets whole : List Packet} (hd : Dialogue whole) (h : packets <+: whole) :
    Dialogue packets := by
  cases hd with
  | listed => exact of_prefix_listed h
  | echoed jsons time =>
    rcases List.prefix_concat_iff.mp h with rfl | h
    · exact .echoed jsons time
    · exact of_prefix_listed h
  | kicked json =>
    rcases List.prefix_cons_iff.mp h with rfl | ⟨rest, rfl, hr⟩
    · exact .listed []
    · exact List.prefix_nil.mp hr ▸ .kicked json
  | played => exact of_prefix_played h
  | expelled name ids json =>
    rw [← List.cons_append] at h
    rcases List.prefix_concat_iff.mp h with rfl | h
    · exact .expelled name ids json
    · exact of_prefix_played h

theorem kind_of_listed {jsons : List String} {packet : Packet}
    (h : packet ∈ jsons.map .statusResponse) : packet.kind = .statusResponse := by
  obtain ⟨json, -, rfl⟩ := List.mem_map.mp h
  rfl

theorem kind_of_kept {ids : List Int32} {packet : Packet} (h : packet ∈ ids.map .keepAlive) :
    packet.kind = .keepAlive := by
  obtain ⟨id, -, rfl⟩ := List.mem_map.mp h
  rfl

theorem last {packets : List Packet} (hd : Dialogue packets) :
    ∀ packet ∈ packets.dropLast, packet.kind ≠ .kick ∧ packet.kind ≠ .ping := by
  have hplayed : ∀ (name : String) (ids : List Int32) (packet : Packet),
      packet ∈ .loginSuccess name :: ids.map .keepAlive →
        packet.kind ≠ .kick ∧ packet.kind ≠ .ping := by
    intro name ids packet hm
    rcases List.mem_cons.mp hm with rfl | hm
    · simp [Packet.kind]
    · simp [kind_of_kept hm]
  intro packet hm
  cases hd with
  | listed => simp [kind_of_listed (List.dropLast_subset _ hm)]
  | echoed =>
    rw [List.dropLast_concat] at hm
    simp [kind_of_listed hm]
  | kicked => cases hm
  | played name ids => exact hplayed name ids packet (List.dropLast_subset _ hm)
  | expelled name ids json =>
    rw [← List.cons_append, List.dropLast_concat] at hm
    exact hplayed name ids packet hm

theorem once {packets : List Packet} (hd : Dialogue packets) :
    packets.countP (· matches .loginSuccess _) ≤ 1 := by
  cases hd <;> simp [Function.comp_def]

theorem first {packets : List Packet} (hd : Dialogue packets) :
    ∀ id, .keepAlive id ∈ packets → ∃ name, packets.head? = some (.loginSuccess name) := by
  intro id hid
  cases hd with
  | listed => simp at hid
  | echoed => simp at hid
  | kicked => simp at hid
  | played name => exact ⟨name, rfl⟩
  | expelled name => exact ⟨name, rfl⟩

end Dialogue

/-- The client has heard what fits the phase, and if it has been sent away, it has heard all that
it will ever hear. -/
structure Orderly (phase : Phase) (items : List Outgoing) : Prop where
  heard : .close ∉ items → phase.Heard (beforeClose items)
  dialogue : Dialogue (beforeClose items)

namespace Orderly

variable {phase next : Phase} {items : List Outgoing}

theorem of_heard (h : phase.Heard (beforeClose items)) : Orderly phase items :=
  ⟨fun _ => h, h.dialogue⟩

theorem advance (h : Orderly phase items)
    (hn : phase.Heard (beforeClose items) → next.Heard (beforeClose items)) :
    Orderly next items :=
  ⟨fun hc => hn (h.heard hc), h.dialogue⟩

theorem say (h : Orderly phase items) (packet : Packet)
    (hn : ∀ packets, phase.Heard packets → next.Heard (packets ++ [packet])) :
    Orderly next (items ++ [.packet packet]) := by
  have hb := beforeClose_append items [.packet packet]
  by_cases hc : .close ∈ items
  · rw [if_pos hc, List.append_nil] at hb
    exact ⟨fun hn => absurd (List.mem_append_left _ hc) hn, hb ▸ h.dialogue⟩
  · rw [if_neg hc] at hb
    exact of_heard (hb ▸ hn _ (h.heard hc))

theorem leave (h : Orderly phase items) (last : List Packet)
    (hn : ∀ packets, phase.Heard packets → Dialogue (packets ++ last)) :
    Orderly next (items ++ (last.map .packet ++ [.close])) := by
  refine ⟨fun hc => absurd (by simp) hc, ?_⟩
  have hl : beforeClose (last.map .packet ++ [.close]) = last := by
    simp [beforeClose_append, beforeClose_packets, beforeClose]
  rw [beforeClose_append]
  split
  · rw [List.append_nil]
    exact h.dialogue
  · rename_i hc
    rw [hl]
    exact hn _ (h.heard hc)

end Orderly

namespace Scene

def outgoing (scene : Scene) : List Outgoing := scene.trace.filterMap Event.outgoing?

theorem outgoing_of_trace {scene after : Scene} {new : List Event}
    (h : after.trace = scene.trace ++ new) :
    after.outgoing = scene.outgoing ++ new.filterMap Event.outgoing? := by
  rw [outgoing, h, List.filterMap_append, outgoing]

theorem trace_record (scene : Scene) (event : Event) :
    (scene.record event).trace = scene.trace ++ [event] := rfl

theorem outgoing_send (scene : Scene) (packet : Packet) :
    (scene.send packet).outgoing = scene.outgoing ++ [.packet packet] := by
  simp [outgoing, send, record, Event.outgoing?]

theorem outgoing_silent {scene after : Scene} {new : List Event}
    (h : after.trace = scene.trace ++ new) (hn : new.filterMap Event.outgoing? = []) :
    after.outgoing = scene.outgoing := by
  rw [outgoing_of_trace h, hn, List.append_nil]

end Scene

open Scene

variable {listing : Listing} {setting : Setting}

theorem Orderly.sendAway {scene : Scene} (ho : Orderly scene.session.phase scene.outgoing)
    (reason : String) :
    Orderly (scene.sendAway reason).session.phase (scene.sendAway reason).outgoing := by
  have ht : (scene.sendAway reason).trace = scene.trace ++ parting scene.session.phase reason :=
    congrArg Scene.trace (sendAway_eq scene reason)
  rw [outgoing_of_trace ht, congrArg (·.session.phase) (sendAway_eq scene reason)]
  cases hphase : scene.session.phase with
  | handshake =>
    refine ho.leave [] fun packets hh => ?_
    obtain rfl : packets = [] := by rwa [hphase] at hh
    exact .listed []
  | status =>
    refine ho.leave [] fun packets hh => ?_
    rw [hphase] at hh
    obtain ⟨jsons, rfl⟩ := hh
    exact List.append_nil _ ▸ .listed jsons
  | login =>
    refine ho.leave [.farewell reason] fun packets hh => ?_
    obtain rfl : packets = [] := by rwa [hphase] at hh
    exact .kicked _
  | play =>
    refine ho.leave [.farewell reason] fun packets hh => ?_
    rw [hphase] at hh
    obtain ⟨name, ids, rfl⟩ := hh
    exact .expelled name ids _

theorem Beat.orderly {scene after : Scene} (h : Beat listing setting scene after)
    (ho : Orderly scene.session.phase scene.outgoing) :
    Orderly after.session.phase after.outgoing := by
  have hsilent : ∀ event : Event, event.outgoing? = none →
      Orderly scene.session.phase (scene.record event).outgoing := by
    intro event he
    rw [outgoing_silent (scene.trace_record event) (by simp [he])]
    exact ho
  cases h with
  | noted notice => exact hsilent (.log notice) rfl
  | broadcast text => exact hsilent (.broadcast text) rfl
  | took packet => exact hsilent (.took scene.session.phase packet) rfl
  | kickAsked name reason => exact hsilent (.asked (.kick name reason)) rfl
  | quitAsked name => exact hsilent (.asked (.quit name)) rfl
  | adjusted session hphase => exact hphase ▸ ho
  | opened next hphase hnext =>
    refine ho.advance fun hh => ?_
    rw [hphase] at hh
    rcases hnext with rfl | rfl
    · exact ⟨[], hh⟩
    · exact hh
  | reported hphase =>
    rw [outgoing_send]
    refine ho.say _ fun packets hh => ?_
    simp only [send, record, hphase] at hh ⊢
    obtain ⟨jsons, rfl⟩ := hh
    exact ⟨jsons ++ [(listing.json scene.world.online).render], by simp⟩
  | echoed time hphase =>
    rw [outgoing_of_trace (List.append_assoc _ _ _)]
    refine ho.leave [.ping time] fun packets hh => ?_
    rw [hphase] at hh
    obtain ⟨jsons, rfl⟩ := hh
    exact .echoed jsons time
  | probed id hphase =>
    rw [outgoing_send]
    refine ho.say _ fun packets hh => ?_
    simp only [send, record, hphase] at hh ⊢
    obtain ⟨name, ids, rfl⟩ := hh
    exact ⟨name, ids ++ [id.val], by simp⟩
  | parted player =>
    obtain ⟨notices, ht⟩ :=
      trace_leaveWorld { scene with session := { scene.session with player := none } } player
    rw [outgoing_silent ht (by simp [Event.outgoing?]), session_leaveWorld]
    exact ho
  | sentAway reason => exact ho.sendAway reason
  | refused name _ h =>
    rw [outgoing_of_trace (trace_host scene setting name)]
    refine ho.say (.loginSuccess name) fun packets hh => ?_
    obtain rfl : packets = [] := by rwa [h.1] at hh
    exact ⟨name, [], rfl⟩
  | admitted name h =>
    obtain ⟨notices, ht⟩ := trace_admitted scene setting name
    have hn : scene.outgoing ++ [.packet (.loginSuccess name)] =
        (((scene.host setting name).enterWorld (scene.newcomer name)).ask (.join name)).outgoing := by
      rw [outgoing_of_trace (ht.trans (List.append_assoc _ _ _))]
      simp only [List.filterMap_append, List.filterMap_cons, Event.outgoing?, List.filterMap_map]
      simp [Event.outgoing?]
    rw [← hn]
    refine ho.say (.loginSuccess name) fun packets hh => ?_
    obtain rfl : packets = [] := by rwa [h.1] at hh
    exact ⟨name, [], rfl⟩

end GameServer
