import GameServer.Proofs.Session.Line
import GameServer.Server.Config

/-! Realizing every dialogue in a run of a session with the usual handlers. A client asks, or
answers keepalives, as often as the dialogue needs, over a line that loses nothing. -/

namespace GameServer

open Service Outbox

namespace Scene

/-- Nothing waits, and nobody has been silent. -/
structure Settled (scene : Scene) (phase : Phase) : Prop where
  phase_eq : scene.session.phase = phase
  inbox_eq : scene.session.inbox = []
  idle_eq : scene.session.idle = 0
  outstanding_eq : scene.session.outstanding = none

def brisk : Setting :=
  { address := none, timeoutTicks := 1, drawn := fun _ => default, token := 0 }

variable (listing : Listing) {scene : Scene} {phase : Phase}

/-- The scene in which a packet that has waited for a tick is taken up. -/
def woken (scene : Scene) : Scene := { scene with session := { scene.session with idle := 1 } }

theorem Settled.run_queue_pulse (h : scene.Settled phase) (packet : Packet) :
    scene.run (standard listing) brisk [.queue packet, .pulse] =
      let taken := scene.woken.dispatch (standard listing) brisk packet
      { taken with session := { taken.session with idle := 0 } } := by
  obtain ⟨⟨now, idle, outstanding, issued, player, placement, inbox⟩, world, policy, asked,
    trace⟩ := scene
  obtain ⟨rfl, rfl, rfl, rfl⟩ := h
  rfl

theorem Settled.run_status (h : scene.Settled .status) :
    let after := scene.run (standard listing) brisk [.queue .statusRequest, .pulse]
    after.Settled .status ∧ after.session.player = scene.session.player ∧
      after.world = scene.world ∧ after.outgoing = scene.outgoing ++
        [.packet (.statusResponse (listing.json scene.world.online).render)] := by
  intro after
  have hphase : scene.woken.session.phase = .status := h.phase_eq
  have hafter : after = _ := h.run_queue_pulse listing .statusRequest
  simp only [dispatch_standard, hphase] at hafter
  have htrace : after.trace = scene.trace ++ [.took .status .statusRequest,
      .write (.statusResponse (listing.json scene.world.online).render)] := by
    rw [hafter]
    exact List.append_assoc _ _ _
  refine ⟨?_, ?_, ?_, outgoing_of_trace htrace⟩
  · rw [hafter]
    exact ⟨hphase, h.inbox_eq, rfl, h.outstanding_eq⟩
  · rw [hafter]
    rfl
  · rw [hafter]
    rfl

theorem Settled.run_ping (h : scene.Settled .status) (hnone : scene.session.player = none) :
    (scene.run (standard listing) brisk [.queue (.ping 0), .pulse]).outgoing =
      scene.outgoing ++ [.packet (.ping 0), .close] := by
  have hphase : scene.woken.session.phase = .status := h.phase_eq
  have htrace : (scene.run (standard listing) brisk [.queue (.ping 0), .pulse]).trace =
      scene.trace ++ [.took .status (.ping 0), .write (.ping 0), .close] := by
    rw [h.run_queue_pulse listing (.ping 0)]
    simp only [dispatch_standard, hphase]
    simp [ping, send, record, woken, disconnect, disconnectWith, hnone, sendAway, h.phase_eq,
      Phase.hasFarewell]
  exact outgoing_of_trace htrace

theorem Settled.session_run_probe (h : scene.Settled .play) :
    (scene.run (standard listing) brisk [.pulse, .queue (.keepAlive 1), .pulse]).session =
      { scene.session with issued := scene.session.issued + 1 } := by
  obtain ⟨⟨phase, idle, outstanding, issued, player, placement, inbox⟩, world, policy, asked,
    trace⟩ := scene
  obtain ⟨rfl, rfl, rfl, rfl⟩ := h
  rfl

theorem Settled.trace_run_probe (h : scene.Settled .play) :
    (scene.run (standard listing) brisk [.pulse, .queue (.keepAlive 1), .pulse]).trace =
      scene.trace ++ [.log (.keepAliveIssued 1 brisk.who)] ++ [.write (.keepAlive 1)] ++
        [.took .play (.keepAlive 1)] := by
  obtain ⟨⟨phase, idle, outstanding, issued, player, placement, inbox⟩, world, policy, asked,
    trace⟩ := scene
  obtain ⟨rfl, rfl, rfl, rfl⟩ := h
  rfl

theorem Settled.run_probe (h : scene.Settled .play) :
    let after := scene.run (standard listing) brisk [.pulse, .queue (.keepAlive 1), .pulse]
    after.Settled .play ∧ after.outgoing = scene.outgoing ++ [.packet (.keepAlive 1)] := by
  intro after
  have hsession : after.session = _ := h.session_run_probe listing
  have htrace : after.trace = _ := h.trace_run_probe listing
  constructor
  · constructor
    case phase_eq => rw [hsession, h.phase_eq]
    case inbox_eq => rw [hsession, h.inbox_eq]
    case idle_eq => rw [hsession, h.idle_eq]
    case outstanding_eq => rw [hsession, h.outstanding_eq]
  · rw [List.append_assoc, List.append_assoc] at htrace
    exact outgoing_of_trace htrace

def asks (count : Nat) : List Move :=
  (List.replicate count [.queue .statusRequest, .pulse]).flatten

theorem Settled.run_asks (h : scene.Settled .status) (count : Nat) :
    let after := scene.run (standard listing) brisk (asks count)
    after.Settled .status ∧ after.session.player = scene.session.player ∧
      after.outgoing = scene.outgoing ++ (List.replicate count
        (.statusResponse (listing.json scene.world.online).render)).map .packet := by
  induction count generalizing scene with
  | zero => exact ⟨h, rfl, (List.append_nil _).symm⟩
  | succ count ih =>
    intro after
    obtain ⟨hs, hp, hw, ho⟩ := h.run_status listing
    obtain ⟨hsettled, hplayer, hout⟩ := ih hs
    have hafter : after = (scene.run (standard listing) brisk [.queue .statusRequest, .pulse]).run
        (standard listing) brisk (asks count) := by
      rw [← run_append]
      rfl
    rw [← hafter] at hsettled hplayer hout
    refine ⟨hsettled, hplayer.trans hp, ?_⟩
    rw [hout, ho, hw, List.replicate_succ, List.map_cons, List.append_assoc]
    rfl

def probes (count : Nat) : List Move :=
  (List.replicate count [.pulse, .queue (.keepAlive 1), .pulse]).flatten

theorem Settled.run_probes (h : scene.Settled .play) (count : Nat) :
    let after := scene.run (standard listing) brisk (probes count)
    after.Settled .play ∧
      after.outgoing = scene.outgoing ++ (List.replicate count (.keepAlive 1)).map .packet := by
  induction count generalizing scene with
  | zero => exact ⟨h, (List.append_nil _).symm⟩
  | succ count ih =>
    intro after
    obtain ⟨hs, ho⟩ := h.run_probe listing
    obtain ⟨hsettled, hout⟩ := ih hs
    have hafter : after = (scene.run (standard listing) brisk
        [.pulse, .queue (.keepAlive 1), .pulse]).run (standard listing) brisk (probes count) := by
      rw [← run_append]
      rfl
    rw [← hafter] at hsettled hout
    refine ⟨hsettled, ?_⟩
    rw [hout, ho, List.replicate_succ, List.map_cons, List.append_assoc]
    rfl

/-- A client that has shaken hands. -/
def visitor (next : Phase) : Scene :=
  (begin (World.create "world") .console 0).run (standard .default) brisk
    [.receive (.handshake protocolVersion "localhost" 25565 next)]

/-- A client that has logged in. -/
def resident : Scene :=
  (visitor .login).run (standard .default) brisk [.queue (.loginStart "Alice"), .pulse]

theorem settled_visitor : (visitor .status).Settled .status := ⟨rfl, rfl, rfl, rfl⟩

theorem settled_resident : resident.Settled .play := ⟨by decide, by decide, by decide, by decide⟩

theorem outgoing_resident : resident.outgoing = [.packet (.loginSuccess "Alice")] := by decide

theorem Settled.outgoing_run_disconnect (h : scene.Settled .play) (reason : String) :
    (scene.run (standard listing) brisk [.disconnect reason true]).outgoing =
      scene.outgoing ++ [.packet (.farewell reason), .close] := by
  have htrace : (scene.run (standard listing) brisk [.disconnect reason true]).trace =
      scene.trace ++ parting scene.session.phase reason :=
    congrArg Scene.trace (sendAway_eq scene reason)
  rw [h.phase_eq] at htrace
  exact outgoing_of_trace htrace

/-- Some run of the usual handlers leads to the scene. -/
def Reached (scene : Scene) : Prop :=
  ∃ moves, (begin (World.create "world") .console 0).run (standard .default) brisk moves = scene

theorem Reached.run (h : scene.Reached) (moves : List Move) :
    (scene.run (standard .default) brisk moves).Reached := by
  obtain ⟨before, rfl⟩ := h
  exact ⟨before ++ moves, run_append _ _ before moves⟩

theorem reached_visitor (next : Phase) : (visitor next).Reached := ⟨_, rfl⟩

theorem reached_resident : resident.Reached := (reached_visitor .login).run _

/-- What is said in some run before its first closing, and has frames. -/
def Said (packets : List Packet) : Prop :=
  (∃ scene : Scene, scene.Reached ∧ beforeClose scene.outgoing = packets) ∧
    ∀ packet ∈ packets, packet.body.length ≤ Frame.maxLength

def report : Packet :=
  .statusResponse (Listing.json .default (visitor .status).world.online).render

theorem length_report : report.body.length ≤ Frame.maxLength := by decide +kernel

theorem said_listed (count : Nat) : Said (List.replicate count report) := by
  obtain ⟨-, -, ho⟩ := settled_visitor.run_asks .default count
  have hreached := (reached_visitor .status).run (asks count)
  have hsaid : beforeClose ((visitor .status).run (standard .default) brisk (asks count)).outgoing =
      List.replicate count report := by
    rw [ho]
    exact beforeClose_packets _
  refine ⟨⟨_, hreached, hsaid⟩, ?_⟩
  intro packet hm
  rw [List.eq_of_mem_replicate hm]
  exact length_report

theorem said_echoed (count : Nat) : Said (List.replicate count report ++ [.ping 0]) := by
  obtain ⟨hsettled, hplayer, ho⟩ := settled_visitor.run_asks .default count
  have hreached := ((reached_visitor .status).run (asks count)).run [.queue (.ping 0), .pulse]
  have hping := hsettled.run_ping .default hplayer
  rw [ho] at hping
  refine ⟨⟨_, hreached, (congrArg beforeClose hping).trans (beforeClose_packets_append _ _)⟩, ?_⟩
  intro packet hm
  rcases List.mem_append.mp hm with hm | hm
  · rw [List.eq_of_mem_replicate hm]
    exact length_report
  · rw [List.mem_singleton.mp hm]
    decide

theorem said_kicked : Said [.farewell ""] := by
  have hreached := (reached_visitor .login).run [.disconnect "" true]
  have ho : ((visitor .login).run (standard .default) brisk [.disconnect "" true]).outgoing =
      [.packet (.farewell ""), .close] := by decide
  refine ⟨⟨_, hreached, congrArg beforeClose ho⟩, ?_⟩
  decide

theorem said_played (count : Nat) :
    Said (.loginSuccess "Alice" :: List.replicate count (.keepAlive 1)) := by
  obtain ⟨-, ho⟩ := settled_resident.run_probes .default count
  have hreached := reached_resident.run (probes count)
  rw [outgoing_resident] at ho
  refine ⟨⟨_, hreached, (congrArg beforeClose ho).trans (beforeClose_packets (_ :: _))⟩, ?_⟩
  intro packet hm
  rcases List.mem_cons.mp hm with rfl | hm
  · decide
  · rw [List.eq_of_mem_replicate hm]
    decide

theorem said_expelled (count : Nat) :
    Said (.loginSuccess "Alice" :: List.replicate count (.keepAlive 1) ++ [.farewell ""]) := by
  obtain ⟨hsettled, ho⟩ := settled_resident.run_probes .default count
  have hreached := (reached_resident.run (probes count)).run [.disconnect "" true]
  have hkick := hsettled.outgoing_run_disconnect .default ""
  rw [ho, outgoing_resident] at hkick
  refine ⟨⟨_, hreached, (congrArg beforeClose hkick).trans
    (beforeClose_packets_append (_ :: _) _)⟩, ?_⟩
  intro packet hm
  rcases List.mem_append.mp hm with hm | hm
  · rcases List.mem_cons.mp hm with rfl | hm
    · decide
    · rw [List.eq_of_mem_replicate hm]
      decide
  · rw [List.mem_singleton.mp hm]
    decide

end Scene

open Scene

theorem map_kind_replicate {α : Type} (items : List α) {speak : α → Packet} {packet : Packet}
    (h : ∀ item, (speak item).kind = packet.kind) :
    (List.replicate items.length packet).map Packet.kind = (items.map speak).map Packet.kind := by
  induction items with
  | nil => rfl
  | cons item items ih =>
    rw [List.length_cons, List.replicate_succ, List.map_cons, List.map_cons, List.map_cons, ih, h]

theorem Dialogue.exists_said {packets : List Packet} (hd : Dialogue packets) :
    ∃ said, Said said ∧ said.map Packet.kind = packets.map Packet.kind := by
  have hreports : ∀ jsons : List String, (List.replicate jsons.length report).map Packet.kind =
      (jsons.map .statusResponse).map Packet.kind := fun jsons => map_kind_replicate jsons fun _ => rfl
  have hprobes : ∀ ids : List Int32, (List.replicate ids.length (.keepAlive 1)).map Packet.kind =
      (ids.map .keepAlive).map Packet.kind := fun ids => map_kind_replicate ids fun _ => rfl
  cases hd with
  | listed jsons => exact ⟨_, said_listed jsons.length, hreports jsons⟩
  | echoed jsons time =>
    refine ⟨_, said_echoed jsons.length, ?_⟩
    rw [List.map_append, List.map_append, hreports]
    rfl
  | kicked json => exact ⟨_, said_kicked, rfl⟩
  | played name ids =>
    refine ⟨_, said_played ids.length, ?_⟩
    rw [List.map_cons, List.map_cons, hprobes]
    rfl
  | expelled name ids json =>
    refine ⟨_, said_expelled ids.length, ?_⟩
    simp only [List.map_append, List.map_cons, hprobes]
    rfl

theorem Scene.Said.exists_received {packets : List Packet} (h : Said packets) :
    ∃ steps, ((Line.begin (World.create "world") .console 0 "" .unlimited).run (standard .default)
      brisk steps).outbox.received = packets := by
  obtain ⟨⟨scene, ⟨moves, rfl⟩, ho⟩, hs⟩ := h
  have hframes : ∀ packet ∈ beforeClose
      ((begin (World.create "world") .console 0).run (standard .default) brisk moves).outgoing,
        ∃ frame, packet.frame = .ok frame := by
    intro packet hm
    rw [ho] at hm
    exact Packet.exists_frame_iff.mpr (hs packet hm)
  obtain ⟨steps, hr⟩ := Line.exists_received (World.create "world") .console 0 "" moves hframes
  exact ⟨steps, hr.trans ho⟩

/-- What clients come to hear are the dialogues and nothing else, whatever a client sends, whatever
else happens to its session and whenever the writer runs. So a kick or the echo of a ping is the
last that it hears, it is let in once at most, and no keepalive comes before that. -/
theorem Line.dialogue_received :
    (∀ (listing : Listing) (setting : Setting) (world : World) (policy : Policy) (asked : Nat)
      (address : String) (sink : Sink) (steps : List Step),
      let line := (begin world policy asked address sink).run (standard listing) setting steps
      Dialogue line.outbox.received ∧
        (∀ packet ∈ line.outbox.received.dropLast, packet.kind ≠ .kick ∧ packet.kind ≠ .ping) ∧
        line.outbox.received.countP (· matches .loginSuccess _) ≤ 1 ∧
        (∀ id, .keepAlive id ∈ line.outbox.received →
          ∃ name, line.outbox.received.head? = some (.loginSuccess name))) ∧
    ∀ kinds : List Kind, (∃ packets, Dialogue packets ∧ packets.map Packet.kind = kinds) ↔
      ∃ (listing : Listing) (setting : Setting) (world : World) (policy : Policy) (asked : Nat)
        (address : String) (sink : Sink) (steps : List Step),
        ((begin world policy asked address sink).run (standard listing) setting
          steps).outbox.received.map Packet.kind = kinds := by
  have hdialogue : ∀ (listing : Listing) (setting : Setting) (world : World) (policy : Policy)
      (asked : Nat) (address : String) (sink : Sink) (steps : List Step), Dialogue
        ((begin world policy asked address sink).run (standard listing) setting
          steps).outbox.received := by
    intro listing setting world policy asked address sink steps
    exact ((sound_begin world policy asked address sink).run steps).dialogue
  constructor
  · intro listing setting world policy asked address sink steps line
    have hd : Dialogue line.outbox.received :=
      hdialogue listing setting world policy asked address sink steps
    exact ⟨hd, hd.last, hd.once, hd.first⟩
  · intro kinds
    constructor
    · rintro ⟨packets, hd, rfl⟩
      obtain ⟨said, hs, hk⟩ := hd.exists_said
      obtain ⟨steps, hr⟩ := hs.exists_received
      exact ⟨_, _, _, _, _, _, _, steps, (congrArg (List.map Packet.kind) hr).trans hk⟩
    · rintro ⟨listing, setting, world, policy, asked, address, sink, steps, rfl⟩
      exact ⟨_, hdialogue listing setting world policy asked address sink steps, rfl⟩

end GameServer
