import GameServer.Proofs.Session.Run
import GameServer.Proofs.Session.Turn
import Mathlib.Data.List.Chain

/-! The scenes that a run comes by, and what lies between two of them. A pulse comes by one for each
packet that it takes up, so between two scenes at most one packet is taken up or one keepalive
issued. What each such leg keeps holds wherever the run comes by. -/

namespace GameServer

open Service

/-- Between two scenes, without a keepalive being issued. -/
inductive Pace (setting : Setting) (scene : Scene) : Scene → Prop
  | adjusted (idle : Nat) (inbox : List Packet) :
      Pace setting scene { scene with session := { scene.session with idle, inbox } }
  /-- A packet is taken up, perhaps from the inbox, and perhaps it counts as a word from the client. -/
  | turned (inbox : List Packet) (packet : Packet) (turned : Scene) (idle : Nat)
      (h : Turn setting { scene with session := { scene.session with inbox } } packet turned) :
      Pace setting scene { turned with session := { turned.session with idle } }
  | followed (after : Scene) (mentioned : Prop) (h : scene.Aftermath after mentioned) :
      Pace setting scene after
  | elsewhere (world : World) (policy : Policy) (asked : Nat) :
      Pace setting scene { scene with world, policy, asked }

/-- What lies between two scenes of a course. -/
inductive Leg (setting : Setting) (scene : Scene) : Scene → Prop
  | pace (after : Scene) (h : Pace setting scene after) : Leg setting scene after
  | issued (hsilent : setting.timeoutTicks ≤ scene.session.idle)
      (hnone : scene.session.outstanding = none) : Leg setting scene (scene.issueKeepAlive setting)

namespace Scene

/-- The scenes that the taking up of packets comes by, one for each packet. -/
def drainStages (table : Table) (setting : Setting) : (bound : Nat) → Scene → List Scene
  | 0, _ => []
  | bound + 1, scene =>
    let next := drain table setting 1 scene
    next :: drainStages table setting bound next

/-- The scenes that a move comes by, the last of which is the one that it leads to. -/
def stages (scene : Scene) (table : Table) (setting : Setting) : Move → List Scene
  | .pulse =>
    let bound := scene.session.inbox.length + table.allowance
    scene.ticked :: drainStages table setting bound scene.ticked ++ [scene.pulse table setting]
  | move => [scene.move table setting move]

/-- All scenes that a run comes by. -/
def course (scene : Scene) (table : Table) (setting : Setting) : List Move → List Scene
  | [] => []
  | move :: moves =>
    scene.stages table setting move ++ (scene.move table setting move).course table setting moves

variable {listing : Listing} {setting : Setting} {scene between after : Scene}

theorem pace_refl (scene : Scene) : Pace setting scene scene := .adjusted _ _

theorem pace_dispatch (hp : scene.PlayerInPlay) (packet : Packet) :
    Pace setting scene (scene.dispatch (standard listing) setting packet) :=
  .turned _ packet _ _ (turn_dispatch hp packet)

theorem pace_takeUp (hp : scene.PlayerInPlay) (packet : Packet) (rest : List Packet) :
    Pace setting scene (scene.takeUp (standard listing) setting packet rest) :=
  have hopened : PlayerInPlay { scene with session := { scene.session with inbox := rest } } := hp
  .turned rest packet _ 0 (turn_dispatch hopened packet)

theorem pace_drain_one (hp : scene.PlayerInPlay) :
    Pace setting scene (drain (standard listing) setting 1 scene) := by
  cases hinbox : scene.session.inbox with
  | nil =>
    rw [drain_of_nil hinbox]
    exact pace_refl scene
  | cons packet rest =>
    rw [drain_of_cons hinbox]
    exact pace_takeUp hp packet rest

theorem pace_move (hp : scene.PlayerInPlay) {move : Move} (hpulse : move ≠ .pulse) :
    Pace setting scene (scene.move (standard listing) setting move) := by
  cases move with
  | receive packet =>
    simp only [move, receive]
    split
    · exact pace_dispatch hp packet
    · exact .adjusted _ _
  | queue packet => exact .adjusted _ _
  | pulse => exact absurd rfl hpulse
  | disconnect reason force => exact .followed _ _ (aftermath_disconnectWith scene reason force)
  | dispose tell => exact .followed _ _ (aftermath_dispose scene tell)
  | elsewhere world policy asked => exact .elsewhere world policy asked

theorem leg_checkSilence (scene : Scene) : Leg setting scene (scene.checkSilence setting) := by
  unfold checkSilence
  split
  · exact .pace _ (pace_refl scene)
  · rename_i hsilent
    cases howed : scene.session.outstanding with
    | none => exact .issued (Nat.not_lt.mp hsilent) howed
    | some id =>
      exact .pace _ (.followed _ _ (aftermath_disconnectWith scene timeoutReason false))

theorem playerInPlay_drain (hp : scene.PlayerInPlay) (bound : Nat) :
    (drain (standard listing) setting bound scene).PlayerInPlay :=
  Beats.playerInPlay (beats_drain hp bound) hp

/-! The legs of a course follow upon each other. -/

/-- Scenes that follow upon each other, from a given one up to a given one. -/
structure Way (Stride : Scene → Scene → Prop) (scene : Scene) (stages : List Scene)
    (after : Scene) : Prop where
  strides : (scene :: stages).IsChain Stride
  last : (scene :: stages).getLast? = some after

section

variable {Stride : Scene → Scene → Prop}

theorem Way.append {stages more : List Scene} (h : Way Stride scene stages between)
    (h' : Way Stride between more after) : Way Stride scene (stages ++ more) after := by
  obtain ⟨hstrides, hlast⟩ := h
  obtain ⟨hstrides', hlast'⟩ := h'
  constructor
  case strides =>
    rw [← List.cons_append]
    refine List.isChain_append.mpr ⟨hstrides, hstrides'.tail, ?_⟩
    intro last hl next hn
    obtain rfl := Option.some.inj (hlast.symm.trans hl)
    cases more with
    | nil => cases hn
    | cons first more =>
      obtain rfl := Option.some.inj hn
      exact (List.isChain_cons_cons.mp hstrides').1
  case last =>
    cases more with
    | nil =>
      have hsame : between = after := Option.some.inj hlast'
      rw [List.append_nil, hlast, hsame]
    | cons first more =>
      rw [List.getLast?_cons_cons] at hlast'
      rw [← List.cons_append, List.getLast?_append, hlast', Option.some_or]

theorem Way.nil (scene : Scene) : Way Stride scene [] scene := ⟨List.isChain_singleton _, rfl⟩

theorem Way.single (h : Stride scene after) : Way Stride scene [after] after :=
  ⟨List.isChain_pair.mpr h, rfl⟩

theorem Way.imp {Stride' : Scene → Scene → Prop} {stages : List Scene}
    (h : Way Stride scene stages after)
    (himp : ∀ {scene after}, Stride scene after → Stride' scene after) :
    Way Stride' scene stages after :=
  ⟨h.strides.imp fun _ _ => himp, h.last⟩

theorem Way.preserves {P : Scene → Prop} {stages : List Scene} (h : Way Stride scene stages after)
    (hstride : ∀ {scene after}, Stride scene after → P scene → P after) (hs : P scene) :
    ∀ stage ∈ scene :: stages, P stage := by
  obtain ⟨hstrides, -⟩ := h
  induction stages generalizing scene with
  | nil => simpa using hs
  | cons next stages ih =>
    obtain ⟨hfirst, hrest⟩ := List.isChain_cons_cons.mp hstrides
    exact List.forall_mem_cons.mpr ⟨hs, ih (hstride hfirst hs) hrest⟩

end

theorem way_drainStages (hp : scene.PlayerInPlay) (bound : Nat) :
    Way (Pace setting) scene (drainStages (standard listing) setting bound scene)
      (drain (standard listing) setting bound scene) := by
  induction bound generalizing scene with
  | zero => exact .nil scene
  | succ bound ih =>
    have hfirst : Pace setting scene (drain (standard listing) setting 1 scene) := pace_drain_one hp
    have hrest : drain (standard listing) setting (bound + 1) scene =
        drain (standard listing) setting bound (drain (standard listing) setting 1 scene) := by
      rw [Nat.add_comm, drain_add]
    rw [hrest]
    exact (Way.single hfirst).append (ih (playerInPlay_drain hp 1))

/-- A pulse up to where it looks how long the client has been silent. -/
theorem way_drained (hp : scene.PlayerInPlay) :
    Way (Pace setting) scene
      (scene.ticked :: drainStages (standard listing) setting
        (scene.session.inbox.length + (standard listing).allowance) scene.ticked)
      (scene.drained (standard listing) setting) := by
  have hticked : Pace setting scene scene.ticked := .adjusted _ _
  have hpticked : scene.ticked.PlayerInPlay := hp
  exact (Way.single hticked).append (way_drainStages hpticked _)

theorem way_stages (hp : scene.PlayerInPlay) (move : Move) :
    Way (Leg setting) scene (scene.stages (standard listing) setting move)
      (scene.move (standard listing) setting move) := by
  by_cases hpulse : move = .pulse
  · subst hpulse
    have hdrained : Way (Leg setting) scene _ (scene.drained (standard listing) setting) :=
      (way_drained hp).imp (.pace _)
    exact hdrained.append (.single (leg_checkSilence _))
  · have hmoved : Leg setting scene (scene.move (standard listing) setting move) :=
      .pace _ (pace_move hp hpulse)
    cases move with
    | pulse => exact absurd rfl hpulse
    | _ => exact .single hmoved

theorem way_course (hp : scene.PlayerInPlay) (moves : List Move) :
    Way (Leg setting) scene (scene.course (standard listing) setting moves)
      (scene.run (standard listing) setting moves) := by
  induction moves generalizing scene with
  | nil => exact .nil scene
  | cons move moves ih => exact (way_stages hp move).append (ih (playerInPlay_move hp move))

end Scene
end GameServer
