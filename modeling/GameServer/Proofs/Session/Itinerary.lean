import GameServer.Proofs.Session.Course
import Mathlib.Data.List.Destutter

/-! The way of a session through its phases. It opens into a status query or into a login, a login
leads into play, and there is no way back; only in play is there a player or a placement, and a
session that has parted with its player gets no other. So whatever the handlers have to ask of the
session before they act is granted. -/

namespace GameServer

open Service

namespace Phase

/-- The ways that lead on from a phase, each as far as it goes. -/
def onward : Phase → List (List Phase)
  | .handshake => [[.handshake, .status], [.handshake, .login, .play]]
  | .status => [[.status]]
  | .login => [[.login, .play]]
  | .play => [[.play]]

/-- The players that a session has been given by then, at most. -/
def seats : Phase → Nat
  | .play => 1
  | .handshake | .status | .login => 0

theorem seats_le_one (phase : Phase) : phase.seats ≤ 1 := by
  cases phase <;> decide

theorem eq_play_of_canAdvanceTo {next : Phase} (h : play.canAdvanceTo next) : next = play := by
  cases next with
  | play => rfl
  | _ => cases h

theorem exists_onward_prefix {phase : Phase} {phases : List Phase}
    (h : (phase :: phases).IsChain fun now next => now.canAdvanceTo next) :
    ∃ way ∈ phase.onward, (phase :: phases).destutter (· ≠ ·) <+: way := by
  simp only [List.destutter_cons']
  induction phases generalizing phase with
  | nil => cases phase <;> simp [onward]
  | cons next phases ih =>
    obtain ⟨hnext, hrest⟩ := List.isChain_cons_cons.mp h
    by_cases hsame : phase = next
    · subst hsame
      rw [List.destutter'_cons_neg _ (by simp)]
      exact ih hrest
    · obtain ⟨way, hway, hprefix⟩ := ih hrest
      rw [List.destutter'_cons_pos _ hsame]
      refine ⟨phase :: way, ?_, (List.prefix_cons_inj phase).mpr hprefix⟩
      cases phase <;> cases next <;> simp_all [canAdvanceTo, onward]

end Phase

namespace Event

/-- The session refuses something to one of its handlers. -/
def isObjection : Event → Bool
  | .log (.refused ..) | .log (.secondLogin _) => true
  | _ => false

theorem not_isAttachment_of_isSequel {event : Event} (h : event.isSequel) :
    event.isAttachment = false := by
  unfold isAttachment
  split
  · cases h
  · rfl

theorem not_isObjection_of_isSequel {event : Event} (h : event.isSequel) :
    event.isObjection = false := by
  unfold isObjection
  split
  · cases h
  · cases h
  · rfl

end Event

open Event

namespace Scene

/-- The phases that a session goes through, each as often as it comes into it. -/
def itinerary (scene : Scene) (table : Table) (setting : Setting) (moves : List Move) :
    List Phase :=
  ((scene :: scene.course table setting moves).map (·.session.phase)).destutter (· ≠ ·)

/-- What can happen between two scenes of a course. -/
structure Stride (scene after : Scene) : Prop where
  phase : scene.session.phase.canAdvanceTo after.session.phase
  player : after.session.player.isSome → scene.session.player.isSome ∨ after.session.phase = .play
  placement : after.session.placement = scene.session.placement ∨ after.session.phase = .play
  events : ∃ new, after.trace = scene.trace ++ new ∧
    (∀ event ∈ new, event.isObjection = false) ∧
    new.countP isAttachment + scene.session.phase.seats ≤ after.session.phase.seats

/-- How a session stands wherever its course comes by. -/
structure Proper (scene : Scene) : Prop where
  playerInPlay : scene.PlayerInPlay
  placement : scene.session.placement.isSome → scene.session.phase = .play
  attachments : scene.trace.countP isAttachment ≤ scene.session.phase.seats
  objections : ∀ event ∈ scene.trace, event.isObjection = false

variable {listing : Listing} {setting : Setting} {scene between after : Scene}

theorem Stride.of_session_eq {new : List Event} (ht : after.trace = scene.trace ++ new)
    (hphase : after.session.phase = scene.session.phase)
    (hplayer : after.session.player = scene.session.player)
    (hplacement : after.session.placement = scene.session.placement)
    (hnew : ∀ event ∈ new, event.isAttachment = false ∧ event.isObjection = false) :
    Stride scene after := by
  have hnone : new.countP isAttachment = 0 :=
    List.countP_eq_zero.mpr fun event he => by simp [(hnew event he).1]
  constructor
  case phase => rw [hphase, Phase.canAdvanceTo_self]
  case player => exact fun h => .inl (hplayer ▸ h)
  case placement => exact .inl hplacement
  case events =>
    refine ⟨new, ht, fun event he => (hnew event he).2, ?_⟩
    rw [hnone, hphase, Nat.zero_add]

theorem Stride.refl (scene : Scene) : Stride scene scene :=
  .of_session_eq (List.append_nil _).symm rfl rfl rfl (by simp)

/-- What follows of itself belongs to the same stride. -/
theorem Stride.follow (h : Stride scene between) {mentioned : Prop}
    (ha : Aftermath between after mentioned) : Stride scene after := by
  obtain ⟨new, ht, hobjections, hcount⟩ := h.events
  obtain ⟨more, ht', hsequel, -⟩ := ha.events
  have hphase : after.session.phase = between.session.phase := by rw [ha.session_eq]
  have hplacement : after.session.placement = between.session.placement := by rw [ha.session_eq]
  have hnone : more.countP isAttachment = 0 := List.countP_eq_zero.mpr fun event he => by
    simp [not_isAttachment_of_isSequel (hsequel event he)]
  constructor
  case phase => exact hphase ▸ h.phase
  case player =>
    rw [hphase]
    intro hs
    rcases ha.player_eq with hsame | ⟨hgone, -⟩
    · exact h.player (hsame ▸ hs)
    · simp [hgone] at hs
  case placement =>
    rw [hphase, hplacement]
    exact h.placement
  case events =>
    refine ⟨new ++ more, by rw [ht', ht, List.append_assoc], ?_, ?_⟩
    · exact List.forall_mem_append.mpr
        ⟨hobjections, fun event he => not_isObjection_of_isSequel (hsequel event he)⟩
    · rw [List.countP_append, hnone, hphase]
      exact hcount

theorem Stride.proper (h : Stride scene after) (hs : scene.Proper) : after.Proper := by
  obtain ⟨new, ht, hobjections, hcount⟩ := h.events
  have hstays : scene.session.phase = .play → after.session.phase = .play := fun hplay =>
    Phase.eq_play_of_canAdvanceTo (hplay ▸ h.phase)
  constructor
  case playerInPlay =>
    intro hplayer
    rcases h.player hplayer with hbefore | hplay
    · exact hstays (hs.playerInPlay hbefore)
    · exact hplay
  case placement =>
    intro hplacement
    rcases h.placement with hsame | hplay
    · exact hstays (hs.placement (hsame ▸ hplacement))
    · exact hplay
  case attachments =>
    have hbefore := hs.attachments
    rw [ht, List.countP_append]
    omega
  case objections =>
    rw [ht]
    exact List.forall_mem_append.mpr ⟨hs.objections, hobjections⟩

/-! The strides that make up a move. -/

/-- A login leads into play and gives the session its player. -/
theorem stride_login (hphase : scene.session.phase = .login) (hafter : after.session.phase = .play)
    (hplacement : after.session.placement = scene.session.placement) {new : List Event}
    (ht : after.trace = scene.trace ++ new) (hobjections : ∀ event ∈ new, event.isObjection = false)
    (hone : new.countP isAttachment = 1) : Stride scene after := by
  constructor
  case phase => rw [hphase, hafter]; rfl
  case player => exact fun _ => .inr hafter
  case placement => exact .inl hplacement
  case events =>
    refine ⟨new, ht, hobjections, ?_⟩
    rw [hone, hphase, hafter]
    decide

theorem stride_turn {packet : Packet} (h : Turn setting scene packet after) :
    Stride scene after := by
  cases h.gist with
  | hosted name between after new mentioned hadmits hsession htrace hnew ha =>
    refine Stride.follow ?_ ha
    refine stride_login hadmits.1 (by rw [hsession]) (by rw [hsession]) htrace ?_ ?_
    · rcases hnew with rfl | ⟨reason, rfl⟩ <;> simp [arrival, refusal, isObjection]
    · rcases hnew with rfl | ⟨reason, rfl⟩ <;> rfl
  | echoed => exact .of_session_eq rfl rfl rfl rfl (by simp [isAttachment, isObjection])
  | placed placement hphase =>
    constructor
    case phase => exact Phase.canAdvanceTo_self _
    case player => exact .inl
    case placement => exact .inr hphase
    case events =>
      exact ⟨[_, _], List.append_assoc _ _ _, by simp [isObjection], Nat.le_of_eq (Nat.zero_add _)⟩
  | taken packet after phase mentioned hphase hecho hplacement ha =>
    refine Stride.follow ?_ ha
    have hadvance : scene.session.phase.canAdvanceTo phase ∧
        phase.seats = scene.session.phase.seats := by
      rcases hphase with rfl | ⟨hh, hn⟩
      · simp
      · rw [hh]
        cases phase <;> simp_all [Phase.canAdvanceTo, Phase.seats]
    constructor
    case phase => exact hadvance.1
    case player => exact .inl
    case placement => exact .inl rfl
    case events => exact ⟨[_], rfl, by simp [isObjection], by simp [isAttachment, hadvance.2]⟩

theorem stride_pace (h : Pace setting scene after) : Stride scene after := by
  cases h with
  | adjusted => exact .of_session_eq (List.append_nil _).symm rfl rfl rfl (by simp)
  | turned inbox packet turned idle h =>
    have hturned : Stride { scene with session := { scene.session with inbox } } turned :=
      stride_turn h
    exact ⟨hturned.phase, hturned.player, hturned.placement, hturned.events⟩
  | followed after mentioned h => exact (Stride.refl scene).follow h
  | elsewhere => exact .of_session_eq (List.append_nil _).symm rfl rfl rfl (by simp)

theorem stride_issueKeepAlive : Stride scene (scene.issueKeepAlive setting) := by
  have hsession := session_issueKeepAlive scene setting
  refine .of_session_eq (trace_issueKeepAlive scene setting) ?_ ?_ ?_ ?_
  · rw [hsession]
  · rw [hsession]
  · rw [hsession]
  · split <;> simp [isAttachment, isObjection]

theorem stride_leg (h : Leg setting scene after) : Stride scene after := by
  cases h with
  | pace after h => exact stride_pace h
  | issued => exact stride_issueKeepAlive

theorem proper_begin (world : World) (policy : Policy) (asked : Nat) :
    (begin world policy asked).Proper where
  playerInPlay := nofun
  placement := nofun
  attachments := Nat.le_refl 0
  objections := nofun

/-- A session goes through the phases one after the other, and wherever it stands it has a player
or a placement only in play, has been given one player at most, and has refused its handlers
nothing. -/
theorem itinerary_prefix (listing : Listing) (setting : Setting) (world : World) (policy : Policy)
    (asked : Nat) (moves : List Move) :
    let start := begin world policy asked
    let course := start :: start.course (standard listing) setting moves
    course.getLast? = some (start.run (standard listing) setting moves) ∧
      (start.itinerary (standard listing) setting moves <+: [.handshake, .status] ∨
        start.itinerary (standard listing) setting moves <+: [.handshake, .login, .play]) ∧
      ∀ stage ∈ course,
        (stage.session.player.isSome ∨ stage.session.placement.isSome →
          stage.session.phase = .play) ∧
        stage.trace.countP isAttachment ≤ 1 ∧
        ∀ who fault, .log (.refused who fault) ∉ stage.trace ∧
          .log (.secondLogin who) ∉ stage.trace := by
  intro start course
  have hstart : start.Proper := proper_begin world policy asked
  have hway : Way Stride start (start.course (standard listing) setting moves)
      (start.run (standard listing) setting moves) :=
    (way_course hstart.playerInPlay moves).imp stride_leg
  refine ⟨hway.last, ?_, fun stage hm => ?_⟩
  · have hphases : (course.map (·.session.phase)).IsChain fun now next => now.canAdvanceTo next :=
      (List.isChain_map _).mpr (hway.strides.imp fun _ _ hstride => hstride.phase)
    obtain ⟨way, hmem, hprefix⟩ := Phase.exists_onward_prefix hphases
    have hroute : way = [.handshake, .status] ∨ way = [.handshake, .login, .play] := by
      simpa [Phase.onward, start, begin, Session.fresh] using hmem
    rcases hroute with rfl | rfl
    · exact .inl hprefix
    · exact .inr hprefix
  · have hstage : stage.Proper := hway.preserves Stride.proper hstart stage hm
    refine ⟨fun h => h.elim hstage.playerInPlay hstage.placement, ?_, fun who fault => ⟨?_, ?_⟩⟩
    · exact Nat.le_trans hstage.attachments (Phase.seats_le_one _)
    · exact fun hm => absurd (hstage.objections _ hm) (by simp [isObjection])
    · exact fun hm => absurd (hstage.objections _ hm) (by simp [isObjection])

/-- A login that is never taken up leaves the way into play unfinished, and a second handshake leads
nowhere. -/
example (listing : Listing) (setting : Setting) :
    (begin (World.create "world") .console 0).itinerary (standard listing) setting
      [.receive (.handshake 4 "localhost" 25565 .login),
        .receive (.handshake 4 "localhost" 25565 .status), .queue (.loginStart "Alice")] =
      [.handshake, .login] := rfl

end Scene
end GameServer
