import GameServer.Proofs.Session.Run
import GameServer.Proofs.Session.Turn
import GameServer.Server.Config

/-! Clients that are given up. That takes a keepalive which has been outstanding for long enough,
but the client need not have been told of it: one that was drawn before the client came into play
is still outstanding there. -/

namespace GameServer

open Service

def Move.isPulse : Move → Bool
  | .pulse => true
  | _ => false

def Event.isProbe : Event → Bool
  | .write (.keepAlive _) => true
  | _ => false

namespace Scene

def since (scene earlier : Scene) : List Event := scene.trace.drop earlier.trace.length

theorem since_eq {scene earlier : Scene} {new : List Event}
    (h : scene.trace = earlier.trace ++ new) : scene.since earlier = new := by
  rw [since, h, List.drop_left]

/-- Nothing is asked of the client, and if a keepalive is still outstanding after `ticks` ticks
then it was so before, and has not been answered. -/
def Waits (ticks : Nat) (scene after : Scene) : Prop :=
  ∃ new, after.trace = scene.trace ++ new ∧ (∀ event ∈ new, event.isProbe = false) ∧
    ∀ id, after.session.outstanding = some id →
      scene.session.outstanding = some id ∧ after.session.idle ≤ scene.session.idle + ticks ∧
        .took .play (.keepAlive id.val) ∉ new

section

variable {listing : Listing} {setting : Setting} {scene between after : Scene} {ticks more : Nat}

theorem Waits.trans (h : Waits ticks scene between) (h' : Waits more between after) :
    Waits (ticks + more) scene after := by
  obtain ⟨new, ht, hp, hw⟩ := h
  obtain ⟨new', ht', hp', hw'⟩ := h'
  refine ⟨new ++ new', by rw [ht', ht, List.append_assoc], ?_, fun id hid => ?_⟩
  · simpa only [List.forall_mem_append] using ⟨hp, hp'⟩
  · obtain ⟨hb, hle', hn'⟩ := hw' id hid
    obtain ⟨ho, hle, hn⟩ := hw id hb
    refine ⟨ho, by omega, ?_⟩
    simpa only [List.mem_append, not_or] using ⟨hn, hn'⟩

theorem Waits.owed (h : Waits ticks scene after) {id : KeepAliveId}
    (hid : after.session.outstanding = some id) : scene.session.outstanding = some id := by
  obtain ⟨new, -, -, hw⟩ := h
  exact (hw id hid).1

theorem Waits.of_session_eq {new : List Event} (ht : after.trace = scene.trace ++ new)
    (howed : after.session.outstanding = scene.session.outstanding)
    (hidle : after.session.idle = scene.session.idle)
    (hnew : ∀ event ∈ new, event.isProbe = false ∧ ∀ id, event ≠ .took .play (.keepAlive id)) :
    Waits 0 scene after := by
  refine ⟨new, ht, fun event he => (hnew event he).1, fun id hid => ?_⟩
  exact ⟨howed ▸ hid, Nat.le_of_eq hidle, fun hm => (hnew _ hm).2 _ rfl⟩

theorem Waits.of_trace_eq (ht : after.trace = scene.trace)
    (howed : after.session.outstanding = scene.session.outstanding)
    (hidle : after.session.idle = scene.session.idle) : Waits 0 scene after :=
  .of_session_eq (by rw [ht, List.append_nil]) howed hidle (by simp)

theorem Aftermath.waits {mentioned : Prop} (h : Aftermath scene after mentioned) :
    Waits 0 scene after := by
  obtain ⟨new, ht, hs, -⟩ := h.events
  refine .of_session_eq ht ?_ ?_ fun event he => ?_
  · rw [h.session_eq]
  · rw [h.session_eq]
  · have hsequel := hs event he
    constructor
    · unfold Event.isProbe
      split
      · cases hsequel
      · rfl
    · rintro id rfl
      cases hsequel

theorem waits_turn {packet : Packet} (h : Turn setting scene packet after) :
    Waits 0 scene after := by
  cases h.gist with
  | hosted name between after new mentioned hadmits hsession htrace hnew ha =>
    refine Waits.trans ?_ ha.waits
    refine .of_session_eq htrace (by rw [hsession]) (by rw [hsession]) ?_
    rcases hnew with rfl | ⟨reason, rfl⟩ <;> simp [arrival, refusal, Event.isProbe]
  | echoed hphase =>
    refine ⟨[_], rfl, by simp [Event.isProbe], fun id hid => ?_⟩
    cases hid
  | placed => exact .of_session_eq (List.append_assoc _ _ _) rfl rfl (by simp [Event.isProbe])
  | taken packet after phase mentioned hphase hecho hplacement ha =>
    refine Waits.trans ?_ ha.waits
    refine ⟨[_], rfl, by simp [Event.isProbe], fun id hid => ?_⟩
    have howed : scene.session.outstanding = some id := hid
    refine ⟨howed, Nat.le_refl _, fun hm => ?_⟩
    -- A packet that is passed over in play is not the answer.
    obtain ⟨hplay, rfl⟩ := Event.took.inj (List.mem_singleton.mp hm)
    exact hecho hplay.symm (by simp [Session.pingId, howed])

theorem Waits.of_idle_le {idle : Nat} (h : idle ≤ scene.session.idle + ticks) :
    Waits ticks scene { scene with session := { scene.session with idle } } :=
  ⟨[], (List.append_nil _).symm, by simp, fun _ hid => ⟨hid, h, List.not_mem_nil⟩⟩

theorem waits_dispatch (hp : scene.PlayerInPlay) (packet : Packet) :
    Waits 0 scene (scene.dispatch (standard listing) setting packet) :=
  waits_turn (turn_dispatch hp packet)

theorem waits_receive (hp : scene.PlayerInPlay) (packet : Packet) :
    Waits 0 scene (scene.receive (standard listing) setting packet) := by
  unfold receive
  split
  · exact waits_dispatch hp packet
  · exact .of_trace_eq rfl rfl rfl

theorem waits_takeUp (hp : scene.PlayerInPlay) (packet : Packet) (rest : List Packet) :
    Waits 0 scene (scene.takeUp (standard listing) setting packet rest) := by
  let left : Scene := { scene with session := { scene.session with inbox := rest } }
  have hleft : Waits 0 scene left := .of_trace_eq rfl rfl rfl
  have hpleft : left.PlayerInPlay := hp
  have htaken : Waits 0 left (left.dispatch (standard listing) setting packet) :=
    waits_dispatch hpleft packet
  have hheard : Waits 0 (left.dispatch (standard listing) setting packet)
      (scene.takeUp (standard listing) setting packet rest) := .of_idle_le (Nat.zero_le _)
  exact (hleft.trans htaken).trans hheard

theorem waits_drain (hp : scene.PlayerInPlay) (bound : Nat) :
    Waits 0 scene (drain (standard listing) setting bound scene) := by
  induction bound generalizing scene with
  | zero => exact .of_trace_eq rfl rfl rfl
  | succ bound ih =>
    cases hinbox : scene.session.inbox with
    | nil =>
      rw [drain_of_nil hinbox]
      exact .of_trace_eq rfl rfl rfl
    | cons packet rest =>
      rw [drain_of_cons hinbox]
      exact (waits_takeUp hp packet rest).trans (ih (playerInPlay_takeUp hp))

theorem waits_drained (hp : scene.PlayerInPlay) :
    Waits 1 scene (scene.drained (standard listing) setting) := by
  have hticked : Waits 1 scene scene.ticked := .of_idle_le (Nat.min_le_left _ _)
  have hpticked : scene.ticked.PlayerInPlay := hp
  exact hticked.trans (waits_drain hpticked _)

theorem waits_move (hp : scene.PlayerInPlay) (move : Move)
    (hi : move = .pulse → ∀ id, ¬ scene.Issues (standard listing) setting id) :
    Waits (if move.isPulse then 1 else 0) scene (scene.move (standard listing) setting move) := by
  cases move with
  | receive packet => exact waits_receive hp packet
  | queue packet => exact .of_trace_eq rfl rfl rfl
  | pulse =>
    have hd : Waits 1 scene (scene.drained (standard listing) setting) := waits_drained hp
    rcases pulse_cases scene (standard listing) setting with ⟨-, he⟩ | ht | ⟨id, h⟩
    · simp only [move, he]
      exact hd
    · simp only [move, pulse_of_timesOut ht]
      exact hd.trans (aftermath_disconnectWith _ timeoutReason false).waits
    · exact absurd h (hi rfl id)
  | disconnect reason force => exact (aftermath_disconnectWith scene reason force).waits
  | dispose tell => exact (aftermath_dispose scene tell).waits
  | elsewhere world policy asked => exact .of_trace_eq rfl rfl rfl

theorem session_pulse_of_issues {table : Table} {id : KeepAliveId}
    (h : scene.Issues table setting id) :
    (scene.pulse table setting).session.outstanding = some id ∧
      (scene.pulse table setting).session.idle = 0 := by
  rw [pulse_of_issues h, session_issueKeepAlive]
  exact ⟨congrArg some h.2.2, rfl⟩

/-- A keepalive that is outstanding was so all along or was issued on the way. -/
theorem exists_issues (hp : scene.PlayerInPlay) (moves : List Move) {id : KeepAliveId}
    (hid : (scene.run (standard listing) setting moves).session.outstanding = some id) :
    Waits (moves.countP Move.isPulse) scene (scene.run (standard listing) setting moves) ∨
      ∃ early late, moves = early ++ .pulse :: late ∧
        (scene.run (standard listing) setting early).Issues (standard listing) setting id ∧
        Waits (late.countP Move.isPulse)
          (scene.run (standard listing) setting (early ++ [.pulse]))
          (scene.run (standard listing) setting moves) := by
  induction moves generalizing scene with
  | nil => exact .inl (.of_trace_eq rfl rfl rfl)
  | cons move moves ih =>
    rcases ih (playerInPlay_move hp move) hid with hw | ⟨early, late, rfl, hi, hw⟩
    · by_cases hi : move = .pulse ∧ ∃ id, scene.Issues (standard listing) setting id
      · obtain ⟨rfl, id', hi⟩ := hi
        -- The id has been outstanding since this pulse, so it is the one that was issued here.
        have hid' := (session_pulse_of_issues hi).1.symm.trans (hw.owed hid)
        obtain rfl : id' = id := Option.some.inj hid'
        exact .inr ⟨[], moves, rfl, hi, hw⟩
      · have hm := waits_move hp move fun hm id h => hi ⟨hm, id, h⟩
        refine .inl ?_
        rw [List.countP_cons, Nat.add_comm]
        exact hm.trans hw
    · exact .inr ⟨move :: early, late, rfl, hi, hw⟩

def Unasked (scene : Scene) : Prop :=
  scene.session.phase ≠ .play → ∀ event ∈ scene.trace, event.isProbe = false

theorem Unasked.append {new : List Event} (h : scene.Unasked)
    (ht : after.trace = scene.trace ++ new) (hphase : after.session.phase = scene.session.phase)
    (hnew : ∀ event ∈ new, event.isProbe = false) : after.Unasked := by
  intro hn
  rw [ht]
  exact List.forall_mem_append.mpr ⟨h (hphase ▸ hn), hnew⟩

theorem unasked_beat (hb : Beat listing setting scene after) (h : scene.Unasked) :
    after.Unasked := by
  cases hb with
  | adjusted session hphase => exact fun hn => h (hphase ▸ hn)
  | opened next hphase => exact fun _ => h (by simp [hphase])
  | probed id hphase => exact fun hn => absurd hphase hn
  | echoed time hphase =>
    exact h.append (List.append_assoc _ _ _) rfl (by simp [Event.isProbe])
  | parted player =>
    obtain ⟨notices, ht⟩ :=
      trace_leaveWorld { scene with session := { scene.session with player := none } } player
    exact h.append ht (by simp) (by simp [Event.isProbe])
  | sentAway reason =>
    obtain ⟨new, ht, hp, -⟩ := (aftermath_sendAway scene reason).waits
    exact h.append ht (by rw [sendAway_eq]) hp
  | refused => exact fun hn => absurd rfl hn
  | admitted => exact fun hn => absurd (by simp [ask, record, host, present, greet]) hn
  | _ => exact h.append rfl rfl (by simp [Event.isProbe])

theorem unasked_run (world : World) (policy : Policy) (asked : Nat) (moves : List Move) :
    ((begin world policy asked).run (standard listing) setting moves).Unasked :=
  run_preserves (P := Unasked) (fun _ hb h => unasked_beat hb h) (fun _ _ _ h => h)
    (playerInPlay_begin world policy asked) (fun _ => nofun) moves

theorem exists_trace_pulse_of_issues (hp : scene.PlayerInPlay) {id : KeepAliveId}
    (hi : scene.Issues (standard listing) setting id) :
    ∃ new, (scene.drained (standard listing) setting).trace = scene.trace ++ new ∧
      (∀ event ∈ new, event.isProbe = false) ∧
      (scene.pulse (standard listing) setting).trace = scene.trace ++ (new ++
        .log (.keepAliveIssued id.val setting.who) ::
          if (scene.drained (standard listing) setting).session.phase = .play then
            [.write (.keepAlive id.val)]
          else []) := by
  obtain ⟨new, ht, hnew, -⟩ : Waits 1 scene (scene.drained (standard listing) setting) :=
    waits_drained hp
  refine ⟨new, ht, hnew, ?_⟩
  rw [pulse_of_issues hi, trace_issueKeepAlive, hi.2.2, ht, List.append_assoc]

theorem write_mem_since_iff (hp : scene.PlayerInPlay) {id : KeepAliveId}
    (hi : scene.Issues (standard listing) setting id) :
    .write (.keepAlive id.val) ∈ (scene.pulse (standard listing) setting).since scene ↔
      (scene.drained (standard listing) setting).session.phase = .play := by
  obtain ⟨new, -, hnew, ht⟩ := exists_trace_pulse_of_issues hp hi
  have hn : .write (.keepAlive id.val) ∉ new := fun hm => absurd (hnew _ hm) (by simp [Event.isProbe])
  rw [since_eq ht]
  by_cases hplay : (scene.drained (standard listing) setting).session.phase = .play
  · simp [hplay]
  · simp [hplay, hn]

theorem exists_isProbe_pulse_iff (hp : scene.PlayerInPlay) (hu : scene.Unasked) {id : KeepAliveId}
    (hi : scene.Issues (standard listing) setting id) :
    (∃ event ∈ (scene.pulse (standard listing) setting).trace, event.isProbe) ↔
      (scene.drained (standard listing) setting).session.phase = .play := by
  have hud : (scene.drained (standard listing) setting).Unasked :=
    Beats.preserves (fun _ hb h => unasked_beat hb h) (beats_drained hp) hp hu
  obtain ⟨new, hd, -, ht⟩ := exists_trace_pulse_of_issues hp hi
  rw [ht, ← List.append_assoc, ← hd]
  by_cases hplay : (scene.drained (standard listing) setting).session.phase = .play
  · refine iff_of_true ⟨.write (.keepAlive id.val), ?_, rfl⟩ hplay
    simp [hplay]
  · have hnone := hud hplay
    refine iff_of_false ?_ hplay
    simp only [hplay, if_false, List.mem_append, List.mem_singleton]
    rintro ⟨event, hm | rfl, hprobe⟩
    · simp [hnone event hm] at hprobe
    · cases hprobe

end

section

variable (start : Scene) (table : Table) (setting : Setting) (moves : List Move)

/-- For which keepalive a client is given up by the pulse after a run, and when that was issued. -/
structure Overdue (early late : List Move) (id : KeepAliveId) : Prop where
  split : moves = early ++ .pulse :: late
  issued : (start.run table setting early).Issues table setting id
  long_ago : setting.timeoutTicks ≤ late.countP Move.isPulse + 1
  outstanding : ((start.run table setting moves).drained table setting).session.outstanding = some id
  unanswered : .took .play (.keepAlive id.val) ∉
    ((start.run table setting moves).drained table setting).since
      (start.run table setting (early ++ [.pulse]))

/-- The client has answered whatever it was sent long enough ago to be given up for now. -/
def Attentive : Prop :=
  ∀ (early late : List Move) (id : KeepAliveId), moves = early ++ .pulse :: late →
    .write (.keepAlive id.val) ∈
      (start.run table setting (early ++ [.pulse])).since (start.run table setting early) →
    setting.timeoutTicks ≤ late.countP Move.isPulse + 1 →
    .took .play (.keepAlive id.val) ∈
      ((start.run table setting moves).drained table setting).since
        (start.run table setting (early ++ [.pulse]))

end

/-- A client is given up for a keepalive that was issued long enough ago and has not been answered
since. If the client was in play then, it was sent the keepalive, and otherwise it has never been
sent any. -/
theorem overdue_of_timesOut (listing : Listing) (setting : Setting) (world : World)
    (policy : Policy) (asked : Nat) (moves : List Move)
    (h : ((begin world policy asked).run (standard listing) setting moves).TimesOut
      (standard listing) setting) :
    let start := begin world policy asked
    let run := start.run (standard listing) setting
    ∃ early late id, Overdue start (standard listing) setting moves early late id ∧
      let inPlay := ((run early).drained (standard listing) setting).session.phase = .play
      (.write (.keepAlive id.val) ∈ (run (early ++ [.pulse])).since (run early) ↔ inPlay) ∧
      ((∃ event ∈ ((run moves).drained (standard listing) setting).trace, event.isProbe) ↔ inPlay) ∧
      (Attentive start (standard listing) setting moves → ¬ inPlay) := by
  intro start run
  let now := (run moves).drained (standard listing) setting
  have hp : ∀ moves, (run moves).PlayerInPlay := playerInPlay_run (playerInPlay_begin _ _ _)
  obtain ⟨id, hid⟩ := Option.isSome_iff_exists.mp h.2
  have hnow : Waits 1 (run moves) now := waits_drained (hp moves)
  rcases exists_issues (playerInPlay_begin _ _ _) moves (hnow.owed hid) with
    hw | ⟨early, late, hsplit, hi, hw⟩
  · cases hw.owed (hnow.owed hid)
  have hpulse : run (early ++ [.pulse]) = (run early).pulse (standard listing) setting :=
    run_append _ _ early [.pulse]
  obtain ⟨new, ht, hnew, howed⟩ := hw.trans hnow
  obtain ⟨-, hidle, hunanswered⟩ := howed id hid
  rw [← since_eq ht] at hunanswered
  have hzero : (run (early ++ [.pulse])).session.idle = 0 := hpulse ▸ (session_pulse_of_issues hi).2
  have hlong : setting.timeoutTicks ≤ late.countP Move.isPulse + 1 := by
    calc setting.timeoutTicks ≤ now.session.idle := h.1
      _ ≤ (run (early ++ [.pulse])).session.idle + (late.countP Move.isPulse + 1) := hidle
      _ = late.countP Move.isPulse + 1 := by rw [hzero, Nat.zero_add]
  have hwritten := write_mem_since_iff (hp early) hi
  have hever := exists_isProbe_pulse_iff (hp early) (unasked_run _ _ _ early) hi
  rw [← hpulse] at hwritten hever
  refine ⟨early, late, id, ⟨hsplit, hi, hlong, hid, hunanswered⟩, hwritten, ?_, ?_⟩
  · rw [← hever, ht]
    constructor
    · rintro ⟨event, hm, hprobe⟩
      rcases List.mem_append.mp hm with hm | hm
      · exact ⟨event, hm, hprobe⟩
      · cases (hnew event hm).symm.trans hprobe
    · rintro ⟨event, hm, hprobe⟩
      exact ⟨event, List.mem_append_left _ hm, hprobe⟩
  · intro hattentive hplay
    exact hunanswered (hattentive early late id hsplit (hwritten.mpr hplay) hlong)

/-- The client takes so long to log in that a keepalive is issued before it does. -/
def slowLogin : List Move :=
  [.receive (.handshake 4 "localhost" 25565 .login), .pulse, .pulse, .queue (.loginStart "Slow"),
    .pulse, .pulse]

def hasty : Setting :=
  { address := none, timeoutTicks := 2, drawn := fun _ => default, token := 0 }

theorem timesOut_slowLogin :
    ((begin (World.create "world") Policy.console 0).run (standard .default) hasty
      slowLogin).TimesOut (standard .default) hasty := by
  unfold TimesOut
  decide

theorem overdue_of_timesOut_slowLogin :
    let start := begin (World.create "world") Policy.console 0
    let run := start.run (standard .default) hasty
    (run slowLogin).TimesOut (standard .default) hasty ∧
      ∃ early late id, Overdue start (standard .default) hasty slowLogin early late id ∧
        let inPlay := ((run early).drained (standard .default) hasty).session.phase = .play
        (.write (.keepAlive id.val) ∈ (run (early ++ [.pulse])).since (run early) ↔ inPlay) ∧
        ((∃ event ∈ ((run slowLogin).drained (standard .default) hasty).trace, event.isProbe) ↔
          inPlay) ∧
        (Attentive start (standard .default) hasty slowLogin → ¬ inPlay) :=
  ⟨timesOut_slowLogin, overdue_of_timesOut .default hasty _ _ _ slowLogin timesOut_slowLogin⟩

/-- That a client in play is given up does not mean that it was asked whether it is there. -/
theorem not_asked_of_timesOut :
    ¬ ∀ (listing : Listing) (setting : Setting) (world : World) (policy : Policy) (asked : Nat)
      (moves : List Move), 1 ≤ setting.timeoutTicks →
      let run := (begin world policy asked).run (standard listing) setting
      let now := (run moves).drained (standard listing) setting
      now.session.phase = .play → (run moves).TimesOut (standard listing) setting →
      ∃ early late id, moves = early ++ .pulse :: late ∧
        setting.timeoutTicks ≤ late.countP Move.isPulse + 1 ∧
        now.session.outstanding = some id ∧
        .write (.keepAlive id.val) ∈ (run (early ++ [.pulse])).since (run early) := by
  intro h
  obtain ⟨early, late, id, hsplit, -, -, hm⟩ := h .default hasty (World.create "world")
    Policy.console 0 slowLogin (by decide) (by decide) timesOut_slowLogin
  let asked := (begin (World.create "world") Policy.console 0).run (standard .default) hasty
    (early ++ [.pulse])
  have hprefix : asked.trace <+: (asked.run (standard .default) hasty late).trace :=
    trace_prefix_run (playerInPlay_run (playerInPlay_begin _ _ _) _) late
  have hlater := hprefix.subset (List.drop_subset _ _ hm)
  rw [← run_append, List.append_assoc, List.singleton_append, ← hsplit] at hlater
  have hnever : ∀ event ∈ ((begin (World.create "world") Policy.console 0).run
      (standard .default) hasty slowLogin).trace, event.isProbe = false := by decide
  cases hnever _ hlater

end Scene
end GameServer
