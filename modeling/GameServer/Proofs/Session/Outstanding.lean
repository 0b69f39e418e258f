import GameServer.Proofs.Session.Course
import GameServer.Proofs.Session.Silence

/-! Which keepalive is outstanding. One comes to be so when it is issued, which takes a pulse that
finds no packet and a client that has been silent and owes none, and it is so until the client echoes
it in play. Nothing else has a bearing on it. -/

namespace GameServer

open Service

theorem Session.pingId_eq_zero_iff {session : Session} :
    session.pingId = 0 ↔ session.outstanding = none := by
  unfold pingId
  cases session.outstanding with
  | none => simp
  | some id =>
    have hpos : id.val ≠ 0 := fun h => absurd id.property (by simp [h])
    simp [hpos]

namespace Event

def isIssue : Event → Bool
  | .log (.keepAliveIssued ..) => true
  | _ => false

/-- The keepalive that is outstanding after an event, if `owed` is so before. -/
def owes (owed : Int32) : Event → Int32
  | .log (.keepAliveIssued id _) => id
  | .took .play (.keepAlive id) => if id = owed then 0 else owed
  | _ => owed

/-- The keepalive that is outstanding after all these events, or zero if none is. -/
def owed (events : List Event) : Int32 := events.foldl owes 0

/-- The event leaves the keepalive `owed` as it is. -/
def Spares (owed : Int32) (event : Event) : Prop :=
  event.isIssue = false ∧ event ≠ .took .play (.keepAlive owed)

theorem Spares.owes_eq {owed : Int32} {event : Event} (h : event.Spares owed) :
    event.owes owed = owed := by
  obtain ⟨hissue, hecho⟩ := h
  unfold owes
  split
  · cases hissue
  · rw [if_neg]
    rintro rfl
    exact hecho rfl
  · rfl

theorem foldl_owes_of_spares {owed : Int32} {events : List Event}
    (h : ∀ event ∈ events, event.Spares owed) : events.foldl owes owed = owed := by
  induction events with
  | nil => rfl
  | cons event events ih =>
    obtain ⟨hfirst, hrest⟩ := List.forall_mem_cons.mp h
    rw [List.foldl_cons, hfirst.owes_eq, ih hrest]

theorem spares_of_isSequel (owed : Int32) {event : Event} (h : event.isSequel) :
    event.Spares owed := by
  constructor
  · unfold isIssue
    split
    · cases h
    · rfl
  · rintro rfl
    cases h

end Event

open Event

namespace Scene

/-- The same keepalive is outstanding as before, and nothing has happened that bears on it. -/
def Keeps (scene after : Scene) : Prop :=
  after.session.outstanding = scene.session.outstanding ∧
    ∃ new, after.trace = scene.trace ++ new ∧ ∀ event ∈ new, event.Spares scene.session.pingId

/-- The keepalive that was outstanding is echoed in play. With none outstanding that is the echo of
zero, and changes nothing. -/
structure Answers (scene after : Scene) : Prop where
  phase : scene.session.phase = .play
  trace : after.trace = scene.trace ++ [.took .play (.keepAlive scene.session.pingId)]
  pingId : after.session.pingId = 0

/-- A keepalive is issued to a client that has been silent and owes none. -/
structure Issued (setting : Setting) (scene after : Scene) : Prop where
  none_owed : scene.session.pingId = 0
  silent : setting.timeoutTicks ≤ scene.session.idle
  pingId : after.session.pingId = (setting.drawn scene.session.issued).val
  pingId_ne : after.session.pingId ≠ 0
  trace : after.trace = scene.trace ++ .log (.keepAliveIssued after.session.pingId setting.who) ::
    if scene.session.phase = .play then [.write (.keepAlive after.session.pingId)] else []

variable {listing : Listing} {setting : Setting} {scene between after : Scene}

theorem Keeps.pingId_eq (h : Keeps scene after) : after.session.pingId = scene.session.pingId := by
  rw [Session.pingId, h.1, ← Session.pingId]

theorem Keeps.trans (h : Keeps scene between) (h' : Keeps between after) : Keeps scene after := by
  obtain ⟨howed, new, ht, hnew⟩ := h
  obtain ⟨howed', more, ht', hmore⟩ := h'
  have hping : between.session.pingId = scene.session.pingId := Keeps.pingId_eq ⟨howed, new, ht, hnew⟩
  refine ⟨howed'.trans howed, new ++ more, by rw [ht', ht, List.append_assoc], ?_⟩
  exact List.forall_mem_append.mpr ⟨hnew, hping ▸ hmore⟩

theorem Keeps.of_trace_eq (ht : after.trace = scene.trace)
    (howed : after.session.outstanding = scene.session.outstanding) : Keeps scene after :=
  ⟨howed, [], by rw [ht, List.append_nil], by simp⟩

theorem Aftermath.keeps {mentioned : Prop} (h : Aftermath scene after mentioned) :
    Keeps scene after := by
  obtain ⟨new, ht, hsequel, -⟩ := h.events
  refine ⟨by rw [h.session_eq], new, ht, fun event he => ?_⟩
  exact spares_of_isSequel _ (hsequel event he)

theorem keeps_or_answers_turn {packet : Packet} (h : Turn setting scene packet after) :
    Keeps scene after ∨ Answers scene after := by
  cases h.gist with
  | hosted name between after new mentioned hadmits hsession htrace hnew ha =>
    have hhosted : Keeps scene between := by
      refine ⟨by rw [hsession], new, htrace, ?_⟩
      rcases hnew with rfl | ⟨reason, rfl⟩ <;> simp [arrival, refusal, Spares, isIssue]
    exact .inl (hhosted.trans ha.keeps)
  | echoed hphase => exact .inr ⟨hphase, rfl, rfl⟩
  | placed => exact .inl ⟨rfl, _, List.append_assoc _ _ _, by simp [Spares, isIssue]⟩
  | taken packet after phase mentioned hphase hecho hplacement ha =>
    have htaken : Keeps scene { scene.record (.took scene.session.phase packet) with
        session := { scene.session with phase } } := by
      refine ⟨rfl, _, rfl, List.forall_mem_singleton.mpr ⟨rfl, fun htook => ?_⟩⟩
      -- A packet that is passed over in play is not the answer.
      obtain ⟨hplay, rfl⟩ := Event.took.inj htook
      exact hecho hplay rfl
    exact .inl (htaken.trans ha.keeps)

theorem keeps_or_answers_pace (h : Pace setting scene after) :
    Keeps scene after ∨ Answers scene after := by
  cases h with
  | adjusted => exact .inl (.of_trace_eq rfl rfl)
  | turned inbox packet turned idle h =>
    rcases keeps_or_answers_turn h with hkept | hanswered
    · exact .inl ⟨hkept.1, hkept.2⟩
    · exact .inr ⟨hanswered.phase, hanswered.trace, hanswered.pingId⟩
  | followed after mentioned h => exact .inl h.keeps
  | elsewhere => exact .inl (.of_trace_eq rfl rfl)

theorem issued_issueKeepAlive (hsilent : setting.timeoutTicks ≤ scene.session.idle)
    (hnone : scene.session.outstanding = none) :
    Issued setting scene (scene.issueKeepAlive setting) := by
  have hsession := session_issueKeepAlive scene setting
  have hping : (scene.issueKeepAlive setting).session.pingId =
      (setting.drawn scene.session.issued).val := by
    rw [hsession]
    rfl
  constructor
  case none_owed => exact Session.pingId_eq_zero_iff.mpr hnone
  case silent => exact hsilent
  case pingId => exact hping
  case pingId_ne =>
    rw [Ne, Session.pingId_eq_zero_iff, hsession]
    simp
  case trace =>
    rw [hping]
    exact trace_issueKeepAlive scene setting

/-- What can become, between two scenes of a course, of the keepalive that is outstanding. -/
def Tends (setting : Setting) (scene after : Scene) : Prop :=
  Keeps scene after ∨ Answers scene after ∨ Issued setting scene after

theorem tends_leg (h : Leg setting scene after) : Tends setting scene after := by
  cases h with
  | pace after h => exact (keeps_or_answers_pace h).imp_right .inl
  | issued hsilent hnone => exact .inr (.inr (issued_issueKeepAlive hsilent hnone))

/-- What is outstanding is what the events tell. -/
theorem Tends.pingId_eq_owed (h : Tends setting scene after)
    (hs : scene.session.pingId = owed scene.trace) : after.session.pingId = owed after.trace := by
  have howed : ∀ {new}, after.trace = scene.trace ++ new →
      owed after.trace = new.foldl owes scene.session.pingId := fun ht => by
    rw [ht, owed, List.foldl_append, hs, owed]
  rcases h with hkept | hanswered | hissued
  · obtain ⟨new, ht, hnew⟩ := hkept.2
    rw [howed ht, foldl_owes_of_spares hnew, hkept.pingId_eq]
  · rw [howed hanswered.trace, hanswered.pingId]
    simp [owes]
  · rw [howed hissued.trace]
    split <;> rfl

/-! When a keepalive is issued. -/

/-- No keepalive is issued meanwhile. -/
def Unissued (scene after : Scene) : Prop :=
  ∃ new, after.trace = scene.trace ++ new ∧ ∀ event ∈ new, event.isIssue = false

theorem Unissued.trans (h : Unissued scene between) (h' : Unissued between after) :
    Unissued scene after := by
  obtain ⟨new, ht, hnew⟩ := h
  obtain ⟨more, ht', hmore⟩ := h'
  exact ⟨new ++ more, by rw [ht', ht, List.append_assoc], List.forall_mem_append.mpr ⟨hnew, hmore⟩⟩

theorem Keeps.unissued (h : Keeps scene after) : Unissued scene after := by
  obtain ⟨-, new, ht, hnew⟩ := h
  exact ⟨new, ht, fun event he => (hnew event he).1⟩

theorem unissued_pace (h : Pace setting scene after) : Unissued scene after := by
  rcases keeps_or_answers_pace h with hkept | hanswered
  · exact hkept.unissued
  · exact ⟨_, hanswered.trace, by simp [isIssue]⟩

theorem unissued_drained (hp : scene.PlayerInPlay) :
    Unissued scene (scene.drained (standard listing) setting) := by
  have hway : Way (Pace setting) scene _ (scene.drained (standard listing) setting) :=
    way_drained hp
  have hstart : Unissued scene scene := (Keeps.of_trace_eq rfl rfl).unissued
  exact hway.preserves (fun hpace h => h.trans (unissued_pace hpace)) hstart _
    (List.mem_of_getLast? hway.last)

theorem Unissued.not_mem (h : Unissued scene after) (id : Int32) (who : String) :
    .log (.keepAliveIssued id who) ∉ after.since scene := by
  obtain ⟨new, ht, hnew⟩ := h
  rw [since_eq ht]
  exact fun hm => absurd (hnew _ hm) (by simp [isIssue])

theorem issue_mem_since_pulse_iff (hp : scene.PlayerInPlay) {id : Int32} {who : String} :
    .log (.keepAliveIssued id who) ∈ (scene.pulse (standard listing) setting).since scene ↔
      ∃ drawn, scene.Issues (standard listing) setting drawn ∧ id = drawn.val ∧
        who = setting.who := by
  have hdrained : Unissued scene (scene.drained (standard listing) setting) := unissued_drained hp
  rcases pulse_cases scene (standard listing) setting with ⟨hidle, hquiet⟩ | htimes | ⟨drawn, hissues⟩
  · rw [hquiet]
    refine iff_of_false (hdrained.not_mem id who) ?_
    rintro ⟨drawn, hissues, -⟩
    exact absurd hissues.1 (Nat.not_le.mpr hidle)
  · have hexpelled : Unissued scene (scene.pulse (standard listing) setting) := by
      rw [pulse_of_timesOut htimes]
      exact hdrained.trans (aftermath_disconnectWith _ timeoutReason false).keeps.unissued
    refine iff_of_false (hexpelled.not_mem id who) ?_
    rintro ⟨drawn, hissues, -⟩
    exact hissues.not_timesOut htimes
  · obtain ⟨new, ht, hnew⟩ := hdrained
    have hold : .log (.keepAliveIssued id who) ∉ new :=
      fun hm => absurd (hnew _ hm) (by simp [isIssue])
    have htrace : (scene.pulse (standard listing) setting).trace = scene.trace ++ (new ++
        .log (.keepAliveIssued drawn.val setting.who) ::
          if (scene.drained (standard listing) setting).session.phase = .play then
            [.write (.keepAlive drawn.val)]
          else []) := by
      rw [pulse_of_issues hissues, trace_issueKeepAlive, hissues.2.2, ht, List.append_assoc]
    rw [since_eq htrace]
    constructor
    · intro hm
      refine ⟨drawn, hissues, ?_⟩
      split at hm <;> simpa [hold] using hm
    · rintro ⟨drawn', hissues', rfl, rfl⟩
      obtain rfl : drawn = drawn' := hissues.2.2.symm.trans hissues'.2.2
      exact List.mem_append_right _ List.mem_cons_self

theorem issues_iff {table : Table} (hticks : 1 ≤ setting.timeoutTicks) {id : KeepAliveId} :
    scene.Issues table setting id ↔ scene.session.inbox = [] ∧
      setting.timeoutTicks ≤ scene.ticked.session.idle ∧ scene.session.pingId = 0 ∧
        setting.drawn scene.session.issued = id := by
  rw [Session.pingId_eq_zero_iff]
  by_cases hinbox : scene.session.inbox = []
  · rw [Issues, drained_of_nil hinbox, and_iff_right hinbox]
    rfl
  · refine iff_of_false (fun hissues => ?_) (fun h => hinbox h.1)
    have hsilent := hissues.1
    rw [idle_drained_of_ne_nil hinbox] at hsilent
    omega

theorem issue_mem_since_iff (hp : scene.PlayerInPlay) (hticks : 1 ≤ setting.timeoutTicks)
    (move : Move) (id : Int32) (who : String) :
    .log (.keepAliveIssued id who) ∈ (scene.move (standard listing) setting move).since scene ↔
      move = .pulse ∧ scene.session.inbox = [] ∧
        setting.timeoutTicks ≤ scene.ticked.session.idle ∧ scene.session.pingId = 0 ∧
          id = (setting.drawn scene.session.issued).val ∧ who = setting.who := by
  by_cases hpulse : move = .pulse
  · subst hpulse
    rw [and_iff_right rfl]
    refine (issue_mem_since_pulse_iff hp).trans ⟨?_, ?_⟩
    · rintro ⟨drawn, hissues, hid, hwho⟩
      obtain ⟨hinbox, hsilent, hnone, rfl⟩ := (issues_iff hticks).mp hissues
      exact ⟨hinbox, hsilent, hnone, hid, hwho⟩
    · rintro ⟨hinbox, hsilent, hnone, hid, hwho⟩
      exact ⟨_, (issues_iff hticks).mpr ⟨hinbox, hsilent, hnone, rfl⟩, hid, hwho⟩
  · exact iff_of_false ((unissued_pace (pace_move hp hpulse)).not_mem id who) fun h => hpulse h.1

/-- A keepalive becomes outstanding when it is issued, which takes a pulse that finds no packet and a
client that has been silent for long enough and owes none, and it is so until its very id is echoed
in play. -/
theorem outstanding_tended (listing : Listing) (setting : Setting)
    (hticks : 1 ≤ setting.timeoutTicks) (world : World) (policy : Policy) (asked : Nat)
    (moves : List Move) :
    let start := begin world policy asked
    let run := start.run (standard listing) setting
    let course := start.course (standard listing) setting moves
    Way (Tends setting) start course (run moves) ∧
      (∀ stage ∈ start :: course, stage.session.pingId = owed stage.trace) ∧
      ∀ before move after, moves = before ++ move :: after → ∀ id who,
        .log (.keepAliveIssued id who) ∈ (run (before ++ [move])).since (run before) ↔
          move = .pulse ∧ (run before).session.inbox = [] ∧
            setting.timeoutTicks ≤ (run before).ticked.session.idle ∧
            (run before).session.pingId = 0 ∧
            id = (setting.drawn (run before).session.issued).val ∧ who = setting.who := by
  intro start run course
  have hp : start.PlayerInPlay := playerInPlay_begin world policy asked
  have hway : Way (Tends setting) start course (run moves) := (way_course hp moves).imp tends_leg
  refine ⟨hway, hway.preserves Tends.pingId_eq_owed rfl, fun before move after _ id who => ?_⟩
  have hnext : run (before ++ [move]) = (run before).move (standard listing) setting move :=
    run_append _ _ before [move]
  rw [hnext]
  exact issue_mem_since_iff (playerInPlay_run hp before) hticks move id who

/-- A client in play is sent a keepalive, and echoes others before it echoes that one, and that one
twice. -/
def manyEchoes : List Move :=
  [.receive (.handshake 4 "localhost" 25565 .login), .queue (.loginStart "Alice"), .pulse, .pulse,
    .pulse, .queue (.keepAlive 0), .queue (.keepAlive 2), .queue (.keepAlive 1),
    .queue (.keepAlive 1), .pulse]

theorem outstanding_tended_manyEchoes :
    let start := begin (World.create "world") Policy.console 0
    let run := start.run (standard .default) hasty
    let course := start.course (standard .default) hasty manyEchoes
    1 ≤ hasty.timeoutTicks ∧ (run (manyEchoes.take 5)).session.pingId = 1 ∧
      (run manyEchoes).session.pingId = 0 ∧
      Way (Tends hasty) start course (run manyEchoes) ∧
      (∀ stage ∈ start :: course, stage.session.pingId = owed stage.trace) ∧
      ∀ before move after, manyEchoes = before ++ move :: after → ∀ id who,
        .log (.keepAliveIssued id who) ∈ (run (before ++ [move])).since (run before) ↔
          move = .pulse ∧ (run before).session.inbox = [] ∧
            hasty.timeoutTicks ≤ (run before).ticked.session.idle ∧
            (run before).session.pingId = 0 ∧
            id = (hasty.drawn (run before).session.issued).val ∧ who = hasty.who :=
  have hticks : 1 ≤ hasty.timeoutTicks := by decide
  ⟨hticks, by decide, by decide, outstanding_tended .default hasty hticks _ _ _ manyEchoes⟩

end Scene
end GameServer
