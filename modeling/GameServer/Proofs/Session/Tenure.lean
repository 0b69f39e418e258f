import GameServer.Proofs.Session.Run

/-! The tenure of a player, from the moment a session is given it to the moment the session parts
with it. However a session is used, its trace is one tenure after the other: each ends with the
player being removed and the owner being asked about the leave, and is told of at most once. -/

namespace GameServer

open Service

/-- What a tenure leaves in the trace of a session. -/
inductive Landmark
  | attached (player : Player)
  | left (player : Player)
  | quit (name : String)
  | farewell (text : String)
  deriving DecidableEq

namespace Event

def text? : Event → Option String
  | .broadcast text => some text
  | _ => none

def texts (events : List Event) : List String := events.filterMap text?

@[simp] theorem texts_append (events more : List Event) :
    texts (events ++ more) = texts events ++ texts more := List.filterMap_append

@[simp] theorem texts_cons (event : Event) (events : List Event) :
    texts (event :: events) = event.text?.toList ++ texts events := by
  cases h : event.text? <;> simp [texts, h]

@[simp] theorem texts_logs (notices : List Notice) : texts (notices.map .log) = [] := by
  simp [texts, text?]

/-- Something is to be said that tells of no leave: a chat message, or that a player has joined. -/
def asksToSpeak : Event → Bool
  | .took _ (.chat _) | .asked (.join _) => true
  | _ => false

/-- Whatever is said tells of a leave, unless it directly follows what asked for something else. -/
def landmark? (speaking : Bool) : Event → Option Landmark
  | .attached player => some (.attached player)
  | .left player => some (.left player)
  | .asked (.quit name) => some (.quit name)
  | .broadcast text => if speaking then none else some (.farewell text)
  | _ => none

def landmarks : (speaking : Bool) → List Event → List Landmark
  | _, [] => []
  | speaking, event :: rest =>
    (event.landmark? speaking).toList ++ landmarks event.asksToSpeak rest

/-- Nobody comes or goes, and nobody is told of it. What is said is said behind something else that
happens here, and so does not depend on what happened before. -/
def Passing (events : List Event) : Prop :=
  landmarks false events = [] ∧ ∀ text, events.head? ≠ some (.broadcast text)

variable {events more : List Event}

theorem landmarks_of_head (h : ∀ text, events.head? ≠ some (.broadcast text)) (speaking : Bool) :
    landmarks speaking events = landmarks false events := by
  cases events with
  | nil => rfl
  | cons event events =>
    have hevent : event.landmark? speaking = event.landmark? false := by
      cases event with
      | broadcast text => exact absurd rfl (h text)
      | asked question => cases question <;> rfl
      | _ => rfl
    rw [landmarks, landmarks, hevent]

theorem landmarks_append (h : ∀ text, more.head? ≠ some (.broadcast text)) (speaking : Bool) :
    landmarks speaking (events ++ more) = landmarks speaking events ++ landmarks false more := by
  induction events generalizing speaking with
  | nil => exact landmarks_of_head h speaking
  | cons event events ih => rw [List.cons_append, landmarks, landmarks, ih, List.append_assoc]

theorem landmarks_logs_append (notices : List Notice) :
    landmarks false (notices.map .log ++ more) = landmarks false more := by
  induction notices with
  | nil => rfl
  | cons notice notices ih => exact ih

end Event

open Event

structure Tenure where
  player : Player
  kicked : Bool
  message : Option String
  message_ne : ∀ text ∈ message, text ≠ ""

namespace Tenure

/-- A kick is told of before the player is removed, a leave of its own accord after that. -/
def departure (tenure : Tenure) : List Landmark :=
  let told := tenure.message.toList.map .farewell
  let gone := [.left tenure.player, .quit tenure.player.name]
  if tenure.kicked then told ++ gone else gone ++ told

def landmarks (tenure : Tenure) : List Landmark := .attached tenure.player :: tenure.departure

end Tenure

namespace Scene

/-- An empty message is none. -/
def worded (message : Option String) : Option String := message.filter fun text => !text.isEmpty

theorem worded_ne {message : Option String} : ∀ text ∈ worded message, text ≠ "" := by
  intro text ht
  obtain ⟨-, hne⟩ := Option.filter_eq_some_iff.mp ht
  rintro rfl
  simp at hne

/-- What a broadcast adds to the trace. -/
def spoken (scene : Scene) (text : String) : List Event :=
  .broadcast text :: if scene.policy.echoes then [.log (.broadcast text)] else []

/-- What an announcement adds to the trace. -/
def told (scene : Scene) (message : Option String) : List Event :=
  match worded message with
  | none => []
  | some text => scene.spoken text

variable (scene : Scene)

theorem broadcast_eq (text : String) :
    scene.broadcast text = { scene with trace := scene.trace ++ scene.spoken text } := by
  by_cases hechoes : scene.policy.echoes
  · simp [broadcast, spoken, note, record, hechoes]
  · simp [broadcast, spoken, record, hechoes]

theorem announce_eq (message : Option String) :
    scene.announce message = { scene with trace := scene.trace ++ scene.told message } := by
  cases message with
  | none => simp [announce, told, worded]
  | some text =>
    by_cases hempty : text.isEmpty
    · simp [announce, told, worded, Option.filter, hempty]
    · simp [announce, told, worded, Option.filter, hempty, broadcast_eq]

theorem texts_spoken (text : String) : texts (scene.spoken text) = [text] := by
  unfold spoken
  split <;> rfl

theorem texts_told (message : Option String) :
    texts (scene.told message) = (worded message).toList := by
  unfold told
  cases worded message with
  | none => rfl
  | some text => exact scene.texts_spoken text

/-- An answer tells of no leave. -/
theorem landmarks_spoken (text : String) : landmarks true (scene.spoken text) = [] := by
  unfold spoken
  split <;> rfl

theorem landmarks_told_of_asked (message : Option String) :
    landmarks true (scene.told message) = [] := by
  unfold told
  cases worded message with
  | none => rfl
  | some text => exact scene.landmarks_spoken text

theorem landmarks_told_append (message : Option String) (more : List Event) :
    landmarks false (scene.told message ++ more) =
      (worded message).toList.map .farewell ++ landmarks false more := by
  unfold told
  cases worded message with
  | none => rfl
  | some text =>
    dsimp only [spoken]
    cases scene.policy.echoes <;> rfl

theorem landmarks_told (message : Option String) :
    landmarks false (scene.told message) = (worded message).toList.map .farewell := by
  have happend := scene.landmarks_told_append message []
  simpa only [List.append_nil, landmarks] using happend

@[simp] theorem texts_parting (phase : Phase) (reason : String) :
    texts (parting phase reason) = [] := by
  unfold parting
  split <;> rfl

theorem passing_parting (phase : Phase) (reason : String) : Passing (parting phase reason) := by
  unfold parting
  split <;> exact ⟨rfl, by simp⟩

/-- What the others are told by what is added to the trace. -/
def Tells (scene after : Scene) (said : List String) : Prop :=
  ∃ new, after.trace = scene.trace ++ new ∧ texts new = said

/-- The events that are added do not begin with a broadcast, and hold these landmarks. -/
def Marks (scene after : Scene) (marks : List Landmark) : Prop :=
  ∃ new, after.trace = scene.trace ++ new ∧ (∀ text, new.head? ≠ some (.broadcast text)) ∧
    landmarks false new = marks

variable {scene} {after : Scene}

theorem Marks.landmarks_eq {marks : List Landmark} (h : Marks scene after marks) :
    landmarks false after.trace = landmarks false scene.trace ++ marks := by
  obtain ⟨new, ht, hhead, hmarks⟩ := h
  rw [ht, landmarks_append hhead, hmarks]

theorem marks_of_passing {new : List Event} (ht : after.trace = scene.trace ++ new)
    (h : Passing new) : Marks scene after [] := ⟨new, ht, h.2, h.1⟩

theorem attach_of_some {player other : Player} (h : scene.session.player = some other) :
    scene.attach player = .error .playerAlreadyAttached := by
  simp [attach, h]

theorem told_of_policy (h : after.policy = scene.policy) (message : Option String) :
    after.told message = scene.told message := by
  simp only [told, spoken, h]

theorem player_eq_none_of_attach {player : Player} (h : scene.attach player = .ok after) :
    scene.session.player = none := by
  cases hplayer : scene.session.player with
  | none => rfl
  | some other => cases (attach_of_some hplayer).symm.trans h

theorem attach_of_denied {player : Player} {reason : String} (h : scene.attach player = .ok after)
    (hverdict : scene.policy.login scene.asked player.name = .denied reason) :
    after.session.player = some player ∧
      after.trace = scene.trace ++ .attached player :: .asked (.login player.name) ::
        .log (.loginRefused player.name reason) :: parting scene.session.phase reason := by
  rw [attach_of_none (player_eq_none_of_attach h), hverdict] at h
  obtain rfl := Except.ok.inj h
  dsimp only
  rw [sendAway_eq]
  exact ⟨rfl, by simp [note, record, present]⟩

theorem exists_attach_of_allowed {player : Player} (h : scene.attach player = .ok after)
    (hverdict : scene.policy.login scene.asked player.name = .allowed) :
    ∃ notices : List Notice, after.session.player = some player ∧
      after.trace = scene.trace ++ .attached player :: .asked (.login player.name) ::
        .entered player :: (notices.map .log ++ .asked (.join player.name) ::
          scene.told (scene.policy.join (scene.asked + 1) player.name)) := by
  rw [attach_of_none (player_eq_none_of_attach h), hverdict] at h
  obtain rfl := Except.ok.inj h
  let joined := ((scene.present player).enterWorld player).ask (.join player.name)
  have hpolicy : joined.policy = scene.policy := policy_enterWorld _ _
  have hpresent : (scene.present player).trace =
      scene.trace ++ [.attached player, .asked (.login player.name)] := rfl
  obtain ⟨notices, hentered⟩ := trace_enterWorld (scene.present player) player
  dsimp only
  rw [announce_eq, told_of_policy hpolicy]
  refine ⟨notices, congrArg Session.player (session_enterWorld _ _), ?_⟩
  simp [ask, record, hentered, hpresent]

theorem marks_attach {player : Player} (h : scene.attach player = .ok after) :
    after.session.player = some player ∧ Marks scene after [.attached player] := by
  cases hverdict : scene.policy.login scene.asked player.name with
  | denied reason =>
    obtain ⟨hplayer, ht⟩ := attach_of_denied h hverdict
    refine ⟨hplayer, _, ht, by simp, ?_⟩
    simp [landmarks, landmark?, asksToSpeak, (passing_parting scene.session.phase reason).1]
  | allowed =>
    obtain ⟨notices, hplayer, ht⟩ := exists_attach_of_allowed h hverdict
    refine ⟨hplayer, _, ht, by simp, ?_⟩
    simp [landmarks, landmark?, asksToSpeak, landmarks_logs_append, landmarks_told_of_asked]

theorem exists_dispose {player : Player} (h : scene.session.player = some player) (tell : Bool) :
    ∃ (world : World) (notices : List Notice), scene.dispose tell = { scene with
      session := { scene.session with player := none }
      world
      asked := scene.asked + 1
      trace := scene.trace ++ .left player :: (notices.map .log ++ .asked (.quit player.name) ::
        scene.told (if tell then scene.policy.quit scene.asked player.name else none)) } := by
  obtain ⟨world, notices, hleft⟩ :=
    exists_leaveWorld { scene with session := { scene.session with player := none } } player
  refine ⟨world, notices, ?_⟩
  simp only [dispose, h, hleft]
  cases tell with
  | false => simp [ask, record, told, worded]
  | true => simp [announce_eq, ask, record, told, spoken]

theorem landmarks_dispose (player : Player) (notices : List Notice) (events : List Event) :
    landmarks false (.left player :: (notices.map .log ++ .asked (.quit player.name) :: events)) =
      .left player :: .quit player.name :: landmarks false events := by
  simp [landmarks, landmark?, asksToSpeak, landmarks_logs_append]

theorem marks_dispose {player : Player} (h : scene.session.player = some player) (tell : Bool) :
    ∃ tenure : Tenure, tenure.player = player ∧
      Marks scene (scene.dispose tell) tenure.departure := by
  obtain ⟨world, notices, he⟩ := exists_dispose h tell
  let message := if tell then scene.policy.quit scene.asked player.name else none
  refine ⟨⟨player, false, worded message, worded_ne⟩, rfl, _, congrArg Scene.trace he, by simp, ?_⟩
  rw [landmarks_dispose, landmarks_told]
  rfl

/-- A kick that is called off changes nothing but the trace, and adds nothing to it that others are
told or that reaches the client. -/
theorem disconnect_of_cancelled {player : Player} {reason : String}
    (h : scene.session.player = some player)
    (hverdict : scene.policy.kick scene.asked player.name reason = .cancelled) :
    scene.disconnect reason = { scene with
      asked := scene.asked + 1
      trace := scene.trace ++ [.asked (.kick player.name reason), .log (.kickCancelled player.name)] } := by
  simp [Scene.disconnect, disconnectWith, h, hverdict, note, ask, record]

theorem exists_disconnect_of_proceed {player : Player} {reason given : String}
    {leave : Option String} (h : scene.session.player = some player)
    (hverdict : scene.policy.kick scene.asked player.name reason = .proceed given leave) :
    ∃ (world : World) (notices : List Notice), scene.disconnect reason = { scene with
      session := { scene.session with player := none }
      world
      asked := scene.asked + 2
      trace := scene.trace ++ .asked (.kick player.name reason) :: (scene.told leave ++
        .log (.kicked player.name given) :: .left player :: (notices.map .log ++
          .asked (.quit player.name) :: parting scene.session.phase given)) } := by
  let kicked : Scene := { scene with
    asked := scene.asked + 1
    trace := scene.trace ++ .asked (.kick player.name reason) ::
      (scene.told leave ++ [.log (.kicked player.name given)]) }
  have hplayer : kicked.session.player = some player := h
  obtain ⟨world, notices, he⟩ := exists_dispose hplayer false
  have hdisconnect : scene.disconnect reason = (kicked.dispose false).sendAway given := by
    simp [Scene.disconnect, disconnectWith, h, hverdict, kicked, announce_eq, note, ask, record,
      told, spoken]
  refine ⟨world, notices, ?_⟩
  rw [hdisconnect, he, sendAway_eq]
  simp [kicked, told, worded]

/-- The owner is asked about a disconnect if it is not forced and there is a player. -/
theorem unasked_or_asked (scene : Scene) (force : Bool) :
    (force = true ∨ scene.session.player = none) ∨
      (force = false ∧ ∃ player, scene.session.player = some player) := by
  cases force with
  | true => exact .inl (.inl rfl)
  | false =>
    cases hplayer : scene.session.player with
    | none => exact .inl (.inr rfl)
    | some player => exact .inr ⟨rfl, player, rfl⟩

theorem disconnectWith_of_unasked {force : Bool} {reason : String}
    (h : force = true ∨ scene.session.player = none) :
    scene.disconnectWith reason force = scene.sendAway reason := by
  rcases h with rfl | h
  · simp only [disconnectWith]
  · cases force <;> simp only [disconnectWith, h]

theorem marks_disconnect_of_proceed {player : Player} {reason given : String}
    {leave : Option String} (h : scene.session.player = some player)
    (hverdict : scene.policy.kick scene.asked player.name reason = .proceed given leave) :
    (scene.disconnect reason).session.player = none ∧ ∃ tenure : Tenure, tenure.player = player ∧
      Marks scene (scene.disconnect reason) tenure.departure := by
  obtain ⟨world, notices, he⟩ := exists_disconnect_of_proceed h hverdict
  have hparting := passing_parting scene.session.phase given
  have hquit := landmarks_dispose player notices (parting scene.session.phase given)
  rw [hparting.1] at hquit
  refine ⟨by rw [he], ⟨player, true, worded leave, worded_ne⟩, rfl, _, congrArg Scene.trace he,
    by simp, ?_⟩
  change landmarks false (scene.told leave ++ _) = _
  rw [landmarks_told_append]
  exact congrArg (_ ++ ·) hquit

end Scene

/-- What is done to a session, as far as its players go. -/
inductive Deed (scene : Scene) : Scene → Prop
  | passed (after : Scene) (new : List Event)
      (hplayer : after.session.player = scene.session.player)
      (ht : after.trace = scene.trace ++ new) (h : Passing new) : Deed scene after
  | attached (player : Player) (after : Scene) (h : scene.attach player = .ok after) :
      Deed scene after
  | disconnected (reason : String) (force : Bool) : Deed scene (scene.disconnectWith reason force)
  | disposed (tell : Bool) : Deed scene (scene.dispose tell)

abbrev Deeds := Relation.ReflTransGen Deed

open Scene

/-- The trace of the session is one tenure after the other, and ends with the one that lasts. -/
def Scene.Kept (scene : Scene) : Prop :=
  ∃ tenures : List Tenure, landmarks false scene.trace =
    tenures.flatMap Tenure.landmarks ++ (scene.session.player.map .attached).toList

variable {scene after : Scene}

theorem Scene.Kept.stay (h : scene.Kept) (hplayer : after.session.player = scene.session.player)
    (hmarks : Marks scene after []) : after.Kept := by
  obtain ⟨tenures, ht⟩ := h
  exact ⟨tenures, by rw [hmarks.landmarks_eq, ht, List.append_nil, hplayer]⟩

theorem Scene.Kept.attach (h : scene.Kept) {player : Player} (hnone : scene.session.player = none)
    (hplayer : after.session.player = some player) (hmarks : Marks scene after [.attached player]) :
    after.Kept := by
  obtain ⟨tenures, ht⟩ := h
  exact ⟨tenures, by rw [hmarks.landmarks_eq, ht, hnone, hplayer]; simp⟩

theorem Scene.Kept.part (h : scene.Kept) {tenure : Tenure}
    (hsome : scene.session.player = some tenure.player) (hnone : after.session.player = none)
    (hmarks : Marks scene after tenure.departure) : after.Kept := by
  obtain ⟨tenures, ht⟩ := h
  refine ⟨tenures ++ [tenure], ?_⟩
  rw [hmarks.landmarks_eq, ht, hsome, hnone]
  simp [Tenure.landmarks]

theorem Deed.kept (hd : Deed scene after) (h : scene.Kept) : after.Kept := by
  cases hd with
  | passed _ new hplayer ht hnew => exact h.stay hplayer (marks_of_passing ht hnew)
  | attached player _ hattach =>
    obtain ⟨hplayer, hmarks⟩ := marks_attach hattach
    exact h.attach (player_eq_none_of_attach hattach) hplayer hmarks
  | disconnected reason force =>
    rcases scene.unasked_or_asked force with hunasked | ⟨rfl, player, hplayer⟩
    · rw [disconnectWith_of_unasked hunasked, sendAway_eq]
      exact h.stay rfl (marks_of_passing rfl (passing_parting _ reason))
    · change (scene.disconnect reason).Kept
      cases hverdict : scene.policy.kick scene.asked player.name reason with
      | cancelled =>
        rw [disconnect_of_cancelled hplayer hverdict]
        exact h.stay rfl ⟨_, rfl, by simp, rfl⟩
      | proceed given leave =>
        obtain ⟨hnone, tenure, rfl, hmarks⟩ := marks_disconnect_of_proceed hplayer hverdict
        exact h.part hplayer hnone hmarks
  | disposed tell =>
    cases hplayer : scene.session.player with
    | none =>
      rwa [scene.dispose_of_none hplayer]
    | some player =>
      obtain ⟨tenure, rfl, hmarks⟩ := marks_dispose hplayer tell
      exact h.part hplayer (player_dispose scene tell) hmarks

theorem Deeds.kept (hd : Deeds scene after) (h : scene.Kept) : after.Kept := by
  induction hd with
  | refl => exact h
  | tail _ hdeed ih => exact hdeed.kept ih

end GameServer
