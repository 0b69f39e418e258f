import GameServer.Proofs.Session.Run
import GameServer.Server.Config

/-! Logins of clients that have been sent away. The connection is told to close, but packets that
have been read already are still taken up, and one that logs in does so. -/

namespace GameServer

open Service

namespace Event

/-- The session gets a player, or somebody is asked about the player or told of it. -/
def isLogin : Event → Bool
  | .attached _ | .entered _ | .asked (.login _) | .asked (.join _) => true
  | _ => false

/-- A packet is taken up that logs in. -/
def isAdmission : Event → Bool
  | .took .login (.loginStart name) => isValidName name
  | _ => false

/-- A login comes with the packet that asks for it, and no closing comes between them. -/
def Whole (events : List Event) : Prop :=
  (∀ event ∈ events, event.isLogin = false ∧ event.isAdmission = false) ∨
    ((∃ event ∈ events, event.isLogin) ∧ (∃ event ∈ events, event.isAdmission) ∧
      ∀ event ∈ events, event.isClosing = false)

/-- Behind every closing, the packets that log in come with their logins. -/
def Paired (trace : List Event) : Prop :=
  ∀ before closing after, trace = before ++ closing :: after → closing.isClosing →
    ((∃ event ∈ after, event.isLogin) ↔ ∃ event ∈ after, event.isAdmission)

theorem Whole.iff {events : List Event} (h : Whole events) :
    (∃ event ∈ events, event.isLogin) ↔ ∃ event ∈ events, event.isAdmission := by
  rcases h with h | ⟨hl, ha, -⟩
  · constructor
    · rintro ⟨event, he, hl⟩
      simp [(h event he).1] at hl
    · rintro ⟨event, he, ha⟩
      simp [(h event he).2] at ha
  · exact ⟨fun _ => ha, fun _ => hl⟩

theorem Whole.of_login {events : List Event} (player : Player) {name : String}
    (hplayer : .attached player ∈ events) (htaken : .took .login (.loginStart name) ∈ events)
    (hname : isValidName name) (hclosing : ∀ event ∈ events, event.isClosing = false) :
    Whole events := by
  have hlogin : ∃ event ∈ events, event.isLogin := ⟨.attached player, hplayer, rfl⟩
  have hadmission : ∃ event ∈ events, event.isAdmission := ⟨_, htaken, hname⟩
  exact .inr ⟨hlogin, hadmission, hclosing⟩

theorem Whole.paired {events : List Event} (h : Whole events) : Paired events := by
  rintro before closing after rfl hc
  rcases h with h | ⟨-, -, h⟩
  · have hafter : Whole after := .inl fun event he => h event (by simp [he])
    exact hafter.iff
  · cases hc.symm.trans (h closing (by simp))

theorem Paired.append {trace new : List Event} (ht : Paired trace) (hn : Whole new) :
    Paired (trace ++ new) := by
  intro before closing after h hc
  rcases List.append_eq_append_iff.mp h with ⟨between, -, hb⟩ | ⟨behind, hb, ha⟩
  · exact hn.paired between closing after hb hc
  · cases behind with
    | nil => exact hn.paired [] closing after (by simpa using ha.symm) hc
    | cons event behind =>
      rw [List.cons_append] at ha
      obtain ⟨rfl, rfl⟩ := List.cons.inj ha
      have hw := ht before closing behind hb hc
      simp only [List.mem_append, or_and_right, exists_or, hw, hn.iff]

end Event

open Event Scene

variable {listing : Listing} {setting : Setting}

theorem Event.isAdmission_took_of_not_admits {scene : Scene} {packet : Packet}
    (hp : scene.PlayerInPlay) (hn : ¬ scene.Admits packet) :
    (Event.took scene.session.phase packet).isAdmission = false := by
  refine Bool.eq_false_iff.mpr fun ha => ?_
  unfold isAdmission at ha
  split at ha
  · rename_i name he
    obtain ⟨hphase, rfl⟩ := Event.took.inj he
    have hnone : scene.session.player = none := hp.player_eq_none (by simp [hphase])
    exact hn ⟨hphase, hnone, ha⟩
  · cases ha

theorem Beat.exists_whole {scene after : Scene} (hp : scene.PlayerInPlay)
    (h : Beat listing setting scene after) :
    ∃ new, after.trace = scene.trace ++ new ∧ Whole new := by
  cases h with
  | adjusted | opened => exact ⟨[], (List.append_nil _).symm, .inl nofun⟩
  | took packet hn =>
    have ha := isAdmission_took_of_not_admits hp hn
    exact ⟨[_], rfl, .inl (by simp [isLogin, ha])⟩
  | echoed time =>
    have hw : Whole [.write (.ping time), .close] := .inl (by simp [isLogin, isAdmission])
    exact ⟨_, List.append_assoc _ _ _, hw⟩
  | parted player =>
    obtain ⟨notices, ht⟩ := Scene.trace_leaveWorld
      { scene with session := { scene.session with player := none } } player
    exact ⟨_, ht, .inl (by simp [isLogin, isAdmission])⟩
  | sentAway reason =>
    have ht := congrArg Scene.trace (sendAway_eq scene reason)
    refine ⟨parting scene.session.phase reason, ht, .inl ?_⟩
    unfold parting
    split <;> simp [isLogin, isAdmission]
  | refused name reason hn =>
    refine ⟨_, scene.trace_host setting name, ?_⟩
    apply Whole.of_login (scene.newcomer name) (by simp) (by simp) hn.2.2
    simp [isClosing]
  | admitted name hn =>
    obtain ⟨notices, ht⟩ := scene.trace_admitted setting name
    refine ⟨_, ht.trans (List.append_assoc _ _ _), ?_⟩
    apply Whole.of_login (scene.newcomer name) (by simp) (by simp) hn.2.2
    intro event he
    simp only [List.mem_append, List.mem_cons, List.mem_map, List.not_mem_nil, or_false] at he
    rcases he with (rfl | rfl | rfl | rfl | rfl) | rfl | ⟨notice, -, rfl⟩ | rfl
    all_goals rfl
  | _ => exact ⟨[_], rfl, .inl (by simp [isLogin, isAdmission])⟩

/-- A client that is sent away still logs in exactly if a packet that does so is taken up later. -/
theorem Scene.login_after_closing_iff (listing : Listing) (setting : Setting) (world : World)
    (policy : Policy) (asked : Nat) (moves : List Move) {before after : List Event}
    {closing : Event} (hc : closing.isClosing)
    (h : ((begin world policy asked).run (standard listing) setting moves).trace =
      before ++ closing :: after) :
    (∃ event ∈ after, event.isLogin) ↔
      ∃ name, isValidName name ∧ .took .login (.loginStart name) ∈ after := by
  have hbeat : ∀ {a b : Scene}, a.PlayerInPlay → Beat listing setting a b →
      Paired a.trace → Paired b.trace := by
    intro a b hp hb ha
    obtain ⟨new, ht, hw⟩ := hb.exists_whole hp
    rw [ht]
    exact ha.append hw
  have hbegin : Paired (begin world policy asked).trace := by
    intro before closing after hn
    simp [begin] at hn
  have hpaired : Paired ((begin world policy asked).run (standard listing) setting moves).trace :=
    run_preserves hbeat (fun _ _ _ ha => ha) (playerInPlay_begin world policy asked) hbegin moves
  rw [hpaired before closing after h hc]
  constructor
  · rintro ⟨event, he, ha⟩
    unfold isAdmission at ha
    split at ha
    · rename_i name
      exact ⟨name, ha, he⟩
    · cases ha
  · rintro ⟨name, hname, he⟩
    exact ⟨_, he, hname⟩

def lateLogin : Scene :=
  (begin (World.create "world") Policy.console 0).run (standard .default)
    { address := none, timeoutTicks := defaultTimeoutTicks, drawn := fun _ => default, token := 0 }
    [.receive (.handshake 3 "localhost" 25565 .login), .queue (.loginStart "Late"), .pulse]

theorem lateLogin_trace :
    lateLogin.trace = lateLogin.trace.take 4 ++ .closeAfterWrite :: lateLogin.trace.drop 5 := by
  decide

theorem Scene.login_after_closing_iff_lateLogin :
    lateLogin.trace = lateLogin.trace.take 4 ++ .closeAfterWrite :: lateLogin.trace.drop 5 ∧
      ((∃ event ∈ lateLogin.trace.drop 5, event.isLogin) ↔ ∃ name, isValidName name ∧
        .took .login (.loginStart name) ∈ lateLogin.trace.drop 5) :=
  ⟨lateLogin_trace, login_after_closing_iff .default _ _ _ _ _ rfl lateLogin_trace⟩

/-- That a client was sent away does not keep it out. -/
theorem Scene.not_closing_final :
    ¬ ∀ (listing : Listing) (setting : Setting) (world : World) (policy : Policy) (asked : Nat)
      (moves : List Move) (before after : List Event) (closing : Event), closing.isClosing →
      ((begin world policy asked).run (standard listing) setting moves).trace =
        before ++ closing :: after → ∀ event ∈ after, ¬ event.isLogin := by
  intro h
  have hl := h .default _ _ _ _ _ _ _ _ rfl lateLogin_trace
  revert hl
  decide

end GameServer
