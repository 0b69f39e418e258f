import GameServer.Proofs.Server.Ledger
import GameServer.Proofs.Session.Beat

/-! Whatever a session does, it leaves the books of its server balanced. -/

namespace GameServer

open Service Scene

/-- The books of the server while one session acts. `others` are the players of the other
sessions, and `past` is what had happened before. -/
def Scene.ledger (scene : Scene) (key : Key) (others : Key → Option Player) (past : History) :
    Ledger where
  player other := if other = key then scene.session.player else others other
  world := scene.world
  asked := scene.asked
  history := past ++ .of key scene.trace

/-- The books balance, unless so many players have come that their numbers ran out. -/
def Ledger.Sound (ledger : Ledger) (policy : Policy) (listing : Listing) (bound : Nat)
    (keys : List Key) : Prop :=
  ledger.history.logins < 2 ^ 32 → ledger.Balanced policy listing bound keys

variable {listing : Listing} {setting : Setting} {policy : Policy} {bound : Nat} {keys : List Key}
  {key : Key} {others : Key → Option Player} {past : History} {scene after : Scene}

theorem Beat.policy_eq (h : Beat listing setting scene after) : after.policy = scene.policy := by
  cases h with
  | parted => exact policy_leaveWorld _ _
  | sentAway reason => rw [sendAway_eq]
  | admitted name => exact policy_enterWorld _ _
  | _ => rfl

theorem Ledger.Sound.extend (h : (scene.ledger key others past).Sound policy listing bound keys)
    (new : List Event) (ht : after.trace = scene.trace ++ new)
    (hp : after.session.player = scene.session.player) (hw : after.world = scene.world)
    (hq : after.asked = scene.asked + new.countP Event.isQuestion)
    (hn : ∀ player, .attached player ∉ new)
    (hr : ∀ json, .write (.statusResponse json) ∈ new → (scene.ledger key others past).Balanced
      policy listing bound keys → ∃ online ≤ bound, json = (listing.json online).render) :
    (after.ledger key others past).Sound policy listing bound keys := by
  have hledger : after.ledger key others past = { scene.ledger key others past with
      asked := (scene.ledger key others past).asked + (History.of key new).questions
      history := (scene.ledger key others past).history ++ .of key new } := by
    simp only [Scene.ledger, hp, hw, hq, ht, History.questions_of, History.of_append,
      List.append_assoc]
  rw [hledger]
  intro hl
  rw [History.logins_append] at hl
  have hb := h (by omega)
  refine hb.extend ?_ ?_
  · intro other player hm
    exact hn player (History.mem_of.mp hm).2
  · intro other json hm
    exact hr json (History.mem_of.mp hm).2 hb

theorem Ledger.Sound.record (h : (scene.ledger key others past).Sound policy listing bound keys)
    (event : Event) (hn : ∀ player, event ≠ .attached player)
    (hq : event.isQuestion = false) (hr : ∀ json, event ≠ .write (.statusResponse json)) :
    ((scene.record event).ledger key others past).Sound policy listing bound keys := by
  refine h.extend [event] rfl rfl rfl (by simp [hq, Scene.record]) ?_ ?_
  · intro player hm
    exact hn player (List.mem_singleton.mp hm).symm
  · intro json hm
    exact (hr json (List.mem_singleton.mp hm).symm).elim

theorem Scene.logins_ledger_le (h : scene.trace <+: after.trace) :
    (scene.ledger key others past).history.logins ≤
      (after.ledger key others past).history.logins := by
  obtain ⟨new, ht⟩ := h
  simp only [Scene.ledger, ← ht, History.of_append, History.logins_append]
  omega

theorem Ledger.Sound.part (h : (scene.ledger key others past).Sound policy listing bound keys)
    {player : Player} (hplayer : scene.session.player = some player) :
    (({ scene with session := { scene.session with player := none } }.leaveWorld player).ledger
      key others past).Sound policy listing bound keys := by
  obtain ⟨notices, ht⟩ :=
    trace_leaveWorld { scene with session := { scene.session with player := none } } player
  intro hl
  have hb := h (Nat.lt_of_le_of_lt (logins_ledger_le ⟨_, ht.symm⟩) hl)
  have hseat : (scene.ledger key others past).player key = some player :=
    (if_pos rfl).trans hplayer
  obtain ⟨entity, n, rfl, -⟩ := hb.native key player (hb.seated key player hseat).2
  have hgone : ({ scene with
      session := { scene.session with player := none }
      world := scene.world.leave entity.id }.ledger key others past).Sound
        policy listing bound keys := by
    intro _
    have hledger : ({ scene with
        session := { scene.session with player := none }
        world := scene.world.leave entity.id }.ledger key others past) =
          { scene.ledger key others past with
            player := fun other =>
              if other = key then none else (scene.ledger key others past).player other
            world := (scene.ledger key others past).world.leave entity.id } := by
      simp only [Scene.ledger, Ledger.mk.injEq, and_true]
      funext other
      split <;> rfl
    rw [hledger]
    exact hb.part hseat
  refine hgone.extend _ ht ?_ ?_ ?_ ?_ ?_ hl
  · simp
  · exact world_leaveWorld _ entity
  · simp [Event.isQuestion, Function.comp_def]
  · simp
  · simp

theorem Ledger.Sound.host (h : (scene.ledger key others past).Sound policy listing bound keys)
    {name : String} (hadmits : scene.Admits (.loginStart name)) {world : World}
    (hworld : ∀ ledger : Ledger, ledger.world = scene.world → ledger.asked = scene.asked →
      ledger.player key = none → ledger.history.logins + 1 < 2 ^ 32 →
      ledger.Balanced policy listing bound keys →
        (ledger.hosted key name world).Balanced policy listing bound keys) :
    ({ scene.host setting name with world }.ledger key others past).Sound
      policy listing bound keys := by
  -- The books as they are just before the player is attached.
  obtain ⟨taken, ht⟩ : ∃ taken : List Event, taken = [.took .login (.loginStart name),
    .log (.moved setting.who .login .play), .write (.loginSuccess name)] := ⟨_, rfl⟩
  have hnone : scene.session.player = none := hadmits.2.1
  have htaken : ({ scene with trace := scene.trace ++ taken }.ledger key others past).Sound
      policy listing bound keys :=
    h.extend taken rfl rfl rfl (by simp [ht, Event.isQuestion]) (by simp [ht]) (by simp [ht])
  have hledger : { scene.host setting name with world }.ledger key others past =
      ({ scene with trace := scene.trace ++ taken }.ledger key others past).hosted
        key name world := by
    simp only [Scene.ledger, Ledger.hosted, Ledger.mk.injEq, true_and]
    refine ⟨?_, rfl, ?_⟩
    · funext other
      split <;> rfl
    · rw [ht]
      simp [Scene.host, greet, present, History.of, History.attachment, newcomer]
  rw [hledger]
  intro hl
  simp only [Ledger.hosted, History.logins_append] at hl
  have hattached : (History.attachment key (.native (scene.world.spawn name).1)).logins = 1 := rfl
  refine hworld _ rfl rfl ((if_pos rfl).trans hnone) ?_ (htaken ?_)
  · exact hattached ▸ hl
  · omega

theorem Beat.sound_ledger (hb : Beat listing setting scene after) (hpolicy : scene.policy = policy)
    (hk : key ∈ keys) (hroom : keys.length ≤ bound)
    (h : (scene.ledger key others past).Sound policy listing bound keys) :
    (after.ledger key others past).Sound policy listing bound keys := by
  cases hb with
  | noted notice => exact h.record (.log notice) nofun rfl nofun
  | broadcast text => exact h.record (.broadcast text) nofun rfl nofun
  | adjusted session hphase hplayer =>
    exact h.extend [] (List.append_nil _).symm hplayer rfl rfl nofun nofun
  | took packet => exact h.record (.took scene.session.phase packet) nofun rfl nofun
  | opened => exact h
  | reported =>
    refine h.extend [_] rfl rfl rfl rfl (by simp) ?_
    intro json hm hbalanced
    obtain rfl : json = (listing.json scene.world.online).render := by simpa using hm
    exact ⟨scene.world.online, Nat.le_trans hbalanced.online_le hroom, rfl⟩
  | echoed time =>
    have hw := h.record (.write (.ping time)) nofun rfl nofun
    exact hw.record .close nofun rfl nofun
  | probed id => exact h.record (.write (.keepAlive id.val)) nofun rfl nofun
  | kickAsked name reason =>
    exact h.extend [.asked (.kick name reason)] rfl rfl rfl rfl (by simp) (by simp)
  | quitAsked name => exact h.extend [.asked (.quit name)] rfl rfl rfl rfl (by simp) (by simp)
  | parted player hplayer => exact h.part hplayer
  | sentAway reason =>
    rw [sendAway_eq]
    refine h.extend (parting scene.session.phase reason) rfl rfl rfl ?_ ?_ ?_
    all_goals
      unfold parting
      split <;> simp [Event.isQuestion, Packet.farewell]
  | refused name reason hadmits hverdict =>
    have hhost : ({ scene.host setting name with world := (scene.world.spawn name).2 }.ledger
        key others past).Sound policy listing bound keys := by
      refine h.host hadmits ?_
      intro ledger hw ha hnone hl hb
      rw [← hw]
      rw [← ha, hpolicy] at hverdict
      exact hb.refuse hk hnone hadmits.2.2 hl hverdict
    exact hhost
  | admitted name hadmits hverdict =>
    have hhost : ({ scene.host setting name with
        world := (scene.world.spawn name).2.enter (scene.world.spawn name).1 }.ledger
          key others past).Sound policy listing bound keys := by
      refine h.host hadmits ?_
      intro ledger hw ha hnone hl hb
      rw [← hw]
      rw [← ha, hpolicy] at hverdict
      exact hb.admit hk hnone hadmits.2.2 hl hverdict
    obtain ⟨notices, ht⟩ := trace_enterWorld (scene.host setting name) (scene.newcomer name)
    refine hhost.extend (.entered (scene.newcomer name) :: notices.map .log ++ [.asked (.join name)])
      ?_ ?_ rfl ?_ ?_ ?_
    · simp [ask, Scene.record, ht]
    · exact congrArg Session.player (session_enterWorld _ _)
    · simp [ask, Scene.record, Event.isQuestion, Function.comp_def]
    · simp
    · simp

theorem Beats.sound_ledger (hb : Beats listing setting scene after)
    (hpolicy : scene.policy = policy) (hk : key ∈ keys) (hroom : keys.length ≤ bound)
    (h : (scene.ledger key others past).Sound policy listing bound keys) :
    after.policy = policy ∧ (after.ledger key others past).Sound policy listing bound keys := by
  induction hb with
  | refl => exact ⟨hpolicy, h⟩
  | tail _ hbeat ih =>
    exact ⟨hbeat.policy_eq.trans ih.1, hbeat.sound_ledger ih.1 hk hroom ih.2⟩

end GameServer
