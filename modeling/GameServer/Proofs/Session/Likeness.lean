import GameServer.Proofs.Session.Run
import GameServer.Proofs.Session.Turn
import Mathlib.Data.List.Forall2

/-! Sessions that are alike in all that concerns themselves. They may have their players in
different worlds, and there may be others in these. If the owner's answers hang on nothing but what
is asked then they stay alike, whatever they do, as long as they do the same. -/

namespace GameServer

open Service

namespace Event

/-- Says nothing of how a world stands, nor of which entity a player is in it. -/
def isOpen : Event → Bool
  | .attached _ | .entered _ | .left _ | .log (.entered ..) | .log (.removed ..) => false
  | _ => true

/-- One and the same event, but for how many players a status says to be online. -/
def Same (listing : Listing) (event other : Event) : Prop :=
  event = other ∨ ∃ online online' : Nat,
    event = .write (.statusResponse (listing.json online).render) ∧
      other = .write (.statusResponse (listing.json online').render)

def Agree (listing : Listing) (events others : List Event) : Prop :=
  List.Forall₂ (Same listing) (events.filter isOpen) (others.filter isOpen)

variable {listing : Listing} {events others more more' : List Event}

theorem Agree.refl (events : List Event) : Agree listing events events :=
  List.forall₂_same.mpr fun _ _ => .inl rfl

theorem Agree.append (h : Agree listing events others) (h' : Agree listing more more') :
    Agree listing (events ++ more) (others ++ more') := by
  unfold Agree
  rw [List.filter_append, List.filter_append]
  exact List.rel_append h h'

theorem Agree.of_same {event other : Event} (h : Same listing event other) :
    Agree listing [event] [other] := by
  rcases h with rfl | ⟨online, online', rfl, rfl⟩
  · exact .refl _
  · exact .cons (.inr ⟨online, online', rfl, rfl⟩) .nil

theorem Agree.of_hidden (h : ∀ event ∈ events, event.isOpen = false)
    (h' : ∀ event ∈ others, event.isOpen = false) : Agree listing events others := by
  unfold Agree
  rw [List.filter_eq_nil_iff.mpr (by simpa using h), List.filter_eq_nil_iff.mpr (by simpa using h')]
  exact .nil

end Event

open Event

/-- What a session does itself. -/
def Move.isOwn : Move → Bool
  | .elsewhere .. => false
  | _ => true

/-- The session with no more than the name of its player. -/
def Session.veiled (session : Session) : Session :=
  { session with player := session.player.map fun player => .guest player.name }

namespace Scene

/-- Under one and the same owner, two sessions that are alike have done alike. -/
structure Like (listing : Listing) (policy : Policy) (scene other : Scene) : Prop where
  session : scene.session.veiled = other.session.veiled
  policy_eq : scene.policy = policy
  policy_eq' : other.policy = policy
  trace : Agree listing scene.trace other.trace

variable {listing : Listing} {policy : Policy} {setting : Setting} {scene other : Scene}

theorem Like.refl (h : scene.policy = policy) : Like listing policy scene scene :=
  ⟨rfl, h, h, .refl _⟩

namespace Like

/-! What the two have in common. -/

section

variable (h : Like listing policy scene other)

include h

theorem phase_eq : scene.session.phase = other.session.phase := (Session.mk.inj h.session).1

theorem idle_eq : scene.session.idle = other.session.idle := (Session.mk.inj h.session).2.1

theorem outstanding_eq : scene.session.outstanding = other.session.outstanding :=
  (Session.mk.inj h.session).2.2.1

theorem issued_eq : scene.session.issued = other.session.issued :=
  (Session.mk.inj h.session).2.2.2.1

theorem placement_eq : scene.session.placement = other.session.placement :=
  (Session.mk.inj h.session).2.2.2.2.2.1

theorem inbox_eq : scene.session.inbox = other.session.inbox :=
  (Session.mk.inj h.session).2.2.2.2.2.2

theorem pingId_eq : scene.session.pingId = other.session.pingId := by
  rw [Session.pingId, Session.pingId, h.outstanding_eq]

/-- Either none of them has a player, or both have one of the same name. -/
theorem player_cases : (scene.session.player = none ∧ other.session.player = none) ∨
    ∃ player player', scene.session.player = some player ∧ other.session.player = some player' ∧
      player.name = player'.name := by
  have hnames : (scene.session.player.map fun player => Player.guest player.name) =
      other.session.player.map fun player => .guest player.name :=
    (Session.mk.inj h.session).2.2.2.2.1
  cases hplayer : scene.session.player with
  | none =>
    cases hother : other.session.player with
    | none => exact .inl ⟨rfl, rfl⟩
    | some player' => simp [hplayer, hother] at hnames
  | some player =>
    cases hother : other.session.player with
    | none => simp [hplayer, hother] at hnames
    | some player' =>
      rw [hplayer, hother] at hnames
      exact .inr ⟨player, player', rfl, rfl, Player.guest.inj (Option.some.inj hnames)⟩

theorem policies_eq : scene.policy = other.policy := h.policy_eq.trans h.policy_eq'.symm

/-! What is done to both. -/

theorem step {after after' : Scene} {new new' : List Event}
    (hsession : after.session.veiled = after'.session.veiled)
    (hpolicy : after.policy = scene.policy) (hpolicy' : after'.policy = other.policy)
    (ht : after.trace = scene.trace ++ new)
    (ht' : after'.trace = other.trace ++ new') (hnew : Agree listing new new') :
    Like listing policy after after' :=
  ⟨hsession, hpolicy.trans h.policy_eq, hpolicy'.trans h.policy_eq',
    ht ▸ ht' ▸ h.trace.append hnew⟩

theorem adjust (change : Session → Session)
    (hchange : ∀ session, (change session).veiled = change session.veiled) :
    Like listing policy { scene with session := change scene.session }
      { other with session := change other.session } :=
  ⟨(hchange _).trans ((congrArg change h.session).trans (hchange _).symm), h.policy_eq,
    h.policy_eq', h.trace⟩

theorem inhabit (world world' : World) :
    Like listing policy { scene with world } { other with world := world' } :=
  ⟨h.session, h.policy_eq, h.policy_eq', h.trace⟩

theorem record_same {event event' : Event} (he : Same listing event event') :
    Like listing policy (scene.record event) (other.record event') :=
  h.step h.session rfl rfl rfl rfl (.of_same he)

theorem record (event : Event) : Like listing policy (scene.record event) (other.record event) :=
  h.record_same (.inl rfl)

theorem note (notice : Notice) : Like listing policy (scene.note notice) (other.note notice) :=
  h.record _

theorem send (packet : Packet) : Like listing policy (scene.send packet) (other.send packet) :=
  h.record _

theorem ask (question : Question) : Like listing policy (scene.ask question) (other.ask question) :=
  h.step h.session rfl rfl rfl rfl (.refl _)

theorem broadcast (text : String) :
    Like listing policy (scene.broadcast text) (other.broadcast text) := by
  have hrecorded := h.record (.broadcast text)
  simp only [Scene.broadcast, hrecorded.policies_eq]
  split
  · exact hrecorded.note _
  · exact hrecorded

theorem announce (message : Option String) :
    Like listing policy (scene.announce message) (other.announce message) := by
  cases message with
  | none => exact h
  | some text =>
    simp only [Scene.announce]
    split
    · exact h
    · exact h.broadcast text

theorem sendAway (reason : String) :
    Like listing policy (scene.sendAway reason) (other.sendAway reason) := by
  simp only [Scene.sendAway, h.phase_eq]
  split
  · exact (h.send _).record _
  · exact h.record _

end

end Like

/-! Of a world no more is told than what is hidden. -/

theorem exists_hidden_enterWorld (scene : Scene) (player : Player) :
    ∃ new, (scene.enterWorld player).trace = scene.trace ++ new ∧
      ∀ event ∈ new, event.isOpen = false := by
  cases player with
  | guest name => exact ⟨[_], rfl, by simp [isOpen]⟩
  | native entity => exact ⟨[_, _], List.append_assoc _ _ _, by simp [isOpen]⟩

theorem exists_hidden_leaveWorld (scene : Scene) (player : Player) :
    ∃ new, (scene.leaveWorld player).trace = scene.trace ++ new ∧
      ∀ event ∈ new, event.isOpen = false := by
  cases player with
  | guest name => exact ⟨[_], rfl, by simp [isOpen]⟩
  | native entity =>
    simp only [leaveWorld]
    split
    · exact ⟨[_, _], List.append_assoc _ _ _, by simp [isOpen]⟩
    · exact ⟨[_], rfl, by simp [isOpen]⟩

theorem Like.enterWorld (h : Like listing policy scene other) (player player' : Player) :
    Like listing policy (scene.enterWorld player) (other.enterWorld player') := by
  obtain ⟨new, ht, hnew⟩ := exists_hidden_enterWorld scene player
  obtain ⟨new', ht', hnew'⟩ := exists_hidden_enterWorld other player'
  refine h.step ?_ (policy_enterWorld _ _) (policy_enterWorld _ _) ht ht' (.of_hidden hnew hnew')
  rw [session_enterWorld, session_enterWorld, h.session]

theorem Like.leaveWorld (h : Like listing policy scene other) (player player' : Player) :
    Like listing policy (scene.leaveWorld player) (other.leaveWorld player') := by
  obtain ⟨new, ht, hnew⟩ := exists_hidden_leaveWorld scene player
  obtain ⟨new', ht', hnew'⟩ := exists_hidden_leaveWorld other player'
  refine h.step ?_ (policy_leaveWorld _ _) (policy_leaveWorld _ _) ht ht' (.of_hidden hnew hnew')
  rw [session_leaveWorld, session_leaveWorld, h.session]

/-! The owner gives both the same answers. -/

section

variable (hsteady : policy.Steady) (h : Like listing policy scene other)

include hsteady h

theorem Like.login_eq (name : String) :
    scene.policy.login scene.asked name = other.policy.login other.asked name := by
  rw [h.policy_eq, h.policy_eq']
  exact hsteady.login _ _ _

theorem Like.join_eq (name : String) :
    scene.policy.join scene.asked name = other.policy.join other.asked name := by
  rw [h.policy_eq, h.policy_eq']
  exact hsteady.join _ _ _

theorem Like.kick_eq (name reason : String) :
    scene.policy.kick scene.asked name reason = other.policy.kick other.asked name reason := by
  rw [h.policy_eq, h.policy_eq']
  exact hsteady.kick _ _ _ _

theorem Like.quit_eq (name : String) :
    scene.policy.quit scene.asked name = other.policy.quit other.asked name := by
  rw [h.policy_eq, h.policy_eq']
  exact hsteady.quit _ _ _

theorem Like.dispose (tell : Bool) :
    Like listing policy (scene.dispose tell) (other.dispose tell) := by
  rcases h.player_cases with ⟨hnone, hnone'⟩ | ⟨player, player', hplayer, hplayer', hname⟩
  · simpa only [Scene.dispose, hnone, hnone'] using h
  · have halone := h.adjust (fun session => { session with player := none }) fun _ => rfl
    have hparted := halone.leaveWorld player player'
    have hasked := hparted.ask (.quit player'.name)
    simp only [Scene.dispose, hplayer, hplayer', hname, hparted.quit_eq hsteady]
    split
    · exact hasked.announce _
    · exact hasked

theorem Like.disconnectWith (reason : String) (force : Bool) : Like listing policy
    (scene.disconnectWith reason force) (other.disconnectWith reason force) := by
  unfold Scene.disconnectWith
  cases force with
  | true => exact h.sendAway reason
  | false =>
    rcases h.player_cases with ⟨hnone, hnone'⟩ | ⟨player, player', hplayer, hplayer', hname⟩
    · simpa only [hnone, hnone'] using h.sendAway reason
    · have hasked := h.ask (.kick player'.name reason)
      simp only [hplayer, hplayer', hname, h.kick_eq hsteady]
      cases other.policy.kick other.asked player'.name reason with
      | cancelled => exact hasked.note _
      | proceed given leave =>
        have hkicked := (hasked.announce leave).note (.kicked player'.name given)
        exact (hkicked.dispose hsteady false).sendAway given

theorem Like.disconnect (reason : String) :
    Like listing policy (scene.disconnect reason) (other.disconnect reason) :=
  h.disconnectWith hsteady reason false

end

/-- What a session refuses to one of the two it refuses to the other. -/
def LikeResults (listing : Listing) (policy : Policy) (result result' : Except SessionFault Scene) :
    Prop :=
  (∃ fault, result = .error fault ∧ result' = .error fault) ∨
    ∃ after after', result = .ok after ∧ result' = .ok after' ∧ Like listing policy after after'

theorem Like.setPhase (h : Like listing policy scene other) (setting : Setting) (next : Phase) :
    LikeResults listing policy (scene.setPhase setting next) (other.setPhase setting next) := by
  simp only [Scene.setPhase, h.phase_eq]
  split
  · exact .inl ⟨_, rfl, rfl⟩
  · refine .inr ⟨_, _, rfl, rfl, ?_⟩
    split
    · exact h.adjust (fun session => { session with phase := next }) fun _ => rfl
    · exact (h.note _).adjust (fun session => { session with phase := next }) fun _ => rfl

theorem Like.present (h : Like listing policy scene other) {player player' : Player}
    (hname : player.name = player'.name) :
    Like listing policy (scene.present player) (other.present player') := by
  have hseated : ∀ (session : Session) (player : Player),
      { session with player := some player }.veiled =
        { session.veiled with player := some (.guest player.name) } := fun _ _ => rfl
  refine h.step ?_ rfl rfl rfl rfl ?_
  · simp only [Scene.present, hseated, h.session, hname]
  · rw [hname]
    exact .cons (.inl rfl) .nil

section

variable (hsteady : policy.Steady) (h : Like listing policy scene other)

include hsteady h

theorem Like.attach (player player' : Player) (hname : player.name = player'.name) :
    LikeResults listing policy (scene.attach player) (other.attach player') := by
  rcases h.player_cases with ⟨hnone, hnone'⟩ | ⟨seated, seated', hseated, hseated', -⟩
  · have hpresent : Like listing policy (scene.present player) (other.present player') :=
      h.present hname
    have hjoin : scene.policy.join (scene.asked + 1) player'.name =
        other.policy.join (other.asked + 1) player'.name := hpresent.join_eq hsteady player'.name
    rw [attach_of_none hnone, attach_of_none hnone', hname, h.login_eq hsteady, hjoin]
    refine .inr ⟨_, _, rfl, rfl, ?_⟩
    split
    · exact (hpresent.note _).sendAway _
    · exact ((hpresent.enterWorld player player').ask _).announce _
  · exact .inl ⟨.playerAlreadyAttached, by simp [Scene.attach, hseated],
      by simp [Scene.attach, hseated']⟩

/-! The handlers. -/

theorem Like.handshake (player player' : Option Player) (version : UInt32) (address : String)
    (port : UInt16) (next : Phase) : Like listing policy
      (handshake setting player (.handshake version address port next) scene)
      (handshake setting player' (.handshake version address port next) other) := by
  simp only [Service.handshake]
  split
  · rcases h.setPhase setting next with ⟨fault, hset, hset'⟩ | ⟨moved, moved', hset, hset', hmoved⟩
    · simp only [hset, hset']
      exact (h.note _).disconnect hsteady _
    · simp only [hset, hset']
      split
      · exact (hmoved.note _).disconnect hsteady _
      · exact hmoved
  · exact (h.note _).disconnect hsteady _

theorem Like.loginStart (player player' : Option Player) (name : String) : Like listing policy
    (loginStart setting player (.loginStart name) scene)
    (loginStart setting player' (.loginStart name) other) := by
  have hseated : scene.session.player.isSome = other.session.player.isSome := by
    rcases h.player_cases with ⟨hnone, hnone'⟩ | ⟨seated, seated', hplayer, hplayer', -⟩
    · rw [hnone, hnone']
    · rw [hplayer, hplayer']
      rfl
  simp only [Service.loginStart, hseated]
  split
  · exact h.note _
  · split
    · exact h.disconnect hsteady _
    · rcases h.setPhase setting .play with
        ⟨fault, hset, hset'⟩ | ⟨moved, moved', hset, hset', hmoved⟩
      · simp only [hset, hset']
        exact h.note _
      · simp only [hset, hset']
        -- The two players are of the same name, but not the same entity.
        let entered := (moved.send (.loginSuccess name)).world.spawn name
        let entered' := (moved'.send (.loginSuccess name)).world.spawn name
        have hspawned := (hmoved.send (.loginSuccess name)).inhabit entered.2 entered'.2
        rcases hspawned.attach hsteady (.native entered.1) (.native entered'.1) rfl with
          ⟨fault, hrefused, hrefused'⟩ | ⟨after, after', hdone, hdone', hafter⟩
        · simp only [entered, entered'] at hrefused hrefused' hspawned
          simp only [hrefused, hrefused']
          exact hspawned.note _
        · simp only [entered, entered'] at hdone hdone'
          simp only [hdone, hdone']
          exact hafter

omit hsteady in
theorem Like.keepAlive (player player' : Option Player) (id : Int32) : Like listing policy
    (keepAlive setting player (.keepAlive id) scene)
    (keepAlive setting player' (.keepAlive id) other) := by
  simp only [Service.keepAlive, h.pingId_eq]
  split
  · exact h.adjust (fun session => { session with idle := 0, outstanding := none }) fun _ => rfl
  · exact h.note _

theorem Like.chat {player player' : Option Player}
    (hplayer : player.map Player.name = player'.map Player.name) (message : String) :
    Like listing policy (chat setting player (.chat message) scene)
      (chat setting player' (.chat message) other) := by
  cases player with
  | none =>
    cases player' with
    | none => exact h
    | some player' => cases hplayer
  | some player =>
    cases player' with
    | none => cases hplayer
    | some player' =>
      have hname : player.name = player'.name := Option.some.inj hplayer
      simp only [Service.chat, hname]
      split
      · exact h
      · split
        · exact h.disconnect hsteady _
        · exact h.broadcast _

omit hsteady in
theorem Like.blockPlacement (player player' : Option Player) (placement : Placement) :
    Like listing policy
      (blockPlacement setting player (.blockPlacement placement) scene)
      (blockPlacement setting player' (.blockPlacement placement) other) := by
  simp only [Service.blockPlacement, h.placement_eq]
  split
  · exact h.note _
  · have hremembered := h.adjust
      (fun session => { session with placement := some placement }) fun _ => rfl
    exact hremembered.note _

/-! Taking up packets, and pulses. -/

theorem Like.dispatch (setting : Setting) (packet : Packet) : Like listing policy
    (scene.dispatch (standard listing) setting packet)
    (other.dispatch (standard listing) setting packet) := by
  have htook := h.record (.took other.session.phase packet)
  have hnames : scene.session.player.map Player.name = other.session.player.map Player.name := by
    rcases h.player_cases with ⟨hnone, hnone'⟩ | ⟨player, player', hplayer, hplayer', hname⟩
    · rw [hnone, hnone']
    · rw [hplayer, hplayer', Option.map_some, Option.map_some, hname]
  rw [dispatch_standard, dispatch_standard]
  dsimp only
  rw [h.phase_eq]
  split
  · exact htook.handshake hsteady _ _ _ _ _ _
  · exact htook.record_same (.inr ⟨_, _, rfl, rfl⟩)
  · exact (htook.send _).disconnect hsteady ""
  · exact htook.loginStart hsteady _ _ _
  · exact htook.keepAlive _ _ _
  · exact htook.chat hsteady hnames _
  · exact htook.blockPlacement _ _ _
  · exact htook.note _

theorem Like.receive (packet : Packet) : Like listing policy
    (scene.receive (standard listing) setting packet)
    (other.receive (standard listing) setting packet) := by
  unfold Scene.receive
  split
  · exact h.dispatch hsteady setting packet
  · exact h.adjust (fun session => { session with inbox := session.inbox ++ [packet] }) fun _ => rfl

theorem Like.drain (bound : Nat) : Like listing policy
    (drain (standard listing) setting bound scene)
    (drain (standard listing) setting bound other) := by
  induction bound generalizing scene other with
  | zero => exact h
  | succ bound ih =>
    cases hinbox : other.session.inbox with
    | nil => rwa [drain_of_nil hinbox, drain_of_nil (h.inbox_eq.trans hinbox)]
    | cons packet rest =>
      rw [drain_of_cons hinbox, drain_of_cons (h.inbox_eq.trans hinbox)]
      have hopened := h.adjust (fun session => { session with inbox := rest }) fun _ => rfl
      have htaken := hopened.dispatch hsteady setting packet
      exact ih (htaken.adjust (fun session => { session with idle := 0 }) fun _ => rfl)

omit hsteady in
theorem Like.issueKeepAlive : Like listing policy (scene.issueKeepAlive setting)
    (other.issueKeepAlive setting) := by
  have hpolicy : ∀ scene : Scene, (scene.issueKeepAlive setting).policy = scene.policy := by
    intro scene
    simp only [Scene.issueKeepAlive]
    split <;> rfl
  have hkept := h.adjust (fun session => { session with
    outstanding := some (setting.drawn session.issued), idle := 0, issued := session.issued + 1 })
    fun _ => rfl
  refine h.step ?_ (hpolicy scene) (hpolicy other) (trace_issueKeepAlive scene setting)
    (trace_issueKeepAlive other setting) ?_
  · rw [session_issueKeepAlive, session_issueKeepAlive]
    exact hkept.session
  · rw [h.phase_eq, h.issued_eq]
    exact .refl _

theorem Like.checkSilence : Like listing policy (scene.checkSilence setting)
    (other.checkSilence setting) := by
  simp only [Scene.checkSilence, h.idle_eq, h.outstanding_eq]
  split
  · exact h
  · split
    · exact h.issueKeepAlive
    · exact h.disconnect hsteady timeoutReason

theorem Like.pulse : Like listing policy (scene.pulse (standard listing) setting)
    (other.pulse (standard listing) setting) := by
  have hticked : Like listing policy scene.ticked other.ticked := h.adjust
    (fun session => { session with idle := min (session.idle + 1) Session.idleLimit }) fun _ => rfl
  rw [pulse_eq_checkSilence, pulse_eq_checkSilence, drained, drained, h.inbox_eq]
  exact (hticked.drain hsteady _).checkSilence hsteady

/-- Whoever does the same stays alike. -/
theorem Like.move (setting : Setting) {move : Move} (hown : move.isOwn) :
    Like listing policy (scene.move (standard listing) setting move)
      (other.move (standard listing) setting move) := by
  cases move with
  | receive packet => exact h.receive hsteady packet
  | queue packet =>
    exact h.adjust (fun session => { session with inbox := session.inbox ++ [packet] }) fun _ => rfl
  | pulse => exact h.pulse hsteady
  | disconnect reason force => exact h.disconnectWith hsteady reason force
  | dispose tell => exact h.dispose hsteady tell
  | elsewhere world policy asked => cases hown

end

end Scene
end GameServer
