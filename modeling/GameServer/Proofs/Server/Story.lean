import GameServer.Proofs.Server.Upkeep
import GameServer.Proofs.Session.Past

/-! The story of a session: what it has done, out of all that has happened at a server. Whatever
goes on around it, every session of a server lives through a run of moves, and one that has been
taken out of the table has parted with its player as the last of them. -/

namespace GameServer

open Service

namespace History

def story (history : History) (key : Key) : List Event :=
  history.filterMap fun entry => if entry.1 = key then some entry.2 else none

variable {key other : Key}

theorem story_append (history new : History) (key : Key) :
    (history ++ new).story key = history.story key ++ new.story key := List.filterMap_append

theorem story_of_self (key : Key) (events : List Event) : (of key events).story key = events := by
  simp [story, of, List.filterMap_map]

theorem story_of_ne (h : other ≠ key) (events : List Event) : (of key events).story other = [] := by
  simp [story, of, Ne.symm h]

end History

/-- What a session of a server can meet with, if the owner does not change its mind. -/
def Move.Fits (policy : Policy) : Move → Prop
  | .elsewhere _ other _ => other = policy
  | move => move.isOrder

theorem Move.fits_of_isOrder {move : Move} (h : move.isOrder) (policy : Policy) :
    move.Fits policy := by
  cases move with
  | elsewhere => cases h
  | _ => exact h

/-- A session begins afresh and comes to this by these moves. -/
def Setup.Lives (setup : Setup) (key : Key) (address : String) (moves : List Move)
    (story : List Event) (session : Session) : Prop :=
  ∃ (world : World) (asked : Nat), (∀ move ∈ moves, move.Fits setup.policy) ∧
    let run := (Scene.begin world setup.policy asked).run setup.table
      (setup.setting ⟨key, address, .fresh⟩) moves
    run.session = session ∧ run.trace = story

variable {setup : Setup} {listing : Listing} {key : Key}

theorem Setup.Lives.go_on (htable : setup.table = standard listing) {address : String}
    {moves more : List Move} {story : List Event} {session : Session}
    (h : setup.Lives key address moves story session) (horder : ∀ move ∈ more, move.isOrder)
    (world : World) (asked : Nat) :
    let after := ({ session, world, policy := setup.policy, asked, trace := [] } : Scene).run
      setup.table (setup.setting ⟨key, address, .fresh⟩) more
    setup.Lives key address (moves ++ .elsewhere world setup.policy asked :: more)
      (story ++ after.trace) after.session := by
  obtain ⟨first, began, hfits, hsession, htrace⟩ := h
  intro after
  refine ⟨first, began, ?_, ?_⟩
  · simp only [List.forall_mem_append, List.forall_mem_cons]
    exact ⟨hfits, rfl, fun move hm => Move.fits_of_isOrder (horder move hm) _⟩
  · let now := (Scene.begin first setup.policy began).run setup.table
      (setup.setting ⟨key, address, .fresh⟩) moves
    have hmet : now.move setup.table (setup.setting ⟨key, address, .fresh⟩)
        (.elsewhere world setup.policy asked) =
          Scene.prepend story { session, world, policy := setup.policy, asked, trace := [] } := by
      simp only [Scene.move, Scene.prepend, List.append_nil, now, hsession, htrace]
    have hrun : (Scene.begin first setup.policy began).run setup.table
        (setup.setting ⟨key, address, .fresh⟩)
          (moves ++ .elsewhere world setup.policy asked :: more) = after.prepend story := by
      rw [Scene.run_append]
      change (now.move _ _ _).run _ _ more = _
      rw [hmet, htable, Scene.run_prepend, ← htable]
    rw [hrun]
    exact ⟨rfl, rfl⟩

namespace Server

def story (server : Server) (key : Key) : List Event := server.history.story key

/-- What the server remembers of its sessions is what they have lived through. -/
structure Recounts (server : Server) (setup : Setup) : Prop where
  nextKey_pos : 0 < server.nextKey
  seat?_zero : server.seat? 0 = none
  seated : ∀ key seat, server.seat? key = some seat →
    ∃ moves, setup.Lives key seat.address moves (server.story key) seat.session
  gone : ∀ key, 0 < key → key < server.nextKey → server.seat? key = none →
    ∃ address moves session,
      setup.Lives key address (moves ++ [.dispose true]) (server.story key) session
  unborn : ∀ key, key = 0 ∨ server.nextKey ≤ key → server.story key = []

variable {server after : Server}

theorem Recounts.of_alike {a b : Server} (h : b.Recounts setup) (hab : a.Alike b) :
    a.Recounts setup := by
  have hseat : ∀ key, a.seat? key = b.seat? key := fun key => by rw [seat?, seat?, hab.seats]
  have hstory : ∀ key, a.story key = b.story key := fun key => by rw [story, story, hab.history]
  constructor
  case nextKey_pos => exact hab.nextKey ▸ h.nextKey_pos
  case seat?_zero => exact (hseat 0).trans h.seat?_zero
  case seated =>
    intro key seat
    rw [hseat, hstory]
    exact h.seated key seat
  case gone =>
    intro key
    rw [hseat, hstory, hab.nextKey]
    exact h.gone key
  case unborn =>
    intro key
    rw [hstory, hab.nextKey]
    exact h.unborn key

theorem Recounts.shuffle (h : server.Recounts setup) (first : Key) :
    (server.shuffle first).Recounts setup := by
  constructor
  case nextKey_pos => exact h.nextKey_pos
  case seat?_zero => exact (seat?_shuffle server first 0).trans h.seat?_zero
  case seated =>
    intro key seat
    rw [seat?_shuffle]
    exact h.seated key seat
  case gone =>
    intro key
    rw [seat?_shuffle]
    exact h.gone key
  case unborn => exact h.unborn

theorem story_act (server : Server) (key : Key) (action : Setting → Scene → Scene) {seat : Seat}
    (hs : server.seat? key = some seat) (other : Key) : (server.act setup key action).story other =
      server.story other ++
        if other = key then (action (setup.setting seat) (server.scene seat)).trace else [] := by
  simp only [story, history_act server key setup action hs, History.story_append]
  split
  · rename_i he
    rw [he, History.story_of_self]
  · rename_i hne
    rw [History.story_of_ne hne]

theorem seat?_act (server : Server) (key : Key) (action : Setting → Scene → Scene) {seat : Seat}
    (hs : server.seat? key = some seat) (other : Key) : (server.act setup key action).seat? other =
      if other = key then
        some { seat with session := (action (setup.setting seat) (server.scene seat)).session }
      else server.seat? other := by
  have hseats := (alike_act server key setup action hs).seats
  have hseat := (congrArg (List.find? (·.key == other)) hseats).trans
    (find?_reseat server key _ other)
  rw [seat?, hseat]
  split
  · rename_i he
    rw [he, hs]
    rfl
  · cases server.seat? other <;> rfl

/-- What a session does, it lives through. -/
theorem Recounts.lives_act (htable : setup.table = standard listing)
    (hpolicy : server.policy = setup.policy) (h : server.Recounts setup) {seat : Seat}
    (hs : server.seat? key = some seat) {moves : List Move} (horder : ∀ move ∈ moves, move.isOrder) :
    let acted := (server.scene seat).run setup.table (setup.setting seat) moves
    ∃ past, setup.Lives key seat.address (past ++ moves) (server.story key ++ acted.trace)
      acted.session := by
  obtain ⟨past, hlives⟩ := h.seated key seat hs
  have hon := hlives.go_on htable horder server.world server.asked
  have hsetting : setup.setting ⟨key, seat.address, .fresh⟩ = setup.setting seat := by
    rw [← key_of_seat? hs]
    rfl
  simp only [hsetting, ← hpolicy] at hon
  exact ⟨past ++ [.elsewhere server.world server.policy server.asked], by
    rwa [List.append_assoc, List.singleton_append]⟩

theorem Sound.key_lt (h : server.Sound setup listing) {seat : Seat}
    (hs : server.seat? key = some seat) : key < server.nextKey :=
  h.keys_lt key (mem_keys_of_seat? hs)

theorem Recounts.act (htable : setup.table = standard listing) (hsound : server.Sound setup listing)
    (h : server.Recounts setup) {moves : List Move} (horder : ∀ move ∈ moves, move.isOrder) :
    (server.act setup key fun setting scene =>
      scene.run setup.table setting moves).Recounts setup := by
  cases hs : server.seat? key with
  | none => rwa [act_of_none server key setup _ hs]
  | some seat =>
    have hnext := (alike_act server key setup
      (fun setting scene => scene.run setup.table setting moves) hs).nextKey
    constructor
    case nextKey_pos => exact hnext ▸ h.nextKey_pos
    case seat?_zero =>
      rw [seat?_act server key _ hs, if_neg, h.seat?_zero]
      rintro rfl
      cases hs.symm.trans h.seat?_zero
    case seated =>
      intro other found hfound
      rw [seat?_act server key _ hs] at hfound
      rw [story_act server key _ hs]
      split at hfound
      · rename_i he
        obtain rfl := he
        obtain rfl := Option.some.inj hfound
        obtain ⟨past, hlives⟩ := h.lives_act htable hsound.policy_eq hs horder
        rw [if_pos rfl]
        exact ⟨_, hlives⟩
      · rename_i hne
        rw [if_neg hne, List.append_nil]
        exact h.seated other found hfound
    case gone =>
      intro other hpos hlt hnone
      rw [seat?_act server key _ hs] at hnone
      rw [story_act server key _ hs]
      rw [hnext] at hlt
      split at hnone
      · cases hnone
      · rename_i hne
        rw [if_neg hne, List.append_nil]
        exact h.gone other hpos hlt hnone
    case unborn =>
      intro other hunborn
      have hne : other ≠ key := by
        rintro rfl
        rcases hunborn with rfl | hle
        · cases hs.symm.trans h.seat?_zero
        · exact Nat.not_lt.mpr hle (hnext ▸ hsound.key_lt hs)
      rw [story_act server key _ hs, if_neg hne, List.append_nil]
      exact h.unborn other (hnext ▸ hunborn)

theorem Recounts.unseat (h : server.Recounts setup) (hlast : ∀ seat, server.seat? key = some seat →
      ∃ moves, setup.Lives key seat.address (moves ++ [.dispose true]) (server.story key)
        seat.session) : (server.unseat key).Recounts setup := by
  have hstory : ∀ other, (server.unseat key).story other = server.story other := fun _ => rfl
  constructor
  case nextKey_pos => exact h.nextKey_pos
  case seat?_zero =>
    rw [seat?_unseat]
    split
    · rfl
    · exact h.seat?_zero
  case seated =>
    intro other seat hs
    rw [seat?_unseat] at hs
    split at hs
    · cases hs
    · exact h.seated other seat hs
  case gone =>
    intro other hpos hlt hnone
    rw [seat?_unseat] at hnone
    split at hnone
    · rename_i he
      obtain rfl := he
      cases hs : server.seat? other with
      | none => exact h.gone other hpos hlt hs
      | some seat =>
        obtain ⟨moves, hlives⟩ := hlast seat hs
        exact ⟨seat.address, moves, seat.session, hlives⟩
    · exact h.gone other hpos hlt hnone
  case unborn => exact h.unborn

theorem Recounts.install (hsound : server.Sound setup listing) (h : server.Recounts setup)
    (address : String) (sink : Sink) : (server.install address sink).Recounts setup := by
  have hseat : ∀ key, (server.install address sink).seat? key =
      (server.seat? key).or (if key = server.nextKey then
        some { key := server.nextKey, address, session := .fresh } else none) := by
    intro key
    simp only [seat?, Server.install, welcome, List.find?_append, List.find?_singleton]
    by_cases hk : key = server.nextKey <;> simp [hk, Ne.symm]
  have hnobody : server.seat? server.nextKey = none := by
    cases hs : server.seat? server.nextKey with
    | none => rfl
    | some seat => exact absurd (hsound.key_lt hs) (Nat.lt_irrefl _)
  constructor
  case nextKey_pos => exact Nat.succ_pos _
  case seat?_zero => rw [hseat, h.seat?_zero, if_neg (Nat.ne_of_lt h.nextKey_pos), Option.none_or]
  case seated =>
    intro key seat hs
    rw [hseat] at hs
    by_cases hk : key = server.nextKey
    · obtain rfl := hk
      rw [hnobody, if_pos rfl, Option.none_or] at hs
      obtain rfl := Option.some.inj hs
      have hstory : (server.install address sink).story server.nextKey = [] :=
        h.unborn _ (.inr (Nat.le_refl _))
      exact ⟨[], server.world, server.asked, by simp, rfl, hstory.symm⟩
    · rw [if_neg hk, Option.or_none] at hs
      exact h.seated key seat hs
  case gone =>
    intro key hpos hlt hnone
    rw [hseat] at hnone
    by_cases hk : key = server.nextKey
    · rw [if_pos hk] at hnone
      cases hs : server.seat? key <;> simp [hs] at hnone
    · rw [if_neg hk, Option.or_none] at hnone
      exact h.gone key hpos (Nat.lt_of_le_of_ne (Nat.le_of_lt_succ hlt) hk) hnone
  case unborn =>
    intro key hunborn
    refine h.unborn key (hunborn.imp_right fun hle => Nat.le_of_succ_le hle)

theorem Recounts.shift (htable : setup.table = standard listing)
    (hsound : server.Sound setup listing) (h : server.Recounts setup)
    (hs : Shift setup server after) : after.Recounts setup := by
  cases hs with
  | quiet _ hquiet => exact h.of_alike hquiet.alike
  | shuffled first => exact h.shuffle first
  | acted key moves horder => exact h.act htable hsound horder
  | removed key moves horder =>
    have hall := isOrder_append_dispose horder
    refine (h.act htable hsound hall).unseat fun found hfound => ?_
    cases hs : server.seat? key with
    | none =>
      rw [act_of_none server key setup _ hs] at hfound
      cases hs.symm.trans hfound
    | some seat =>
      obtain ⟨past, hlives⟩ := h.lives_act htable hsound.policy_eq hs hall
      rw [seat?_act server key _ hs, if_pos rfl] at hfound
      obtain rfl := Option.some.inj hfound
      rw [story_act server key _ hs, if_pos rfl]
      exact ⟨past ++ moves, by rwa [List.append_assoc]⟩
  | wrote key => exact h.of_alike (alike_write server key)

theorem recounts_create (worldName : String) :
    (create worldName setup.policy).Recounts setup where
  nextKey_pos := Nat.one_pos
  seat?_zero := rfl
  seated := nofun
  gone _ hpos hlt := absurd hlt (Nat.not_lt.mpr hpos)
  unborn _ _ := rfl

theorem recounts_runSteps (htable : setup.table = standard listing) (address worldName : String)
    (steps : List Step) :
    ((start setup address worldName).runSteps setup steps).Recounts setup := by
  refine runSteps_induction (P := (Recounts · setup)) htable address worldName steps
    (recounts_create worldName) ?_ ?_
  · intro server after hsound hs h
    exact h.shift htable hsound hs
  · intro server address sink _ hsound h
    exact h.install hsound address sink

/-- Whether it is still in the table or not, a session has lived through its story, and it has no
player any more once it has been taken out. -/
theorem Recounts.lives (h : server.Recounts setup) (key : Key) : server.story key = [] ∨
    ∃ address moves session, setup.Lives key address moves (server.story key) session ∧
      (server.seat? key = none → session.player = none) := by
  cases hs : server.seat? key with
  | some seat =>
    obtain ⟨moves, hlives⟩ := h.seated key seat hs
    exact .inr ⟨seat.address, moves, seat.session, hlives, nofun⟩
  | none =>
    by_cases hunborn : key = 0 ∨ server.nextKey ≤ key
    · exact .inl (h.unborn key hunborn)
    · obtain ⟨hpos, hlt⟩ := not_or.mp hunborn
      obtain ⟨address, moves, session, hlives⟩ :=
        h.gone key (Nat.pos_of_ne_zero hpos) (Nat.lt_of_not_le hlt) hs
      refine .inr ⟨address, _, session, hlives, fun _ => ?_⟩
      obtain ⟨world, asked, -, hsession, -⟩ := hlives
      rw [← hsession, Scene.run_append]
      exact Scene.player_dispose _ true

end Server
end GameServer
