import GameServer.Proofs.Server.Shift
import Mathlib.Data.List.Nodup

/-! The books of a server balance after every step, in whatever order its loop, its readers and
its writers take their steps. -/

namespace GameServer

open Service

namespace Server

/-- The keys tell the sessions apart and have all been given out, a player is only there in play,
and the books balance. -/
structure Sound (server : Server) (setup : Setup) (listing : Listing) : Prop where
  policy_eq : server.policy = setup.policy
  keys_nodup : server.keys.Nodup
  keys_lt : ∀ key ∈ server.keys, key < server.nextKey
  room : server.keys.length ≤ setup.maxSessions
  playerInPlay : ∀ seat ∈ server.seats, (server.scene seat).PlayerInPlay
  books : server.ledger.Sound setup.policy listing setup.maxSessions server.keys

variable {server after : Server} {key : Key} {setup : Setup} {listing : Listing}

theorem Sound.of_alike {a b : Server} (h : b.Sound setup listing) (hab : a.Alike b) :
    a.Sound setup listing := by
  have hk : a.keys = b.keys := by rw [keys, keys, hab.seats]
  constructor
  case policy_eq => exact hab.policy.trans h.policy_eq
  case keys_nodup => exact hk ▸ h.keys_nodup
  case keys_lt =>
    rw [hk, hab.nextKey]
    exact h.keys_lt
  case room => exact hk ▸ h.room
  case playerInPlay =>
    rw [hab.seats]
    exact h.playerInPlay
  case books =>
    rw [hab.ledger, hk]
    exact h.books

/-- What a session may do: nothing but beats, whatever its setting. -/
def Lawful (listing : Listing) (action : Setting → Scene → Scene) : Prop :=
  ∀ setting scene, scene.PlayerInPlay → Beats listing setting scene (action setting scene)

theorem Sound.act (h : server.Sound setup listing) {action : Setting → Scene → Scene}
    (hlawful : Lawful listing action) : (server.act setup key action).Sound setup listing := by
  cases hs : server.seat? key with
  | none => rwa [act_of_none server key setup action hs]
  | some seat =>
    have ha := alike_act server key setup action hs
    have hmem : seat ∈ server.seats := List.mem_of_find?_eq_some hs
    have hk : key ∈ server.keys := mem_keys_of_seat? hs
    have hkeys : (server.act setup key action).keys = server.keys := by
      rw [keys, ha.seats]
      exact keys_reseat server key _
    have hp := h.playerInPlay seat hmem
    have hbeats := hlawful (setup.setting seat) (server.scene seat) hp
    have hafter := Beats.playerInPlay hbeats hp
    have hstart : ((server.scene seat).ledger key server.player server.history).Sound
        setup.policy listing setup.maxSessions server.keys := by
      rw [ledger_scene hs]
      exact h.books
    obtain ⟨hpolicy, hbooks⟩ := Beats.sound_ledger hbeats h.policy_eq hk h.room hstart
    constructor
    case policy_eq => exact ha.policy.trans hpolicy
    case keys_nodup => exact hkeys ▸ h.keys_nodup
    case keys_lt =>
      rw [hkeys, ha.nextKey]
      exact h.keys_lt
    case room => exact hkeys ▸ h.room
    case playerInPlay =>
      rw [ha.seats]
      intro other ho
      obtain ⟨old, hold, rfl⟩ := List.mem_map.mp ho
      by_cases hkey : old.key = key
      · rw [if_pos hkey]
        exact hafter
      · rw [if_neg hkey]
        exact h.playerInPlay old hold
    case books =>
      rw [ledger_act action hs, hkeys]
      exact hbooks

theorem Sound.unseat (h : server.Sound setup listing) (hnone : server.player key = none) :
    (server.unseat key).Sound setup listing := by
  have hsub : (server.unseat key).keys.Sublist server.keys := List.filter_sublist.map _
  constructor
  case policy_eq => exact h.policy_eq
  case keys_nodup => exact h.keys_nodup.sublist hsub
  case keys_lt =>
    intro other ho
    exact h.keys_lt other (hsub.subset ho)
  case room => exact Nat.le_trans hsub.length_le h.room
  case playerInPlay =>
    intro seat hseat
    exact h.playerInPlay seat (List.mem_filter.mp hseat).1
  case books =>
    rw [ledger_unseat hnone]
    intro hl
    apply (h.books hl).keys_mono
    intro other player hp hk
    have hne : other ≠ key := by
      rintro rfl
      cases hnone.symm.trans hp
    obtain ⟨seat, hseat, rfl⟩ := List.mem_map.mp hk
    have hstays : seat ∈ (server.unseat key).seats :=
      List.mem_filter.mpr ⟨hseat, by simpa using hne⟩
    exact List.mem_map_of_mem hstays

theorem Sound.welcome (h : server.Sound setup listing)
    (hroom : server.keys.length < setup.maxSessions) (address : String) :
    (server.welcome address).Sound setup listing := by
  have hkeys := keys_welcome server address
  constructor
  case policy_eq => exact h.policy_eq
  case keys_nodup =>
    rw [hkeys]
    refine List.nodup_append.mpr ⟨h.keys_nodup, by simp, ?_⟩
    intro key hk next hn he
    have hlt := h.keys_lt key hk
    rw [he, List.mem_singleton.mp hn] at hlt
    exact Nat.lt_irrefl _ hlt
  case keys_lt =>
    rw [hkeys]
    intro key hk
    show key < server.nextKey + 1
    rcases List.mem_append.mp hk with hk | hk
    · exact Nat.lt_succ_of_lt (h.keys_lt key hk)
    · rw [List.mem_singleton.mp hk]
      exact Nat.lt_succ_self server.nextKey
  case room =>
    rw [hkeys, List.length_append]
    exact hroom
  case playerInPlay =>
    intro seat hseat
    rcases List.mem_append.mp hseat with hseat | hseat
    · exact h.playerInPlay seat hseat
    · rw [List.mem_singleton.mp hseat]
      exact nofun
  case books =>
    rw [ledger_welcome, hkeys]
    intro hl
    apply (h.books hl).keys_mono
    intro other player _ hk
    exact List.mem_append_left _ hk

theorem Sound.install (h : server.Sound setup listing)
    (hroom : server.seats.length < setup.maxSessions) (address : String) (sink : Sink) :
    (server.install address sink).Sound setup listing := by
  rw [← List.length_map (·.key)] at hroom
  exact (h.welcome hroom address).of_alike ⟨rfl, rfl, rfl, rfl, rfl, rfl⟩

theorem Sound.shuffle (h : server.Sound setup listing) (first : Key) :
    (server.shuffle first).Sound setup listing := by
  have hseats := seats_shuffle_perm server first
  have hkeys : (server.shuffle first).keys.Perm server.keys := hseats.map _
  constructor
  case policy_eq => exact h.policy_eq
  case keys_nodup => exact hkeys.nodup_iff.mpr h.keys_nodup
  case keys_lt =>
    intro key hk
    exact h.keys_lt key (hkeys.mem_iff.mp hk)
  case room => exact hkeys.length_eq ▸ h.room
  case playerInPlay =>
    intro seat hseat
    exact h.playerInPlay seat (hseats.mem_iff.mp hseat)
  case books =>
    rw [ledger_shuffle]
    intro hl
    exact (h.books hl).keys_mono fun key _ _ hk => hkeys.mem_iff.mpr hk

/-! The steps. -/

theorem lawful_run {moves : List Move} (horder : ∀ move ∈ moves, move.isOrder) :
    Lawful listing fun setting scene => scene.run (standard listing) setting moves := by
  intro setting scene hp
  induction moves generalizing scene with
  | nil => exact .refl
  | cons move moves ih =>
    obtain ⟨hmove, hmoves⟩ := List.forall_mem_cons.mp horder
    exact (Scene.beats_order hp hmove).trans (ih hmoves _ (Scene.playerInPlay_move hp move))

theorem isOrder_append_dispose {moves : List Move} (horder : ∀ move ∈ moves, move.isOrder) :
    ∀ move ∈ moves ++ [.dispose true], move.isOrder := by
  simpa [or_imp, forall_and, Move.isOrder] using horder

theorem player_act_dispose {moves : List Move} : (server.act setup key fun setting scene =>
    scene.run (standard listing) setting (moves ++ [.dispose true])).player key = none := by
  cases hs : server.seat? key with
  | none => rw [act_of_none server key setup _ hs, player, hs, Option.bind_none]
  | some seat =>
    rw [player_act server key setup _ hs, if_pos rfl, Scene.run_append]
    exact Scene.player_dispose _ true

theorem Sound.shift (htable : setup.table = standard listing) (h : server.Sound setup listing)
    (hs : Shift setup server after) : after.Sound setup listing := by
  cases hs with
  | quiet _ hquiet => exact h.of_alike hquiet.alike
  | shuffled first => exact h.shuffle first
  | acted key moves horder =>
    rw [htable]
    exact h.act (lawful_run horder)
  | removed key moves horder =>
    rw [htable]
    exact (h.act (lawful_run (isOrder_append_dispose horder))).unseat player_act_dispose
  | wrote key => exact h.of_alike (alike_write server key)

theorem Sound.shifts (htable : setup.table = standard listing) (h : server.Sound setup listing)
    (hs : Shifts setup server after) : after.Sound setup listing := by
  induction hs with
  | refl => exact h
  | tail _ hshift ih => exact ih.shift htable hshift

theorem Sound.perform (htable : setup.table = standard listing) (h : server.Sound setup listing)
    (step : Step) : (server.perform setup step).Sound setup listing := by
  rcases perform_cases step with hs | ⟨address, sink, -, -, hroom, he⟩
  · exact h.shifts htable hs
  · rw [he]
    exact (h.of_alike (alike_note server _)).install hroom address sink

theorem sound_create (worldName : String) (setup : Setup) (listing : Listing) :
    (create worldName setup.policy).Sound setup listing := by
  refine ⟨rfl, List.nodup_nil, nofun, Nat.zero_le _, nofun, fun _ => ?_⟩
  refine ⟨rfl, rfl, ?_, nofun, nofun, nofun, ?_, List.nodup_nil, nofun⟩
  · intro before after key player hs
    cases before <;> cases hs
  · intro entity
    constructor
    · exact nofun
    · rintro ⟨key, hp, -⟩
      cases hp

theorem sound_start (htable : setup.table = standard listing) (address worldName : String) :
    (start setup address worldName).Sound setup listing := by
  refine Sound.shifts htable (Sound.of_alike (sound_create worldName setup listing) ?_) shifts_tick
  exact (alike_note _ _).trans (alike_note _ _)

theorem runSteps_append (server : Server) (setup : Setup) (steps more : List Step) :
    server.runSteps setup (steps ++ more) = (server.runSteps setup steps).runSteps setup more :=
  List.foldl_append

/-- What every step of a sound server keeps is kept by every run. -/
theorem Sound.runSteps_preserves {P : Server → Prop} (htable : setup.table = standard listing)
    {steps : List Step} (hstep : ∀ server, ∀ step ∈ steps, server.Sound setup listing → P server →
      P (server.perform setup step)) (h : server.Sound setup listing) (hp : P server) :
    (server.runSteps setup steps).Sound setup listing ∧ P (server.runSteps setup steps) := by
  induction steps generalizing server with
  | nil => exact ⟨h, hp⟩
  | cons step steps ih =>
    exact ih (fun server other hm => hstep server other (List.mem_cons_of_mem _ hm))
      (h.perform htable step) (hstep server step List.mem_cons_self h hp)

theorem sound_runSteps (htable : setup.table = standard listing) (address worldName : String)
    (steps : List Step) : ((start setup address worldName).runSteps setup steps).Sound
      setup listing :=
  ((sound_start htable address worldName).runSteps_preserves (P := fun _ => True) htable
    (fun _ _ _ _ _ => trivial) trivial).1

/-- What holds at first, is kept by every shift, and outlasts the coming of a session, holds at any
time. -/
theorem runSteps_induction {P : Server → Prop} (htable : setup.table = standard listing)
    (address worldName : String) (steps : List Step)
    (create : P (create worldName setup.policy))
    (shift : ∀ server after, server.Sound setup listing → Shift setup server after → P server →
      P after)
    (install : ∀ server address sink, .accept address sink ∈ steps → server.Sound setup listing →
      P server → P (server.install address sink)) :
    P ((start setup address worldName).runSteps setup steps) := by
  have hshifts : ∀ {server after}, server.Sound setup listing → Shifts setup server after →
      P server → P after := by
    intro server after hsound hs hp
    induction hs with
    | refl => exact hp
    | tail hbefore hshift ih => exact shift _ _ (hsound.shifts htable hbefore) hshift ih
  have hlistening := quiet_note (Server.create worldName setup.policy) (.listening address)
  have hbegun := hlistening.trans (quiet_note _ .started)
  have hstart : P (start setup address worldName) :=
    hshifts (sound_create worldName setup listing) (hbegun.shifts.trans shifts_tick) create
  refine ((sound_start htable address worldName).runSteps_preserves htable
    (fun server step hm hsound hp => ?_) hstart).2
  rcases perform_cases step with hs | ⟨address, sink, rfl, -, -, he⟩
  · exact hshifts hsound hs hp
  · have hnoted := quiet_note server (.connected server.nextKey address)
    rw [he]
    exact install _ address sink hm (hsound.of_alike hnoted.alike)
      (hshifts hsound hnoted.shifts hp)

theorem Sound.player_eq_some_iff (h : server.Sound setup listing) {key : Key} {player : Player} :
    server.player key = some player ↔
      ∃ seat ∈ server.seats, seat.key = key ∧ seat.session.player = some player := by
  rw [Server.player, Option.bind_eq_some_iff]
  constructor
  · rintro ⟨seat, hs, hp⟩
    exact ⟨seat, List.mem_of_find?_eq_some hs, key_of_seat? hs, hp⟩
  · rintro ⟨seat, hseat, rfl, hp⟩
    cases hs : server.seat? seat.key with
    | none => simpa using List.find?_eq_none.mp hs seat hseat
    | some other =>
      have he := List.inj_on_of_nodup_map h.keys_nodup (List.mem_of_find?_eq_some hs) hseat
        (key_of_seat? hs)
      exact ⟨other, rfl, he ▸ hp⟩

end Server
end GameServer
