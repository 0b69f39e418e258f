import GameServer.Proofs.Server.Upkeep
import GameServer.Proofs.Session.Turn

/-! What the books of a server say however many players have come, even if their numbers have run
out: nobody is left in the world without a session, and no question to the owner is forgotten. -/

namespace GameServer

open Service Scene

/-- Whoever lives in the world goes by the number of a session's player, and the questions have been
counted. -/
structure Ledger.Housed (ledger : Ledger) : Prop where
  asked_eq : ledger.asked = ledger.history.questions
  host : ∀ entity ∈ ledger.world.live, ∃ key other,
    ledger.player key = some (.native other) ∧ other.id = entity.id

variable {listing : Listing} {setting : Setting} {key : Key} {others : Key → Option Player}
  {past : History} {scene after : Scene}

theorem Ledger.Housed.extend (h : (scene.ledger key others past).Housed) (new : List Event)
    (ht : after.trace = scene.trace ++ new)
    (hq : after.asked = scene.asked + new.countP Event.isQuestion)
    (hhost : ∀ entity ∈ after.world.live,
      (∃ other, after.session.player = some (.native other) ∧ other.id = entity.id) ∨
        entity ∈ scene.world.live ∧
          ∀ other, scene.session.player = some (.native other) → other.id = entity.id →
            after.session.player = some (.native other)) :
    (after.ledger key others past).Housed := by
  constructor
  case asked_eq =>
    have hasked : scene.asked = (past ++ .of key scene.trace).questions := h.asked_eq
    simp only [Scene.ledger, ht, hq, hasked, History.of_append, ← List.append_assoc,
      History.questions_append, History.questions_of]
  case host =>
    intro entity hlive
    rcases hhost entity hlive with ⟨other, hp, hid⟩ | ⟨hlived, hkeep⟩
    · exact ⟨key, other, (if_pos rfl).trans hp, hid⟩
    · obtain ⟨seat, other, hp, hid⟩ := h.host entity hlived
      refine ⟨seat, other, ?_, hid⟩
      simp only [Scene.ledger] at hp ⊢
      split
      · rename_i hseat
        rw [if_pos hseat] at hp
        exact hkeep other hp hid
      · rename_i hseat
        rwa [if_neg hseat] at hp

/-- Nobody comes or goes. -/
theorem Ledger.Housed.stay (h : (scene.ledger key others past).Housed) (new : List Event)
    (ht : after.trace = scene.trace ++ new)
    (hq : after.asked = scene.asked + new.countP Event.isQuestion)
    (hw : after.world = scene.world) (hp : after.session.player = scene.session.player) :
    (after.ledger key others past).Housed := by
  refine h.extend new ht hq fun entity hlive => .inr ⟨hw ▸ hlive, ?_⟩
  rw [hp]
  exact fun _ hother _ => hother

theorem Beat.housed (hb : Beat listing setting scene after)
    (h : (scene.ledger key others past).Housed) : (after.ledger key others past).Housed := by
  cases hb with
  | noted | broadcast | took | reported | probed | kickAsked | quitAsked =>
    exact h.stay [_] rfl rfl rfl rfl
  | adjusted session hphase hplayer => exact h.stay [] (List.append_nil _).symm rfl rfl hplayer
  | opened => exact h.stay [] (List.append_nil _).symm rfl rfl rfl
  | echoed => exact h.stay [_, _] (List.append_assoc _ _ _) rfl rfl rfl
  | sentAway reason =>
    rw [sendAway_eq]
    refine h.stay (parting scene.session.phase reason) rfl ?_ rfl rfl
    unfold parting
    split <;> rfl
  | parted player hplayer =>
    let alone : Scene := { scene with session := { scene.session with player := none } }
    obtain ⟨notices, ht⟩ := trace_leaveWorld alone player
    refine h.extend (.left player :: notices.map .log) ht ?_ ?_
    · simp [Event.isQuestion, Function.comp_def]
    · intro entity hlive
      refine .inr ?_
      cases player with
      | guest name => exact ⟨hlive, fun other hp => by cases hplayer.symm.trans hp⟩
      | native resident =>
        rw [world_leaveWorld] at hlive
        obtain ⟨hlived, hne⟩ := List.mem_filter.mp hlive
        refine ⟨hlived, fun other hp hid => ?_⟩
        cases hplayer.symm.trans hp
        simp [hid] at hne
  | refused name reason hadmits =>
    refine h.extend _ (trace_host scene setting name) rfl fun entity hlive => .inr ⟨hlive, ?_⟩
    intro other hp
    cases hadmits.2.1.symm.trans hp
  | admitted name hadmits =>
    refine h.extend (scene.arrival setting name) (trace_joined scene setting name) rfl ?_
    intro entity hlive
    rcases List.mem_append.mp hlive with hlive | hlive
    · refine .inr ⟨(List.mem_filter.mp hlive).1, fun other hp => ?_⟩
      cases hadmits.2.1.symm.trans hp
    · rw [List.mem_singleton.mp hlive]
      exact .inl ⟨_, rfl, rfl⟩

theorem Beats.housed (hb : Beats listing setting scene after)
    (h : (scene.ledger key others past).Housed) : (after.ledger key others past).Housed := by
  induction hb with
  | refl => exact h
  | tail _ hbeat ih => exact hbeat.housed ih

namespace Server

variable {server after : Server} {setup : Setup}

theorem housed_act (hsound : server.Sound setup listing) (h : server.ledger.Housed)
    {action : Setting → Scene → Scene} (hlawful : Lawful listing action) :
    (server.act setup key action).ledger.Housed := by
  cases hs : server.seat? key with
  | none => rwa [act_of_none server key setup action hs]
  | some seat =>
    have hp := hsound.playerInPlay seat (List.mem_of_find?_eq_some hs)
    rw [ledger_act action hs]
    exact Beats.housed (hlawful _ _ hp) (ledger_scene hs ▸ h)

theorem housed_shift (htable : setup.table = standard listing) (hsound : server.Sound setup listing)
    (h : server.ledger.Housed) (hs : Shift setup server after) : after.ledger.Housed := by
  cases hs with
  | quiet _ hquiet => rwa [hquiet.alike.ledger]
  | shuffled first => rwa [ledger_shuffle]
  | acted key moves horder =>
    rw [htable]
    exact housed_act hsound h (lawful_run horder)
  | removed key moves horder =>
    rw [htable, ledger_unseat player_act_dispose]
    exact housed_act hsound h (lawful_run (isOrder_append_dispose horder))
  | wrote key => rwa [(alike_write server key).ledger]

theorem housed_shifts (htable : setup.table = standard listing) (hsound : server.Sound setup listing)
    (h : server.ledger.Housed) (hs : Shifts setup server after) : after.ledger.Housed := by
  induction hs with
  | refl => exact h
  | tail hbefore hshift ih => exact housed_shift htable (hsound.shifts htable hbefore) ih hshift

theorem housed_runSteps (htable : setup.table = standard listing) (address worldName : String)
    (steps : List Step) :
    ((start setup address worldName).runSteps setup steps).ledger.Housed := by
  refine runSteps_induction (P := (·.ledger.Housed)) htable address worldName steps
    ⟨rfl, nofun⟩ ?_ ?_
  · intro server after hsound hs h
    exact housed_shift htable hsound h hs
  · intro server address sink _ _ h
    have hwelcome : (server.install address sink).ledger = server.ledger :=
      ledger_welcome server address
    rwa [hwelcome]

/-- Without a session there is nobody in the world. -/
theorem live_eq_nil (h : server.ledger.Housed) (hseats : server.seats = []) :
    server.world.live = [] := by
  refine List.eq_nil_iff_forall_not_mem.mpr fun entity hlive => ?_
  obtain ⟨key, other, hp, -⟩ := h.host entity hlive
  simp [ledger, player, seat?, hseats] at hp

end Server
end GameServer
