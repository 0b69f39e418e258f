import GameServer.Proofs.Server.Upkeep
import GameServer.Server.Config

/-! Who lives in the world of a server, and what it says about that. -/

namespace GameServer

open Service

namespace Service

theorem isAlphanum_of_isNameChar {c : Char} (h : isNameChar c) : c.isAlphanum ∨ c = '_' := by
  have range {low high : Char} (h : low ≤ c ∧ c ≤ high) :
      (decide (low ≤ c) && decide (c ≤ high)) = true := by
    rw [Bool.and_eq_true, decide_eq_true_eq, decide_eq_true_eq]
    exact h
  simp only [isNameChar, Bool.or_eq_true, Bool.and_eq_true, decide_eq_true_eq, beq_iff_eq] at h
  change ((c.isUpper || c.isLower) || c.isDigit) = true ∨ c = '_'
  rw [Bool.or_eq_true, Bool.or_eq_true]
  rcases h with ((hlower | hupper) | hdigit) | hline
  · exact .inl (.inl (.inr (range hlower)))
  · exact .inl (.inl (.inl (decide_eq_true hupper)))
  · exact .inl (.inr (range hdigit))
  · exact .inr hline

theorem spelled_of_isValidName {name : String} (h : isValidName name) :
    1 ≤ name.length ∧ name.length ≤ 16 ∧ ∀ c ∈ name.toList, c.isAlphanum ∨ c = '_' := by
  simp only [isValidName, maxNameLength, Bool.and_eq_true, Bool.not_eq_true', List.all_eq_true] at h
  obtain ⟨⟨hne, hl⟩, hc⟩ := h
  refine ⟨?_, of_decide_eq_true hl, fun c hm => isAlphanum_of_isNameChar (hc c hm)⟩
  rw [← String.length_toList, Nat.one_le_iff_ne_zero]
  intro hz
  rw [String.isEmpty_iff.mpr (String.toList_eq_nil_iff.mp (List.eq_nil_of_length_eq_zero hz))] at hne
  cases hne

end Service

namespace Server

/-- Whatever the clients do and whatever the owner decides, those who live in the world are the
players of the server's sessions that were let in, each under a number of its own and a valid
name. There are no more of them than sessions, and no list of servers has shown more players than
there may be sessions. -/
theorem census (listing : Listing) (setup : Setup) (htable : setup.table = standard listing)
    (address worldName : String) (steps : List Step)
    (hlogins : ((start setup address worldName).runSteps setup steps).history.logins < 2 ^ 32) :
    let server := (start setup address worldName).runSteps setup steps
    (∀ entity, entity ∈ server.world.live ↔ ∃ seat ∈ server.seats,
      seat.session.player = some (.native entity) ∧
        server.history.Admitted setup.policy seat.key (.native entity)) ∧
    (server.world.live.map (·.id)).Nodup ∧
    (∀ seat ∈ server.seats, ∀ player, seat.session.player = some player →
      ∃ entity, player = .native entity) ∧
    server.seats.Pairwise (fun a b => a.key ≠ b.key ∧ ∀ e f,
      a.session.player = some (.native e) → b.session.player = some (.native f) → e.id ≠ f.id) ∧
    (∀ entity ∈ server.world.live, 1 ≤ entity.name.length ∧ entity.name.length ≤ 16 ∧
      ∀ c ∈ entity.name.toList, c.isAlphanum ∨ c = '_') ∧
    (∀ seat ∈ server.seats, seat.key < server.nextKey) ∧
    server.world.online ≤ server.seats.length ∧
    server.seats.length ≤ setup.maxSessions ∧
    (∀ key json, Record.session key (.write (.statusResponse json)) ∈ server.records →
      ∃ online ≤ setup.maxSessions, json = (listing.json online).render) ∧
    (∀ config : Config, setup = config.setup setup.policy setup.drawn setup.token →
      listing = config.listing →
      ∀ key json, Record.session key (.write (.statusResponse json)) ∈ server.records →
        ∃ online ≤ listing.maxPlayers, json = (listing.json online).render) := by
  intro server
  have hs : server.Sound setup listing := sound_runSteps htable address worldName steps
  have hb := hs.books hlogins
  have hlength : server.keys.length = server.seats.length := List.length_map _
  have hplayer : ∀ {seat player}, seat ∈ server.seats → seat.session.player = some player →
      server.player seat.key = some player := by
    intro seat player hmem hp
    exact hs.player_eq_some_iff.mpr ⟨seat, hmem, rfl, hp⟩
  have hadmissible : ∀ {key player}, server.player key = some player →
      ∃ entity, player = .native entity ∧ isValidName entity.name := by
    intro key player hp
    obtain ⟨entity, n, he, -, -, hv⟩ := hb.native key player (hb.seated key player hp).2
    exact ⟨entity, he, hv⟩
  have hlive : ∀ entity, entity ∈ server.world.live ↔ ∃ seat ∈ server.seats,
      seat.session.player = some (.native entity) ∧
        server.history.Admitted setup.policy seat.key (.native entity) := by
    intro entity
    rw [show entity ∈ server.world.live ↔ _ from hb.live_iff entity]
    constructor
    · rintro ⟨key, hp, ha⟩
      obtain ⟨seat, hmem, rfl, hseat⟩ := hs.player_eq_some_iff.mp hp
      exact ⟨seat, hmem, hseat, ha⟩
    · rintro ⟨seat, hmem, hseat, ha⟩
      exact ⟨seat.key, hplayer hmem hseat, ha⟩
  have hnative : ∀ seat ∈ server.seats, ∀ player, seat.session.player = some player →
      ∃ entity, player = .native entity := by
    intro seat hmem player hp
    obtain ⟨entity, he, -⟩ := hadmissible (hplayer hmem hp)
    exact ⟨entity, he⟩
  have hdistinct : server.seats.Pairwise fun a b => a.key ≠ b.key ∧ ∀ e f,
      a.session.player = some (.native e) → b.session.player = some (.native f) →
        e.id ≠ f.id := by
    refine (List.pairwise_map.mp hs.keys_nodup).imp_of_mem fun ha hb' hne => ⟨hne, ?_⟩
    intro e f he hf hid
    exact hne (hb.distinct _ _ e f (hplayer ha he) (hplayer hb' hf) hid)
  have hnames : ∀ entity ∈ server.world.live, 1 ≤ entity.name.length ∧
      entity.name.length ≤ 16 ∧ ∀ c ∈ entity.name.toList, c.isAlphanum ∨ c = '_' := by
    intro entity he
    obtain ⟨key, hp, -⟩ := (hb.live_iff entity).mp he
    obtain ⟨other, ho, hv⟩ := hadmissible hp
    cases ho
    exact spelled_of_isValidName hv
  have hkeys : ∀ seat ∈ server.seats, seat.key < server.nextKey := by
    intro seat hmem
    exact hs.keys_lt seat.key (List.mem_map_of_mem hmem)
  have hreports : ∀ key json,
      Record.session key (.write (.statusResponse json)) ∈ server.records →
        ∃ online ≤ setup.maxSessions, json = (listing.json online).render := by
    intro key json hr
    exact hb.reports key json (List.mem_filterMap.mpr ⟨_, hr, rfl⟩)
  refine ⟨hlive, hb.live_nodup, hnative, hdistinct, hnames, hkeys, hlength ▸ hb.online_le,
    hlength ▸ hs.room, hreports, ?_⟩
  intro config hc hl key json hr
  have hmax : setup.maxSessions = listing.maxPlayers := by
    rw [hc, hl]
    rfl
  exact hmax ▸ hreports key json hr

def usualSetup : Setup := Config.default.setup .console (fun _ _ => default) fun _ => 0

def oneClient : List Step :=
  [.accept "127.0.0.1:40000" .unlimited,
    .post (.handshake 1 (.handshake 4 "localhost" 25565 .login) .control), .serve,
    .post (.handshake 1 (.loginStart "Alice") .control), .serve, .tick]

theorem census_oneClient :
    ((start usualSetup "127.0.0.1:25565" "world").runSteps usualSetup oneClient).history.logins <
        2 ^ 32 ∧
      ∃ seat ∈ ((start usualSetup "127.0.0.1:25565" "world").runSteps usualSetup oneClient).seats,
        seat.session.player = some (.native ⟨1, "Alice"⟩) ∧
          ((start usualSetup "127.0.0.1:25565" "world").runSteps usualSetup
            oneClient).history.Admitted usualSetup.policy seat.key (.native ⟨1, "Alice"⟩) := by
  have hlogins : ((start usualSetup "127.0.0.1:25565" "world").runSteps usualSetup
      oneClient).history.logins < 2 ^ 32 := by decide +kernel
  have hlive : ⟨1, "Alice"⟩ ∈ ((start usualSetup "127.0.0.1:25565" "world").runSteps usualSetup
      oneClient).world.live := by decide +kernel
  exact ⟨hlogins, ((census Config.default.listing usualSetup rfl "127.0.0.1:25565" "world" oneClient
    hlogins).1 ⟨1, "Alice"⟩).mp hlive⟩

end Server
end GameServer
