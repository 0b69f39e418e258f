import GameServer.Proofs.Server.Census
import GameServer.Proofs.Server.Story
import GameServer.Proofs.Session.Bulletin

/-! What a server tells its players of each other, as long as its owner gives the answers it gives
by itself. -/

namespace GameServer

open Service Event

namespace Scene

variable {listing : Listing} {setting : Setting} {policy : Policy} {scene : Scene}

theorem bulletin_run (hpolicy : policy.Usual) (husual : scene.policy.Usual) (h : Bulletin scene)
    {moves : List Move} (hfits : ∀ move ∈ moves, move.Fits policy) :
    Bulletin (scene.run (standard listing) setting moves) := by
  induction moves generalizing scene with
  | nil => exact h
  | cons move moves ih =>
    obtain ⟨hmove, hmoves⟩ := List.forall_mem_cons.mp hfits
    have horder : move.isOrder → Bulletin (scene.run (standard listing) setting (move :: moves)) := by
      intro ho
      have hreports : Reports scene (scene.move (standard listing) setting move) :=
        reports_order husual ho
      exact ih (hreports.usual husual) (hreports.bulletin h) hmoves
    cases move with
    | elsewhere world other asked =>
      obtain rfl : other = policy := hmove
      have hmet : Bulletin { scene with world, policy := other, asked } := by
        cases h with
        | silent hphase hnone ht => exact .silent hphase hnone ht
        | present player messages hphase hplayer hname hmessages ht =>
          exact .present player messages hphase hplayer hname hmessages ht
        | gone name messages hphase hnone hname hmessages ht =>
          exact .gone name messages hphase hnone hname hmessages ht
      exact ih hpolicy hmet hmoves
    | _ => exact horder hmove

end Scene

/-- What is told of a player, up to its leave if it has left. -/
def announcements (name : String) (messages : List String) (left : Bool) : List String :=
  Policy.joinMessage name :: messages.map (chatLine name) ++
    if left then [Policy.leaveMessage name] else []

theorem Bulletin.announcements_eq {scene : Scene} (h : Bulletin scene) : texts scene.trace = [] ∨
    ∃ name messages left, (1 ≤ name.length ∧ name.length ≤ 16 ∧
        ∀ c ∈ name.toList, c.isAlphanum ∨ c = '_') ∧
      (∀ message ∈ messages, Presentable message) ∧
      texts scene.trace = announcements name messages left ∧
      (scene.session.player = none → left = true) := by
  cases h with
  | silent _ _ ht => exact .inl ht
  | present player messages _ hplayer hname hmessages ht =>
    refine .inr ⟨player.name, messages, false, spelled_of_isValidName hname, hmessages, ?_, ?_⟩
    · rw [ht]
      exact (List.append_nil _).symm
    · intro hnone
      cases hnone.symm.trans hplayer
  | gone name messages _ _ hname hmessages ht =>
    exact .inr ⟨name, messages, true, spelled_of_isValidName hname, hmessages, ht, fun _ => rfl⟩

theorem Setup.Lives.exists_bulletin {setup : Setup} {listing : Listing}
    (htable : setup.table = standard listing)
    (hpolicy : setup.policy.Usual) {key : Key} {address : String} {moves : List Move}
    {story : List Event} {session : Session}
    (h : setup.Lives key address moves story session) :
    ∃ scene, Bulletin scene ∧ scene.session = session ∧ scene.trace = story := by
  obtain ⟨world, asked, hfits, hsession, htrace⟩ := h
  refine ⟨_, ?_, hsession, htrace⟩
  rw [htable]
  exact Scene.bulletin_run hpolicy hpolicy (Scene.bulletin_begin _ _ _) hfits

namespace Server

/-- Whatever the clients do, nothing is told of a session or that its player has joined, then what
the player says, and at last that it has left; and that it has left is told at the latest when the
session is taken out of the table. The name is the same all the time. -/
theorem announced (listing : Listing) (setup : Setup) (htable : setup.table = standard listing)
    (echoes : Bool) (hpolicy : setup.policy = { Policy.console with echoes })
    (address worldName : String) (steps : List Step) (key : Key) :
    let server := (start setup address worldName).runSteps setup steps
    let told := texts (server.story key)
    told = [] ∨ ∃ name messages left, (1 ≤ name.length ∧ name.length ≤ 16 ∧
        ∀ c ∈ name.toList, c.isAlphanum ∨ c = '_') ∧
      (∀ message ∈ messages, Presentable message) ∧
      told = announcements name messages left ∧ (server.seat? key = none → left = true) := by
  intro server told
  have hrecounts : server.Recounts setup := recounts_runSteps htable address worldName steps
  have husual : setup.policy.Usual := by
    rw [Policy.Usual, hpolicy]
  rcases hrecounts.lives key with hnothing | ⟨address, moves, session, hlives, hgone⟩
  · exact .inl (congrArg texts hnothing)
  · obtain ⟨scene, hbulletin, hsession, htrace⟩ := hlives.exists_bulletin htable husual
    have htold : texts scene.trace = told := congrArg texts htrace
    rw [← hsession] at hgone
    rw [← htold]
    rcases hbulletin.announcements_eq with h | ⟨name, messages, left, hname, hmessages, ht, hleft⟩
    · exact .inl h
    · exact .inr ⟨name, messages, left, hname, hmessages, ht, fun hs => hleft (hgone hs)⟩

/-- A client that chats and then hangs up. -/
def chatter : List Step :=
  oneClient ++ [.post (.handshake 1 (.chat " hi ") .control), .serve, .tick, .post (.closed 1), .serve]

theorem announced_chatter :
    let server := (start usualSetup "127.0.0.1:25565" "world").runSteps usualSetup chatter
    (usualSetup.table = standard Config.default.listing ∧
      usualSetup.policy = { Policy.console with echoes := true }) ∧
    texts (server.story 1) = ["Alice joined the game", "<Alice> hi", "Alice left the game"] ∧
    ∃ name messages left, (1 ≤ name.length ∧ name.length ≤ 16 ∧
        ∀ c ∈ name.toList, c.isAlphanum ∨ c = '_') ∧
      (∀ message ∈ messages, Presentable message) ∧
      texts (server.story 1) = announcements name messages left ∧
      (server.seat? 1 = none → left = true) := by
  intro server
  have htold : texts (server.story 1) =
      ["Alice joined the game", "<Alice> hi", "Alice left the game"] := by decide +kernel
  refine ⟨⟨rfl, rfl⟩, htold, ?_⟩
  rcases announced Config.default.listing usualSetup rfl true rfl "127.0.0.1:25565" "world" chatter 1
    with hnothing | h
  · cases htold.symm.trans hnothing
  · exact h

end Server
end GameServer
