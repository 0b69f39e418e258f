import GameServer.Outbox.Basic
import GameServer.Proofs.Session.Tenure

/-! What a session sends to its client, and above all what it still sends when it is taken out of the
table. -/

namespace GameServer

open Event

namespace Event

/-- What the session has put into its outbox. -/
def sent (events : List Event) : List Outgoing := events.filterMap outgoing?

@[simp] theorem sent_nil : sent [] = [] := rfl

@[simp] theorem sent_append (events more : List Event) :
    sent (events ++ more) = sent events ++ sent more := List.filterMap_append

@[simp] theorem sent_cons (event : Event) (events : List Event) :
    sent (event :: events) = event.outgoing?.toList ++ sent events := by
  cases h : event.outgoing? <;> simp [sent, h]

@[simp] theorem sent_logs (notices : List Notice) : sent (notices.map .log) = [] := by
  simp [sent, outgoing?]

end Event

namespace Scene

variable {scene : Scene} {reason : String} {player : Player}

/-- All that is done for a session at the end. -/
def dismiss (scene : Scene) (reason : String) : Scene := (scene.disconnect reason).dispose true

@[simp] theorem sent_told (scene : Scene) (message : Option String) :
    Event.sent (scene.told message) = [] := by
  unfold told
  split
  · rfl
  · unfold spoken
    split <;> rfl

theorem sent_parting (phase : Phase) (reason : String) : Event.sent (parting phase reason) =
    if phase.hasFarewell then [.packet (.farewell reason), .close] else [.close] := by
  unfold parting
  split <;> rfl

theorem sent_dispose (scene : Scene) (tell : Bool) :
    Event.sent (scene.dispose tell).trace = Event.sent scene.trace := by
  cases hplayer : scene.session.player with
  | none => rw [scene.dispose_of_none hplayer]
  | some player =>
    obtain ⟨world, notices, he⟩ := exists_dispose hplayer tell
    rw [he]
    simp [outgoing?]

theorem sent_dismiss_of_none (hplayer : scene.session.player = none) (reason : String) :
    Event.sent (scene.dismiss reason).trace = Event.sent scene.trace ++
      if scene.session.phase.hasFarewell then [.packet (.farewell reason), .close] else [.close] := by
  rw [dismiss, sent_dispose, Scene.disconnect, disconnectWith_of_unasked (.inr hplayer), sendAway_eq,
    ← sent_parting]
  exact Event.sent_append _ _

theorem sent_dismiss_of_cancelled (hplayer : scene.session.player = some player)
    (hverdict : scene.policy.kick scene.asked player.name reason = .cancelled) :
    Event.sent (scene.dismiss reason).trace = Event.sent scene.trace := by
  rw [dismiss, sent_dispose, disconnect_of_cancelled hplayer hverdict]
  simp [outgoing?]

theorem sent_dismiss_of_proceed {given : String} {leave : Option String}
    (hplayer : scene.session.player = some player)
    (hverdict : scene.policy.kick scene.asked player.name reason = .proceed given leave) :
    Event.sent (scene.dismiss reason).trace = Event.sent scene.trace ++
      if scene.session.phase.hasFarewell then [.packet (.farewell given), .close] else [.close] := by
  obtain ⟨world, notices, he⟩ := exists_disconnect_of_proceed hplayer hverdict
  rw [dismiss, sent_dispose, he, ← sent_parting]
  simp [outgoing?]

/-- The owner is asked about the kick before anything else happens. -/
theorem asked_dismiss (hplayer : scene.session.player = some player) (reason : String) :
    ∃ rest, (scene.dismiss reason).trace =
      scene.trace ++ .asked (.kick player.name reason) :: rest := by
  have hasked : ∃ rest, (scene.disconnect reason).trace =
      scene.trace ++ .asked (.kick player.name reason) :: rest := by
    cases hverdict : scene.policy.kick scene.asked player.name reason with
    | cancelled => exact ⟨_, congrArg Scene.trace (disconnect_of_cancelled hplayer hverdict)⟩
    | proceed given leave =>
      obtain ⟨world, notices, he⟩ := exists_disconnect_of_proceed hplayer hverdict
      exact ⟨_, congrArg Scene.trace he⟩
  obtain ⟨rest, ht⟩ := hasked
  unfold dismiss
  cases hleft : (scene.disconnect reason).session.player with
  | none =>
    simp only [dispose, hleft]
    exact ⟨rest, ht⟩
  | some player =>
    obtain ⟨world, notices, he⟩ := exists_dispose hleft true
    rw [he, ht]
    exact ⟨_, List.append_assoc _ _ _⟩

end Scene

end GameServer
