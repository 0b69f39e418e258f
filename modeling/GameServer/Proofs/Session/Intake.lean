import GameServer.Proofs.Session.Guise
import GameServer.Proofs.Session.Sending
import GameServer.Proofs.Session.Turn

/-! What a session takes up, and what is left in its inbox. Nothing but a handshake or a tick has it
take anything up, and a tick leaves nothing behind. -/

namespace GameServer

open Service

namespace Event

def taken? : Event → Option Packet
  | .took _ packet => some packet
  | _ => none

/-- The packets that were taken up, in this order. -/
def taken (events : List Event) : List Packet := events.filterMap taken?

@[simp] theorem taken_nil : taken [] = [] := rfl

@[simp] theorem taken_append (events more : List Event) :
    taken (events ++ more) = taken events ++ taken more := List.filterMap_append

@[simp] theorem taken_cons (event : Event) (events : List Event) :
    taken (event :: events) = event.taken?.toList ++ taken events := by
  cases h : event.taken? <;> simp [taken, h]

theorem taken_sequels {events : List Event} (h : ∀ event ∈ events, event.isSequel) :
    taken events = [] := by
  refine List.filterMap_eq_nil_iff.mpr fun event hm => ?_
  cases event with
  | took => cases h _ hm
  | _ => rfl

end Event

open Event

namespace Scene

/-- These packets are taken up, and then these wait. -/
structure TakesUp (scene after : Scene) (packets waiting : List Packet) : Prop where
  taken_eq : taken after.trace = taken scene.trace ++ packets
  inbox_eq : after.session.inbox = waiting

variable {listing : Listing} {setting : Setting} {scene between after : Scene}
  {packets more waiting : List Packet}

theorem TakesUp.trans (h : TakesUp scene between packets waiting) {rest : List Packet}
    (h' : TakesUp between after more rest) : TakesUp scene after (packets ++ more) rest :=
  ⟨by rw [h'.taken_eq, h.taken_eq, List.append_assoc], h'.inbox_eq⟩

/-- What follows of itself takes nothing up. -/
theorem TakesUp.follow (h : TakesUp scene between packets waiting) {mentioned : Prop}
    (ha : Aftermath between after mentioned) : TakesUp scene after packets waiting := by
  obtain ⟨new, ht, hsequel, -⟩ := ha.events
  have hinbox : after.session.inbox = between.session.inbox := by rw [ha.session_eq]
  refine ⟨?_, hinbox.trans h.inbox_eq⟩
  rw [ht, taken_append, taken_sequels hsequel, List.append_nil, h.taken_eq]

theorem TakesUp.nothing (scene : Scene) : TakesUp scene scene [] scene.session.inbox :=
  ⟨(List.append_nil _).symm, rfl⟩

section

variable (scene : Scene) (setting : Setting)

theorem Aftermath.taken_eq {mentioned : Prop} (h : Aftermath scene after mentioned) :
    taken after.trace = taken scene.trace :=
  ((TakesUp.nothing scene).follow h).taken_eq.trans (List.append_nil _)

@[simp] theorem taken_record (event : Event) :
    taken (scene.record event).trace = taken scene.trace ++ event.taken?.toList := by
  simp [record]

@[simp] theorem taken_note (notice : Notice) :
    taken (scene.note notice).trace = taken scene.trace := by simp [note, taken?]

@[simp] theorem taken_send (packet : Packet) :
    taken (scene.send packet).trace = taken scene.trace := by simp [send, taken?]

@[simp] theorem taken_ask (question : Question) :
    taken (scene.ask question).trace = taken scene.trace := by simp [ask, record, taken?]

@[simp] theorem taken_announce (message : Option String) :
    taken (scene.announce message).trace = taken scene.trace := by
  obtain ⟨mentioned, h⟩ := aftermath_announce scene message
  exact h.taken_eq

@[simp] theorem taken_disconnectWith (reason : String) (force : Bool) :
    taken (scene.disconnectWith reason force).trace = taken scene.trace :=
  (aftermath_disconnectWith scene reason force).taken_eq

@[simp] theorem taken_disconnect (reason : String) :
    taken (scene.disconnect reason).trace = taken scene.trace :=
  taken_disconnectWith scene reason false

@[simp] theorem taken_enterWorld (player : Player) :
    taken (scene.enterWorld player).trace = taken scene.trace := by
  cases player with
  | guest name => simp [enterWorld, taken?]
  | native entity => simp [enterWorld, note, record, taken?]

variable {scene setting}

theorem taken_setPhase {next : Phase} {moved : Scene} (h : scene.setPhase setting next = .ok moved) :
    taken moved.trace = taken scene.trace := by
  simp only [setPhase] at h
  split at h
  · cases h
  · cases h
    dsimp only
    split <;> simp

theorem taken_attach {player : Player} (h : scene.attach player = .ok after) :
    taken after.trace = taken scene.trace := by
  simp only [attach] at h
  split at h
  · cases h
  · split at h
    · cases h
      simp [taken?]
    · cases h
      simp [taken?]

variable (setting) (player : Option Player)

theorem taken_handshake (packet : Packet) :
    taken (handshake setting player packet scene).trace = taken scene.trace := by
  unfold handshake
  split
  · split
    · split
      · simp
      · rename_i moved hmoved
        split <;> simp [taken_setPhase hmoved]
    · simp
  · rfl

theorem taken_loginStart (packet : Packet) :
    taken (loginStart setting player packet scene).trace = taken scene.trace := by
  unfold loginStart
  split
  · split
    · simp
    · split
      · simp
      · split
        · simp
        · rename_i moved hmoved
          dsimp only
          split
          · simp [taken_setPhase hmoved]
          · rename_i hattached
            simp [taken_attach hattached, taken_setPhase hmoved]
  · rfl

theorem taken_keepAlive (packet : Packet) :
    taken (keepAlive setting player packet scene).trace = taken scene.trace := by
  unfold keepAlive
  split
  · split
    · rfl
    · simp
  · rfl

theorem taken_chat (packet : Packet) :
    taken (chat setting player packet scene).trace = taken scene.trace := by
  unfold chat
  split
  · dsimp only
    split
    · rfl
    · split
      · simp
      · exact (aftermath_broadcast _ _).taken_eq
  · rfl

theorem taken_blockPlacement (packet : Packet) :
    taken (blockPlacement setting player packet scene).trace = taken scene.trace := by
  unfold blockPlacement
  split
  · split
    · simp
    · simp [remember]
  · rfl

end

theorem inbox_dispatch (scene : Scene) (packet : Packet) :
    (scene.dispatch (standard listing) setting packet).session.inbox = scene.session.inbox := by
  let guise : Guise :=
    { past := [], idle := id, inbox := fun _ => scene.session.inbox, idle_zero := rfl }
  have hworn := dispatch_wear guise scene setting listing packet
  have hsame : scene.wear guise = scene := rfl
  rw [hsame] at hworn
  exact congrArg (·.session.inbox) hworn

theorem takesUp_dispatch (scene : Scene) (packet : Packet) :
    TakesUp scene (scene.dispatch (standard listing) setting packet) [packet]
      scene.session.inbox := by
  refine ⟨?_, inbox_dispatch scene packet⟩
  have htook : taken (scene.record (.took scene.session.phase packet)).trace =
      taken scene.trace ++ [packet] := taken_record scene _
  rw [dispatch_standard, ← htook]
  dsimp only
  split
  · exact taken_handshake ..
  · exact taken_send ..
  · simp [ping]
  · exact taken_loginStart ..
  · exact taken_keepAlive ..
  · exact taken_chat ..
  · exact taken_blockPlacement ..
  · exact taken_note ..

theorem takesUp_takeUp (scene : Scene) (packet : Packet) (rest : List Packet) :
    TakesUp scene (scene.takeUp (standard listing) setting packet rest) [packet] rest := by
  let opened : Scene := { scene with session := { scene.session with inbox := rest } }
  have htaken : TakesUp opened (opened.dispatch (standard listing) setting packet) [packet] rest :=
    takesUp_dispatch opened packet
  exact ⟨htaken.taken_eq, htaken.inbox_eq⟩

theorem takesUp_drain {scene : Scene} {bound : Nat}
    (hbound : scene.session.inbox.length ≤ bound) :
    TakesUp scene (drain (standard listing) setting bound scene) scene.session.inbox [] := by
  induction bound generalizing scene with
  | zero =>
    have hnil := List.eq_nil_of_length_eq_zero (Nat.le_zero.mp hbound)
    exact ⟨by rw [hnil, List.append_nil]; rfl, hnil⟩
  | succ bound ih =>
    cases hinbox : scene.session.inbox with
    | nil =>
      rw [drain_of_nil hinbox]
      exact hinbox ▸ .nothing scene
    | cons packet rest =>
      have htaken : TakesUp scene (scene.takeUp (standard listing) setting packet rest) [packet]
          rest := takesUp_takeUp scene packet rest
      have hrest : (scene.takeUp (standard listing) setting packet rest).session.inbox.length ≤
          bound := by
        rw [htaken.inbox_eq]
        simpa [hinbox] using hbound
      have hdrained := ih hrest
      rw [htaken.inbox_eq] at hdrained
      rw [drain_of_cons hinbox]
      exact htaken.trans hdrained

theorem takesUp_issueKeepAlive (scene : Scene) (setting : Setting) :
    TakesUp scene (scene.issueKeepAlive setting) [] scene.session.inbox := by
  refine ⟨?_, by rw [session_issueKeepAlive]⟩
  rw [trace_issueKeepAlive, taken_append, taken_cons]
  split <;> rfl

theorem takesUp_disconnect (scene : Scene) (reason : String) :
    TakesUp scene (scene.disconnect reason) [] scene.session.inbox :=
  (TakesUp.nothing scene).follow (aftermath_disconnectWith scene reason false)

theorem takesUp_dispose (scene : Scene) (tell : Bool) :
    TakesUp scene (scene.dispose tell) [] scene.session.inbox :=
  (TakesUp.nothing scene).follow (aftermath_dispose scene tell)

theorem takesUp_dismiss (scene : Scene) (reason : String) :
    TakesUp scene (scene.dismiss reason) [] scene.session.inbox :=
  (takesUp_disconnect scene reason).follow (aftermath_dispose _ true)

theorem takesUp_checkSilence (scene : Scene) (setting : Setting) :
    TakesUp scene (scene.checkSilence setting) [] scene.session.inbox := by
  unfold checkSilence
  split
  · exact .nothing scene
  · split
    · exact takesUp_issueKeepAlive scene setting
    · exact takesUp_disconnect scene timeoutReason

/-- A tick empties the inbox. -/
theorem takesUp_pulse (scene : Scene) :
    TakesUp scene (scene.pulse (standard listing) setting) scene.session.inbox [] := by
  have hticked : TakesUp scene scene.ticked [] scene.session.inbox := ⟨(List.append_nil _).symm, rfl⟩
  have hdrained : TakesUp scene.ticked (scene.drained (standard listing) setting)
      scene.session.inbox [] := takesUp_drain (Nat.le_refl _)
  have hchecked := takesUp_checkSilence (scene.drained (standard listing) setting) setting
  rw [hdrained.inbox_eq] at hchecked
  have hpulsed := (hticked.trans hdrained).trans hchecked
  rwa [List.nil_append, List.append_nil] at hpulsed

end Scene
end GameServer
