import GameServer.Proofs.Server.Eviction

/-! The mailbox of the loop. Messages are only ever put behind the ones that wait, and only the loop
takes them out, one at a time, so each is served after those that were there before it. -/

namespace GameServer

def Step.isServe : Step → Bool
  | .serve => true
  | _ => false

namespace Server

variable {server : Server} {setup : Setup} {key : Key}

theorem mailbox_act (server : Server) (key : Key) (action : Setting → Scene → Scene) :
    (server.act setup key action).mailbox = server.mailbox := by
  cases hs : server.seat? key with
  | none => rw [act_of_none server key setup action hs]
  | some seat =>
    have hview := congrArg View.mailbox (view_act server key key setup action hs)
    rw [if_pos rfl] at hview
    exact hview

theorem mailbox_answer (server : Server) (key : Key) (asker : Asker) :
    (server.answer key asker).mailbox = server.mailbox := by
  unfold answer
  split <;> rfl

theorem mailbox_remove (server : Server) (key : Key) :
    (server.remove setup key).mailbox = server.mailbox := by
  unfold remove
  split
  · rfl
  · exact mailbox_act server key fun _ scene => scene.dispose true

theorem mailbox_tick (server : Server) : (server.tick setup).mailbox = server.mailbox := by
  have hpulsed : ∀ (keys : List Key) (server : Server), (keys.foldl (fun server key =>
      server.act setup key fun setting scene => scene.pulse setup.table setting)
      server).mailbox = server.mailbox := by
    intro keys
    induction keys with
    | nil => exact fun _ => rfl
    | cons key keys ih => exact fun server => (ih _).trans (mailbox_act server key _)
  unfold tick
  dsimp only
  repeat' split
  · rfl
  · exact hpulsed _ server
  · exact hpulsed _ server

theorem mailbox_prefix_post (server : Server) (message : Message) :
    server.mailbox <+: (server.post message).mailbox := by
  unfold post
  split
  · exact List.prefix_append _ _
  · exact List.prefix_refl _

theorem mailbox_prefix_endReader (server : Server) (key : Key) :
    server.mailbox <+: (server.endReader key).mailbox :=
  mailbox_prefix_post (server.updateConnection key ({ · with reader := .ended })) (.closed key)

theorem mailbox_prefix_deliver (server : Server) (key : Key) (packet : Packet) :
    server.mailbox <+: (server.deliver setup key packet).mailbox := by
  unfold deliver
  repeat' split
  · rw [mailbox_act]
    exact List.prefix_refl _
  · exact mailbox_prefix_endReader server key
  · exact mailbox_prefix_post (server.updateConnection key ({ · with reader := .asking })) _
  · exact mailbox_prefix_endReader server key

theorem mailbox_prefix_read (server : Server) (key : Key) :
    server.mailbox <+: (server.read setup key).mailbox := by
  unfold read
  repeat' split
  · exact List.prefix_refl _
  · exact List.prefix_refl _
  · exact List.prefix_refl _
  · exact List.prefix_refl _
  · exact mailbox_prefix_endReader server key
  · exact mailbox_prefix_deliver server key _
  · exact List.prefix_refl _
  · exact List.prefix_refl _
  · exact mailbox_prefix_endReader (server.note _) key
  · exact mailbox_prefix_endReader (server.note _) key

theorem mailbox_prefix_perform (server : Server) (setup : Setup) {step : Step}
    (h : step.isServe = false) : server.mailbox <+: (server.perform setup step).mailbox := by
  cases step with
  | accept address sink =>
    simp only [perform, accept]
    repeat' split
    all_goals exact List.prefix_refl _
  | arrive | cease | shuffle => exact List.prefix_refl _
  | read key => exact mailbox_prefix_read server key
  | heed key =>
    simp only [perform, heed]
    repeat' split
    · exact List.prefix_refl _
    · exact mailbox_prefix_endReader server key
    · exact List.prefix_refl _
  | write key =>
    simp only [perform, write]
    split <;> exact List.prefix_refl _
  | post message => exact mailbox_prefix_post server message
  | serve => cases h
  | tick => simp [perform, mailbox_tick]

/-! What comes of a message at the head. -/

section

variable {rest : List Message}

theorem serve_handshake (hrunning : server.running) {packet : Packet} {asker : Asker}
    (hmailbox : server.mailbox = .handshake key packet asker :: rest) :
    server.serve setup = ({ server with mailbox := rest }.act setup key fun setting scene =>
      scene.receive setup.table setting packet).answer key asker := by
  simp only [serve, hrunning, hmailbox]
  rfl

theorem serve_closed (hrunning : server.running) (hmailbox : server.mailbox = .closed key :: rest) :
    server.serve setup = { server with mailbox := rest }.remove setup key := by
  simp only [serve, hrunning, hmailbox]
  rfl

/-- Unless the loop ends, the others stay. -/
theorem mailbox_serve {message : Message} (hmailbox : server.mailbox = message :: rest)
    (hrunning : server.running) (hgoes : (server.serve setup).running) :
    (server.serve setup).mailbox = rest := by
  cases message with
  | handshake key packet asker =>
    rw [serve_handshake hrunning hmailbox, mailbox_answer, mailbox_act]
  | closed key => rw [serve_closed hrunning hmailbox, mailbox_remove]
  | shutdown =>
    rw [serve_shutdown hrunning (by rw [hmailbox]; rfl)] at hgoes
    cases hgoes

end

/-- Each message that waits is at the head of the mailbox when the loop has served those before it. -/
theorem exists_served (setup : Setup) {before after : List Message} {message : Message}
    {late : List Step} (hmailbox : server.mailbox = before ++ message :: after)
    (hcount : before.length < late.countP Step.isServe)
    (hgoes : (server.runSteps setup late).running) :
    ∃ early rest waiting, late = early ++ .serve :: rest ∧
      (server.runSteps setup early).mailbox = message :: waiting := by
  -- On the run: a step that serves leaves fewer messages ahead, any other leaves them as they are.
  induction late generalizing server before after with
  | nil => cases hcount
  | cons step late ih =>
    have hends : ((server.perform setup step).runSteps setup late).running := hgoes
    have hstays : (server.perform setup step).running := running_of_runSteps hends
    cases hstep : step.isServe with
    | false =>
      obtain ⟨new, hnew⟩ := mailbox_prefix_perform server setup hstep
      have hwaits : (server.perform setup step).mailbox = before ++ message :: (after ++ new) := by
        rw [← hnew, hmailbox, List.append_assoc, List.cons_append]
      rw [List.countP_cons_of_neg (by simp [hstep])] at hcount
      obtain ⟨early, rest, waiting, rfl, hhead⟩ := ih hwaits hcount hends
      exact ⟨step :: early, rest, waiting, rfl, hhead⟩
    | true =>
      obtain rfl : step = .serve := by cases step <;> first | rfl | cases hstep
      cases before with
      | nil => exact ⟨[], late, after, rfl, hmailbox⟩
      | cons first before =>
        have hrunning : server.running := running_of_perform hstays
        have hwaits := mailbox_serve hmailbox hrunning hstays
        rw [List.countP_cons_of_pos rfl, List.length_cons] at hcount
        obtain ⟨early, rest, waiting, rfl, hhead⟩ := ih hwaits (Nat.lt_of_succ_lt_succ hcount) hends
        exact ⟨.serve :: early, rest, waiting, rfl, hhead⟩

end Server
end GameServer
