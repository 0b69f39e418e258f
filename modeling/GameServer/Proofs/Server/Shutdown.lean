import GameServer.Proofs.Server.Census
import GameServer.Proofs.Server.Correspondence
import GameServer.Proofs.Server.Eviction
import GameServer.Proofs.Server.Housing
import GameServer.Proofs.Session.Teardown

/-! The end of a server. When its loop comes to a shutdown, every session is taken out of the table,
whatever the owner says to it, and every client gets what was meant for it and then the end. -/

namespace GameServer

open Service Event

namespace Outbox

/-- The frame that tells a client why it is sent away, if it is told and there is such a frame. -/
def farewell : Option String → List UInt8
  | none => []
  | some reason => (Packet.farewell reason).frame.toOption.getD []

theorem stream_farewell (reason : String) :
    stream [.packet (.farewell reason), .close] = farewell (some reason) := by
  cases hf : (Packet.farewell reason).frame <;> simp [stream, farewell, hf, Except.toOption]

/-- If nothing ends the writer early, all of it gets through. -/
theorem Exact.taken_eq {outbox : Outbox} {items last : List Outgoing}
    (h : outbox.Exact (items ++ last)) (hclosed : outbox.closed) (hclose : .close ∉ items)
    (hframes : ∀ packet, .packet packet ∈ items → ∃ frame, packet.frame = .ok frame)
    (hholds : outbox.sink.Holds (stream items ++ stream last)) :
    outbox.sink.taken = stream items ++ stream last := by
  have hopen : items.any Outgoing.isLast = false := by
    refine Bool.eq_false_iff.mpr fun hlast => ?_
    rcases any_isLast_iff.mp hlast with hm | ⟨packet, error, hm, he⟩
    · exact hclose hm
    · obtain ⟨frame, hframe⟩ := hframes packet hm
      cases he.symm.trans hframe
  have hstreamed : stream (items ++ last) = stream items ++ stream last := by
    rw [stream_append, hopen]
    rfl
  rw [(h.ended hclosed).1, hstreamed, Sink.share_of_holds hholds]

end Outbox

namespace Server

variable {server : Server} {setup : Setup} {listing : Listing} {key : Key}

/-- What the server has had for the client of this connection so far. -/
def sent (server : Server) (key : Key) : List Outgoing := Event.sent (server.story key)

/-- What the client of a connection is told when the server closes, going by the session it had and by
what happened before and has happened since: the reason it is sent away for, if anything. -/
inductive Dismissal (setup : Setup) (key : Key) (session : Option Seat) (before after : History) :
    Option String → Prop
  | gone (h : session = none) : Dismissal setup key session before after none
  /-- There is no way to tell it. -/
  | silent (seat : Seat) (hseat : session = some seat)
      (hphase : seat.session.phase = .handshake ∨ seat.session.phase = .status) :
      Dismissal setup key session before after none
  | unasked (seat : Seat) (hseat : session = some seat)
      (hphase : seat.session.phase = .login ∨ seat.session.phase = .play)
      (hplayer : seat.session.player = none) :
      Dismissal setup key session before after (some closingReason)
  | kicked (seat : Seat) (player : Player) (past rest : History) (given : String)
      (leave : Option String) (hseat : session = some seat) (hphase : seat.session.phase = .play)
      (hplayer : seat.session.player = some player) (hpast : before <+: past)
      (hasked : after = past ++ (key, .asked (.kick player.name closingReason)) :: rest)
      (hverdict : setup.policy.kick past.questions player.name closingReason =
        .proceed given leave) :
      Dismissal setup key session before after (some given)
  | vetoed (seat : Seat) (player : Player) (past rest : History) (hseat : session = some seat)
      (hphase : seat.session.phase = .play) (hplayer : seat.session.player = some player)
      (hpast : before <+: past)
      (hasked : after = past ++ (key, .asked (.kick player.name closingReason)) :: rest)
      (hverdict : setup.policy.kick past.questions player.name closingReason = .cancelled) :
      Dismissal setup key session before after none

section

variable {between : Server} {seat : Seat}

/-- The owner has no say about a session without a player. -/
theorem exists_dismissal_of_none (setup : Setup) (key : Key) (between : Server)
    (hplayer : seat.session.player = none) (before after : History) :
    ∃ told, Dismissal setup key (some seat) before after told ∧
      Outbox.stream (Event.sent ((between.scene seat).dismiss closingReason).trace) =
        Outbox.farewell told := by
  have hlast := (between.scene seat).sent_dismiss_of_none hplayer closingReason
  have hnothing : Event.sent (between.scene seat).trace = [] := rfl
  have hnow : (between.scene seat).session.phase = seat.session.phase := rfl
  rw [hnothing, hnow, List.nil_append] at hlast
  rw [hlast]
  cases hphase : seat.session.phase with
  | handshake | status => exact ⟨none, .silent seat rfl (by simp [hphase]), rfl⟩
  | login | play =>
    exact ⟨some closingReason, .unasked seat rfl (by simp [hphase]) hplayer,
      Outbox.stream_farewell closingReason⟩

theorem exists_dismissal_of_some {player : Player} {before after rest : History}
    (hpolicy : between.policy = setup.policy)
    (hcount : between.asked = between.history.questions)
    (hphase : seat.session.phase = .play) (hplayer : seat.session.player = some player)
    (hpast : before <+: between.history)
    (hafter : after = between.history ++
      (.of key ((between.scene seat).dismiss closingReason).trace ++ rest)) :
    ∃ told, Dismissal setup key (some seat) before after told ∧
      Outbox.stream (Event.sent ((between.scene seat).dismiss closingReason).trace) =
        Outbox.farewell told := by
  have hplayer' : (between.scene seat).session.player = some player := hplayer
  obtain ⟨asked, hasked⟩ := (between.scene seat).asked_dismiss hplayer' closingReason
  have hquestion : after = between.history ++
      (key, .asked (.kick player.name closingReason)) :: (.of key asked ++ rest) := by
    rw [hafter, hasked]
    rfl
  have hverdict : (between.scene seat).policy.kick (between.scene seat).asked player.name
      closingReason = setup.policy.kick between.history.questions player.name closingReason := by
    rw [← hcount, ← hpolicy]
    rfl
  cases hv : setup.policy.kick between.history.questions player.name closingReason with
  | cancelled =>
    rw [(between.scene seat).sent_dismiss_of_cancelled hplayer' (hverdict.trans hv)]
    exact ⟨none, .vetoed seat player between.history _ rfl hphase hplayer hpast hquestion hv, rfl⟩
  | proceed given leave =>
    have hlast := (between.scene seat).sent_dismiss_of_proceed hplayer' (hverdict.trans hv)
    have hnow : (between.scene seat).session.phase = .play := hphase
    rw [hnow] at hlast
    rw [hlast]
    exact ⟨some given,
      .kicked seat player between.history _ given leave rfl hphase hplayer hpast hquestion hv,
      Outbox.stream_farewell given⟩

end

/-- What is sent to a client at the end is what it is told. -/
theorem exists_dismissal (htable : setup.table = standard listing)
    (hsound : server.Sound setup listing) (hhoused : server.ledger.Housed) (key : Key) :
    let evicted := server.keys.foldl (evict setup) server
    ∃ (told : Option String) (last : List Outgoing),
      Dismissal setup key (server.seat? key) server.history evicted.history told ∧
      evicted.sent key = server.sent key ++ last ∧ Outbox.stream last = Outbox.farewell told := by
  intro evicted
  cases hs : server.seat? key with
  | none =>
    have hview : evicted.view key = server.view key :=
      view_foldl (fun server other hne => view_evict_of_ne server hne.symm) (not_mem_keys hs)
    have hstory : evicted.story key = server.story key := congrArg View.story hview
    exact ⟨none, [], .gone rfl, by rw [sent, hstory, List.append_nil, sent], rfl⟩
  | some seat =>
    obtain ⟨between, rest, hshifts, hview, hhistory⟩ :=
      exists_dismissed setup hsound.keys_nodup hs
    have hstory : evicted.story key =
        server.story key ++ ((between.scene seat).dismiss closingReason).trace :=
      congrArg View.story hview
    have hsent : evicted.sent key = server.sent key ++
        Event.sent ((between.scene seat).dismiss closingReason).trace := by
      rw [sent, hstory, Event.sent_append, sent]
    have htold : ∃ told, Dismissal setup key (some seat) server.history evicted.history told ∧
        Outbox.stream (Event.sent ((between.scene seat).dismiss closingReason).trace) =
          Outbox.farewell told := by
      cases hplayer : seat.session.player with
      | none => exact exists_dismissal_of_none setup key between hplayer _ _
      | some player =>
        have hp : (server.scene seat).PlayerInPlay :=
          hsound.playerInPlay seat (List.mem_of_find?_eq_some hs)
        have hphase : seat.session.phase = .play := hp (by simp [scene, hplayer])
        exact exists_dismissal_of_some (hsound.shifts htable hshifts).policy_eq
          (housed_shifts htable hsound hhoused hshifts).asked_eq hphase hplayer
          (history_prefix_shifts hshifts) hhistory
    obtain ⟨told, hdismissal, hstream⟩ := htold
    exact ⟨told, _, hdismissal, hsent, hstream⟩

/-- The loop ends, and what is left to say to a client is put into its outbox. -/
theorem stopped (htable : setup.table = standard listing) (hsound : server.Sound setup listing)
    (hhoused : server.ledger.Housed) (hrunning : server.running)
    (hshutdown : server.mailbox.head? = some .shutdown) :
    let after := server.serve setup
    after.Over ∧ ∀ key, ∃ (told : Option String) (last : List Outgoing),
      Dismissal setup key (server.seat? key) server.history after.history told ∧
      after.sent key = server.sent key ++ last ∧ Outbox.stream last = Outbox.farewell told := by
  intro after
  let noted := { server with mailbox := server.mailbox.tail }.note .shuttingDown
  let evicted := noted.keys.foldl (evict setup) noted
  have hafter : after = { evicted with
      running := false
      mailbox := []
      connections := evicted.connections.map Connection.abandon }.record
        (.ended evicted.seats.length) := serve_shutdown hrunning hshutdown
  have hnoted : noted.Alike server :=
    (alike_note _ .shuttingDown).trans ⟨rfl, rfl, rfl, rfl, rfl, rfl⟩
  have hevicted : after.Alike evicted := by
    rw [hafter]
    exact ((quiet_abandon evicted).trans (quiet_record _ rfl)).alike
  have hsound' := hsound.of_alike hnoted
  have hseats : evicted.seats = [] := seats_evicted hsound'.keys_nodup
  refine ⟨⟨by rw [hafter]; rfl, hevicted.seats.trans hseats⟩, fun key => ?_⟩
  obtain ⟨told, last, hdismissal, hsent, hstream⟩ :=
    exists_dismissal htable hsound' (hnoted.ledger ▸ hhoused) key
  have hseat : noted.seat? key = server.seat? key := by rw [seat?, seat?, hnoted.seats]
  refine ⟨told, last, ?_, ?_, hstream⟩
  · rwa [hseat, hnoted.history, ← hevicted.history] at hdismissal
  · simp only [sent, story, hnoted.history] at hsent
    rw [sent, story, hevicted.history]
    exact hsent

/-- A session that has been taken out of the table has parted with every player it was given. -/
theorem Recounts.tenures (htable : setup.table = standard listing) (h : server.Recounts setup)
    (hnone : server.seat? key = none) : ∃ tenures : List Tenure,
      landmarks false (server.story key) = tenures.flatMap Tenure.landmarks := by
  rcases h.lives key with hnothing | ⟨address, moves, session, hlives, hgone⟩
  · exact ⟨[], by rw [hnothing]; rfl⟩
  · obtain ⟨world, asked, -, hsession, htrace⟩ := hlives
    have hlawful : setup.table.Lawful := htable ▸ Scene.lawful_standard listing
    have hkept : ((Scene.begin world setup.policy asked).run setup.table
        (setup.setting ⟨key, address, .fresh⟩) moves).Kept :=
      Deeds.kept (Scene.deeds_run hlawful moves) (Scene.kept_begin world setup.policy asked)
    obtain ⟨tenures, ht⟩ := hkept
    rw [hsession, htrace, hgone hnone] at ht
    exact ⟨tenures, ht.trans (List.append_nil _)⟩

/-- Once the loop has ended, a writer that runs comes to its end. -/
theorem closed_of_write (setup : Setup) (hover : server.Over)
    (hcorresponds : server.Corresponds) {outbox : Outbox} (ho : server.outbox? key = some outbox) :
    ∃ next, (server.perform setup (.write key)).outbox? key = some next ∧ next.closed := by
  obtain ⟨hexact, hreleased⟩ := (hcorresponds key).exact outbox ho
  have hnone : (server.view key).seat = none := by simp [view, seat?, hover.seats_eq]
  have hwritten : (server.write key).outbox? key = (server.outbox? key).map (·.run.1) := by
    have hview := view_write server key key
    rw [if_pos rfl] at hview
    exact congrArg View.outbox hview
  refine ⟨outbox.run.1, by rw [perform, hwritten, ho, Option.map_some], ?_⟩
  refine hexact.run.closed_iff.mpr (.inl ?_)
  rw [outbox.released_run, hreleased, hnone]
  rfl

theorem closed_of_mem (hover : server.Over) {late : List Step}
    (hcorresponds : ∀ early, early <+: late → (server.runSteps setup early).Corresponds)
    {outbox : Outbox} (ho : server.outbox? key = some outbox) (hwrite : .write key ∈ late) :
    ∃ next, (server.runSteps setup late).outbox? key = some next ∧ next.closed := by
  obtain ⟨early, rest, rfl⟩ := List.append_of_mem hwrite
  have hcome := precedes_runSteps setup early key outbox ho
  obtain ⟨between, hb, -⟩ := hcome
  obtain ⟨hover', -⟩ := hover.runSteps setup early
  obtain ⟨written, hw, hclosed⟩ :=
    closed_of_write setup hover' (hcorresponds early (List.prefix_append _ _)) hb
  obtain ⟨next, hn, hprecedes⟩ := precedes_runSteps setup rest key written hw
  refine ⟨next, ?_, hprecedes.closed hclosed⟩
  rw [runSteps_append]
  exact hn

/-- When the loop has come to a shutdown and ended, nobody is left, in the table or in the world, and
the owner has been asked once about the leave of every player there ever was, whether or not it had
called off the kick. Whoever was connected is sent what was meant for it before, then why it is sent
away if its session could tell and the owner let it, and then the end. -/
theorem closed_cleanly (listing : Listing) (setup : Setup) (htable : setup.table = standard listing)
    (address worldName : String) (steps late : List Step)
    (hfresh : ∀ address sink, .accept address sink ∈ steps ++ late → sink.taken = [])
    (hrunning : ((start setup address worldName).runSteps setup steps).running)
    (hshutdown : ((start setup address worldName).runSteps setup steps).mailbox.head? =
      some .shutdown) :
    let before := (start setup address worldName).runSteps setup steps
    let after := before.runSteps setup (.serve :: late)
    (after.running = false ∧ after.seats = [] ∧ after.world.live = []) ∧
    (∀ key, ∃ tenures : List Tenure,
      landmarks false (after.story key) = tenures.flatMap Tenure.landmarks) ∧
    ∀ key outbox, before.outbox? key = some outbox → ∃ told final,
      Dismissal setup key (before.seat? key) before.history after.history told ∧
      after.outbox? key = some final ∧
      (.write key ∈ late → final.closed ∧
        (.close ∉ before.sent key →
          (∀ packet, .packet packet ∈ before.sent key → ∃ frame, packet.frame = .ok frame) →
          outbox.sink.Holds (Outbox.stream (before.sent key) ++ Outbox.farewell told) →
            final.sink.taken = Outbox.stream (before.sent key) ++ Outbox.farewell told)) := by
  intro before after
  have hsound : before.Sound setup listing := sound_runSteps htable address worldName steps
  have hhoused : before.ledger.Housed := housed_runSteps htable address worldName steps
  obtain ⟨hover, htold⟩ := stopped htable hsound hhoused hrunning hshutdown
  have hcorresponds : ∀ early, early <+: late →
      ((before.serve setup).runSteps setup early).Corresponds := by
    rintro early ⟨rest, rfl⟩
    have hfresh' : ∀ address sink, .accept address sink ∈ steps ++ .serve :: early →
        sink.taken = [] := by
      intro address sink hm
      have hne : Step.accept address sink ≠ .serve := nofun
      refine hfresh address sink ?_
      simp only [List.mem_append, List.mem_cons, hne, false_or] at hm ⊢
      exact hm.imp_right .inl
    have hreached := corresponds_runSteps htable address worldName hfresh'
    rwa [runSteps_append] at hreached
  obtain ⟨hend, hhistory, -⟩ := hover.runSteps setup late
  have hafter : after = (start setup address worldName).runSteps setup (steps ++ .serve :: late) :=
    (runSteps_append _ _ _ _).symm
  have hnone : ∀ key, after.seat? key = none := fun key => by
    rw [seat?, show after.seats = [] from hend.seats_eq, List.find?_nil]
  have hhoused' : after.ledger.Housed := hafter ▸ housed_runSteps htable address worldName _
  have hrecounts : after.Recounts setup := hafter ▸ recounts_runSteps htable address worldName _
  refine ⟨⟨hend.running_eq, hend.seats_eq, live_eq_nil hhoused' hend.seats_eq⟩,
    fun key => hrecounts.tenures htable (hnone key), fun key outbox ho => ?_⟩
  obtain ⟨told, last, hdismissal, hsent, hstream⟩ := htold key
  obtain ⟨final, hf, hprecedes⟩ : ∃ final, after.outbox? key = some final ∧ outbox.Precedes final :=
    precedes_runSteps setup (.serve :: late) key outbox ho
  refine ⟨told, final, hhistory ▸ hdismissal, hf, fun hwrite => ?_⟩
  obtain ⟨served, hserved, -⟩ : ∃ served, (before.serve setup).outbox? key = some served ∧
      outbox.Precedes served := precedes_perform setup .serve key outbox ho
  have hclosed : final.closed := by
    obtain ⟨next, hn, hclosed⟩ := closed_of_mem hover hcorresponds hserved hwrite
    obtain rfl : final = next := Option.some.inj (hf.symm.trans hn)
    exact hclosed
  refine ⟨hclosed, fun hclose hframes hholds => ?_⟩
  have hsame : after.sent key = before.sent key ++ last := by
    rw [sent, story, show after.history = _ from hhistory]
    exact hsent
  have hexact : final.Exact (before.sent key ++ last) :=
    hsame ▸ ((hcorresponds late (List.prefix_refl _) key).exact final hf).1
  rw [← hstream] at hholds ⊢
  exact hexact.taken_eq hclosed hclose hframes fun limit hl => hholds limit (hprecedes.limit_eq ▸ hl)

/-- An owner that calls off every kick. -/
def vetoingSetup : Setup :=
  { usualSetup with policy := { Policy.console with kick := fun _ _ _ => .cancelled } }

theorem closed_cleanly_vetoed :
    let steps := oneClient ++ [.post .shutdown]
    let before := (start vetoingSetup "127.0.0.1:25565" "world").runSteps vetoingSetup steps
    let after := before.runSteps vetoingSetup [.serve, .write 1]
    ((∀ address sink, .accept address sink ∈ steps ++ [.write 1] → sink.taken = []) ∧
      before.running ∧ before.mailbox.head? = some .shutdown) ∧
    before.world.live = [⟨1, "Alice"⟩] ∧ after.world.live = [] ∧
    ∃ told final, Dismissal vetoingSetup 1 (before.seat? 1) before.history after.history told ∧
      after.outbox? 1 = some final ∧ final.closed ∧
      final.sink.taken = Outbox.stream (before.sent 1) ++ Outbox.farewell told := by
  intro steps before after
  have hfresh : ∀ address sink, .accept address sink ∈ steps ++ [.write 1] → sink.taken = [] := by
    intro address sink hm
    simp only [steps, oneClient, List.mem_append, List.mem_cons, Step.accept.injEq, reduceCtorEq,
      List.not_mem_nil, or_false] at hm
    obtain ⟨-, rfl⟩ := hm
    rfl
  have hrunning : before.running := by decide +kernel
  have hshutdown : before.mailbox.head? = some .shutdown := by decide +kernel
  have hlive : before.world.live = [⟨1, "Alice"⟩] := by decide +kernel
  obtain ⟨outbox, ho, hlimit⟩ : ∃ outbox, before.outbox? 1 = some outbox ∧ outbox.sink.limit = none :=
    Option.map_eq_some_iff.mp (by decide +kernel)
  have hsent : before.sent 1 = [.packet (.loginSuccess "Alice")] := by decide +kernel
  obtain ⟨⟨-, -, hempty⟩, -, hclients⟩ := closed_cleanly Config.default.listing vetoingSetup rfl
    "127.0.0.1:25565" "world" steps [.write 1] hfresh hrunning hshutdown
  obtain ⟨told, final, hdismissal, hf, hend⟩ := hclients 1 outbox ho
  obtain ⟨hclosed, htaken⟩ := hend List.mem_cons_self
  refine ⟨⟨hfresh, hrunning, hshutdown⟩, hlive, hempty, told, final, hdismissal, hf, hclosed,
    htaken ?_ ?_ ?_⟩
  · rw [hsent]
    decide
  · intro packet hm
    rw [hsent] at hm
    obtain rfl : packet = .loginSuccess "Alice" := by simpa using hm
    exact ⟨_, rfl⟩
  · intro limit hl
    cases hlimit.symm.trans hl

end Server
end GameServer
