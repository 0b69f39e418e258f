import GameServer.Proofs.Server.Census
import GameServer.Proofs.Server.Passage

/-! In what order a session takes up what has been read off its connection, and what it never gets to
see. -/

namespace GameServer

open Service

namespace Record

/-- What was read off the connection, as far as these records go. -/
def reads (key : Key) (records : List Record) : List Packet := records.filterMap (read? key)

/-- What its session has taken up, as far as these records go. -/
def taken (key : Key) (records : List Record) : List Packet :=
  Event.taken (History.story (records.filterMap event?) key)

variable (key : Key) (records more : List Record)

theorem reads_append : reads key (records ++ more) = reads key records ++ reads key more :=
  List.filterMap_append

theorem taken_append : taken key (records ++ more) = taken key records ++ taken key more := by
  rw [taken, List.filterMap_append, History.story_append, Event.taken_append]
  rfl

theorem reads_cons_read (packet : Packet) :
    reads key (.read key packet :: records) = packet :: reads key records := by
  simp [reads, read?]

end Record

namespace Server

def reads (server : Server) (key : Key) : List Packet := Record.reads key server.records

def taken (server : Server) (key : Key) : List Packet := Record.taken key server.records

/-- What the reader has read and handed over, to the loop or to the session. -/
def handed (server : Server) (key : Key) : List Packet := (server.channel key).handed

/-- All the packets of a connection are accounted for, and before any of them is read, each handshake
that was read before it has been taken up. -/
structure Orderly (server : Server) (key : Key) : Prop where
  sound : (server.channel key).Sound key
  in_turn : ∀ before packet after, server.records = before ++ .read key packet :: after →
    Route.immediate.sift (Record.reads key before) = Route.immediate.sift (Record.taken key before)

variable {server after : Server} {setup : Setup} {listing : Listing} {key : Key}

theorem sift_taken_prefix (route : Route) (key : Key) (h : server.records <+: after.records) :
    route.sift (server.taken key) <+: route.sift (after.taken key) := by
  obtain ⟨new, hnew⟩ := h
  rw [taken, taken, ← hnew, Record.taken_append, Route.sift_append]
  exact List.prefix_append _ _

theorem sift_reads_prefix (route : Route) (key : Key) (h : server.records <+: after.records) :
    route.sift (server.reads key) <+: route.sift (after.reads key) := by
  obtain ⟨new, hnew⟩ := h
  rw [reads, reads, ← hnew, Record.reads_append, Route.sift_append]
  exact List.prefix_append _ _

/-- A packet is read only when its reader has nothing in its hand and waits for nobody. -/
theorem reads_in_turn (h : (server.channel key).Sound key)
    (hpassage : Channel.Passage key (server.channel key) (after.channel key))
    {early rest : List Record} {packet : Packet}
    (hrecords : after.records = server.records ++ (early ++ .read key packet :: rest)) :
    Route.immediate.sift (Record.reads key (server.records ++ early)) =
      Route.immediate.sift (Record.taken key (server.records ++ early)) := by
  have hreads : (after.channel key).read = (server.channel key).read ++
      (Record.reads key early ++ packet :: Record.reads key rest) := by
    have hsplit : after.reads key = Record.reads key _ := congrArg (Record.reads key) hrecords
    rwa [Record.reads_append, Record.reads_append, Record.reads_cons_read] at hsplit
  have htaken : (after.channel key).taken = (server.channel key).taken ++
      (Record.taken key early ++ Record.taken key (.read key packet :: rest)) := by
    have hsplit : after.taken key = Record.taken key _ := congrArg (Record.taken key) hrecords
    rwa [Record.taken_append, Record.taken_append] at hsplit
  rcases hpassage.read_cases with hsame | ⟨read, hr, hread, hnothing⟩
  · rw [hsame] at hreads
    simp at hreads
  · have hfirst : Record.reads key early = [] := by
      have hone := List.append_cancel_left (hreads.symm.trans hread)
      rcases List.append_eq_singleton_iff.mp hone with ⟨hfirst, -⟩ | ⟨-, hrest⟩
      · exact hfirst
      · cases hrest
    have hnone : Record.taken key early = [] := by
      have hnew := List.self_eq_append_right.mp (hnothing.symm.trans htaken)
      exact (List.append_eq_nil_iff.mp hnew).1
    rw [Record.reads_append, Record.taken_append, hfirst, hnone, List.append_nil, List.append_nil]
    exact h.immediate_of_reading hr

theorem Orderly.passage (h : server.Orderly key)
    (hpassage : Channel.Passage key (server.channel key) (after.channel key))
    (hrecords : server.records <+: after.records) : after.Orderly key := by
  refine ⟨h.sound.passage hpassage, ?_⟩
  obtain ⟨new, hnew⟩ := hrecords
  intro before packet rest he
  have hnow : ∀ early, new = early ++ .read key packet :: rest →
      Route.immediate.sift (Record.reads key (server.records ++ early)) =
        Route.immediate.sift (Record.taken key (server.records ++ early)) := by
    rintro early rfl
    exact reads_in_turn h.sound hpassage hnew.symm
  -- The packet was read in this step or before it.
  rcases List.append_eq_append_iff.mp (hnew.trans he) with ⟨early, rfl, hsplit⟩ | ⟨late, hold, hsplit⟩
  · exact hnow early hsplit
  · cases late with
    | nil =>
      rw [List.append_nil] at hold
      have hsame := hnow [] hsplit.symm
      rwa [List.append_nil, hold] at hsame
    | cons record late =>
      obtain ⟨rfl, -⟩ := List.cons.inj hsplit
      exact h.in_turn before packet late hold

theorem orderly_start (htable : setup.table = standard listing) (address worldName : String)
    (key : Key) : (start setup address worldName).Orderly key := by
  let begun := ((create worldName setup.policy).note (.listening address)).note .started
  have hcreated : (create worldName setup.policy).Orderly key := by
    refine ⟨.inl ⟨rfl, rfl, rfl, rfl, rfl⟩, fun before packet rest he => ?_⟩
    cases before <;> cases he
  have hbegun : begun.Orderly key := by
    refine hcreated.passage ?_ (List.prefix_append _ _)
    rw [channel_note, channel_note]
    exact .idle
  have hsound : begun.Sound setup listing :=
    (sound_create worldName setup listing).of_alike ((alike_note _ _).trans (alike_note _ _))
  exact hbegun.passage (passage_tick htable hsound) (records_prefix_shifts shifts_tick)

/-- Nobody but the readers talks to the loop, unless to end it. -/
theorem orderly_steps (htable : setup.table = standard listing) (hsound : server.Sound setup listing)
    (h : server.Orderly key) {steps : List Step}
    (hposts : ∀ message, .post message ∈ steps → message = .shutdown) :
    (server.runSteps setup steps).Sound setup listing ∧
      (server.runSteps setup steps).Orderly key := by
  refine hsound.runSteps_preserves (P := (Orderly · key)) htable ?_ h
  intro server step hm hsound h
  refine h.passage (passage_perform htable hsound h.sound ?_)
    (records_prefix_perform server setup step)
  rintro message rfl
  exact hposts message hm

/-! Handshakes. -/

/-- With the handshake that it serves, a session has taken up all of them that were read. -/
theorem immediate_served (htable : setup.table = standard listing)
    (h : (server.channel key).Sound key) (hrunning : server.running) {packet : Packet} {asker : Asker} {rest : List Message}
    (hmailbox : server.mailbox = .handshake key packet asker :: rest) :
    Route.immediate.sift (server.reads key) =
      Route.immediate.sift ((server.serve setup).taken key) := by
  have hletters : (server.channel key).letters = _ :=
    letters_of_mailbox hmailbox (by simp [Message.about])
  obtain ⟨-, -, -, hread⟩ := h.of_handshake hletters
  obtain ⟨phase, hserved⟩ := exists_channel_served htable h hrunning hmailbox
  have htaken : (server.serve setup).taken key = (server.channel key).taken ++ [packet] :=
    congrArg Channel.taken hserved
  rw [htaken]
  exact hread

/-- A handshake that has been handed over is taken up before the loop has served more messages than
there were, if it goes on for so long. -/
theorem immediate_handed_prefix (htable : setup.table = standard listing)
    (hsound : server.Sound setup listing) (h : server.Orderly key) {more : List Step}
    (hposts : ∀ message, .post message ∈ more → message = .shutdown)
    (hcount : server.mailbox.length ≤ more.countP Step.isServe)
    (hgoes : (server.runSteps setup more).running) :
    Route.immediate.sift (server.handed key) <+:
      Route.immediate.sift ((server.runSteps setup more).taken key) := by
  rcases h.sound.immediate_handed (running_of_runSteps hgoes) with ⟨packet, rest, hletters⟩ | hsame
  · have hmem : .handshake key packet .reader ∈ server.mailbox := by
      have hletter : .handshake key packet .reader ∈ (server.channel key).letters := by
        rw [hletters]
        exact List.mem_cons_self
      exact (List.mem_filter.mp hletter).1
    -- When its turn comes, it is still the only one that has been read and not taken up.
    obtain ⟨before, after, hmailbox⟩ := List.append_of_mem hmem
    have hbefore : before.length < more.countP Step.isServe := by
      rw [hmailbox, List.length_append, List.length_cons] at hcount
      omega
    obtain ⟨early, late, waiting, rfl, hhead⟩ := exists_served setup hmailbox hbefore hgoes
    let between := server.runSteps setup early
    have hlater : server.runSteps setup (early ++ .serve :: late) =
        (between.serve setup).runSteps setup late := runSteps_append server setup early _
    rw [hlater] at hgoes ⊢
    obtain ⟨-, horderly⟩ := orderly_steps htable hsound h fun message hm =>
      hposts message (List.mem_append_left _ hm)
    have hstays : (between.perform setup .serve).running := running_of_runSteps hgoes
    have hserved : Route.immediate.sift (between.reads key) = _ :=
      immediate_served htable horderly.sound (running_of_perform hstays) hhead
    have hhanded : server.handed key <+: server.reads key :=
      Channel.handed_prefix (server.channel key)
    have hread : Route.immediate.sift (server.reads key) <+:
        Route.immediate.sift (between.reads key) :=
      sift_reads_prefix .immediate key (records_prefix_runSteps server setup early)
    have htaken : Route.immediate.sift ((between.serve setup).taken key) <+: _ :=
      sift_taken_prefix .immediate key (records_prefix_runSteps (between.serve setup) setup late)
    rw [hserved] at hread
    exact ((hhanded.filter _).trans hread).trans htaken
  · have htaken := sift_taken_prefix .immediate key (records_prefix_runSteps server setup more)
    exact (show Route.immediate.sift (server.handed key) = _ from hsame) ▸ htaken

/-! The other packets. -/

/-- When a tick is over, nothing that can wait is left waiting. -/
theorem queued_ticked (htable : setup.table = standard listing) (hsound : server.Sound setup listing)
    (h : (server.channel key).Sound key) (hrunning : server.running)
    (hseated : (server.seat? key).isSome) : (server.tick setup).handed key = server.handed key ∧
      Route.queued.sift ((server.tick setup).taken key) =
        Route.queued.sift ((server.tick setup).handed key) := by
  obtain ⟨seat, hs⟩ := Option.isSome_iff_exists.mp hseated
  have hticked : (server.tick setup).channel key = _ := channel_tick htable hsound hrunning hs
  have hsound' : ((server.tick setup).channel key).Sound key :=
    h.passage (passage_tick htable hsound)
  have hempty : ((server.tick setup).channel key).inbox = some [] := by rw [hticked]
  have hqueued := hsound'.queued_handed hempty
  rw [List.append_nil] at hqueued
  exact ⟨(congrArg Channel.handed hticked).trans rfl, hqueued.symm⟩

/-! What becomes of a session whose connection is closed. -/

theorem removed_for_good (htable : setup.table = standard listing)
    (hsound : server.Sound setup listing) (h : server.Orderly key) (hrunning : server.running)
    {rest : List Message} (hmailbox : server.mailbox = .closed key :: rest) {more : List Step}
    (hposts : ∀ message, .post message ∈ more → message = .shutdown) :
    let later := server.runSteps setup (.serve :: more)
    later.Gone key ∧ later.mailbox.filter (·.about key) = [] ∧
      later.story key = (server.serve setup).story key ∧ later.taken key = server.taken key := by
  intro later
  have hserved : (server.serve setup).channel key = _ :=
    channel_served_closed h.sound hrunning hmailbox
  obtain ⟨hgiven, -⟩ := h.sound.of_closed (letters_of_mailbox hmailbox (by simp [Message.about]))
  have hgone : (server.serve setup).Gone key := by
    refine ⟨?_, Option.map_eq_none_iff.mp (congrArg Channel.inbox hserved)⟩
    exact of_decide_eq_true ((congrArg Channel.given hserved).trans hgiven)
  obtain ⟨hstays, hstory⟩ := hgone.runSteps setup more
  have hnothing : later.taken key = (server.serve setup).taken key := congrArg Event.taken hstory
  obtain ⟨-, horderly⟩ : _ ∧ later.Orderly key := by
    refine orderly_steps htable hsound h fun message hm => hposts message ?_
    simpa using hm
  have hletters : (later.channel key).letters = [] :=
    horderly.sound.letters_of_unseated (congrArg (Option.map _) hstays.seat_eq)
  exact ⟨hstays, hletters, hstory, hnothing.trans (congrArg Channel.taken hserved)⟩

/-- What is read off a connection reaches its session once and in order, whatever the readers, the
loop and the clients do and in whatever order. What can wait comes to the session by its inbox, and
every tick empties that. A handshake comes to it by the loop, and nothing is read behind one before it
has been taken up. When the loop has been told that the connection is closed, all the handshakes have
been taken up, and of the rest nothing is lost but what was handed over after the last tick. -/
theorem delivered_in_order (listing : Listing) (setup : Setup)
    (htable : setup.table = standard listing) (address worldName : String) (steps : List Step)
    (hposts : ∀ message, .post message ∈ steps → message = .shutdown) (key : Key) :
    let server := (start setup address worldName).runSteps setup steps
    (Route.queued.sift (server.taken key) <+: Route.queued.sift (server.reads key) ∧
      (∀ seat, server.seat? key = some seat → Route.queued.sift (server.handed key) =
        Route.queued.sift (server.taken key) ++ seat.session.inbox) ∧
      (server.running → (server.seat? key).isSome →
        (server.tick setup).handed key = server.handed key ∧
          Route.queued.sift ((server.tick setup).taken key) =
            Route.queued.sift ((server.tick setup).handed key))) ∧
    (Route.immediate.sift (server.taken key) <+: Route.immediate.sift (server.reads key) ∧
      (∀ before packet after, server.records = before ++ .read key packet :: after →
        Route.immediate.sift (Record.reads key before) =
          Route.immediate.sift (Record.taken key before)) ∧
      (∀ connection packet, server.connection? key = some connection →
        connection.reader = .holding packet → server.running →
          (server.read setup key).handed key = server.reads key) ∧
      ∀ more, (∀ message, .post message ∈ more → message = .shutdown) →
        server.mailbox.length ≤ more.countP Step.isServe →
          (server.runSteps setup more).running →
            Route.immediate.sift (server.handed key) <+:
              Route.immediate.sift ((server.runSteps setup more).taken key)) ∧
    (∀ rest, server.running → server.mailbox = .closed key :: rest →
      (server.handed key = server.reads key ∧
        Route.immediate.sift (server.reads key) = Route.immediate.sift (server.taken key)) ∧
      ∀ more, (∀ message, .post message ∈ more → message = .shutdown) →
        let later := server.runSteps setup (.serve :: more)
        later.Gone key ∧ later.mailbox.filter (·.about key) = [] ∧
          later.story key = (server.serve setup).story key ∧
            later.taken key = server.taken key) ∧
    ∀ early late, steps = early ++ .tick :: late →
      let between := (start setup address worldName).runSteps setup early
      between.running → (between.seat? key).isSome →
        Route.queued.sift (between.handed key) <+: Route.queued.sift (server.taken key) := by
  intro server
  have hstart := orderly_start htable address worldName key
  obtain ⟨hsound, horderly⟩ : server.Sound setup listing ∧ server.Orderly key :=
    orderly_steps htable (sound_start htable address worldName) hstart hposts
  refine ⟨⟨horderly.sound.queued_prefix, fun seat hs => ?_, fun hrunning hseated => ?_⟩,
    ⟨horderly.sound.immediate_prefix, horderly.in_turn, ?_, fun more hmore hcount hgoes => ?_⟩,
    fun rest hrunning hmailbox => ⟨?_, fun more hmore => ?_⟩, ?_⟩
  · exact horderly.sound.queued_handed (channel_inbox hs)
  · exact queued_ticked htable hsound horderly.sound hrunning hseated
  · intro connection packet hc hr hrunning
    have hreader : (server.channel key).reader = some (.holding packet) :=
      (congrArg (Option.map _) hc).trans (congrArg some hr)
    exact handed_read hreader horderly.sound hrunning
  · exact immediate_handed_prefix htable hsound horderly hmore hcount hgoes
  · have hletters : (server.channel key).letters = _ :=
      letters_of_mailbox hmailbox (by simp [Message.about])
    obtain ⟨-, -, hclosed⟩ := horderly.sound.of_closed hletters
    exact hclosed
  · exact removed_for_good htable hsound horderly hrunning hmailbox hmore
  · rintro early late rfl between hrunning hseated
    have hposts' : ∀ message, .post message ∈ early → message = .shutdown :=
      fun message hm => hposts message (List.mem_append_left _ hm)
    obtain ⟨hbefore, hbetween⟩ : between.Sound setup listing ∧ between.Orderly key :=
      orderly_steps htable (sound_start htable address worldName) hstart hposts'
    obtain ⟨hhanded, hticked⟩ := queued_ticked htable hbefore hbetween.sound hrunning hseated
    have hserver : server = (between.tick setup).runSteps setup late := runSteps_append _ _ _ _
    rw [← hhanded, ← hticked, hserver]
    exact sift_taken_prefix .queued key (records_prefix_runSteps _ setup late)

/-- What a client sends to say these things. -/
def utterance (packets : List Packet) : List UInt8 :=
  packets.flatMap fun packet => packet.frame.toOption.getD []

def greeted : List Step :=
  [.accept "127.0.0.1:40000" .unlimited,
    .arrive 1 (utterance [.handshake 4 "localhost" 25565 .login, .loginStart "Alice"]),
    .read 1, .read 1, .serve, .read 1, .read 1, .read 1]

/-- A client that hangs up before the tick that would have had it heard. -/
def hastyClient : List Step :=
  greeted ++ .tick :: [.arrive 1 (utterance [.chat "Bye"]), .cease 1 .closed,
    .read 1, .read 1, .read 1]

theorem delivered_in_order_hastyClient :
    let server := (start usualSetup "127.0.0.1:25565" "world").runSteps usualSetup hastyClient
    let between := (start usualSetup "127.0.0.1:25565" "world").runSteps usualSetup greeted
    let later := server.runSteps usualSetup [.serve, .tick]
    (∀ message, .post message ∈ hastyClient → message = .shutdown) ∧
    (server.reads 1 =
        [.handshake 4 "localhost" 25565 .login, .loginStart "Alice", .chat "Bye"] ∧
      server.taken 1 = [.handshake 4 "localhost" 25565 .login, .loginStart "Alice"]) ∧
    Route.queued.sift (between.handed 1) <+: Route.queued.sift (server.taken 1) ∧
    later.Gone 1 ∧ later.taken 1 = server.taken 1 := by
  intro server between later
  have hposts : ∀ message, .post message ∈ hastyClient → message = .shutdown := by
    intro message hm
    simp [hastyClient, greeted] at hm
  have hreads : server.reads 1 =
      [.handshake 4 "localhost" 25565 .login, .loginStart "Alice", .chat "Bye"] := by
    decide +kernel
  have htaken : server.taken 1 = [.handshake 4 "localhost" 25565 .login, .loginStart "Alice"] := by
    decide +kernel
  have hmailbox : server.mailbox = [.closed 1] := by decide +kernel
  obtain ⟨-, -, hclosed, hticked⟩ := delivered_in_order Config.default.listing usualSetup rfl
    "127.0.0.1:25565" "world" hastyClient hposts 1
  obtain ⟨-, hlater⟩ := hclosed [] (by decide +kernel) hmailbox
  obtain ⟨hgone, -, -, hsame⟩ := hlater [.tick] (by simp)
  exact ⟨hposts, ⟨hreads, htaken⟩, hticked greeted _ rfl (by decide +kernel) (by decide +kernel),
    hgone, hsame⟩

end Server
end GameServer
