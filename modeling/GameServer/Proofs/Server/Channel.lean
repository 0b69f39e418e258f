import GameServer.Server.Basic
import Mathlib.Data.List.Basic

/-! How the packets of a connection get from its reader to its session. Those that cannot wait go
through the loop, and the reader does not read on until it has its answer; the others go into the
session's inbox, out of which the session takes them at its own time. -/

namespace GameServer

/-- Of these packets, those that go this way. -/
def Route.sift (route : Route) (packets : List Packet) : List Packet :=
  packets.filter (·.route = route)

namespace Route

variable {route : Route} {packets : List Packet} {packet : Packet}

@[simp] theorem sift_nil (route : Route) : route.sift [] = [] := rfl

@[simp] theorem sift_append (route : Route) (packets more : List Packet) :
    route.sift (packets ++ more) = route.sift packets ++ route.sift more := List.filter_append ..

theorem sift_eq_self (h : ∀ packet ∈ packets, packet.route = route) : route.sift packets = packets :=
  List.filter_eq_self.mpr (by simpa using h)

theorem sift_eq_nil (h : ∀ packet ∈ packets, packet.route ≠ route) : route.sift packets = [] :=
  List.filter_eq_nil_iff.mpr (by simpa using h)

theorem sift_singleton (h : packet.route = route) : route.sift [packet] = [packet] :=
  sift_eq_self (by simpa using h)

theorem sift_singleton_of_ne (h : packet.route ≠ route) : route.sift [packet] = [] :=
  sift_eq_nil (by simpa using h)

theorem mem_sift : packet ∈ route.sift packets ↔ packet ∈ packets ∧ packet.route = route := by
  simp [sift]

end Route

def Message.about (key : Key) : Message → Bool
  | .handshake other .. | .closed other => other == key
  | .shutdown => false

def ReaderState.abandon (reader : ReaderState) : ReaderState :=
  if reader = .asking then .untold else reader

/-- A connection as far as the way of its packets goes: the messages about it that the loop has still
to serve, what its reader is at and has read, and what waits for its session, if it has one, and has
been taken up by it. -/
structure Channel where
  running : Bool
  /-- The key of the connection has been given out. -/
  given : Bool
  letters : List Message
  reader : Option ReaderState
  read : List Packet
  inbox : Option (List Packet)
  taken : List Packet

namespace Channel

/-- What can happen to it. -/
inductive Passage (key : Key) (channel : Channel) : Channel → Prop
  | idle : Passage key channel channel
  | opened (hgiven : channel.given = false) (hrunning : channel.running) : Passage key channel
      { channel with given := true, reader := some .reading, inbox := some [] }
  | read (packet : Packet) (hreader : channel.reader = some .reading) : Passage key channel
      { channel with reader := some (.holding packet), read := channel.read ++ [packet] }
  | queued (packet : Packet) (inbox : List Packet) (hreader : channel.reader = some (.holding packet))
      (hroute : packet.route = .queued) (hinbox : channel.inbox = some inbox) : Passage key channel
      { channel with reader := some .reading, inbox := some (inbox ++ [packet]) }
  | asked (packet : Packet) (hreader : channel.reader = some (.holding packet))
      (hroute : packet.route = .immediate) (hrunning : channel.running) : Passage key channel
      { channel with
        reader := some .asking
        letters := channel.letters ++ [.handshake key packet .reader] }
  | heard (phase : Phase) (hreader : channel.reader = some (.told phase)) : Passage key channel
      { channel with reader := some .reading }
  /-- The reader stops between two packets, or because nobody takes the one it has. -/
  | ended (hreader : channel.reader = some .reading ∨
      channel.running = false ∧ (channel.reader = some .untold ∨
        ∃ packet, channel.reader = some (.holding packet))) : Passage key channel
      { channel with
        reader := some .ended
        letters := if channel.running then channel.letters ++ [.closed key] else channel.letters }
  | answered (packet : Packet) (rest : List Message) (phase : Phase)
      (hletters : channel.letters = .handshake key packet .reader :: rest)
      (hroute : packet.route = .immediate) :
      Passage key channel { channel with
        reader := channel.reader.map fun _ => .told phase
        letters := rest
        taken := channel.taken ++ [packet] }
  | removed (rest : List Message) (hletters : channel.letters = .closed key :: rest) :
      Passage key channel { channel with letters := rest, inbox := none }
  | ticked (inbox : List Packet) (hinbox : channel.inbox = some inbox) : Passage key channel
      { channel with inbox := some [], taken := channel.taken ++ inbox }
  | stopped : Passage key channel { channel with
      running := false
      letters := []
      reader := channel.reader.map ReaderState.abandon
      inbox := none }

/-- Where the reader is, which messages about it wait, whether there is a session, and which packets
have been read but not been handed over for good. -/
inductive Stage (key : Key) : (running : Bool) → ReaderState → List Message → (seated : Bool) →
    List Packet → Prop
  | reading (running : Bool) : Stage key running .reading [] running []
  | told (running : Bool) (phase : Phase) : Stage key running (.told phase) [] running []
  | holding (running : Bool) (packet : Packet) :
      Stage key running (.holding packet) [] running [packet]
  | asking (packet : Packet) (hroute : packet.route = .immediate) :
      Stage key true .asking [.handshake key packet .reader] true [packet]
  | ending : Stage key true .ended [.closed key] true []
  | gone : Stage key true .ended [] false []
  | untold (packet : Packet) : Stage key false .untold [] false [packet]
  | late (pending : List Packet) : Stage key false .ended [] false pending

namespace Stage

variable {key : Key} {running seated : Bool} {reader : ReaderState} {letters rest : List Message}
  {pending : List Packet} {packet : Packet}

theorem of_reading (h : Stage key running .reading letters seated pending) :
    letters = [] ∧ seated = running ∧ pending = [] := by
  cases h
  exact ⟨rfl, rfl, rfl⟩

theorem of_told {phase : Phase} (h : Stage key running (.told phase) letters seated pending) :
    letters = [] ∧ seated = running ∧ pending = [] := by
  cases h
  exact ⟨rfl, rfl, rfl⟩

theorem of_holding (h : Stage key running (.holding packet) letters seated pending) :
    letters = [] ∧ seated = running ∧ pending = [packet] := by
  cases h
  exact ⟨rfl, rfl, rfl⟩

theorem of_untold (h : Stage key running .untold letters seated pending) :
    letters = [] ∧ seated = running ∧ running = false := by
  cases h
  exact ⟨rfl, rfl, rfl⟩

theorem of_handshake {other : Key} {asker : Asker}
    (h : Stage key running reader (.handshake other packet asker :: rest) seated pending) :
    (other = key ∧ asker = .reader ∧ packet.route = .immediate) ∧ running = true ∧
      reader = .asking ∧ rest = [] ∧ seated = true ∧ pending = [packet] := by
  cases h with
  | asking _ hroute => exact ⟨⟨rfl, rfl, hroute⟩, rfl, rfl, rfl, rfl, rfl⟩

theorem of_closed {other : Key}
    (h : Stage key running reader (.closed other :: rest) seated pending) :
    other = key ∧ running = true ∧ reader = .ended ∧ rest = [] ∧ seated = true ∧ pending = [] := by
  cases h
  exact ⟨rfl, rfl, rfl, rfl, rfl, rfl⟩

theorem stop (h : Stage key running reader letters seated pending) :
    Stage key false reader.abandon [] false pending := by
  cases h with
  | reading => exact .reading false
  | told _ phase => exact .told false phase
  | holding _ packet => exact .holding false packet
  | asking packet => exact .untold packet
  | ending => exact .late []
  | gone => exact .late []
  | untold packet => exact .untold packet
  | late pending => exact .late pending

/-- Only a handshake is ever on its way to the loop. -/
theorem sift_queued (h : Stage key running reader letters true pending)
    (hheld : ∀ packet, reader ≠ .holding packet) : Route.queued.sift pending = [] := by
  cases h with
  | reading | told | ending => rfl
  | holding packet => exact absurd rfl (hheld _)
  | asking packet hroute => exact Route.sift_singleton_of_ne (by simp [hroute])

theorem letters_of_unseated (h : Stage key running reader letters false pending) : letters = [] := by
  cases h <;> rfl

theorem letters_or (h : Stage key true reader letters seated pending)
    (hheld : ∀ packet, reader ≠ .holding packet) :
    (∃ packet rest, letters = .handshake key packet .reader :: rest) ∨ pending = [] := by
  cases h with
  | reading | told | ending | gone => exact .inr rfl
  | holding packet => exact absurd rfl (hheld _)
  | asking packet hroute => exact .inl ⟨packet, [], rfl⟩

end Stage

/-- Nothing is lost on the way, as far as it can be told from one end. -/
structure Flows (key : Key) (channel : Channel) (reader : ReaderState) (pending : List Packet) :
    Prop where
  given_eq : channel.given = true
  reader_eq : channel.reader = some reader
  stage : Stage key channel.running reader channel.letters channel.inbox.isSome pending
  last : ∀ packet, reader = .holding packet → ∃ earlier, channel.read = earlier ++ [packet]
  immediate : Route.immediate.sift channel.read =
    Route.immediate.sift channel.taken ++ Route.immediate.sift pending
  queued : ∀ inbox, channel.inbox = some inbox → Route.queued.sift channel.read =
    Route.queued.sift channel.taken ++ inbox ++ Route.queued.sift pending
  queued_prefix : Route.queued.sift channel.taken <+: Route.queued.sift channel.read

/-- Nothing has happened on the connection, for it has not been accepted. -/
structure Blank (channel : Channel) : Prop where
  letters_eq : channel.letters = []
  reader_eq : channel.reader = none
  read_eq : channel.read = []
  inbox_eq : channel.inbox = none
  taken_eq : channel.taken = []

def Sound (key : Key) (channel : Channel) : Prop :=
  channel.Blank ∨ ∃ reader pending, channel.Flows key reader pending

variable {key : Key} {channel after : Channel} {reader : ReaderState} {pending : List Packet}

theorem Blank.passage (h : channel.Blank) (hp : Passage key channel after) : after.Sound key := by
  obtain ⟨hletters, hreader, hread, hinbox, htaken⟩ := h
  cases hp with
  | idle => exact .inl ⟨hletters, hreader, hread, hinbox, htaken⟩
  | opened hgiven hrunning =>
    refine .inr ⟨.reading, [], rfl, rfl, ?_, nofun, ?_, ?_, ?_⟩
    · rw [hletters, hrunning]
      exact .reading true
    · simp [hread, htaken]
    · intro inbox hi
      obtain rfl := Option.some.inj hi
      simp [hread, htaken]
    · simp [htaken]
  | stopped => exact .inl ⟨rfl, by simp [hreader], hread, rfl, htaken⟩
  | read _ hr | queued _ _ hr | asked _ hr | heard _ hr => cases hreader.symm.trans hr
  | ended hr =>
    rcases hr with hr | ⟨-, hr | ⟨packet, hr⟩⟩
    all_goals cases hreader.symm.trans hr
  | answered _ _ _ hl | removed _ hl => cases hletters.symm.trans hl
  | ticked _ hi => cases hinbox.symm.trans hi

/-- Only packets that can wait are in an inbox. -/
theorem Flows.route_inbox (h : channel.Flows key reader pending) {inbox : List Packet}
    (hinbox : channel.inbox = some inbox) : ∀ packet ∈ inbox, packet.route = .queued := by
  intro packet hm
  have hread : packet ∈ Route.queued.sift channel.read := by
    rw [h.queued inbox hinbox]
    simp [hm]
  exact (Route.mem_sift.mp hread).2

namespace Flows

variable {packet : Packet}

theorem obtain_reader (h : channel.Flows key reader pending) {other : ReaderState}
    (hr : channel.reader = some other) : other = reader :=
  Option.some.inj (hr.symm.trans h.reader_eq)

theorem read (h : channel.Flows key .reading pending) (packet : Packet) :
    Flows key { channel with
      reader := some (.holding packet)
      read := channel.read ++ [packet] } (.holding packet) [packet] := by
  obtain ⟨hletters, hseated, rfl⟩ := h.stage.of_reading
  constructor
  case given_eq => exact h.given_eq
  case reader_eq => rfl
  case stage =>
    rw [hletters, hseated]
    exact .holding _ packet
  case last =>
    intro other he
    obtain rfl := ReaderState.holding.inj he
    exact ⟨channel.read, rfl⟩
  case immediate => simp [h.immediate]
  case queued =>
    intro inbox hi
    simp [h.queued inbox hi]
  case queued_prefix => simpa using h.queued_prefix.trans (List.prefix_append _ _)

theorem enqueue (h : channel.Flows key (.holding packet) pending) (hroute : packet.route = .queued)
    {inbox : List Packet} (hinbox : channel.inbox = some inbox) :
    Flows key { channel with
      reader := some .reading
      inbox := some (inbox ++ [packet]) } .reading [] := by
  obtain ⟨hletters, hseated, rfl⟩ := h.stage.of_holding
  have hnot : packet.route ≠ .immediate := by simp [hroute]
  constructor
  case given_eq => exact h.given_eq
  case reader_eq => rfl
  case stage =>
    rw [hletters, ← hseated, hinbox]
    exact .reading true
  case last => exact nofun
  case immediate => simpa [Route.sift_singleton_of_ne hnot] using h.immediate
  case queued =>
    intro other ho
    obtain rfl := Option.some.inj ho
    simp [h.queued inbox hinbox, Route.sift_singleton hroute]
  case queued_prefix => exact h.queued_prefix

theorem ask (h : channel.Flows key (.holding packet) pending) (hroute : packet.route = .immediate)
    (hrunning : channel.running) : Flows key { channel with
      reader := some .asking
      letters := channel.letters ++ [.handshake key packet .reader] } .asking [packet] := by
  obtain ⟨hletters, hseated, rfl⟩ := h.stage.of_holding
  refine ⟨h.given_eq, rfl, ?_, nofun, h.immediate, h.queued, h.queued_prefix⟩
  rw [hletters, hseated, hrunning]
  exact .asking packet hroute

theorem hear {phase : Phase} (h : channel.Flows key (.told phase) pending) :
    Flows key { channel with reader := some .reading } .reading [] := by
  obtain ⟨hletters, hseated, rfl⟩ := h.stage.of_told
  refine ⟨h.given_eq, rfl, ?_, nofun, h.immediate, h.queued, h.queued_prefix⟩
  rw [hletters, hseated]
  exact .reading _

theorem finish (h : channel.Flows key reader pending) (hletters : channel.letters = [])
    (hseated : channel.inbox.isSome = channel.running) (hpending : channel.running → pending = []) :
    Flows key { channel with
      reader := some .ended
      letters := if channel.running then channel.letters ++ [.closed key] else channel.letters }
      .ended pending := by
  refine ⟨h.given_eq, rfl, ?_, nofun, h.immediate, h.queued, h.queued_prefix⟩
  rw [hletters, hseated]
  cases hrunning : channel.running with
  | true =>
    rw [hpending hrunning]
    exact .ending
  | false => exact .late pending

variable {rest : List Message}

theorem answer (h : channel.Flows key reader pending)
    (hletters : channel.letters = .handshake key packet .reader :: rest)
    (hroute : packet.route = .immediate) (phase : Phase) : Flows key { channel with
      reader := channel.reader.map fun _ => .told phase
      letters := rest
      taken := channel.taken ++ [packet] } (.told phase) [] := by
  have hstage := h.stage
  rw [hletters] at hstage
  obtain ⟨-, hrunning, -, rfl, hseated, rfl⟩ := hstage.of_handshake
  have hnot : packet.route ≠ .queued := by simp [hroute]
  constructor
  case given_eq => exact h.given_eq
  case reader_eq => simp [h.reader_eq]
  case stage =>
    rw [hseated, hrunning]
    exact .told true phase
  case last => exact nofun
  case immediate => simpa using h.immediate
  case queued =>
    intro inbox hi
    simpa [Route.sift_singleton_of_ne hnot] using h.queued inbox hi
  case queued_prefix => simpa [Route.sift_singleton_of_ne hnot] using h.queued_prefix

theorem remove (h : channel.Flows key reader pending)
    (hletters : channel.letters = .closed key :: rest) :
    Flows key { channel with letters := rest, inbox := none } .ended [] := by
  have hstage := h.stage
  rw [hletters] at hstage
  obtain ⟨-, hrunning, rfl, rfl, -, rfl⟩ := hstage.of_closed
  refine ⟨h.given_eq, h.reader_eq, ?_, nofun, h.immediate, nofun, h.queued_prefix⟩
  rw [hrunning]
  exact .gone

theorem takeUp (h : channel.Flows key reader pending) {inbox : List Packet}
    (hinbox : channel.inbox = some inbox) :
    Flows key { channel with
      inbox := some []
      taken := channel.taken ++ inbox } reader pending := by
  have hroute := h.route_inbox hinbox
  have hnone : Route.immediate.sift inbox = [] :=
    Route.sift_eq_nil fun packet hm => by simp [hroute packet hm]
  have hstage := h.stage
  rw [hinbox] at hstage
  have htaken := h.queued inbox hinbox
  constructor
  case given_eq => exact h.given_eq
  case reader_eq => exact h.reader_eq
  case stage => exact hstage
  case last => exact h.last
  case immediate => simpa [hnone] using h.immediate
  case queued =>
    intro other ho
    obtain rfl := Option.some.inj ho
    simpa [Route.sift_eq_self hroute] using htaken
  case queued_prefix =>
    rw [htaken, Route.sift_append, Route.sift_eq_self hroute]
    exact List.prefix_append _ _

theorem stop (h : channel.Flows key reader pending) : Flows key { channel with
    running := false
    letters := []
    reader := channel.reader.map ReaderState.abandon
    inbox := none } reader.abandon pending := by
  refine ⟨h.given_eq, by simp [h.reader_eq], h.stage.stop, ?_, h.immediate, nofun, h.queued_prefix⟩
  intro packet hr
  refine h.last packet ?_
  unfold ReaderState.abandon at hr
  split at hr
  · cases hr
  · exact hr

theorem passage (h : channel.Flows key reader pending) (hp : Passage key channel after) :
    ∃ reader pending, after.Flows key reader pending := by
  cases hp with
  | idle => exact ⟨reader, pending, h⟩
  | opened hn => cases h.given_eq.symm.trans hn
  | read packet hr =>
    obtain rfl := h.obtain_reader hr
    exact ⟨_, _, h.read packet⟩
  | queued packet inbox hr hroute hinbox =>
    obtain rfl := h.obtain_reader hr
    exact ⟨_, _, h.enqueue hroute hinbox⟩
  | asked packet hr hroute hrunning =>
    obtain rfl := h.obtain_reader hr
    exact ⟨_, _, h.ask hroute hrunning⟩
  | heard phase hr =>
    obtain rfl := h.obtain_reader hr
    exact ⟨_, _, h.hear⟩
  | ended hr =>
    rcases hr with hr | ⟨hended, hr | ⟨packet, hr⟩⟩
    all_goals obtain rfl := h.obtain_reader hr
    · obtain ⟨hletters, hseated, rfl⟩ := h.stage.of_reading
      exact ⟨_, _, h.finish hletters hseated fun _ => rfl⟩
    · obtain ⟨hletters, hseated, -⟩ := h.stage.of_untold
      exact ⟨_, _, h.finish hletters hseated (by simp [hended])⟩
    · obtain ⟨hletters, hseated, -⟩ := h.stage.of_holding
      exact ⟨_, _, h.finish hletters hseated (by simp [hended])⟩
  | answered packet rest phase hletters hroute =>
    exact ⟨_, _, h.answer hletters hroute phase⟩
  | removed rest hletters => exact ⟨_, _, h.remove hletters⟩
  | ticked inbox hinbox => exact ⟨_, _, h.takeUp hinbox⟩
  | stopped => exact ⟨_, _, h.stop⟩

end Flows

theorem Sound.passage (h : channel.Sound key) (hp : Passage key channel after) :
    after.Sound key := by
  rcases h with hblank | ⟨reader, pending, hflows⟩
  · exact hblank.passage hp
  · exact .inr (hflows.passage hp)

/-- What the reader has read and no longer has in its hand. -/
def handed (channel : Channel) : List Packet :=
  match channel.reader with
  | some (.holding _) => channel.read.dropLast
  | _ => channel.read

theorem handed_of_holding {packet : Packet} (h : channel.reader = some (.holding packet)) :
    channel.handed = channel.read.dropLast := by
  simp [handed, h]

theorem handed_of_not_holding (h : ∀ packet, channel.reader ≠ some (.holding packet)) :
    channel.handed = channel.read := by
  unfold handed
  split
  · exact absurd ‹_› (h _)
  · rfl

theorem handed_prefix (channel : Channel) : channel.handed <+: channel.read := by
  unfold handed
  split
  · exact List.dropLast_prefix _
  · exact List.prefix_refl _

/-- Nothing is read but by a reader that has nothing in its hand. -/
theorem Passage.read_cases (h : Passage key channel after) : after.read = channel.read ∨
    ∃ packet, channel.reader = some .reading ∧ after.read = channel.read ++ [packet] ∧
      after.taken = channel.taken := by
  cases h with
  | read packet hr => exact .inr ⟨packet, hr, rfl, rfl⟩
  | _ => exact .inl rfl

namespace Sound

/-- A reader does not read on before the loop has taken up each handshake it has read. -/
theorem immediate_of_reading (h : channel.Sound key) (hr : channel.reader = some .reading) :
    Route.immediate.sift channel.read = Route.immediate.sift channel.taken := by
  rcases h with hblank | ⟨reader, pending, hflows⟩
  · cases hblank.reader_eq.symm.trans hr
  · obtain rfl := hflows.obtain_reader hr
    obtain ⟨-, -, rfl⟩ := hflows.stage.of_reading
    rw [hflows.immediate, Route.sift_nil, List.append_nil]

/-- A handshake that waits is the only one that has been read and not taken up. -/
theorem of_handshake (h : channel.Sound key) {packet : Packet} {asker : Asker}
    {rest : List Message} (hletters : channel.letters = .handshake key packet asker :: rest) :
    asker = .reader ∧ packet.route = .immediate ∧ channel.inbox.isSome ∧
      Route.immediate.sift channel.read = Route.immediate.sift (channel.taken ++ [packet]) := by
  rcases h with hblank | ⟨reader, pending, hflows⟩
  · cases hblank.letters_eq.symm.trans hletters
  · have hstage := hflows.stage
    rw [hletters] at hstage
    obtain ⟨⟨-, hasker, hroute⟩, -, -, -, hseated, rfl⟩ := hstage.of_handshake
    exact ⟨hasker, hroute, hseated, by rw [hflows.immediate, Route.sift_append]⟩

/-- When the loop is told that a connection is closed, all that was read has been handed over. -/
theorem of_closed (h : channel.Sound key) {rest : List Message}
    (hletters : channel.letters = .closed key :: rest) : channel.given ∧ channel.inbox.isSome ∧
      channel.handed = channel.read ∧
      Route.immediate.sift channel.read = Route.immediate.sift channel.taken := by
  rcases h with hblank | ⟨reader, pending, hflows⟩
  · cases hblank.letters_eq.symm.trans hletters
  · have hstage := hflows.stage
    rw [hletters] at hstage
    obtain ⟨-, -, rfl, -, hseated, rfl⟩ := hstage.of_closed
    refine ⟨hflows.given_eq, hseated, handed_of_not_holding ?_, ?_⟩
    · simp [hflows.reader_eq]
    · rw [hflows.immediate, Route.sift_nil, List.append_nil]

/-- There is nothing to be told about a session that is not there. -/
theorem letters_of_unseated (h : channel.Sound key) (hinbox : channel.inbox = none) :
    channel.letters = [] := by
  rcases h with hblank | ⟨reader, pending, hflows⟩
  · exact hblank.letters_eq
  · have hstage := hflows.stage
    rw [hinbox] at hstage
    exact hstage.letters_of_unseated

theorem queued_prefix (h : channel.Sound key) :
    Route.queued.sift channel.taken <+: Route.queued.sift channel.read := by
  rcases h with hblank | ⟨reader, pending, hflows⟩
  · rw [hblank.taken_eq]
    exact List.nil_prefix
  · exact hflows.queued_prefix

theorem immediate_prefix (h : channel.Sound key) :
    Route.immediate.sift channel.taken <+: Route.immediate.sift channel.read := by
  rcases h with hblank | ⟨reader, pending, hflows⟩
  · rw [hblank.taken_eq]
    exact List.nil_prefix
  · rw [hflows.immediate]
    exact List.prefix_append _ _

/-- What has been handed over and can wait is either still in the inbox or has been taken up. -/
theorem queued_handed (h : channel.Sound key) {inbox : List Packet}
    (hinbox : channel.inbox = some inbox) :
    Route.queued.sift channel.handed = Route.queued.sift channel.taken ++ inbox := by
  rcases h with hblank | ⟨reader, pending, hflows⟩
  · cases hblank.inbox_eq.symm.trans hinbox
  have hqueued := hflows.queued inbox hinbox
  by_cases hheld : ∃ packet, reader = .holding packet
  · obtain ⟨packet, rfl⟩ := hheld
    obtain ⟨earlier, hread⟩ := hflows.last packet rfl
    obtain ⟨-, -, rfl⟩ := hflows.stage.of_holding
    rw [hread, Route.sift_append] at hqueued
    rw [handed_of_holding hflows.reader_eq, hread, List.dropLast_concat]
    exact List.append_cancel_right hqueued
  · have hstage := hflows.stage
    rw [hinbox] at hstage
    rw [handed_of_not_holding, hqueued, hstage.sift_queued (not_exists.mp hheld), List.append_nil]
    exact fun packet hr => hheld ⟨packet, (hflows.obtain_reader hr).symm⟩

/-- As long as the loop runs, a handshake that has been handed over waits to be served or has been
taken up. -/
theorem immediate_handed (h : channel.Sound key) (hrunning : channel.running) :
    (∃ packet rest, channel.letters = .handshake key packet .reader :: rest) ∨
      Route.immediate.sift channel.handed = Route.immediate.sift channel.taken := by
  rcases h with hblank | ⟨reader, pending, hflows⟩
  · have hreader : ∀ packet, channel.reader ≠ some (.holding packet) := by simp [hblank.reader_eq]
    rw [handed_of_not_holding hreader, hblank.read_eq, hblank.taken_eq]
    exact .inr rfl
  have himmediate := hflows.immediate
  by_cases hheld : ∃ packet, reader = .holding packet
  · obtain ⟨packet, rfl⟩ := hheld
    obtain ⟨earlier, hread⟩ := hflows.last packet rfl
    obtain ⟨-, -, rfl⟩ := hflows.stage.of_holding
    rw [hread, Route.sift_append] at himmediate
    rw [handed_of_holding hflows.reader_eq, hread, List.dropLast_concat]
    exact .inr (List.append_cancel_right himmediate)
  · have hread : channel.handed = channel.read :=
      handed_of_not_holding fun packet hr => hheld ⟨packet, (hflows.obtain_reader hr).symm⟩
    have hstage := hflows.stage
    rw [hrunning] at hstage
    refine (hstage.letters_or (not_exists.mp hheld)).imp_right ?_
    rintro rfl
    rw [hread, himmediate, Route.sift_nil, List.append_nil]

end Sound

end Channel
end GameServer
