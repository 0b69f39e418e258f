import GameServer.Proofs.Session.Teardown
import GameServer.Proofs.Session.Keepalive
import Mathlib.Data.List.Induction

/-! How long a client has been silent. A session counts its pulses, and begins to count anew with a
pulse that takes packets up, with an answer to its keepalive and with a keepalive that it issues,
and with nothing else. What it does about the silence hangs on that count alone. -/

namespace GameServer

open Service

/-- What a session has to go by when it looks how long its client has been silent. -/
def Session.clock (session : Session) : Nat × Option KeepAliveId :=
  (session.idle, session.outstanding)

def Operation.isPulse : Operation → Bool
  | .move .pulse => true
  | _ => false

theorem Operation.isPulse_eq_false {operation : Operation} (h : operation ≠ .move .pulse) :
    operation.isPulse = false := by
  unfold isPulse
  split
  · exact absurd rfl h
  · rfl

open Operation

namespace Scene

section

variable {table : Table} {listing : Listing} {setting : Setting} {scene between after : Scene}

/-- All that changes between two pulses, while the packets `arrived` come to wait. -/
def Meanwhile (arrived : List Packet) (scene after : Scene) : Prop :=
  ∃ phase player, after.session =
    { scene.session with phase, player, inbox := scene.session.inbox ++ arrived }

theorem Meanwhile.of_session_eq (h : after.session = scene.session) : Meanwhile [] scene after :=
  ⟨scene.session.phase, scene.session.player, by rw [h, List.append_nil]⟩

theorem Meanwhile.trans {arrived more : List Packet} (h : Meanwhile arrived scene between)
    (h' : Meanwhile more between after) : Meanwhile (arrived ++ more) scene after := by
  obtain ⟨phase, player, hbetween⟩ := h
  obtain ⟨phase', player', hafter⟩ := h'
  refine ⟨phase', player', ?_⟩
  rw [hafter, hbetween, ← List.append_assoc]

theorem Meanwhile.inbox_eq {arrived : List Packet} (h : Meanwhile arrived scene after) :
    after.session.inbox = scene.session.inbox ++ arrived := by
  obtain ⟨phase, player, hsession⟩ := h
  rw [hsession]

theorem Meanwhile.clock_eq {arrived : List Packet} (h : Meanwhile arrived scene after) :
    after.session.clock = scene.session.clock := by
  obtain ⟨phase, player, hsession⟩ := h
  rw [hsession]
  rfl

theorem Aftermath.meanwhile {mentioned : Prop} (h : Aftermath scene after mentioned) :
    Meanwhile [] scene after :=
  ⟨scene.session.phase, after.session.player, by rw [List.append_nil]; exact h.session_eq⟩

theorem meanwhile_disconnectWith (reason : String) (force : Bool) :
    Meanwhile [] scene (scene.disconnectWith reason force) :=
  (aftermath_disconnectWith scene reason force).meanwhile

theorem meanwhile_note_disconnect (notice : Notice) (reason : String) :
    Meanwhile [] scene ((scene.note notice).disconnect reason) :=
  (Meanwhile.of_session_eq rfl).trans (meanwhile_disconnectWith reason false)

theorem meanwhile_setPhase {next : Phase} (h : scene.setPhase setting next = .ok after) :
    Meanwhile [] scene after := by
  refine ⟨next, scene.session.player, ?_⟩
  simp only [setPhase] at h
  split at h
  · cases h
  · obtain rfl := Except.ok.inj h
    rw [List.append_nil]
    split <;> rfl

theorem meanwhile_attach {player : Player} (h : scene.attach player = .ok after) :
    Meanwhile [] scene after := by
  cases hplayer : scene.session.player with
  | some seated => simp [attach, hplayer] at h
  | none =>
    rw [attach_of_none hplayer] at h
    obtain rfl := Except.ok.inj h
    have hpresent : Meanwhile [] scene (scene.present player) :=
      ⟨scene.session.phase, some player, by rw [List.append_nil]; rfl⟩
    refine hpresent.trans ?_
    split
    · exact (Meanwhile.of_session_eq rfl).trans (aftermath_sendAway _ _).meanwhile
    · refine .of_session_eq ?_
      rw [session_announce]
      exact session_enterWorld (scene.present player) player

theorem meanwhile_handshake (player : Option Player) (version : UInt32) (address : String)
    (port : UInt16) (next : Phase) : Meanwhile [] scene
      (handshake setting player (.handshake version address port next) scene) := by
  simp only [handshake]
  split
  · cases hset : scene.setPhase setting next with
    | error fault => exact meanwhile_note_disconnect _ _
    | ok moved =>
      refine (meanwhile_setPhase hset).trans ?_
      dsimp only
      split
      · exact meanwhile_note_disconnect _ _
      · exact .of_session_eq rfl
  · exact meanwhile_note_disconnect _ _

/-- A packet that is answered at once does not count as a word from the client. -/
theorem meanwhile_receive {packet : Packet} (hroute : packet.route = .immediate) :
    Meanwhile [] scene (scene.receive (standard listing) setting packet) := by
  cases packet with
  | handshake version address port next =>
    change Meanwhile [] scene (scene.dispatch (standard listing) setting _)
    rw [dispatch_standard]
    dsimp only
    cases scene.session.phase with
    | handshake => exact (Meanwhile.of_session_eq rfl).trans (meanwhile_handshake _ _ _ _ _)
    | _ => exact .of_session_eq rfl
  | _ => cases hroute

theorem exists_meanwhile {operation : Operation} (hpulse : operation ≠ .move .pulse)
    (hpong : operation ≠ .pong) :
    ∃ arrived, Meanwhile arrived scene (scene.operate (standard listing) setting operation) := by
  cases operation with
  | move move =>
    cases move with
    | receive packet =>
      cases hroute : packet.route with
      | immediate => exact ⟨[], meanwhile_receive hroute⟩
      | queued =>
        refine ⟨[packet], scene.session.phase, scene.session.player, ?_⟩
        simp only [operate, move, receive, hroute]
        rfl
    | queue packet => exact ⟨[packet], scene.session.phase, scene.session.player, rfl⟩
    | pulse => exact absurd rfl hpulse
    | disconnect reason force => exact ⟨[], meanwhile_disconnectWith reason force⟩
    | dispose tell => exact ⟨[], (aftermath_dispose scene tell).meanwhile⟩
    | elsewhere world policy asked => exact ⟨[], .of_session_eq rfl⟩
  | attach player =>
    refine ⟨[], ?_⟩
    cases hattach : scene.attach player with
    | error fault => exact .of_session_eq (by simp only [operate, hattach]; rfl)
    | ok after =>
      simp only [operate, hattach]
      exact meanwhile_attach hattach
  | setPhase next =>
    refine ⟨[], ?_⟩
    cases hset : scene.setPhase setting next with
    | error fault => exact .of_session_eq (by simp only [operate, hset]; rfl)
    | ok after =>
      simp only [operate, hset]
      exact meanwhile_setPhase hset
  | pong => exact absurd rfl hpong
  | send packet => exact ⟨[], .of_session_eq rfl⟩

theorem clock_operate {operation : Operation} (hpulse : operation ≠ .move .pulse)
    (hpong : operation ≠ .pong) :
    (scene.operate (standard listing) setting operation).session.clock = scene.session.clock := by
  obtain ⟨arrived, hmeanwhile⟩ := exists_meanwhile hpulse hpong
  exact hmeanwhile.clock_eq

/-! A pulse counts itself, unless it takes packets up. -/

theorem drained_of_nil (hinbox : scene.session.inbox = []) :
    scene.drained table setting = scene.ticked :=
  have hticked : scene.ticked.session.inbox = [] := hinbox
  drain_of_nil hticked _

theorem clock_ticked (hidle : scene.session.idle < Session.idleLimit) :
    scene.ticked.session.clock = (scene.session.idle + 1, scene.session.outstanding) :=
  congrArg (·, scene.session.outstanding) (Nat.min_eq_left hidle)

theorem idle_drain (hidle : scene.session.idle = 0) (bound : Nat) :
    (drain table setting bound scene).session.idle = 0 := by
  induction bound generalizing scene with
  | zero => exact hidle
  | succ bound ih =>
    cases hinbox : scene.session.inbox with
    | nil => rw [drain_of_nil hinbox]; exact hidle
    | cons packet rest => rw [drain_of_cons hinbox]; exact ih rfl

theorem idle_drained_of_ne_nil (hinbox : scene.session.inbox ≠ []) :
    (scene.drained table setting).session.idle = 0 := by
  obtain ⟨packet, rest, hcons⟩ := List.exists_cons_of_ne_nil hinbox
  have hticked : scene.ticked.session.inbox = packet :: rest := hcons
  have hbound : scene.session.inbox.length + table.allowance =
      rest.length + table.allowance + 1 := by
    simp only [hcons, List.length_cons]
    omega
  rw [drained, hbound, drain_of_cons hticked]
  exact idle_drain rfl _

theorem idle_drained_le : (scene.drained table setting).session.idle ≤ scene.session.idle + 1 := by
  by_cases hinbox : scene.session.inbox = []
  · rw [drained_of_nil hinbox]
    exact Nat.min_le_left _ _
  · rw [idle_drained_of_ne_nil hinbox]
    exact Nat.zero_le _

/-! What a pulse does about the silence. -/

section

variable (scene : Scene) (table : Table) (setting : Setting)

/-- The next pulse issues a keepalive. -/
def Probes : Prop :=
  scene.pulse table setting = (scene.drained table setting).issueKeepAlive setting

/-- The next pulse sends the client away for its silence. -/
def Expels : Prop :=
  scene.pulse table setting = (scene.drained table setting).disconnect timeoutReason

/-- The next pulse does nothing about the silence. -/
def LetsBe : Prop := ¬ scene.Probes table setting ∧ ¬ scene.Expels table setting

end

theorem issueKeepAlive_ne : scene.issueKeepAlive setting ≠ scene := by
  intro h
  have hissued := congrArg (·.session.issued) h
  simp [session_issueKeepAlive] at hissued

theorem disconnect_ne (reason : String) : scene.disconnect reason ≠ scene := by
  intro h
  have hsame : (scene.disconnect reason).trace = scene.trace := congrArg Scene.trace h
  cases hplayer : scene.session.player with
  | none =>
    have haway : scene.disconnect reason = scene.sendAway reason := by
      simp only [disconnect, disconnectWith, hplayer]
    rw [haway, sendAway_eq] at hsame
    have hparting : parting scene.session.phase reason = [] := List.append_right_eq_self.mp hsame
    unfold parting at hparting
    split at hparting <;> cases hparting
  | some player =>
    obtain ⟨new, ht, -, hm⟩ := (aftermath_disconnectWith scene reason false).events
    obtain ⟨event, he, -⟩ := hm.mpr ⟨rfl, by simp [hplayer]⟩
    have hnew : new = [] := List.append_right_eq_self.mp (ht.symm.trans hsame)
    simp [hnew] at he

theorem issueKeepAlive_ne_disconnect (reason : String) :
    scene.issueKeepAlive setting ≠ scene.disconnect reason := by
  intro h
  have hissued := congrArg (·.session.issued) h
  rw [session_issueKeepAlive, disconnect, (aftermath_disconnectWith scene reason false).session_eq]
    at hissued
  simp at hissued

theorem probes_iff : scene.Probes table setting ↔
    setting.timeoutTicks ≤ (scene.drained table setting).session.idle ∧
      (scene.drained table setting).session.outstanding = none := by
  constructor
  · intro h
    rcases pulse_cases scene table setting with ⟨-, hquiet⟩ | htimes | ⟨id, hissues⟩
    · exact absurd (h.symm.trans hquiet) issueKeepAlive_ne
    · exact absurd (h.symm.trans (pulse_of_timesOut htimes)) (issueKeepAlive_ne_disconnect _)
    · exact ⟨hissues.1, hissues.2.1⟩
  · rintro ⟨hsilent, howed⟩
    exact pulse_of_issues ⟨hsilent, howed, rfl⟩

theorem expels_iff : scene.Expels table setting ↔ scene.TimesOut table setting := by
  constructor
  · intro h
    rcases pulse_cases scene table setting with ⟨-, hquiet⟩ | htimes | ⟨id, hissues⟩
    · exact absurd (h.symm.trans hquiet) (disconnect_ne _)
    · exact htimes
    · exact absurd ((pulse_of_issues hissues).symm.trans h) (issueKeepAlive_ne_disconnect _)
  · exact pulse_of_timesOut

theorem not_probes_and_expels : ¬ (scene.Probes table setting ∧ scene.Expels table setting) :=
  fun ⟨hprobes, hexpels⟩ => issueKeepAlive_ne_disconnect _ (hprobes.symm.trans hexpels)

theorem letsBe_of_idle_lt (h : (scene.drained table setting).session.idle < setting.timeoutTicks) :
    scene.LetsBe table setting := by
  rw [LetsBe, probes_iff, expels_iff, TimesOut]
  omega

theorem letsBe_of_ne_nil (hticks : 1 ≤ setting.timeoutTicks) (hinbox : scene.session.inbox ≠ []) :
    scene.LetsBe table setting :=
  letsBe_of_idle_lt (by rw [idle_drained_of_ne_nil hinbox]; exact hticks)

theorem probes_iff_of_nil (hinbox : scene.session.inbox = [])
    (hidle : scene.session.idle < Session.idleLimit) : scene.Probes table setting ↔
      setting.timeoutTicks ≤ scene.session.idle + 1 ∧ scene.session.outstanding = none := by
  rw [probes_iff, drained_of_nil hinbox, ticked, Nat.min_eq_left hidle]

theorem expels_iff_of_nil (hinbox : scene.session.inbox = [])
    (hidle : scene.session.idle < Session.idleLimit) : scene.Expels table setting ↔
      setting.timeoutTicks ≤ scene.session.idle + 1 ∧ scene.session.outstanding.isSome := by
  rw [expels_iff, TimesOut, drained_of_nil hinbox, ticked, Nat.min_eq_left hidle]

theorem clock_pulse_of_not_probes (h : ¬ scene.Probes table setting) :
    (scene.pulse table setting).session.clock = (scene.drained table setting).session.clock := by
  rcases pulse_cases scene table setting with ⟨-, hquiet⟩ | htimes | ⟨id, hissues⟩
  · rw [hquiet]
  · rw [pulse_of_timesOut htimes]
    exact (meanwhile_disconnectWith timeoutReason false).clock_eq
  · exact absurd (pulse_of_issues hissues) h

/-! The count, operation by operation. -/

/-- With this operation the session begins to count anew. -/
def Restarts (scene : Scene) (table : Table) (setting : Setting) : Operation → Prop
  | .pong => True
  | .move .pulse => scene.session.inbox ≠ [] ∨ scene.Probes table setting
  | _ => False

theorem idle_of_restarts {operation : Operation} (h : scene.Restarts table setting operation) :
    (scene.operate table setting operation).session.idle = 0 := by
  unfold Restarts at h
  split at h
  · rfl
  · change (scene.pulse table setting).session.idle = 0
    by_cases hprobes : scene.Probes table setting
    · rw [hprobes, session_issueKeepAlive]
    · have hinbox := h.resolve_right hprobes
      have hclock := congrArg Prod.fst (clock_pulse_of_not_probes hprobes)
      exact hclock.trans (idle_drained_of_ne_nil hinbox)
  · exact h.elim

theorem idle_of_not_restarts {operation : Operation}
    (h : ¬ scene.Restarts (standard listing) setting operation)
    (hidle : scene.session.idle < Session.idleLimit) :
    (scene.operate (standard listing) setting operation).session.idle =
      scene.session.idle + if operation.isPulse then 1 else 0 := by
  by_cases hpulse : operation = .move .pulse
  · subst hpulse
    obtain ⟨hinbox, hprobes⟩ := not_or.mp h
    have hclock := congrArg Prod.fst (clock_pulse_of_not_probes hprobes)
    rw [drained_of_nil (Classical.not_not.mp hinbox)] at hclock
    exact hclock.trans (Nat.min_eq_left hidle)
  · have hpong : operation ≠ .pong := by
      rintro rfl
      exact h trivial
    rw [isPulse_eq_false hpulse]
    exact congrArg Prod.fst (clock_operate hpulse hpong)

end

section

variable {start : Scene} {table : Table} {listing : Listing} {setting : Setting}

theorem operateAll_concat (operations : List Operation) (operation : Operation) :
    start.operateAll table setting (operations ++ [operation]) =
      (start.operateAll table setting operations).operate table setting operation :=
  List.foldl_append

variable (start table setting)

/-- The count has last been begun anew with the last of the operations `early`, or it still runs
from the start. -/
structure Lull (early late : List Operation) : Prop where
  since : early = [] ∨ ∃ before last, early = before ++ [last] ∧
    (start.operateAll table setting before).Restarts table setting last
  lasts : ∀ between operation after, late = between ++ operation :: after →
    ¬ (start.operateAll table setting (early ++ between)).Restarts table setting operation

/-- Of any so many pulses that follow on one another as a client may be silent for, one at least
takes a packet up. -/
def Talks (operations : List Operation) : Prop :=
  ∀ early window late, operations = early ++ window ++ late →
    window.countP isPulse = setting.timeoutTicks →
    ∃ before after, window = before ++ .move .pulse :: after ∧
      (start.operateAll table setting (early ++ before)).session.inbox ≠ []

/-- No pulse takes a packet up, and no keepalive is answered. -/
def Mute (operations : List Operation) : Prop :=
  ∀ before operation after, operations = before ++ operation :: after →
    operation ≠ .pong ∧ (operation = .move .pulse →
      (start.operateAll table setting before).session.inbox = [])

end

section

variable {start : Scene} {listing : Listing} {setting : Setting}

/-- A place in a run that goes on by one operation is that operation's or lies before it. -/
theorem concat_eq_append_cons {operations before after : List Operation}
    {last operation : Operation} (h : operations ++ [last] = before ++ operation :: after) :
    (operations = before ∧ last = operation) ∨
      ∃ rest, after = rest ++ [last] ∧ operations = before ++ operation :: rest := by
  rcases List.eq_nil_or_concat after with rfl | ⟨rest, final, rfl⟩
  · exact .inl (List.append_singleton_inj.mp h)
  · rw [List.concat_eq_append, ← List.cons_append, ← List.append_assoc] at h
    obtain ⟨hrest, rfl⟩ := List.append_singleton_inj.mp h
    exact .inr ⟨rest, List.concat_eq_append, hrest⟩

theorem countP_lt_of_append {early late : List Operation} {limit : Nat}
    (h : (early ++ late).countP isPulse < limit) :
    early.countP isPulse < limit ∧ late.countP isPulse < limit := by
  rw [List.countP_append] at h
  omega

theorem Lull.concat {table : Table} {early late : List Operation} {operation : Operation}
    (h : start.Lull table setting early late)
    (hlast : ¬ (start.operateAll table setting (early ++ late)).Restarts table setting operation) :
    start.Lull table setting early (late ++ [operation]) := by
  refine ⟨h.since, fun between restart after heq => ?_⟩
  rcases concat_eq_append_cons heq with ⟨rfl, rfl⟩ | ⟨rest, -, hrest⟩
  · exact hlast
  · exact h.lasts between restart rest hrest

/-- The count is that of the pulses since it was last begun anew. -/
theorem exists_lull (listing : Listing) (setting : Setting) (hstart : start.session.idle = 0)
    (operations : List Operation)
    (hfew : operations.countP isPulse < Session.idleLimit) :
    ∃ early late, operations = early ++ late ∧
      start.Lull (standard listing) setting early late ∧
      (start.operateAll (standard listing) setting operations).session.idle =
        late.countP isPulse := by
  induction operations using List.reverseRecOn with
  | nil => exact ⟨[], [], rfl, ⟨.inl rfl, by simp⟩, hstart⟩
  | append_singleton operations operation ih =>
    have hbefore := (countP_lt_of_append hfew).1
    obtain ⟨early, late, rfl, hlull, hidle⟩ := ih hbefore
    rw [operateAll_concat]
    by_cases hrestarts : (start.operateAll (standard listing) setting (early ++ late)).Restarts
        (standard listing) setting operation
    · refine ⟨early ++ late ++ [operation], [], (List.append_nil _).symm, ⟨?_, by simp⟩, ?_⟩
      · exact .inr ⟨early ++ late, operation, rfl, hrestarts⟩
      · exact idle_of_restarts hrestarts
    · refine ⟨early, late ++ [operation], List.append_assoc _ _ _, hlull.concat hrestarts, ?_⟩
      have hbelow := (countP_lt_of_append hbefore).2
      rw [idle_of_not_restarts hrestarts (hidle ▸ hbelow), hidle, List.countP_append,
        List.countP_singleton]

/-- Behind a run that is silent for long enough there is a window of as many pulses as asked. -/
theorem exists_suffix_countP {operations : List Operation} {count : Nat}
    (h : count ≤ operations.countP isPulse) :
    ∃ early window, operations = early ++ window ∧ window.countP isPulse = count := by
  induction operations with
  | nil => exact ⟨[], [], rfl, (Nat.le_zero.mp h).symm⟩
  | cons operation operations ih =>
    by_cases hless : count ≤ operations.countP isPulse
    · obtain ⟨early, window, rfl, hcount⟩ := ih hless
      exact ⟨operation :: early, window, rfl, hcount⟩
    · refine ⟨[], operation :: operations, rfl, ?_⟩
      have hwhole : (operation :: operations).countP isPulse ≤
          operations.countP isPulse + 1 := by
        rw [List.countP_cons]
        split <;> omega
      omega

/-- Whoever talks often enough is let be. -/
theorem Talks.letsBe (hstart : start.session.idle = 0) (hticks : 1 ≤ setting.timeoutTicks)
    {operations before after : List Operation}
    (htalks : start.Talks (standard listing) setting operations)
    (hsplit : operations = before ++ .move .pulse :: after)
    (hfew : before.countP isPulse < Session.idleLimit) :
    (start.operateAll (standard listing) setting before).LetsBe (standard listing) setting := by
  by_cases hinbox : (start.operateAll (standard listing) setting before).session.inbox = []
  · refine letsBe_of_idle_lt (Nat.lt_of_le_of_lt idle_drained_le ?_)
    obtain ⟨early, late, rfl, hlull, hidle⟩ := exists_lull listing setting hstart before hfew
    rw [hidle]
    by_contra hlong
    have hpulses : setting.timeoutTicks ≤ (late ++ [Operation.move .pulse]).countP isPulse := by
      simpa [List.countP_append, isPulse] using Nat.not_lt.mp hlong
    obtain ⟨gap, window, hwindow, hcount⟩ := exists_suffix_countP hpulses
    have hwhole : operations = (early ++ gap) ++ window ++ after := by
      rw [List.append_assoc early, ← hwindow, hsplit]
      simp
    obtain ⟨inner, rest, rfl, hfound⟩ := htalks (early ++ gap) window after hwhole hcount
    -- A pulse of the window that takes packets up would have begun the count anew.
    rw [← List.append_assoc] at hwindow
    rw [List.append_assoc] at hfound
    rcases concat_eq_append_cons hwindow with ⟨rfl, -⟩ | ⟨between, -, rfl⟩
    · exact hfound hinbox
    · exact hlull.lasts (gap ++ inner) _ between rfl (.inl hfound)
  · exact letsBe_of_ne_nil hticks hinbox

theorem Mute.of_append {table : Table} {operations more : List Operation}
    (h : start.Mute table setting (operations ++ more)) : start.Mute table setting operations := by
  rintro before operation after rfl
  exact h before operation (after ++ more) (List.append_assoc _ _ _)

/-- How a session stands after so many pulses of which none takes a packet up. -/
structure Hushed (setting : Setting) (count : Nat) (session : Session) : Prop where
  early : count < setting.timeoutTicks → session.idle = count ∧ session.outstanding = none
  late : setting.timeoutTicks ≤ count →
    session.idle + setting.timeoutTicks = count ∧ session.outstanding.isSome

theorem Hushed.idle_le {count : Nat} {session : Session} (h : Hushed setting count session) :
    session.idle ≤ count := by
  by_cases hearly : count < setting.timeoutTicks
  · exact Nat.le_of_eq (h.early hearly).1
  · exact Nat.le.intro (h.late (Nat.not_lt.mp hearly)).1

theorem Hushed.pulse {table : Table} {count : Nat} {scene : Scene}
    (h : Hushed setting count scene.session) (hinbox : scene.session.inbox = [])
    (hfew : count < Session.idleLimit) :
    Hushed setting (count + 1) (scene.pulse table setting).session := by
  have hidle : scene.session.idle < Session.idleLimit := Nat.lt_of_le_of_lt h.idle_le hfew
  by_cases hissued : scene.Probes table setting
  · obtain ⟨hlong, hnone⟩ := (probes_iff_of_nil hinbox hidle).mp hissued
    have hearly : count < setting.timeoutTicks := by
      by_contra hlate
      have hsome := (h.late (Nat.not_lt.mp hlate)).2
      simp [hnone] at hsome
    have hcount := (h.early hearly).1
    rw [hissued, session_issueKeepAlive]
    exact ⟨fun _ => by omega, fun _ => ⟨by dsimp only; omega, rfl⟩⟩
  · have hclock := clock_pulse_of_not_probes hissued
    rw [drained_of_nil hinbox, clock_ticked hidle] at hclock
    obtain ⟨hafter, howed⟩ := Prod.mk.inj hclock
    rw [probes_iff_of_nil hinbox hidle, not_and] at hissued
    constructor
    · intro hearly
      obtain ⟨hcount, hnone⟩ := h.early (by omega)
      exact ⟨by omega, howed.trans hnone⟩
    · intro hreached
      have hlate : setting.timeoutTicks ≤ count := by
        by_contra hearly
        obtain ⟨hcount, hnone⟩ := h.early (Nat.not_le.mp hearly)
        exact hissued (by omega) hnone
      obtain ⟨hcount, hsome⟩ := h.late hlate
      exact ⟨by omega, howed ▸ hsome⟩

theorem Hushed.of_clock_eq {count : Nat} {session after : Session}
    (h : Hushed setting count session) (hclock : after.clock = session.clock) :
    Hushed setting count after := by
  obtain ⟨hidle, howed⟩ := Prod.mk.inj hclock
  exact ⟨hidle ▸ howed ▸ h.early, hidle ▸ howed ▸ h.late⟩

theorem Mute.hushed (hfresh : Hushed setting 0 start.session) (operations : List Operation)
    (hmute : start.Mute (standard listing) setting operations)
    (hfew : operations.countP isPulse < Session.idleLimit) :
    Hushed setting (operations.countP isPulse)
      (start.operateAll (standard listing) setting operations).session := by
  induction operations using List.reverseRecOn with
  | nil => exact hfresh
  | append_singleton operations operation ih =>
    have hbefore := (countP_lt_of_append hfew).1
    have hfound := ih hmute.of_append hbefore
    obtain ⟨hpong, hinbox⟩ := hmute operations operation [] rfl
    rw [operateAll_concat, List.countP_append, List.countP_singleton]
    by_cases hpulse : operation = .move .pulse
    · obtain rfl := hpulse
      exact hfound.pulse (hinbox rfl) hbefore
    · rw [isPulse_eq_false hpulse]
      exact hfound.of_clock_eq (clock_operate hpulse hpong)

theorem Hushed.timed {table : Table} {count : Nat} {scene : Scene}
    (h : Hushed setting count scene.session) (hinbox : scene.session.inbox = [])
    (hfew : count < Session.idleLimit) :
    (scene.Probes table setting ↔ count + 1 = setting.timeoutTicks) ∧
      (scene.Expels table setting ↔ 2 * setting.timeoutTicks ≤ count + 1) := by
  have hidle : scene.session.idle < Session.idleLimit := Nat.lt_of_le_of_lt h.idle_le hfew
  rw [probes_iff_of_nil hinbox hidle, expels_iff_of_nil hinbox hidle]
  by_cases hearly : count < setting.timeoutTicks
  · obtain ⟨hcount, hnone⟩ := h.early hearly
    refine ⟨?_, iff_of_false (by simp [hnone]) (by omega)⟩
    rw [and_iff_left hnone]
    omega
  · obtain ⟨hcount, hsome⟩ := h.late (Nat.not_lt.mp hearly)
    refine ⟨iff_of_false (fun ⟨_, hnone⟩ => by simp [hnone] at hsome) (by omega), ?_⟩
    rw [and_iff_left hsome]
    omega

/-- A session counts its pulses since it last took a packet up, was answered or issued a keepalive.
At `timeoutTicks` of them it issues a keepalive if none is outstanding, and sends the client away if
one is. So whoever talks often enough is left in peace, and whoever says nothing is sent a keepalive
by pulse `timeoutTicks` and sent away by twice that. -/
theorem silence_timed (listing : Listing) (setting : Setting) (world : World) (policy : Policy)
    (asked : Nat) (operations : List Operation) (hticks : 1 ≤ setting.timeoutTicks)
    (hfew : operations.countP isPulse < Session.idleLimit) :
    let start := begin world policy asked
    let reach := start.operateAll (standard listing) setting
    let Probed (before : List Operation) := (reach before).Probes (standard listing) setting
    let Expelled (before : List Operation) := (reach before).Expels (standard listing) setting
    (∃ early late, operations = early ++ late ∧ start.Lull (standard listing) setting early late ∧
      (reach operations).session.idle = late.countP isPulse) ∧
    ∀ before after, operations = before ++ .move .pulse :: after →
      (∃ early late, before = early ++ late ∧ start.Lull (standard listing) setting early late ∧
        let silent := if (reach before).session.inbox = [] then late.countP isPulse + 1 else 0
        (Probed before ↔ setting.timeoutTicks ≤ silent ∧
          (reach before).session.outstanding = none) ∧
        (Expelled before ↔ setting.timeoutTicks ≤ silent ∧
          (reach before).session.outstanding.isSome)) ∧
      ¬ (Probed before ∧ Expelled before) ∧
      (start.Talks (standard listing) setting operations →
        (reach before).LetsBe (standard listing) setting) ∧
      (start.Mute (standard listing) setting operations →
        let count := before.countP isPulse + 1
        (Probed before ↔ count = setting.timeoutTicks) ∧
          (Expelled before ↔ 2 * setting.timeoutTicks ≤ count)) := by
  intro start reach Probed Expelled
  refine ⟨exists_lull listing setting rfl operations hfew, fun before after hsplit => ?_⟩
  have hbefore : before.countP isPulse < Session.idleLimit := by
    rw [hsplit] at hfew
    exact (countP_lt_of_append hfew).1
  refine ⟨?_, not_probes_and_expels, fun htalks => htalks.letsBe rfl hticks hsplit hbefore,
    fun hmute => ?_⟩
  · obtain ⟨early, late, hbetween, hlull, hidle⟩ :=
      exists_lull listing setting (rfl : start.session.idle = 0) before hbefore
    refine ⟨early, late, hbetween, hlull, ?_⟩
    by_cases hinbox : (reach before).session.inbox = []
    · have hbelow : (reach before).session.idle < Session.idleLimit := by
        rw [hidle]
        rw [hbetween] at hbefore
        exact (countP_lt_of_append hbefore).2
      rw [if_pos hinbox, ← hidle]
      exact ⟨probes_iff_of_nil hinbox hbelow, expels_iff_of_nil hinbox hbelow⟩
    · rw [if_neg hinbox]
      obtain ⟨hprobes, hexpels⟩ := letsBe_of_ne_nil hticks hinbox
      exact ⟨iff_of_false hprobes (by omega), iff_of_false hexpels (by omega)⟩
  · have hfresh : Hushed setting 0 start.session := ⟨fun _ => ⟨rfl, rfl⟩, fun h => by omega⟩
    obtain ⟨-, hinbox⟩ := hmute before (.move .pulse) after hsplit
    rw [hsplit] at hmute
    have hfound : Hushed setting (before.countP isPulse) (reach before).session :=
      Mute.hushed hfresh before hmute.of_append hbefore
    exact hfound.timed (hinbox rfl) hbefore

end

section

variable {table : Table} {setting : Setting} {scene : Scene}

theorem inbox_pulse_of_nil (hinbox : scene.session.inbox = []) :
    (scene.pulse table setting).session.inbox = [] := by
  rw [pulse_eq_checkSilence, drained_of_nil hinbox, checkSilence]
  split
  · exact hinbox
  · split
    · rw [session_issueKeepAlive]
      exact hinbox
    · rw [disconnect, (aftermath_disconnectWith scene.ticked timeoutReason false).session_eq]
      exact hinbox

/-- Pulses alone bring no word from the client. -/
theorem mute_replicate_pulse (hinbox : scene.session.inbox = []) (count : Nat) :
    scene.Mute table setting (List.replicate count (.move .pulse)) := by
  intro before operation after hsplit
  obtain ⟨-, hbefore, hrest⟩ := List.append_eq_replicate_iff.mp hsplit.symm
  obtain rfl : operation = .move .pulse :=
    List.eq_of_mem_replicate (hrest ▸ List.mem_cons_self)
  refine ⟨nofun, fun _ => ?_⟩
  rw [hbefore]
  generalize before.length = passed
  induction passed generalizing scene with
  | zero => exact hinbox
  | succ passed ih => exact ih (inbox_pulse_of_nil hinbox)

end

def fourPulses : List Operation := List.replicate 4 (.move .pulse)

/-- With two ticks to answer, a client that never says a word is sent a keepalive by the second
pulse and sent away by the fourth. -/
theorem silence_timed_fourPulses :
    let start := begin (World.create "world") Policy.console 0
    let reach := start.operateAll (standard .default) hasty
    1 ≤ hasty.timeoutTicks ∧ fourPulses.countP isPulse < Session.idleLimit ∧
      start.Mute (standard .default) hasty fourPulses ∧
      (reach (fourPulses.take 1)).Probes (standard .default) hasty ∧
      ¬ (reach (fourPulses.take 2)).Expels (standard .default) hasty ∧
      (reach (fourPulses.take 3)).Expels (standard .default) hasty := by
  intro start reach
  have hmute : start.Mute (standard .default) hasty fourPulses := mute_replicate_pulse rfl 4
  have hfew : fourPulses.countP isPulse < Session.idleLimit := by decide
  obtain ⟨-, htimed⟩ := silence_timed .default hasty (World.create "world") Policy.console 0
    fourPulses (by decide) hfew
  refine ⟨by decide, hfew, hmute, ?_, ?_, ?_⟩
  · exact ((htimed (fourPulses.take 1) _ rfl).2.2.2 hmute).1.mpr rfl
  · exact mt ((htimed (fourPulses.take 2) _ rfl).2.2.2 hmute).2.mp (by decide)
  · exact ((htimed (fourPulses.take 3) _ rfl).2.2.2 hmute).2.mpr (by decide)

end Scene
end GameServer
