import GameServer.Server.Basic
import GameServer.Service.Standard
import GameServer.Proofs.Session.Turn
import Mathlib.Algebra.Group.Nat.Defs

/-! The books of a server: which session has which player, who lives in the world, and what the
sessions have done. They balance if the world holds exactly the players that were let in and have
not left. -/

namespace GameServer

open Service

def Event.isQuestion : Event → Bool
  | .asked _ => true
  | _ => false

abbrev History := List (Key × Event)

namespace History

def of (key : Key) (events : List Event) : History := events.map (key, ·)

def questions (history : History) : Nat := history.countP (·.2.isQuestion)

def logins (history : History) : Nat := history.countP (·.2.isAttachment)

/-- A player is attached to a session, and the owner is asked about it. -/
def attachment (key : Key) (player : Player) : History :=
  [(key, .attached player), (key, .asked (.login player.name))]

/-- The player was attached to the session, and the owner, asked at once, let it in. -/
def Admitted (history : History) (policy : Policy) (key : Key) (player : Player) : Prop :=
  ∃ before after : History,
    history = before ++ (attachment key player ++ after) ∧
      policy.login before.questions player.name = .allowed

/-- The owner is asked about a player as soon as it is attached. -/
def Prompt (history : History) : Prop :=
  ∀ (before after : History) (key : Key) (player : Player),
    history = before ++ (key, .attached player) :: after →
      ∃ rest, after = (key, .asked (.login player.name)) :: rest

@[simp] theorem mem_of {key other : Key} {event : Event} {events : List Event} :
    (other, event) ∈ of key events ↔ other = key ∧ event ∈ events := by
  simp only [of, List.mem_map, Prod.mk.injEq]
  exact ⟨fun ⟨_, he, hk, hh⟩ => ⟨hk.symm, hh ▸ he⟩, fun ⟨hk, he⟩ => ⟨event, he, hk.symm, rfl⟩⟩

@[simp] theorem questions_of (key : Key) (events : List Event) :
    (of key events).questions = events.countP Event.isQuestion := List.countP_map

theorem of_append (key : Key) (events new : List Event) :
    of key (events ++ new) = of key events ++ of key new := List.map_append

theorem questions_append (history new : History) :
    (history ++ new).questions = history.questions + new.questions := List.countP_append

theorem logins_append (history new : History) :
    (history ++ new).logins = history.logins + new.logins := List.countP_append

variable {history new : History} {policy : Policy} {key : Key} {player : Player}

theorem logins_eq_zero (hn : ∀ key player, (key, .attached player) ∉ new) : new.logins = 0 := by
  refine List.countP_eq_zero.mpr fun entry he => ?_
  obtain ⟨key, event⟩ := entry
  cases event with
  | attached player => exact (hn key player he).elim
  | _ => exact Bool.false_ne_true

theorem Admitted.mem (h : history.Admitted policy key player) :
    (key, .attached player) ∈ history := by
  obtain ⟨before, after, rfl, -⟩ := h
  simp [attachment]

theorem Admitted.append (h : history.Admitted policy key player) (new : History) :
    (history ++ new).Admitted policy key player := by
  obtain ⟨before, after, rfl, hv⟩ := h
  exact ⟨before, after ++ new, by simp, hv⟩

theorem split_append (hn : ∀ key player, (key, .attached player) ∉ new) {before after : History}
    (h : history ++ new = before ++ (key, .attached player) :: after) :
    ∃ rest, history = before ++ (key, .attached player) :: rest ∧ after = rest ++ new := by
  rcases List.append_eq_append_iff.mp h with ⟨between, -, hb⟩ | ⟨behind, hb, ha⟩
  · exact (hn key player (by simp [hb])).elim
  · cases behind with
    | nil => exact (hn key player (List.nil_append new ▸ ha ▸ List.mem_cons_self)).elim
    | cons entry behind =>
      rw [List.cons_append] at ha
      obtain ⟨rfl, rfl⟩ := List.cons.inj ha
      exact ⟨behind, hb, rfl⟩

theorem Prompt.append (h : history.Prompt) (hn : ∀ key player, (key, .attached player) ∉ new) :
    (history ++ new).Prompt := by
  intro before after key player hs
  obtain ⟨rest, hr, rfl⟩ := split_append hn hs
  obtain ⟨rest, rfl⟩ := h before rest key player hr
  exact ⟨rest ++ new, rfl⟩

theorem admitted_append_iff (hp : history.Prompt)
    (hn : ∀ key player, (key, .attached player) ∉ new) :
    (history ++ new).Admitted policy key player ↔ history.Admitted policy key player := by
  refine ⟨fun h => ?_, fun h => h.append new⟩
  obtain ⟨before, after, hs, hv⟩ := h
  obtain ⟨rest, hr, -⟩ := split_append hn hs
  obtain ⟨rest, rfl⟩ := hp before rest key player hr
  exact ⟨before, rest, hr, hv⟩

theorem split_attach {added : Key} {newcomer : Player} {before after : History}
    (h : history ++ attachment added newcomer = before ++ (key, .attached player) :: after) :
    (∃ rest, history = before ++ (key, .attached player) :: rest) ∨
      (before = history ∧ key = added ∧ player = newcomer ∧
        after = [(added, .asked (.login newcomer.name))]) := by
  rw [attachment, List.append_cons] at h
  obtain ⟨rest, hs, rfl⟩ := split_append (by simp) h
  rcases List.eq_nil_or_concat rest with rfl | ⟨rest, last, rfl⟩
  · obtain ⟨rfl, hl⟩ := List.append_inj' hs rfl
    simp only [List.cons.injEq, Prod.mk.injEq, Event.attached.injEq] at hl
    exact .inr ⟨rfl, hl.1.1.symm, hl.1.2.symm, rfl⟩
  · rw [List.concat_eq_append, ← List.cons_append, ← List.append_assoc] at hs
    exact .inl ⟨rest, (List.append_inj' hs rfl).1⟩

theorem Prompt.attach (h : history.Prompt) (key : Key) (player : Player) :
    (history ++ attachment key player).Prompt := by
  intro before after other newcomer hs
  rcases split_attach hs with ⟨rest, hr⟩ | ⟨-, rfl, rfl, rfl⟩
  · obtain ⟨rest, rfl⟩ := h before rest other newcomer hr
    rw [hr, List.append_assoc] at hs
    exact ⟨_, (List.cons.inj (List.append_cancel_left hs)).2.symm⟩
  · exact ⟨[], rfl⟩

theorem admitted_attach_iff (hp : history.Prompt) {added : Key} {newcomer : Player} :
    (history ++ attachment added newcomer).Admitted policy key player ↔
      history.Admitted policy key player ∨
        key = added ∧ player = newcomer ∧ policy.login history.questions player.name = .allowed := by
  constructor
  · rintro ⟨before, after, hs, hv⟩
    rcases split_attach hs with ⟨rest, hr⟩ | ⟨rfl, rfl, rfl, -⟩
    · obtain ⟨rest, rfl⟩ := hp before rest key player hr
      exact .inl ⟨before, rest, hr, hv⟩
    · exact .inr ⟨rfl, rfl, hv⟩
  · rintro (h | ⟨rfl, rfl, hv⟩)
    · exact h.append _
    · exact ⟨history, [], rfl, hv⟩

end History

/-- What the server keeps about players, in three places, and what has happened so far. -/
structure Ledger where
  player : Key → Option Player
  world : World
  asked : Nat
  history : History

def Player.entity? : Player → Option Entity
  | .native entity => some entity
  | .guest _ => none

namespace Ledger

/-- The books are in order for sessions with these keys, of which there may be `bound`. -/
structure Balanced (ledger : Ledger) (policy : Policy) (listing : Listing) (bound : Nat)
    (keys : List Key) : Prop where
  asked_eq : ledger.asked = ledger.history.questions
  nextId_eq : ledger.world.nextId = UInt32.ofNat (ledger.history.logins + 1)
  prompt : ledger.history.Prompt
  native : ∀ key player, (key, .attached player) ∈ ledger.history →
    ∃ entity n, player = .native entity ∧ n < ledger.history.logins ∧
      entity.id = UInt32.ofNat (n + 1) ∧ isValidName entity.name
  seated : ∀ key player, ledger.player key = some player →
    key ∈ keys ∧ (key, .attached player) ∈ ledger.history
  distinct : ∀ key other a b, ledger.player key = some (.native a) →
    ledger.player other = some (.native b) → a.id = b.id → key = other
  live_iff : ∀ entity, entity ∈ ledger.world.live ↔
    ∃ key, ledger.player key = some (.native entity) ∧
      ledger.history.Admitted policy key (.native entity)
  live_nodup : (ledger.world.live.map (·.id)).Nodup
  reports : ∀ key json, (key, .write (.statusResponse json)) ∈ ledger.history →
    ∃ online ≤ bound, json = (listing.json online).render

variable {ledger : Ledger} {policy : Policy} {listing : Listing} {bound : Nat} {keys : List Key}

/-- Something happens in which nobody is attached. -/
theorem Balanced.extend (h : ledger.Balanced policy listing bound keys) {new : History}
    (hn : ∀ key player, (key, .attached player) ∉ new)
    (hr : ∀ key json, (key, .write (.statusResponse json)) ∈ new →
      ∃ online ≤ bound, json = (listing.json online).render) :
    { ledger with
      asked := ledger.asked + new.questions
      history := ledger.history ++ new : Ledger }.Balanced policy listing bound keys := by
  have hlogins : (ledger.history ++ new).logins = ledger.history.logins := by
    rw [History.logins_append, History.logins_eq_zero hn, Nat.add_zero]
  have hmem : ∀ {key player}, (key, .attached player) ∈ ledger.history ++ new ↔
      (key, .attached player) ∈ ledger.history := by
    intro key player
    simp [hn]
  constructor
  case asked_eq => rw [History.questions_append, h.asked_eq]
  case nextId_eq =>
    rw [hlogins]
    exact h.nextId_eq
  case prompt => exact h.prompt.append hn
  case native =>
    intro key player hp
    rw [hlogins]
    exact h.native key player (hmem.mp hp)
  case seated =>
    intro key player hp
    obtain ⟨hk, hp⟩ := h.seated key player hp
    exact ⟨hk, hmem.mpr hp⟩
  case distinct => exact h.distinct
  case live_iff =>
    intro entity
    simp only [History.admitted_append_iff h.prompt hn]
    exact h.live_iff entity
  case live_nodup => exact h.live_nodup
  case reports =>
    intro key json hp
    rcases List.mem_append.mp hp with hp | hp
    · exact h.reports key json hp
    · exact hr key json hp

theorem Balanced.part (h : ledger.Balanced policy listing bound keys) {key : Key} {entity : Entity}
    (hplayer : ledger.player key = some (.native entity)) :
    { ledger with
      player := fun other => if other = key then none else ledger.player other
      world := ledger.world.leave entity.id : Ledger }.Balanced policy listing bound keys := by
  have hold : ∀ {other player}, (if other = key then none else ledger.player other) = some player →
      other ≠ key ∧ ledger.player other = some player := by
    intro other player hp
    by_cases hk : other = key
    · rw [if_pos hk] at hp
      cases hp
    · rw [if_neg hk] at hp
      exact ⟨hk, hp⟩
  constructor
  case asked_eq => exact h.asked_eq
  case nextId_eq => exact h.nextId_eq
  case prompt => exact h.prompt
  case native => exact h.native
  case seated =>
    intro other player hp
    exact h.seated other player (hold hp).2
  case distinct =>
    intro a b e f ha hb
    exact h.distinct a b e f (hold ha).2 (hold hb).2
  case live_iff =>
    intro other
    simp only [World.mem_live_leave, h.live_iff]
    constructor
    · rintro ⟨⟨seat, hp, ha⟩, hid⟩
      have hne : seat ≠ key := by
        rintro rfl
        cases hp.symm.trans hplayer
        exact hid rfl
      exact ⟨seat, (if_neg hne).trans hp, ha⟩
    · rintro ⟨seat, hp, ha⟩
      obtain ⟨hne, hp⟩ := hold hp
      have hid : other.id ≠ entity.id := by
        intro hid
        exact hne (h.distinct seat key other entity hp hplayer hid)
      exact ⟨⟨seat, hp, ha⟩, hid⟩
  case live_nodup => exact World.nodup_ids_leave h.live_nodup entity.id
  case reports => exact h.reports

theorem Balanced.keys_mono (h : ledger.Balanced policy listing bound keys) {others : List Key}
    (hk : ∀ key player, ledger.player key = some player → key ∈ keys → key ∈ others) :
    ledger.Balanced policy listing bound others :=
  { h with seated := fun key player hp =>
      ⟨hk key player hp (h.seated key player hp).1, (h.seated key player hp).2⟩ }

theorem Balanced.online_le (h : ledger.Balanced policy listing bound keys) :
    ledger.world.online ≤ keys.length := by
  let resident (key : Key) : Option Entity := (ledger.player key).bind Player.entity?
  have hsub : ledger.world.live ⊆ keys.filterMap resident := by
    intro entity he
    obtain ⟨key, hp, -⟩ := (h.live_iff entity).mp he
    exact List.mem_filterMap.mpr ⟨key, (h.seated key _ hp).1, by simp [resident, hp, Player.entity?]⟩
  have hnodup : ledger.world.live.Nodup :=
    List.Pairwise.of_map (·.id) (fun a b hne he => hne (congrArg Entity.id he)) h.live_nodup
  exact Nat.le_trans (hnodup.length_le_of_subset hsub) (List.length_filterMap_le _ _)

theorem Balanced.id_ne (h : ledger.Balanced policy listing bound keys)
    (hl : ledger.history.logins + 1 < 2 ^ 32) {key : Key} {entity : Entity}
    (ha : (key, .attached (.native entity)) ∈ ledger.history) : entity.id ≠ ledger.world.nextId := by
  obtain ⟨other, n, he, hn, hid, -⟩ := h.native key _ ha
  cases he
  rw [hid, h.nextId_eq]
  intro heq
  have hnat := congrArg UInt32.toNat heq
  simp only [UInt32.toNat_ofNat'] at hnat
  omega

/-! A login. -/

def hosted (ledger : Ledger) (key : Key) (name : String) (world : World) : Ledger where
  player other :=
    if other = key then some (.native (ledger.world.spawn name).1) else ledger.player other
  world
  asked := ledger.asked + 1
  history := ledger.history ++ .attachment key (.native (ledger.world.spawn name).1)

section

variable {key other : Key} {name : String} {world : World} {player : Player}

theorem player_hosted_iff (hnone : ledger.player key = none) :
    (ledger.hosted key name world).player other = some player ↔
      other = key ∧ player = .native (ledger.world.spawn name).1 ∨
        ledger.player other = some player := by
  by_cases hk : other = key
  · subst hk
    simp [Ledger.hosted, hnone, eq_comm]
  · simp [Ledger.hosted, hk]

theorem logins_hosted : (ledger.hosted key name world).history.logins =
    ledger.history.logins + 1 := by
  rw [Ledger.hosted, History.logins_append]
  rfl

theorem Balanced.native_hosted (h : ledger.Balanced policy listing bound keys)
    (hname : isValidName name)
    (ha : (other, .attached player) ∈ (ledger.hosted key name world).history) :
    ∃ entity n, player = .native entity ∧ n < ledger.history.logins + 1 ∧
      entity.id = UInt32.ofNat (n + 1) ∧ isValidName entity.name := by
  rcases List.mem_append.mp ha with ha | ha
  · obtain ⟨entity, n, he, hn, hid, hv⟩ := h.native other player ha
    exact ⟨entity, n, he, by omega, hid, hv⟩
  · have hp : player = .native (ledger.world.spawn name).1 := by
      simp only [History.attachment, List.mem_cons, Prod.mk.injEq, Event.attached.injEq,
        List.not_mem_nil, reduceCtorEq, and_false, or_false] at ha
      exact ha.2
    exact ⟨_, ledger.history.logins, hp, Nat.lt_succ_self _, h.nextId_eq, hname⟩

theorem Balanced.distinct_hosted (h : ledger.Balanced policy listing bound keys)
    (hnone : ledger.player key = none) (hl : ledger.history.logins + 1 < 2 ^ 32) {a b : Key}
    {e f : Entity} (ha : (ledger.hosted key name world).player a = some (.native e))
    (hb : (ledger.hosted key name world).player b = some (.native f)) (hid : e.id = f.id) :
    a = b := by
  have hfresh : ∀ {seat resident}, ledger.player seat = some (.native resident) →
      resident.id ≠ ledger.world.nextId := by
    intro seat resident hp
    exact h.id_ne hl (h.seated seat _ hp).2
  rw [player_hosted_iff hnone] at ha hb
  rcases ha with ⟨rfl, he⟩ | ha <;> rcases hb with ⟨rfl, hf⟩ | hb
  · rfl
  · cases he
    exact (hfresh hb hid.symm).elim
  · cases hf
    exact (hfresh ha hid).elim
  · exact h.distinct a b e f ha hb hid

theorem Balanced.live_hosted_iff (h : ledger.Balanced policy listing bound keys)
    (hnone : ledger.player key = none) (hl : ledger.history.logins + 1 < 2 ^ 32) (entity : Entity) :
    (entity ∈ ledger.world.live ∨
      entity = (ledger.world.spawn name).1 ∧ policy.login ledger.asked name = .allowed) ↔
    ∃ seat, (ledger.hosted key name world).player seat = some (.native entity) ∧
      (ledger.hosted key name world).history.Admitted policy seat (.native entity) := by
  rw [h.live_iff]
  simp only [player_hosted_iff hnone]
  simp only [Ledger.hosted, History.admitted_attach_iff h.prompt, ← h.asked_eq]
  constructor
  · rintro (⟨seat, hp, ha⟩ | ⟨rfl, hv⟩)
    · exact ⟨seat, .inr hp, .inl ha⟩
    · exact ⟨key, .inl ⟨rfl, rfl⟩, .inr ⟨rfl, rfl, hv⟩⟩
  · rintro ⟨seat, ⟨rfl, he⟩ | hp, ha | ⟨hk, he', hv⟩⟩
    -- The new player's number is on nobody's record.
    · cases he
      exact (h.id_ne hl ha.mem rfl).elim
    · cases he
      exact .inr ⟨rfl, hv⟩
    · exact .inl ⟨seat, hp, ha⟩
    · cases (hk ▸ hp).symm.trans hnone

/-- A session without a player gets a new one, and the player lives in the world from then on if
the owner lets it in. -/
theorem Balanced.hosted (h : ledger.Balanced policy listing bound keys)
    (hk : key ∈ keys) (hnone : ledger.player key = none) (hname : isValidName name)
    (hl : ledger.history.logins + 1 < 2 ^ 32) (hnext : world.nextId = ledger.world.nextId + 1)
    (hlive : ∀ entity, entity ∈ world.live ↔ entity ∈ ledger.world.live ∨
      entity = (ledger.world.spawn name).1 ∧ policy.login ledger.asked name = .allowed)
    (hnodup : (world.live.map (·.id)).Nodup) :
    (ledger.hosted key name world).Balanced policy listing bound keys := by
  constructor
  case asked_eq =>
    rw [Ledger.hosted, History.questions_append, h.asked_eq]
    rfl
  case nextId_eq =>
    rw [logins_hosted]
    exact hnext.trans (by rw [h.nextId_eq, ← UInt32.ofNat_one, ← UInt32.ofNat_add])
  case prompt => exact h.prompt.attach key _
  case native =>
    intro other player ha
    rw [logins_hosted]
    exact h.native_hosted hname ha
  case seated =>
    intro other player hp
    rcases (player_hosted_iff hnone).mp hp with ⟨rfl, rfl⟩ | hp
    · exact ⟨hk, List.mem_append_right _ List.mem_cons_self⟩
    · obtain ⟨hk, ha⟩ := h.seated other player hp
      exact ⟨hk, List.mem_append_left _ ha⟩
  case distinct =>
    intro a b e f ha hb hid
    exact h.distinct_hosted hnone hl ha hb hid
  case live_iff =>
    intro entity
    exact (hlive entity).trans (h.live_hosted_iff hnone hl entity)
  case live_nodup => exact hnodup
  case reports =>
    intro other json hp
    rcases List.mem_append.mp hp with hp | hp
    · exact h.reports other json hp
    · simp [History.attachment] at hp

end

theorem Balanced.refuse (h : ledger.Balanced policy listing bound keys) {key : Key}
    {name reason : String} (hk : key ∈ keys) (hnone : ledger.player key = none)
    (hname : isValidName name) (hl : ledger.history.logins + 1 < 2 ^ 32)
    (hverdict : policy.login ledger.asked name = .denied reason) :
    (ledger.hosted key name (ledger.world.spawn name).2).Balanced policy listing bound keys :=
  h.hosted hk hnone hname hl rfl (fun entity => by simp [World.spawn, hverdict]) h.live_nodup

theorem Balanced.admit (h : ledger.Balanced policy listing bound keys) {key : Key} {name : String}
    (hk : key ∈ keys) (hnone : ledger.player key = none) (hname : isValidName name)
    (hl : ledger.history.logins + 1 < 2 ^ 32)
    (hverdict : policy.login ledger.asked name = .allowed) :
    (ledger.hosted key name ((ledger.world.spawn name).2.enter (ledger.world.spawn name).1)).Balanced
      policy listing bound keys := by
  have hfresh : ∀ entity ∈ ledger.world.live, entity.id ≠ ledger.world.nextId := by
    intro entity he
    obtain ⟨seat, hp, -⟩ := (h.live_iff entity).mp he
    exact h.id_ne hl (h.seated seat _ hp).2
  have hlive : ledger.world.live.filter (·.id != ledger.world.nextId) = ledger.world.live :=
    List.filter_eq_self.mpr fun entity he => by simpa using hfresh entity he
  refine h.hosted hk hnone hname hl rfl ?_ (World.nodup_ids_enter h.live_nodup _)
  intro entity
  simp [World.enter, World.spawn, hlive, hverdict]

end Ledger
end GameServer
