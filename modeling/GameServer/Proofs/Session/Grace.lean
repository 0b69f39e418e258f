import GameServer.Proofs.Session.Silence

/-! How long a client is left in peace once a packet of its has been taken up. A pulse that takes
packets up begins to count anew. A packet that is answered at once is no word from the client, and
then it hangs on how long the client had been silent before. -/

namespace GameServer

open Service Operation

namespace Scene

section

variable (scene : Scene) (table : Table) (setting : Setting)

/-- No pulse on the way issues a keepalive or sends the client away for its silence. -/
def Spared (later : List Operation) : Prop :=
  ∀ before after, later = before ++ .move .pulse :: after →
    (scene.operateAll table setting before).LetsBe table setting

/-- The client is left in peace for one pulse less than it may be silent. -/
def Graced : Prop :=
  ∀ later : List Operation, later.countP isPulse < setting.timeoutTicks →
    scene.Spared table setting later

end

section

variable {table : Table} {listing : Listing} {setting : Setting} {scene : Scene}

theorem spared_cons_iff {operation : Operation} {later : List Operation} :
    scene.Spared table setting (operation :: later) ↔
      (operation = .move .pulse → scene.LetsBe table setting) ∧
      (scene.operate table setting operation).Spared table setting later := by
  constructor
  · intro h
    refine ⟨?_, fun before after hsplit => ?_⟩
    · rintro rfl
      exact h [] later rfl
    · exact h (operation :: before) after (by rw [hsplit, List.cons_append])
  · rintro ⟨hfirst, hrest⟩ before after hsplit
    cases before with
    | nil =>
      obtain ⟨rfl, rfl⟩ := List.cons.inj hsplit
      exact hfirst rfl
    | cons first before =>
      obtain ⟨rfl, hlater⟩ := List.cons.inj hsplit
      exact hrest before after hlater

theorem idle_pulse_le : (scene.pulse table setting).session.idle ≤
    (scene.drained table setting).session.idle := by
  by_cases hissued : scene.Probes table setting
  · rw [hissued, session_issueKeepAlive]
    exact Nat.zero_le _
  · exact Nat.le_of_eq (congrArg Prod.fst (clock_pulse_of_not_probes hissued))

theorem countP_isPulse_cons_pulse (later : List Operation) :
    (Operation.move .pulse :: later).countP isPulse = later.countP isPulse + 1 :=
  List.countP_cons_of_pos rfl

theorem countP_isPulse_cons_of_ne {operation : Operation} (h : operation ≠ .move .pulse)
    (later : List Operation) : (operation :: later).countP isPulse = later.countP isPulse :=
  List.countP_cons_of_neg (by simp [isPulse_eq_false h])

theorem idle_operate_le_of_ne {operation : Operation} (hpulse : operation ≠ .move .pulse) :
    (scene.operate (standard listing) setting operation).session.idle ≤ scene.session.idle := by
  by_cases hpong : operation = .pong
  · subst hpong
    exact Nat.zero_le _
  · exact Nat.le_of_eq (congrArg Prod.fst (clock_operate hpulse hpong))

/-- The count grows by one a pulse at most. -/
theorem spared_of_idle_add_lt {later : List Operation}
    (h : scene.session.idle + later.countP isPulse < setting.timeoutTicks) :
    scene.Spared (standard listing) setting later := by
  induction later generalizing scene with
  | nil =>
    intro before after hsplit
    simp at hsplit
  | cons operation later ih =>
    rw [spared_cons_iff]
    by_cases hpulse : operation = .move .pulse
    · subst hpulse
      rw [countP_isPulse_cons_pulse] at h
      have hdrained : (scene.drained (standard listing) setting).session.idle ≤
          scene.session.idle + 1 := idle_drained_le
      have hpulsed : (scene.pulse (standard listing) setting).session.idle ≤
          (scene.drained (standard listing) setting).session.idle := idle_pulse_le
      refine ⟨fun _ => letsBe_of_idle_lt (by omega), ih ?_⟩
      change (scene.pulse (standard listing) setting).session.idle + _ < _
      omega
    · rw [countP_isPulse_cons_of_ne hpulse] at h
      have hidle : (scene.operate (standard listing) setting operation).session.idle ≤
          scene.session.idle := idle_operate_le_of_ne hpulse
      exact ⟨fun hp => absurd hp hpulse, ih (by omega)⟩

theorem graced_of_idle_eq_zero (h : scene.session.idle = 0) :
    scene.Graced (standard listing) setting :=
  fun _ hfew => spared_of_idle_add_lt (by omega)

theorem ne_nil_operate {operation : Operation} (hpulse : operation ≠ .move .pulse)
    (h : scene.session.inbox ≠ []) :
    (scene.operate (standard listing) setting operation).session.inbox ≠ [] := by
  by_cases hpong : operation = .pong
  · subst hpong
    exact h
  · obtain ⟨arrived, hmeanwhile⟩ := exists_meanwhile hpulse hpong
    rw [hmeanwhile.inbox_eq]
    exact List.append_ne_nil_of_left_ne_nil h arrived

theorem idle_pulse_of_ne_nil (h : scene.session.inbox ≠ []) :
    (scene.pulse table setting).session.idle = 0 :=
  Nat.le_zero.mp (Nat.le_trans idle_pulse_le (Nat.le_of_eq (idle_drained_of_ne_nil h)))

/-- Whatever waits is taken up by the next pulse, which so counts for nothing. -/
theorem graced_of_ne_nil (hticks : 1 ≤ setting.timeoutTicks) (h : scene.session.inbox ≠ []) :
    scene.Graced (standard listing) setting := by
  intro later hfew
  induction later generalizing scene with
  | nil =>
    intro before after hsplit
    simp at hsplit
  | cons operation later ih =>
    rw [spared_cons_iff]
    by_cases hpulse : operation = .move .pulse
    · subst hpulse
      rw [countP_isPulse_cons_pulse] at hfew
      refine ⟨fun _ => letsBe_of_ne_nil hticks h, ?_⟩
      exact graced_of_idle_eq_zero (idle_pulse_of_ne_nil h) later (by omega)
    · rw [countP_isPulse_cons_of_ne hpulse] at hfew
      exact ⟨fun hp => absurd hp hpulse, ih (ne_nil_operate hpulse h) hfew⟩

theorem probes_or_expels (h : setting.timeoutTicks ≤ (scene.drained table setting).session.idle) :
    scene.Probes table setting ∨ scene.Expels table setting := by
  rw [probes_iff, expels_iff, TimesOut]
  cases (scene.drained table setting).session.outstanding with
  | none => exact .inl ⟨h, rfl⟩
  | some id => exact .inr ⟨h, rfl⟩

/-- A pulse that finds nothing waiting and lets the client be counts itself. -/
theorem idle_pulse_of_letsBe (hrange : setting.timeoutTicks ≤ Session.idleLimit)
    (hinbox : scene.session.inbox = []) (hquiet : scene.LetsBe table setting) :
    (scene.pulse table setting).session.idle = scene.session.idle + 1 ∧
      scene.session.idle + 1 < setting.timeoutTicks := by
  have hshort : (scene.drained table setting).session.idle < setting.timeoutTicks := by
    by_contra hsilent
    exact (probes_or_expels (Nat.not_lt.mp hsilent)).elim hquiet.1 hquiet.2
  have hpulse : (scene.pulse table setting).session.idle =
      (scene.drained table setting).session.idle :=
    congrArg Prod.fst (clock_pulse_of_not_probes hquiet.1)
  have hdrained : (scene.drained table setting).session.idle =
      min (scene.session.idle + 1) Session.idleLimit := by
    rw [drained_of_nil hinbox, ticked]
  omega

/-- A client that says nothing is not spared for longer than it may be silent. -/
theorem not_spared_replicate_pulse (hrange : setting.timeoutTicks ≤ Session.idleLimit)
    (hinbox : scene.session.inbox = []) {count : Nat}
    (hlong : setting.timeoutTicks ≤ scene.session.idle + (count + 1)) :
    ¬ scene.Spared table setting (List.replicate (count + 1) (.move .pulse)) := by
  induction count generalizing scene with
  | zero =>
    intro hspared
    have hshort := (idle_pulse_of_letsBe hrange hinbox (hspared [] [] rfl)).2
    change setting.timeoutTicks ≤ scene.session.idle + 1 at hlong
    omega
  | succ count ih =>
    rw [List.replicate_succ, spared_cons_iff]
    rintro ⟨hfirst, hrest⟩
    have hcount := (idle_pulse_of_letsBe hrange hinbox (hfirst rfl)).1
    refine ih (inbox_pulse_of_nil hinbox) ?_ hrest
    rw [hcount]
    omega

theorem graced_receive_iff (hticks : 1 ≤ setting.timeoutTicks)
    (hrange : setting.timeoutTicks ≤ Session.idleLimit) {packet : Packet}
    (hroute : packet.route = .immediate) :
    (scene.receive (standard listing) setting packet).Graced (standard listing) setting ↔
      scene.session.idle = 0 ∨ scene.session.inbox ≠ [] ∨ setting.timeoutTicks = 1 := by
  have hmeanwhile : Meanwhile [] scene (scene.receive (standard listing) setting packet) :=
    meanwhile_receive hroute
  generalize scene.receive (standard listing) setting packet = after at hmeanwhile
  have hidle : after.session.idle = scene.session.idle := congrArg Prod.fst hmeanwhile.clock_eq
  have hinbox : after.session.inbox = scene.session.inbox :=
    hmeanwhile.inbox_eq.trans (List.append_nil _)
  rw [← hidle, ← hinbox]
  constructor
  · intro hgraced
    by_contra hnone
    obtain ⟨hsilent, hnil, hlong⟩ : after.session.idle ≠ 0 ∧ after.session.inbox = [] ∧
        setting.timeoutTicks ≠ 1 := by simpa using hnone
    obtain ⟨count, hcount⟩ := Nat.exists_eq_add_of_le (show 2 ≤ setting.timeoutTicks by omega)
    refine not_spared_replicate_pulse hrange hnil (show _ ≤ _ + (count + 1) by omega)
      (hgraced _ ?_)
    rw [List.countP_replicate]
    simp only [isPulse, if_true]
    omega
  · rintro (hidle | hwaiting | hone)
    · exact graced_of_idle_eq_zero hidle
    · exact graced_of_ne_nil hticks hwaiting
    · intro later hfew before rest hsplit
      subst hsplit
      rw [List.countP_append, countP_isPulse_cons_pulse] at hfew
      omega

/-- A pulse that takes packets up leaves the client in peace for as long as it may be silent. A
packet that is answered at once leaves the count as it is, and so it does that only if there was no
silence before, or something waits to be taken up, or the next pulse is one too many anyway. -/
theorem graced_of_packet (listing : Listing) (setting : Setting) (scene : Scene)
    (hticks : 1 ≤ setting.timeoutTicks) (hrange : setting.timeoutTicks ≤ Session.idleLimit) :
    (scene.session.inbox ≠ [] →
      (scene.drained (standard listing) setting).session.idle = 0 ∧
        (scene.pulse (standard listing) setting).session.idle = 0 ∧
        (scene.pulse (standard listing) setting).Graced (standard listing) setting) ∧
    ∀ packet : Packet, packet.route = .immediate →
      let after := scene.receive (standard listing) setting packet
      after.session.idle = scene.session.idle ∧
        (after.Graced (standard listing) setting ↔
          scene.session.idle = 0 ∨ scene.session.inbox ≠ [] ∨ setting.timeoutTicks = 1) := by
  constructor
  · intro hwaiting
    have hcount : (scene.pulse (standard listing) setting).session.idle = 0 :=
      idle_pulse_of_ne_nil hwaiting
    exact ⟨idle_drained_of_ne_nil hwaiting, hcount, graced_of_idle_eq_zero hcount⟩
  · intro packet hroute
    exact ⟨congrArg Prod.fst (meanwhile_receive hroute).clock_eq,
      graced_receive_iff hticks hrange hroute⟩

end

/-- A client that has let a pulse pass before it opens a login. -/
def lateOpening : Scene :=
  (begin (World.create "world") Policy.console 0).operateAll (standard .default) hasty
    [.move .pulse]

def opening : Packet := .handshake 4 "localhost" 25565 .login

theorem graced_of_packet_lateOpening :
    1 ≤ hasty.timeoutTicks ∧ hasty.timeoutTicks ≤ Session.idleLimit ∧
      (let after := lateOpening.receive (standard .default) hasty opening
      after.session.idle = 1 ∧ ¬ after.Graced (standard .default) hasty) ∧
      (let waiting := lateOpening.enqueue opening
      (waiting.pulse (standard .default) hasty).session.idle = 0 ∧
        (waiting.pulse (standard .default) hasty).Graced (standard .default) hasty) := by
  obtain ⟨-, himmediate⟩ := graced_of_packet .default hasty lateOpening (by decide) (by decide)
  obtain ⟨hqueued, -⟩ :=
    graced_of_packet .default hasty (lateOpening.enqueue opening) (by decide) (by decide)
  obtain ⟨hidle, hgraced⟩ := himmediate opening rfl
  refine ⟨by decide, by decide, ⟨hidle, mt hgraced.mp (by decide)⟩, ?_⟩
  exact (hqueued (by decide)).2

/-- A packet that is answered at once is not always a word from the client, and does not always
leave the client in peace. -/
theorem not_graced_of_immediate :
    (¬ ∀ (listing : Listing) (setting : Setting) (world : World) (policy : Policy) (asked : Nat)
      (operations : List Operation) (packet : Packet), 1 ≤ setting.timeoutTicks →
      packet.route = .immediate →
      let scene := (begin world policy asked).operateAll (standard listing) setting operations
      (scene.receive (standard listing) setting packet).session.idle = 0) ∧
    ¬ ∀ (listing : Listing) (setting : Setting) (world : World) (policy : Policy) (asked : Nat)
      (operations : List Operation) (packet : Packet), 1 ≤ setting.timeoutTicks →
      packet.route = .immediate →
      let scene := (begin world policy asked).operateAll (standard listing) setting operations
      (scene.receive (standard listing) setting packet).Graced (standard listing) setting := by
  constructor
  · intro h
    have hidle := h .default hasty (World.create "world") Policy.console 0 [.move .pulse] opening
      (by decide) rfl
    exact absurd hidle (by decide)
  · intro h
    have hgraced := h .default hasty (World.create "world") Policy.console 0 [.move .pulse] opening
      (by decide) rfl
    exact absurd ((graced_receive_iff (by decide) (by decide) rfl).mp hgraced) (by decide)

end Scene
end GameServer
