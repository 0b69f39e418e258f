import GameServer.Proofs.Wire.RoundTrip

/-! Which bytes are read as which packet: those that begin with its body, and no others. A body
that is cut short is refused for ending too soon, and for nothing else. -/

namespace GameServer

theorem Phase.tag_of_ofTag? {tag : Nat} {phase : Phase} (h : ofTag? tag = some phase) :
    phase.tag = tag := by
  have hlt : phase.tag < all.length := by cases phase <;> decide
  exact (List.getElem?_inj hlt (by decide)).mp ((ofTag?_tag phase).trans h.symm)

theorem Kind.tag_of_ofTag? {tag : Nat} {kind : Kind} (h : ofTag? tag = some kind) :
    kind.tag = tag := by
  have hlt : kind.tag < all.length := by cases kind <;> decide
  exact (List.getElem?_inj hlt (by decide)).mp ((ofTag?_tag kind).trans h.symm)

namespace Wire.Reader

variable {α β : Type}

theorem exists_of_run_bind {first : Reader α} {next : α → Reader β} {input rest : List UInt8}
    {b : β} (h : (first >>= next).run input = .ok (b, rest)) :
    ∃ a between, first.run input = .ok (a, between) ∧ (next a).run between = .ok (b, rest) := by
  rw [StateT.run_bind] at h
  cases hf : first.run input with
  | error error =>
    rw [hf] at h
    cases h
  | ok result =>
    obtain ⟨a, between⟩ := result
    rw [hf] at h
    exact ⟨a, between, rfl, h⟩

theorem error_of_run_bind {first : Reader α} {next : α → Reader β} {input : List UInt8}
    {error : BodyError} (h : (first >>= next).run input = .error error) :
    first.run input = .error error ∨
      ∃ a between, first.run input = .ok (a, between) ∧ (next a).run between = .error error := by
  rw [StateT.run_bind] at h
  cases hf : first.run input with
  | error other =>
    rw [hf] at h
    exact .inl (congrArg Except.error (Except.error.inj h))
  | ok result =>
    obtain ⟨a, between⟩ := result
    rw [hf] at h
    exact .inr ⟨a, between, rfl, h⟩

theorem run_bind_of_error {first : Reader α} {input : List UInt8} {error : BodyError}
    (h : first.run input = .error error) (next : α → Reader β) :
    (first >>= next).run input = .error error := by
  rw [StateT.run_bind, h]
  rfl

/-! What a reader has read is spelled the way it would be written. -/

theorem spelled_of_run_bytes {count : Nat} {cut : BodyError} {input taken rest : List UInt8}
    (h : (bytes count cut).run input = .ok (taken, rest)) :
    input = taken ++ rest ∧ taken.length = count := by
  simp only [bytes, StateT.run] at h
  split at h
  · rename_i hl
    obtain ⟨rfl, rfl⟩ := Prod.mk.inj (Except.ok.inj h)
    exact ⟨(List.take_append_drop count input).symm, hl⟩
  · cases h

theorem spelled_of_run_number {width n : Nat} {input rest : List UInt8}
    (h : (number width).run input = .ok (n, rest)) :
    input = littleEndian width n ++ rest ∧ n < 256 ^ width := by
  obtain ⟨taken, between, hb, h⟩ := exists_of_run_bind h
  obtain ⟨rfl, rfl⟩ := Prod.mk.inj (Except.ok.inj h)
  obtain ⟨rfl, rfl⟩ := spelled_of_run_bytes hb
  exact ⟨by rw [littleEndian_ofLittleEndian], ofLittleEndian_lt taken⟩

theorem spelled_of_run_text {text : String} {input rest : List UInt8}
    (h : Reader.text.run input = .ok (text, rest)) :
    input = textField text ++ rest ∧ (textBytes text).length < 256 ^ 8 := by
  obtain ⟨count, after, hn, hrest⟩ := exists_of_run_bind h
  obtain ⟨taken, between, hb, hread⟩ := exists_of_run_bind hrest
  obtain ⟨rfl, hlt⟩ := spelled_of_run_number hn
  obtain ⟨rfl, rfl⟩ := spelled_of_run_bytes hb
  split at hread
  · rename_i found hfound
    obtain ⟨rfl, rfl⟩ := Prod.mk.inj (Except.ok.inj hread)
    rw [textField, textBytes_of_textOfBytes? hfound, List.append_assoc]
    exact ⟨rfl, hlt⟩
  · cases hread

theorem spelled_of_run_phase {phase : Phase} {input rest : List UInt8}
    (h : Reader.phase.run input = .ok (phase, rest)) :
    input = littleEndian 4 phase.tag ++ rest := by
  obtain ⟨tag, between, hn, hread⟩ := exists_of_run_bind h
  obtain ⟨rfl, -⟩ := spelled_of_run_number hn
  split at hread
  · rename_i found hfound
    obtain ⟨rfl, rfl⟩ := Prod.mk.inj (Except.ok.inj hread)
    rw [Phase.tag_of_ofTag? hfound]
  · cases hread

theorem spelled_of_run_kind {kind : Kind} {input rest : List UInt8}
    (h : Reader.kind.run input = .ok (kind, rest)) :
    input = littleEndian 4 kind.tag ++ rest := by
  obtain ⟨tag, between, hn, hread⟩ := exists_of_run_bind h
  obtain ⟨rfl, -⟩ := spelled_of_run_number hn
  split at hread
  · rename_i found hfound
    obtain ⟨rfl, rfl⟩ := Prod.mk.inj (Except.ok.inj hread)
    rw [Kind.tag_of_ofTag? hfound]
  · cases hread

theorem spelled_of_run_int32 {n : Int32} {input rest : List UInt8}
    (h : int32.run input = .ok (n, rest)) :
    input = littleEndian 4 n.toUInt32.toNat ++ rest := by
  obtain ⟨word, between, hn, h⟩ := exists_of_run_bind h
  obtain ⟨rfl, rfl⟩ := Prod.mk.inj (Except.ok.inj h)
  obtain ⟨rfl, hlt⟩ := spelled_of_run_number hn
  rw [UInt32.toUInt32_toInt32, UInt32.toNat_ofNat_of_lt' hlt]

theorem spelled_of_run_placement {placement : Placement} {input rest : List UInt8}
    (h : Reader.placement.run input = .ok (placement, rest)) :
    input = placement.fields ++ rest := by
  obtain ⟨x, afterX, hx, hrest⟩ := exists_of_run_bind h
  obtain ⟨y, afterY, hy, hrest⟩ := exists_of_run_bind hrest
  obtain ⟨z, afterZ, hz, hrest⟩ := exists_of_run_bind hrest
  obtain ⟨direction, afterDirection, hd, hrest⟩ := exists_of_run_bind hrest
  obtain ⟨heldItem, afterItem, hi, hrest⟩ := exists_of_run_bind hrest
  obtain ⟨rfl, rfl⟩ := Prod.mk.inj (Except.ok.inj hrest)
  obtain ⟨rfl, hdlt⟩ := spelled_of_run_number hd
  obtain ⟨rfl, hilt⟩ := spelled_of_run_number hi
  rw [spelled_of_run_int32 hx, spelled_of_run_int32 hy, spelled_of_run_int32 hz]
  simp only [Placement.fields, List.append_assoc, UInt8.toUInt8_toInt8, UInt16.toUInt16_toInt16,
    UInt8.toNat_ofNat_of_lt' hdlt, UInt16.toNat_ofNat_of_lt' hilt]

theorem spelled_of_run_fields {kind : Kind} {packet : Packet} {input rest : List UInt8}
    (h : (fields kind).run input = .ok (packet, rest)) :
    packet.kind = kind ∧ input = packet.fields ++ rest ∧
      (textBytes packet.text).length < 256 ^ 8 := by
  have hempty : (textBytes "").length < 256 ^ 8 := by decide
  cases kind with
  | handshake =>
    obtain ⟨version, afterVersion, hv, hrest⟩ := exists_of_run_bind h
    obtain ⟨address, afterAddress, ha, hrest⟩ := exists_of_run_bind hrest
    obtain ⟨port, afterPort, hp, hrest⟩ := exists_of_run_bind hrest
    obtain ⟨next, afterNext, hn, hrest⟩ := exists_of_run_bind hrest
    obtain ⟨rfl, rfl⟩ := Prod.mk.inj (Except.ok.inj hrest)
    obtain ⟨rfl, hvlt⟩ := spelled_of_run_number hv
    obtain ⟨rfl, hlt⟩ := spelled_of_run_text ha
    obtain ⟨rfl, hplt⟩ := spelled_of_run_number hp
    refine ⟨rfl, ?_, hlt⟩
    rw [spelled_of_run_phase hn]
    simp only [Packet.fields, List.append_assoc, UInt32.toNat_ofNat_of_lt' hvlt,
      UInt16.toNat_ofNat_of_lt' hplt]
  | statusRequest =>
    obtain ⟨rfl, rfl⟩ := Prod.mk.inj (Except.ok.inj h)
    exact ⟨rfl, rfl, hempty⟩
  | ping =>
    obtain ⟨time, between, ht, hrest⟩ := exists_of_run_bind h
    obtain ⟨rfl, rfl⟩ := Prod.mk.inj (Except.ok.inj hrest)
    obtain ⟨rfl, htlt⟩ := spelled_of_run_number ht
    refine ⟨rfl, ?_, hempty⟩
    simp only [Packet.fields, UInt64.toUInt64_toInt64, UInt64.toNat_ofNat_of_lt' htlt]
  | keepAlive =>
    obtain ⟨id, between, hi, hrest⟩ := exists_of_run_bind h
    obtain ⟨rfl, rfl⟩ := Prod.mk.inj (Except.ok.inj hrest)
    exact ⟨rfl, spelled_of_run_int32 hi, hempty⟩
  | blockPlacement =>
    obtain ⟨placement, between, hp, hrest⟩ := exists_of_run_bind h
    obtain ⟨rfl, rfl⟩ := Prod.mk.inj (Except.ok.inj hrest)
    exact ⟨rfl, spelled_of_run_placement hp, hempty⟩
  | statusResponse | loginStart | loginSuccess | chat | kick =>
    obtain ⟨text, between, ht, hrest⟩ := exists_of_run_bind h
    obtain ⟨rfl, rfl⟩ := Prod.mk.inj (Except.ok.inj hrest)
    exact ⟨rfl, spelled_of_run_text ht⟩

theorem spelled_of_run_packet {packet : Packet} {input rest : List UInt8}
    (h : Reader.packet.run input = .ok (packet, rest)) :
    input = packet.body ++ rest ∧ (textBytes packet.text).length < 256 ^ 8 := by
  obtain ⟨kind, between, hk, hf⟩ := exists_of_run_bind h
  obtain ⟨rfl, rfl, hlt⟩ := spelled_of_run_fields hf
  rw [spelled_of_run_kind hk, Packet.body, List.append_assoc]
  exact ⟨rfl, hlt⟩

/-! Bytes that come later make a difference only to a reader that has come to the end. -/

/-- Neither a value nor a fault other than the end of the input is changed by more input. -/
structure Incremental (reader : Reader α) : Prop where
  value : ∀ {input rest : List UInt8} {a : α}, reader.run input = .ok (a, rest) →
    ∀ more, reader.run (input ++ more) = .ok (a, rest ++ more)
  fault : ∀ {input : List UInt8} {error : BodyError}, reader.run input = .error error →
    error.isEndOfInput = false → ∀ more, reader.run (input ++ more) = .error error

theorem incremental_pure (a : α) : Incremental (pure a) where
  value h more := by
    obtain ⟨rfl, rfl⟩ := Prod.mk.inj (Except.ok.inj h)
    rfl
  fault h := nomatch h

theorem incremental_throw (error : BodyError) : Incremental (throw error : Reader α) where
  value h := nomatch h
  fault h _ _ := h

theorem Incremental.bind {first : Reader α} {next : α → Reader β} (hf : Incremental first)
    (hn : ∀ a, Incremental (next a)) : Incremental (first >>= next) where
  value h more := by
    obtain ⟨a, between, ha, hb⟩ := exists_of_run_bind h
    rw [run_bind_of_run (hf.value ha more)]
    exact (hn a).value hb more
  fault h he more := by
    rcases error_of_run_bind h with hfirst | ⟨a, between, ha, hb⟩
    · exact run_bind_of_error (hf.fault hfirst he more) next
    · rw [run_bind_of_run (hf.value ha more)]
      exact (hn a).fault hb he more

theorem incremental_bytes (count : Nat) {cut : BodyError} (hcut : cut.isEndOfInput) :
    Incremental (bytes count cut) where
  value h more := by
    obtain ⟨rfl, rfl⟩ := spelled_of_run_bytes h
    rw [List.append_assoc]
    exact run_bytes_append _ _ _
  fault h he := by
    simp only [bytes, StateT.run] at h
    split at h
    · cases h
    · cases h
      rw [hcut] at he
      cases he

theorem incremental_number (width : Nat) : Incremental (number width) :=
  (incremental_bytes width rfl).bind fun _ => incremental_pure _

theorem incremental_text : Incremental Reader.text := by
  refine (incremental_number 8).bind fun _ => (incremental_bytes _ rfl).bind fun taken => ?_
  cases textOfBytes? taken with
  | none => exact incremental_throw _
  | some text => exact incremental_pure text

theorem incremental_phase : Incremental Reader.phase := by
  refine (incremental_number 4).bind fun tag => ?_
  cases Phase.ofTag? tag with
  | none => exact incremental_throw _
  | some phase => exact incremental_pure phase

theorem incremental_kind : Incremental Reader.kind := by
  refine (incremental_number 4).bind fun tag => ?_
  cases Kind.ofTag? tag with
  | none => exact incremental_throw _
  | some kind => exact incremental_pure kind

theorem incremental_int32 : Incremental int32 :=
  (incremental_number 4).bind fun _ => incremental_pure _

theorem incremental_placement : Incremental Reader.placement :=
  incremental_int32.bind fun _ => incremental_int32.bind fun _ => incremental_int32.bind fun _ =>
    (incremental_number 1).bind fun _ => (incremental_number 2).bind fun _ => incremental_pure _

theorem incremental_fields (kind : Kind) : Incremental (fields kind) := by
  cases kind with
  | handshake =>
    exact (incremental_number 4).bind fun _ => incremental_text.bind fun _ =>
      (incremental_number 2).bind fun _ => incremental_phase.bind fun _ => incremental_pure _
  | statusRequest => exact incremental_pure _
  | ping => exact (incremental_number 8).bind fun _ => incremental_pure _
  | keepAlive => exact incremental_int32.bind fun _ => incremental_pure _
  | blockPlacement => exact incremental_placement.bind fun _ => incremental_pure _
  | statusResponse | loginStart | loginSuccess | chat | kick =>
    exact incremental_text.bind fun _ => incremental_pure _

theorem incremental_packet : Incremental Reader.packet :=
  incremental_kind.bind incremental_fields

end Wire.Reader

open Wire

namespace Packet

variable {packet other : Packet} {bytes : List UInt8}

theorem ofBody_eq_ok_iff_run : ofBody bytes = .ok packet ↔
    ∃ rest, Reader.packet.run bytes = .ok (packet, rest) := by
  rw [ofBody]
  cases Reader.packet.run bytes with
  | error error => simp [Functor.map, Except.map]
  | ok result =>
    obtain ⟨read, rest⟩ := result
    simp [Functor.map, Except.map]

theorem ofBody_eq_error_iff_run {error : BodyError} : ofBody bytes = .error error ↔
    Reader.packet.run bytes = .error error := by
  rw [ofBody]
  cases Reader.packet.run bytes with
  | error other => simp [Functor.map, Except.map]
  | ok result => simp [Functor.map, Except.map]

theorem ofBody_eq_ok_iff : ofBody bytes = .ok packet ↔
    (textBytes packet.text).length < 2 ^ 64 ∧ packet.body <+: bytes := by
  rw [ofBody_eq_ok_iff_run]
  constructor
  · rintro ⟨rest, h⟩
    obtain ⟨rfl, hlt⟩ := Reader.spelled_of_run_packet h
    exact ⟨hlt, List.prefix_append _ _⟩
  · rintro ⟨hlt, rest, rfl⟩
    exact ⟨rest, Reader.run_packet_append hlt rest⟩

theorem ofBody_append (h : ofBody bytes = .ok packet) (more : List UInt8) :
    ofBody (bytes ++ more) = .ok packet := by
  obtain ⟨rest, hrun⟩ := ofBody_eq_ok_iff_run.mp h
  exact ofBody_eq_ok_iff_run.mpr ⟨rest ++ more, Reader.incremental_packet.value hrun more⟩

theorem eq_of_body_prefix (hp : (textBytes packet.text).length < 2 ^ 64)
    (ho : (textBytes other.text).length < 2 ^ 64) (h : packet.body <+: other.body) :
    packet = other := by
  have hread : ofBody other.body = .ok packet := ofBody_eq_ok_iff.mpr ⟨hp, h⟩
  have hown : ofBody other.body = .ok other := ofBody_body ho
  exact Except.ok.inj (hread.symm.trans hown)

theorem ofBody_take_body (h : (textBytes packet.text).length < 2 ^ 64) {n : Nat}
    (hn : n < packet.body.length) :
    ∃ error, ofBody (packet.body.take n) = .error error ∧ error.isEndOfInput := by
  -- Whatever else the reader came to, it would come to it at the whole body as well.
  have hwhole : Reader.packet.run packet.body = .ok (packet, []) := by
    have hrun := Reader.run_packet_append h []
    rwa [List.append_nil] at hrun
  have hsplit : packet.body.take n ++ packet.body.drop n = packet.body :=
    List.take_append_drop n packet.body
  cases hcut : Reader.packet.run (packet.body.take n) with
  | ok result =>
    obtain ⟨read, rest⟩ := result
    have hmore := Reader.incremental_packet.value hcut (packet.body.drop n)
    rw [hsplit, hwhole] at hmore
    obtain ⟨-, hrest⟩ := Prod.mk.inj (Except.ok.inj hmore)
    have hdrop : packet.body.drop n = [] := (List.append_eq_nil_iff.mp hrest.symm).2
    exact absurd (List.drop_eq_nil_iff.mp hdrop) (Nat.not_le_of_lt hn)
  | error error =>
    refine ⟨error, ofBody_eq_error_iff_run.mpr hcut, eq_true_of_ne_false fun he => ?_⟩
    have hmore := Reader.incremental_packet.fault hcut he (packet.body.drop n)
    rw [hsplit, hwhole] at hmore
    cases hmore

/-- Bytes are read as a packet exactly if they begin with its body. So no body begins another, what
stands behind a body makes no difference, and a body that is cut short is refused for ending too
soon. -/
theorem ofBody_iff_body_prefix :
    (∀ (bytes : List UInt8) (packet : Packet), ofBody bytes = .ok packet ↔
      (textBytes packet.text).length < 2 ^ 64 ∧ packet.body <+: bytes) ∧
    (∀ packet other : Packet, (textBytes packet.text).length < 2 ^ 64 →
      (textBytes other.text).length < 2 ^ 64 → packet.body <+: other.body → packet = other) ∧
    (∀ (bytes more : List UInt8) (packet : Packet), ofBody bytes = .ok packet →
      ofBody (bytes ++ more) = .ok packet) ∧
    (∀ packet : Packet, (textBytes packet.text).length < 2 ^ 64 → ∀ n < packet.body.length,
      ∃ error, ofBody (packet.body.take n) = .error error ∧ error.isEndOfInput) := by
  refine ⟨fun _ _ => ofBody_eq_ok_iff, ?_, ?_, ?_⟩
  · intro packet other hp ho h
    exact eq_of_body_prefix hp ho h
  · intro bytes more packet h
    exact ofBody_append h more
  · intro packet h n hn
    exact ofBody_take_body h hn

/-- A byte behind the text does no harm, and a cut inside its last letter is noticed. -/
theorem ofBody_iff_body_prefix_chat :
    (textBytes "hé").length < 2 ^ 64 ∧
    ofBody [7, 0, 0, 0, 3, 0, 0, 0, 0, 0, 0, 0, 0x68, 0xC3, 0xA9, 0xFF] = .ok (.chat "hé") ∧
    ∃ error, ofBody [7, 0, 0, 0, 3, 0, 0, 0, 0, 0, 0, 0, 0x68, 0xC3] = .error error ∧
      error.isEndOfInput := by
  have hlt : (textBytes "hé").length < 2 ^ 64 := by decide
  have hbody : [7, 0, 0, 0, 3, 0, 0, 0, 0, 0, 0, 0, 0x68, 0xC3, 0xA9] =
      (Packet.chat "hé").body := by decide
  obtain ⟨hread, -, -, hcut⟩ := ofBody_iff_body_prefix
  refine ⟨hlt, (hread _ _).mpr ⟨hlt, [0xFF], ?_⟩, ?_⟩
  · rw [← hbody]
    rfl
  · have hshort := hcut (.chat "hé") hlt 14 (by rw [← hbody]; decide)
    rwa [← hbody] at hshort

end Packet
end GameServer
