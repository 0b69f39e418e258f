import GameServer.Proofs.Text.Reader
import GameServer.Service.Opening

/-! Reading back the JSON that the server writes. Whatever it writes is read as what it was made of,
so a text cannot get out of its quotes. -/

namespace GameServer.Text

namespace Reader

theorem token_self {c : Char} (h : isBlank c = false) (rest : List Char) :
    token c (c :: rest) = some rest := by
  simp [token, h]

theorem token_of_ne {c d : Char} (h : isBlank d = false) (hne : d ≠ c) (rest : List Char) :
    token c (d :: rest) = none := by
  simp [token, h, hne]

theorem hexValue?_hexDigit {n : Nat} (h : n < 16) : hexValue? (Json.hexDigit n) = some n := by
  revert n
  decide

/-- How a character can stand inside quotes. -/
inductive Spelled (c : Char) : List Char → Prop
  | short (letter : Char) (h : shortEscapes.lookup letter = some c) (hletter : 0x20 ≤ letter.toNat) :
      Spelled c ['\\', letter]
  | long (h : c.toNat < 0x20) : Spelled c
      ['\\', 'u', '0', '0', Json.hexDigit (c.toNat / 16), Json.hexDigit (c.toNat % 16)]
  | itself (h : 0x20 ≤ c.toNat) (hslash : c ≠ '\\') (hquote : c ≠ '"') : Spelled c [c]

theorem spelled_escape (c : Char) : Spelled c (Json.escape c) := by
  by_cases hshort : c = '"' ∨ c = '\\' ∨ c = '\x08' ∨ c = '\t' ∨ c = '\n' ∨ c = '\x0c' ∨ c = '\r'
  · rcases hshort with rfl | rfl | rfl | rfl | rfl | rfl | rfl <;> exact .short _ rfl (by decide)
  · simp only [not_or] at hshort
    obtain ⟨hquote, hslash, hb, ht, hn, hf, hr⟩ := hshort
    simp only [Json.escape, if_neg hquote, if_neg hslash, if_neg hb, if_neg ht, if_neg hn, if_neg hf,
      if_neg hr]
    split
    · rename_i hcontrol
      exact .long hcontrol
    · rename_i hprintable
      exact .itself (Nat.not_lt.mp hprintable) hslash hquote

theorem Spelled.character_append {c : Char} {spelling : List Char} (h : Spelled c spelling)
    (rest : List Char) : character (spelling ++ rest) = some (c, rest) := by
  cases h with
  | short letter h =>
    have hu : letter ≠ 'u' := by
      rintro rfl
      cases h
    simp [character, escaped, hu, h]
  | long h =>
    have hhigh := hexValue?_hexDigit (n := c.toNat / 16) (by omega)
    have hlow := hexValue?_hexDigit (Nat.mod_lt c.toNat (by decide : 16 > 0))
    have hzero : hexValue? '0' = some 0 := rfl
    have hcode : (c.toNat / 16) * 16 + c.toNat % 16 = c.toNat := by omega
    have hunit : codeUnit ('0' :: '0' :: Json.hexDigit (c.toNat / 16) ::
        Json.hexDigit (c.toNat % 16) :: rest) = some (c.toNat, rest) := by
      simp [codeUnit, hzero, hhigh, hlow, hcode]
    have hhigh' : ¬ (0xd800 ≤ c.toNat ∧ c.toNat < 0xdc00) := by omega
    have hlow' : ¬ (0xdc00 ≤ c.toNat ∧ c.toNat < 0xe000) := by omega
    simp [character, escaped, codePoint, hunit, hhigh', hlow']
  | itself h hslash hquote =>
    simp [character, hslash, hquote, Nat.not_lt.mpr h]

theorem Spelled.ne_nil {c : Char} {spelling : List Char} (h : Spelled c spelling) :
    spelling ≠ [] := by
  cases h <;> simp

theorem Spelled.head?_ne {c : Char} {spelling : List Char} (h : Spelled c spelling)
    (rest : List Char) : (spelling ++ rest).head? ≠ some '"' := by
  cases h with
  | short => simp
  | long => simp
  | itself h hslash hquote => simpa using hquote

theorem Spelled.printable {c : Char} {spelling : List Char} (h : Spelled c spelling) :
    ∀ d ∈ spelling, 0x20 ≤ d.toNat := by
  have hdigit : ∀ n < 16, 0x20 ≤ (Json.hexDigit n).toNat := by decide
  cases h with
  | short letter h hletter => simpa using hletter
  | long h =>
    have hhigh := hdigit (c.toNat / 16) (by omega)
    have hlow := hdigit (c.toNat % 16) (by omega)
    simp [hhigh, hlow]
  | itself h => simpa using h

/-- However a text is written, it is read as itself, whatever follows its closing quote. -/
theorem text_flatMap_escape {cs : List Char} {bound : Nat} (h : cs.length < bound)
    (rest : List Char) : text bound (cs.flatMap Json.escape ++ '"' :: rest) = some (cs, rest) := by
  induction cs generalizing bound with
  | nil =>
    obtain ⟨bound, rfl⟩ := Nat.exists_eq_add_of_lt h
    simp [text]
  | cons c cs ih =>
    cases bound with
    | zero => cases h
    | succ bound =>
      have hspelled := spelled_escape c
      rw [List.flatMap_cons, List.append_assoc, text, if_neg (hspelled.head?_ne _),
        hspelled.character_append]
      simp [ih (Nat.lt_of_succ_lt_succ h)]

/-- What follows does not go on with a number. -/
def Ends (rest : List Char) : Prop :=
  ∀ c ∈ rest.head?, c.isDigit = false ∧ c ≠ '.' ∧ c ≠ 'e' ∧ c ≠ 'E'

theorem digits_append {ds rest : List Char} (hne : ds ≠ []) (hds : ∀ d ∈ ds, d.isDigit)
    (hrest : Ends rest) : digits (ds ++ rest) = some (ds, rest) := by
  have hnone : rest.takeWhile Char.isDigit = [] ∧ rest.dropWhile Char.isDigit = rest := by
    cases rest with
    | nil => exact ⟨rfl, rfl⟩
    | cons c rest =>
      have hc := (hrest c rfl).1
      simp [hc]
  have htaken : (ds ++ rest).takeWhile Char.isDigit = ds := by
    rw [List.takeWhile_append_of_pos hds, hnone.1, List.append_nil]
  have hleft : (ds ++ rest).dropWhile Char.isDigit = rest := by
    rw [List.dropWhile_append_of_pos hds, hnone.2]
  simp only [digits, htaken, if_neg hne, hleft]

theorem head?_toDigits_ne {n : Nat} (h : 0 < n) : (Nat.toDigits 10 n).head? ≠ some '0' := by
  induction n using Nat.strongRecOn with
  | ind n ih =>
    by_cases hlt : n < 10
    · have hdigit : ∀ n < 10, 0 < n → n.digitChar ≠ '0' := by decide
      rw [Nat.toDigits_of_lt_base hlt]
      simpa using hdigit n hlt h
    · have hfront := ih (n / 10) (by omega) (by omega)
      rw [Nat.toDigits_of_base_le (by decide) (Nat.not_lt.mp hlt)]
      cases hdigits : Nat.toDigits 10 (n / 10) with
      | nil => exact absurd hdigits Nat.toDigits_ne_nil
      | cons d ds => rwa [hdigits] at hfront

theorem whole_toDigits (n : Nat) {rest : List Char} (hrest : Ends rest) :
    whole (Nat.toDigits 10 n ++ rest) = some (Nat.toDigits 10 n, rest) := by
  have hds : ∀ d ∈ Nat.toDigits 10 n, d.isDigit := fun d hd =>
    Nat.isDigit_of_mem_toDigits (by decide) (by decide) hd
  have hzero : ¬ ((Nat.toDigits 10 n).head? = some '0' ∧ Nat.toDigits 10 n ≠ ['0']) := by
    rintro ⟨hhead, hlong⟩
    rcases Nat.eq_zero_or_pos n with rfl | hpos
    · exact hlong rfl
    · exact head?_toDigits_ne hpos hhead
  simp only [whole, digits_append Nat.toDigits_ne_nil hds hrest, Option.bind_eq_bind,
    Option.bind_some, if_neg hzero]

theorem number_toDigits (n : Nat) {rest : List Char} (hrest : Ends rest) :
    number (Nat.toDigits 10 n ++ rest) = some ((n : ℚ), rest) := by
  have hsign : (Nat.toDigits 10 n ++ rest).head? ≠ some '-' := by
    cases hdigits : Nat.toDigits 10 n with
    | nil => exact absurd hdigits Nat.toDigits_ne_nil
    | cons d ds =>
      have hd : d.isDigit :=
        Nat.isDigit_of_mem_toDigits (by decide) (by decide) (hdigits ▸ List.mem_cons_self)
      rintro hminus
      cases hminus
      cases hd
  have hfraction : fraction rest = some ([], rest) := by
    refine if_neg fun hdot => ?_
    exact (hrest '.' hdot).2.1 rfl
  have hexponent : exponent rest = some (0, rest) := by
    refine if_neg ?_
    rintro (he | he)
    · exact (hrest 'e' he).2.2.1 rfl
    · exact (hrest 'E' he).2.2.2 rfl
  have hsize : ((Nat.ofDigitChars 10 (Nat.toDigits 10 n ++ []) 0 : ℕ) : ℚ) *
      10 ^ ((0 : Int) - ([] : List Char).length) = n := by
    rw [List.append_nil, Nat.ofDigitChars_ten_toDigits]
    simp
  simp only [number, if_neg hsign, whole_toDigits n hrest, hfraction, hexponent,
    Option.bind_eq_bind, Option.bind_some, hsize]

theorem length_le_quote (cs : List Char) : cs.length + 2 ≤ (Json.quote cs).length := by
  induction cs with
  | nil => simp [Json.quote]
  | cons c cs ih =>
    have hc : 0 < (Json.escape c).length := List.length_pos_iff.mpr (spelled_escape c).ne_nil
    simp only [Json.quote, List.flatMap_cons, List.length_cons, List.length_append] at ih ⊢
    omega

theorem quote_append (cs rest : List Char) :
    Json.quote cs ++ rest = '"' :: (cs.flatMap Json.escape ++ '"' :: rest) := by
  simp [Json.quote]

theorem value_quote (s : String) {bound : Nat} (h : (Json.quote s.toList).length < bound)
    (rest : List Char) : value bound (Json.quote s.toList ++ rest) = some (.text s, rest) := by
  cases bound with
  | zero => cases h
  | succ bound =>
    have hlength := length_le_quote s.toList
    have htext : text bound (s.toList.flatMap Json.escape ++ '"' :: rest) = some (s.toList, rest) :=
      text_flatMap_escape (by omega) rest
    rw [quote_append, value, token_self (by decide)]
    simp [htext]

theorem value_toDigits (n bound : Nat) {rest : List Char} (hrest : Ends rest) :
    value (bound + 1) (Nat.toDigits 10 n ++ rest) = some (.number n, rest) := by
  have hnumber := number_toDigits n hrest
  cases hdigits : Nat.toDigits 10 n with
  | nil => exact absurd hdigits Nat.toDigits_ne_nil
  | cons d ds =>
    rw [hdigits] at hnumber
    have hd : d.isDigit :=
      Nat.isDigit_of_mem_toDigits (by decide) (by decide) (hdigits ▸ List.mem_cons_self)
    have hne : ∀ c : Char, c.isDigit = false → d ≠ c := by
      rintro c hc rfl
      cases hd.symm.trans hc
    have hblank : isBlank d = false := by
      simp [isBlank, hne ' ' rfl, hne '\t' rfl, hne '\n' rfl, hne '\r' rfl]
    have hword : word (d :: ds ++ rest) = none := by
      simp [word, words, (hne 'n' rfl).symm, (hne 't' rfl).symm, (hne 'f' rfl).symm]
    have hfront : (d :: (ds ++ rest)).dropWhile isBlank = d :: ds ++ rest := by
      simp [hblank]
    rw [List.cons_append, value, token_of_ne hblank (hne '"' rfl), token_of_ne hblank (hne '{' rfl),
      token_of_ne hblank (hne '[' rfl), hfront, hword, hnumber]
    rfl

/-- What stands behind the value of a member. -/
def behind : List (String × Json) → List Char
  | [] => ['}']
  | member :: ms => ',' :: Json.memberChars (member :: ms)

theorem memberChars_cons (key : String) (v : Json) (ms : List (String × Json)) :
    Json.memberChars ((key, v) :: ms) = Json.quote key.toList ++ ':' :: (v.chars ++ behind ms) := by
  cases ms <;> simp [Json.memberChars, behind]

theorem ends_behind_append (ms : List (String × Json)) (rest : List Char) :
    Ends (behind ms ++ rest) := by
  cases ms <;> simp [Ends, behind]

theorem value_brace {bound : Nat} {s rest : List Char} {ms : List (String × Datum)}
    (hopen : s.head? = some '"') (h : members bound s = some (ms, rest)) :
    value (bound + 1) ('{' :: s) = some (.object ms, rest) := by
  have hclose : token '}' s = none := by
    cases s with
    | nil => rfl
    | cons c s =>
      obtain rfl := Option.some.inj hopen
      exact token_of_ne (by decide) (by decide) s
  rw [value, token_of_ne (by decide) (by decide), token_self (by decide)]
  simp [hclose, h]

/-! Each value and each member takes one off the bound, and at least one character off the text, so a
bound above the length of the text does. -/

mutual

theorem value_chars : ∀ (v : Json) {bound : Nat} {rest : List Char}, v.chars.length < bound →
    Ends rest → value bound (v.chars ++ rest) = some (v.datum, rest)
  | .number n, bound + 1, rest, _, hrest => by
    rw [Json.chars, Nat.toString_eq_repr, Nat.toList_repr]
    exact value_toDigits n bound hrest
  | .text s, bound + 1, rest, h, _ => value_quote s h rest
  | .object [], bound + 1, rest, _, _ => by
    simp only [Json.chars, Json.memberChars, List.cons_append, List.nil_append]
    rw [value, token_of_ne (by decide) (by decide), token_self (by decide)]
    simp [token_self (by decide : isBlank '}' = false), Json.datum, Json.data]
  | .object ((key, v) :: ms), bound + 1, rest, h, _ => by
    have hopen : (Json.memberChars ((key, v) :: ms) ++ rest).head? = some '"' := by
      rw [memberChars_cons, List.append_assoc, quote_append]
      rfl
    exact value_brace hopen (members_memberChars key v ms (Nat.lt_of_succ_lt_succ h) rest)

theorem members_memberChars : ∀ (key : String) (v : Json) (ms : List (String × Json)) {bound : Nat},
    (Json.memberChars ((key, v) :: ms)).length < bound → ∀ rest,
    members bound (Json.memberChars ((key, v) :: ms) ++ rest) =
      some (Json.data ((key, v) :: ms), rest)
  | key, v, ms, bound + 1, h, rest => by
    have hkey := length_le_quote key.toList
    rw [memberChars_cons] at h
    simp only [List.length_append, List.length_cons] at h
    have htext : text bound (key.toList.flatMap Json.escape ++ '"' :: ':' ::
        (v.chars ++ (behind ms ++ rest))) =
          some (key.toList, ':' :: (v.chars ++ (behind ms ++ rest))) :=
      text_flatMap_escape (by omega) _
    have hvalue : value bound (v.chars ++ (behind ms ++ rest)) = some (v.datum, behind ms ++ rest) :=
      value_chars v (by omega) (ends_behind_append ms rest)
    have hcolon : token ':' (':' :: (v.chars ++ (behind ms ++ rest))) = some _ :=
      token_self (by decide) _
    rw [memberChars_cons, List.append_assoc, quote_append, List.cons_append, List.append_assoc,
      members, token_self (by decide)]
    simp only [Option.bind_eq_bind, Option.bind_some, htext, hcolon, hvalue]
    match ms with
    | [] =>
      have hclose : token '}' (behind [] ++ rest) = some rest := token_self (by decide) rest
      rw [hclose]
      simp [Json.data]
    | (next, v') :: ms =>
      have hclose : token '}' (behind ((next, v') :: ms) ++ rest) = none :=
        token_of_ne (by decide) (by decide) _
      have hcomma : token ',' (behind ((next, v') :: ms) ++ rest) = some _ :=
        token_self (by decide) _
      have hlength : (behind ((next, v') :: ms)).length =
          (Json.memberChars ((next, v') :: ms)).length + 1 := rfl
      have hrest : members bound (Json.memberChars ((next, v') :: ms) ++ rest) =
          some (Json.data ((next, v') :: ms), rest) :=
        members_memberChars next v' ms (by omega) rest
      rw [hclose, hcomma]
      simp [hrest, Json.data]

end

theorem printable_quote (cs : List Char) : ∀ c ∈ Json.quote cs, 0x20 ≤ c.toNat := by
  have hspelled : ∀ c ∈ cs.flatMap Json.escape, 0x20 ≤ c.toNat := by
    intro c hm
    obtain ⟨d, -, hc⟩ := List.mem_flatMap.mp hm
    exact (spelled_escape d).printable c hc
  have hmark : 0x20 ≤ ('"' : Char).toNat := by decide
  intro c hm
  simp only [Json.quote, List.mem_cons, List.mem_append, List.not_mem_nil, or_false] at hm
  obtain rfl | hm | rfl := hm
  · exact hmark
  · exact hspelled c hm
  · exact hmark

theorem printable_of_isDigit {c : Char} (h : c.isDigit) : 0x20 ≤ c.toNat := by
  simp only [Char.isDigit, Bool.and_eq_true, decide_eq_true_eq] at h
  have hzero : (48 : UInt32).toNat ≤ c.val.toNat := h.1
  exact Nat.le_trans (by decide) hzero

mutual

/-- No control character stands raw in what is written. -/
theorem printable_chars : ∀ (v : Json), ∀ c ∈ v.chars, 0x20 ≤ c.toNat
  | .number n => by
    rw [Json.chars, Nat.toString_eq_repr, Nat.toList_repr]
    exact fun c hm =>
      printable_of_isDigit (Nat.isDigit_of_mem_toDigits (by decide) (by decide) hm)
  | .text s => printable_quote s.toList
  | .object members => by
    rw [Json.chars, List.forall_mem_cons]
    exact ⟨by decide, printable_memberChars members⟩

theorem printable_memberChars : ∀ (members : List (String × Json)),
    ∀ c ∈ Json.memberChars members, 0x20 ≤ c.toNat
  | [] => by simp [Json.memberChars]
  | (key, v) :: rest => by
    have hvalue := printable_chars v
    have hrest := printable_memberChars rest
    have hbehind : ∀ c ∈ behind rest, 0x20 ≤ c.toNat := by
      cases rest with
      | nil => simp [behind]
      | cons member rest =>
        rw [behind, List.forall_mem_cons]
        exact ⟨by decide, hrest⟩
    rw [memberChars_cons]
    simp only [List.forall_mem_append, List.forall_mem_cons]
    exact ⟨printable_quote key.toList, by decide, hvalue, hbehind⟩

end

end Reader

/-- A text is JSON for a value, and nothing in it has to be escaped any more. -/
def Spells (json : String) (datum : Datum) : Prop :=
  Datum.read json = some datum ∧ ∀ c ∈ json.toList, 0x20 ≤ c.toNat

theorem spells_render (v : Json) : Spells v.render v.datum := by
  have hread : Reader.value (v.chars.length + 1) v.chars = some (v.datum, []) := by
    have hends : Reader.Ends [] := by simp [Reader.Ends]
    have hvalue := Reader.value_chars v (Nat.lt_succ_self v.chars.length) hends
    rwa [List.append_nil] at hvalue
  refine ⟨?_, ?_⟩
  · rw [Datum.read, Json.render, String.toList_ofList, hread]
    rfl
  · simpa [Json.render] using Reader.printable_chars v

/-! What is put between quotes as it is need not be JSON. -/

example : Datum.read "\"say \\\"no\\\"\"" = some (.text "say \"no\"") := by rfl

example : (Datum.read "\"say \"no\"\"").isNone := by decide +kernel

example : (Datum.read "\"one\ntwo\"").isNone := by decide +kernel

end GameServer.Text

namespace GameServer

open Service Text

/-- Whatever the texts and the counts, what the server writes for a client to read is JSON for just
these texts and counts; so no two reasons are told alike. -/
theorem spells_payloads :
    (∀ reason, ∃ json, Packet.farewell reason = .kick json ∧
      Spells json (.object [("text", .text reason)])) ∧
    (∀ (listing : Listing) (setting : Setting) (player : Option Player) (packet : Packet)
      (scene : Scene), ∃ json,
        statusRequest listing setting player packet scene = scene.send (.statusResponse json) ∧
        Spells json (.object [
          ("description", .object [("text", .text listing.motd)]),
          ("players", .object [
            ("max", .number listing.maxPlayers), ("online", .number scene.world.online)]),
          ("version", .object [
            ("name", .text release), ("protocol", .number protocolVersion.toNat)])])) ∧
    Function.Injective Packet.farewell := by
  have hreason : ∀ reason, Spells (Json.object [("text", .text reason)]).render
      (.object [("text", .text reason)]) := fun reason => spells_render _
  refine ⟨fun reason => ⟨_, rfl, hreason reason⟩, fun listing setting player packet scene =>
    ⟨_, rfl, spells_render _⟩, fun reason reason' h => ?_⟩
  have hsame := (hreason reason).1
  rw [Packet.kick.inj h, (hreason reason').1] at hsame
  simpa using hsame.symm

end GameServer
