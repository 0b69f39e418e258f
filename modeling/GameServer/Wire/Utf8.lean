/-! Texts as bytes in UTF-8, and where bytes that are no text go wrong. -/

namespace GameServer.Wire

def textBytes (text : String) : List UInt8 := text.toUTF8.data.toList

def textOfBytes? (bytes : List UInt8) : Option String := String.fromUTF8? ⟨bytes.toArray⟩

@[simp] theorem textOfBytes?_textBytes (text : String) :
    textOfBytes? (textBytes text) = some text := by
  simp only [textOfBytes?, textBytes, Array.toArray_toList, String.fromUTF8?]
  exact dif_pos text.isValidUTF8

theorem textBytes_of_textOfBytes? {bytes : List UInt8} {text : String}
    (h : textOfBytes? bytes = some text) : textBytes text = bytes := by
  simp only [textOfBytes?, String.fromUTF8?] at h
  split at h
  · obtain rfl := Option.some.inj h
    rfl
  · cases h

/-- The first fault of bytes that are no text: `valid` bytes before it are sound. The sequence
that begins there is ill-formed after `length` bytes, or else the bytes end inside it. -/
structure TextFault where
  valid : Nat
  length : Option Nat
  deriving DecidableEq

namespace TextFault

def message (fault : TextFault) : String :=
  match fault.length with
  | some n => s!"invalid utf-8 sequence of {n} bytes from index {fault.valid}"
  | none => s!"incomplete utf-8 byte sequence from index {fault.valid}"

/-- What the first byte of a sequence promises: how many bytes follow it, and between which
bounds the first of those lies. The others lie between 0x80 and 0xBF. -/
structure Promise where
  following : Nat
  low : UInt8
  high : UInt8

def promise? (lead : UInt8) : Option Promise :=
  if lead < 0x80 then some ⟨0, 0x80, 0xBF⟩
  else if lead < 0xC2 then none
  else if lead < 0xE0 then some ⟨1, 0x80, 0xBF⟩
  else if lead = 0xE0 then some ⟨2, 0xA0, 0xBF⟩
  else if lead = 0xED then some ⟨2, 0x80, 0x9F⟩
  else if lead < 0xF0 then some ⟨2, 0x80, 0xBF⟩
  else if lead = 0xF0 then some ⟨3, 0x90, 0xBF⟩
  else if lead < 0xF4 then some ⟨3, 0x80, 0xBF⟩
  else if lead = 0xF4 then some ⟨3, 0x80, 0x8F⟩
  else none

/-- How many of the bytes keep the promise, from the first on. -/
def kept : Promise → List UInt8 → Nat
  | ⟨0, _, _⟩, _ => 0
  | ⟨_ + 1, _, _⟩, [] => 0
  | ⟨following + 1, low, high⟩, byte :: rest =>
    if low ≤ byte ∧ byte ≤ high then kept ⟨following, 0x80, 0xBF⟩ rest + 1 else 0

/-- The first fault in `bytes`, of which the first `skip` belong to a sequence already found
sound and which stand behind `valid` others. -/
def find (skip valid : Nat) : List UInt8 → Option TextFault
  | [] => none
  | byte :: rest =>
    match skip with
    | skip + 1 => find skip (valid + 1) rest
    | 0 =>
      match promise? byte with
      | none => some ⟨valid, some 1⟩
      | some promise =>
        let kept := kept promise rest
        if kept = promise.following then find kept (valid + 1) rest
        else if rest.length = kept then some ⟨valid, none⟩
        else some ⟨valid, some (kept + 1)⟩

end TextFault

end GameServer.Wire
