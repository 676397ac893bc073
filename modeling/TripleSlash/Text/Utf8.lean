import TripleSlash.Text

/-! UTF-8 read by lead bytes: a lead byte fixes how many bytes follow it and the range of
the first of them. A byte that cannot continue ends the attempt, and what was taken so far
counts as one unreadable stretch, so a damaged text has one replacement mark a stretch. -/
namespace TripleSlash

abbrev Bytes := List UInt8

namespace Utf8

def encode (t : Text) : Bytes := t.flatMap String.utf8EncodeChar

/-- What a lead byte promises: its own payload bits, the range of the next byte and how
many bytes follow. -/
structure Lead where
  bits : Nat
  least : Nat
  most : Nat
  count : Nat

def lead? (b : Nat) : Option Lead :=
  if b < 0x80 then some ⟨b, 0x80, 0xBF, 0⟩
  else if b < 0xC2 then none
  else if b < 0xE0 then some ⟨b - 0xC0, 0x80, 0xBF, 1⟩
  else if b = 0xE0 then some ⟨0, 0xA0, 0xBF, 2⟩
  else if b = 0xED then some ⟨0xD, 0x80, 0x9F, 2⟩
  else if b < 0xF0 then some ⟨b - 0xE0, 0x80, 0xBF, 2⟩
  else if b = 0xF0 then some ⟨0, 0x90, 0xBF, 3⟩
  else if b < 0xF4 then some ⟨b - 0xF0, 0x80, 0xBF, 3⟩
  else if b = 0xF4 then some ⟨4, 0x80, 0x8F, 3⟩
  else none

/-- Takes the bytes that a lead still promises; the scalar is `none` when one is missing,
and what does not fit is left in place. -/
def follow (bits least most : Nat) : Nat → Bytes → Option Char × Bytes
  | 0, rest => (some (Char.ofNat bits), rest)
  | _ + 1, [] => (none, [])
  | n + 1, b :: rest =>
    if least ≤ b.toNat ∧ b.toNat ≤ most then
      follow (bits * 64 + (b.toNat - 0x80)) 0x80 0xBF n rest
    else (none, b :: rest)

theorem follow_length (bits least most n : Nat) (bytes : Bytes) :
    (follow bits least most n bytes).2.length ≤ bytes.length := by
  induction n generalizing bits least most bytes with
  | zero => simp [follow]
  | succ n ih =>
    cases bytes with
    | nil => simp [follow]
    | cons b rest =>
      simp only [follow]
      split
      · exact Nat.le_succ_of_le (ih ..)
      · simp

/-- The first character, or `none` for an unreadable stretch, and the bytes after it. -/
def next (b : UInt8) (rest : Bytes) : Option Char × Bytes :=
  match lead? b.toNat with
  | none => (none, rest)
  | some lead => follow lead.bits lead.least lead.most lead.count rest

theorem next_length (b : UInt8) (rest : Bytes) : (next b rest).2.length ≤ rest.length := by
  unfold next
  split
  · simp
  · exact follow_length ..

/-- Characters and unreadable stretches in order. -/
def scan : Bytes → List (Option Char)
  | [] => []
  | b :: rest => (next b rest).1 :: scan (next b rest).2
termination_by bytes => bytes.length
decreasing_by exact Nat.lt_succ_of_le (next_length b rest)

/-- The text, if every byte belongs to a character. -/
def decode? (bytes : Bytes) : Option Text := (scan bytes).mapM id

/-- The text with U+FFFD for each unreadable stretch. -/
def decodeLossy (bytes : Bytes) : Text := (scan bytes).map (·.getD '\uFFFD')

end Utf8
end TripleSlash
