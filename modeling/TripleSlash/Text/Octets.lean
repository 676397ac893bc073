import TripleSlash.Text.Utf8

/-! Texts that hold one character for each byte. Programs that know nothing of encodings count,
cut and compare such texts, and what they hold reads back byte by byte. -/
namespace TripleSlash.Octets

def ofBytes (bytes : Bytes) : Text := bytes.map fun b => Char.ofNat b.toNat

def toBytes (t : Text) : Bytes := t.map fun c => UInt8.ofNat c.toNat

def ofText (t : Text) : Text := ofBytes (Utf8.encode t)

/-- The text that the bytes encode, with a replacement where they encode none. -/
def toText (t : Text) : Text := Utf8.decodeLossy (toBytes t)

theorem toNat_char (b : UInt8) : (Char.ofNat b.toNat).toNat = b.toNat := by
  have valid : b.toNat.isValidChar := Or.inl (Nat.lt_trans b.toNat_lt (by decide))
  rw [Char.ofNat, dif_pos valid]
  rfl

@[simp] theorem toBytes_ofBytes (bytes : Bytes) : toBytes (ofBytes bytes) = bytes := by
  induction bytes with
  | nil => rfl
  | cons b rest ih =>
    have := toNat_char b
    simp_all [toBytes, ofBytes]

end TripleSlash.Octets
