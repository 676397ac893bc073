import TripleSlash.Proofs.Recognition

/-! Reading UTF-8. The bytes of a text are read as that text, and no other bytes are, so a text and
its bytes say the same. Where every byte belongs to a character no replacement mark is put in. -/
namespace TripleSlash.Utf8

section Leads
variable {n : Nat}

theorem lead?_one (low : n < 0x80) : lead? n = some ⟨n, 0x80, 0xBF, 0⟩ := if_pos low

theorem lead?_two (low : 0xC2 ≤ n) (high : n < 0xE0) :
    lead? n = some ⟨n - 0xC0, 0x80, 0xBF, 1⟩ := by
  rw [lead?, if_neg (by omega), if_neg (by omega), if_pos high]

/-- The ends of the range of lead bytes narrow the range of the next byte. -/
theorem lead?_three (low : 0xE0 ≤ n) (high : n < 0xF0) :
    lead? n = some ⟨n - 0xE0, if n = 0xE0 then 0xA0 else 0x80,
      if n = 0xED then 0x9F else 0xBF, 2⟩ := by
  rw [lead?, if_neg (by omega), if_neg (by omega), if_neg (by omega)]
  by_cases first : n = 0xE0
  · subst first
    rfl
  · by_cases surrogates : n = 0xED
    · subst surrogates
      rfl
    · rw [if_neg first, if_neg surrogates, if_pos high, if_neg first, if_neg surrogates]

theorem lead?_four (low : 0xF0 ≤ n) (high : n ≤ 0xF4) :
    lead? n = some ⟨n - 0xF0, if n = 0xF0 then 0x90 else 0x80,
      if n = 0xF4 then 0x8F else 0xBF, 3⟩ := by
  rw [lead?, if_neg (by omega), if_neg (by omega), if_neg (by omega), if_neg (by omega),
    if_neg (by omega), if_neg (by omega)]
  by_cases first : n = 0xF0
  · subst first
    rfl
  · by_cases last : n = 0xF4
    · subst last
      rfl
    · rw [if_neg first, if_pos (by omega), if_neg first, if_neg last]

theorem lead?_none (other : 0x80 ≤ n ∧ n < 0xC2 ∨ 0xF4 < n) : lead? n = none := by
  unfold lead?
  repeat' split
  all_goals first | rfl | omega

end Leads

section Tails
variable {bits least most n : Nat} {b : UInt8} {rest bytes : Bytes} {c : Char}

theorem follow_tail (low : least ≤ b.toNat) (high : b.toNat ≤ most) :
    follow bits least most (n + 1) (b :: rest) =
      follow (bits * 64 + (b.toNat - 0x80)) 0x80 0xBF n rest := by
  rw [follow, if_pos ⟨low, high⟩]

theorem exists_tail (read : follow bits least most (n + 1) bytes = (some c, rest)) :
    ∃ b more, bytes = b :: more ∧ least ≤ b.toNat ∧ b.toNat ≤ most ∧
      follow (bits * 64 + (b.toNat - 0x80)) 0x80 0xBF n more = (some c, rest) := by
  cases bytes with
  | nil => simp [follow] at read
  | cons b more =>
    rw [follow] at read
    split at read
    · rename_i fits
      exact ⟨b, more, rfl, fits.1, fits.2, read⟩
    · simp at read

end Tails

/-- A byte that is no lead byte. -/
def IsTail (b : UInt8) : Prop := 0x80 ≤ b.toNat ∧ b.toNat ≤ 0xBF

/-- The bytes of a character by its number. The first tail is bounded where a shorter sequence, a
surrogate or a number out of range would come about. -/
inductive Sequence : Nat → Bytes → Prop where
  | one {b : UInt8} : b.toNat < 0x80 → Sequence b.toNat [b]
  | two {b x : UInt8} : 0xC2 ≤ b.toNat → b.toNat < 0xE0 → IsTail x →
      Sequence ((b.toNat - 0xC0) * 64 + (x.toNat - 0x80)) [b, x]
  | three {b x y : UInt8} : 0xE0 ≤ b.toNat → b.toNat < 0xF0 → IsTail x → IsTail y →
      (b.toNat = 0xE0 → 0xA0 ≤ x.toNat) → (b.toNat = 0xED → x.toNat ≤ 0x9F) →
      Sequence (((b.toNat - 0xE0) * 64 + (x.toNat - 0x80)) * 64 + (y.toNat - 0x80)) [b, x, y]
  | four {b x y z : UInt8} : 0xF0 ≤ b.toNat → b.toNat ≤ 0xF4 → IsTail x → IsTail y → IsTail z →
      (b.toNat = 0xF0 → 0x90 ≤ x.toNat) → (b.toNat = 0xF4 → x.toNat ≤ 0x8F) →
      Sequence ((((b.toNat - 0xF0) * 64 + (x.toNat - 0x80)) * 64 + (y.toNat - 0x80)) * 64 +
        (z.toNat - 0x80)) [b, x, y, z]

section Characters
variable {v : Nat} {b : UInt8} {c : Char} {bytes rest more tail : Bytes}

theorem Sequence.next_eq (sequence : Sequence v (b :: tail)) (rest : Bytes) :
    next b (tail ++ rest) = (some (Char.ofNat v), rest) := by
  cases sequence with
  | one low =>
    simp only [next, lead?_one low]
    rfl
  | two low high first =>
    simp only [next, lead?_two low high, List.cons_append, List.nil_append]
    rw [follow_tail first.1 first.2, follow]
  | three low high first second large surrogate =>
    simp only [next, lead?_three low high, List.cons_append, List.nil_append]
    rw [follow_tail, follow_tail second.1 second.2, follow]
    · split
      · exact large ‹_›
      · exact first.1
    · split
      · exact surrogate ‹_›
      · exact first.2
  | four low high first second third large outside =>
    simp only [next, lead?_four low high, List.cons_append, List.nil_append]
    rw [follow_tail, follow_tail second.1 second.2, follow_tail third.1 third.2, follow]
    · split
      · exact large ‹_›
      · exact first.1
    · split
      · exact outside ‹_›
      · exact first.2

theorem sequence_of_next (read : next b more = (some c, rest)) :
    ∃ v tail, Sequence v (b :: tail) ∧ c = Char.ofNat v ∧ more = tail ++ rest := by
  have classes : b.toNat < 0x80 ∨ (0xC2 ≤ b.toNat ∧ b.toNat < 0xE0) ∨
      (0xE0 ≤ b.toNat ∧ b.toNat < 0xF0) ∨ (0xF0 ≤ b.toNat ∧ b.toNat ≤ 0xF4) ∨
      (0x80 ≤ b.toNat ∧ b.toNat < 0xC2 ∨ 0xF4 < b.toNat) := by omega
  rcases classes with low | ⟨low, high⟩ | ⟨low, high⟩ | ⟨low, high⟩ | other
  · simp only [next, lead?_one low, follow, Prod.mk.injEq, Option.some.injEq] at read
    obtain ⟨rfl, rfl⟩ := read
    exact ⟨_, [], .one low, rfl, rfl⟩
  · simp only [next, lead?_two low high] at read
    obtain ⟨x, more, rfl, least, most, read⟩ := exists_tail read
    rw [follow, Prod.mk.injEq, Option.some.injEq] at read
    obtain ⟨rfl, rfl⟩ := read
    exact ⟨_, [x], .two low high ⟨least, most⟩, rfl, rfl⟩
  · simp only [next, lead?_three low high] at read
    obtain ⟨x, more, rfl, least, most, read⟩ := exists_tail read
    obtain ⟨y, more, rfl, least', most', read⟩ := exists_tail read
    rw [follow, Prod.mk.injEq, Option.some.injEq] at read
    obtain ⟨rfl, rfl⟩ := read
    refine ⟨_, [x, y], .three low high ⟨?_, ?_⟩ ⟨least', most'⟩ ?_ ?_, rfl, rfl⟩
    all_goals split at least <;> split at most <;> omega
  · simp only [next, lead?_four low high] at read
    obtain ⟨x, more, rfl, least, most, read⟩ := exists_tail read
    obtain ⟨y, more, rfl, least', most', read⟩ := exists_tail read
    obtain ⟨z, more, rfl, least'', most'', read⟩ := exists_tail read
    rw [follow, Prod.mk.injEq, Option.some.injEq] at read
    obtain ⟨rfl, rfl⟩ := read
    refine ⟨_, [x, y, z], .four low high ⟨?_, ?_⟩ ⟨least', most'⟩ ⟨least'', most''⟩ ?_ ?_, rfl, rfl⟩
    all_goals split at least <;> split at most <;> omega
  · simp [next, lead?_none other] at read

theorem toNat_byte {n : Nat} (small : n < 256) : (UInt8.ofNat n).toNat = n :=
  UInt8.toNat_ofNat_of_lt' small

theorem byte_eq {n : Nat} (same : n = b.toNat) : UInt8.ofNat n = b := by
  rw [same, UInt8.ofNat_toNat]

theorem Sequence.of_number {w : Nat} (sequence : Sequence w bytes) (same : v = w) :
    Sequence v bytes := same ▸ sequence

/-- The bytes that are written for a character have its number. -/
theorem sequence_encodeChar (c : Char) : Sequence c.toNat (String.utf8EncodeChar c) := by
  have valid : c.toNat < 0xD800 ∨ 0xDFFF < c.toNat ∧ c.toNat < 0x110000 := c.valid
  unfold String.utf8EncodeChar
  dsimp only
  rw [show c.val.toNat = c.toNat from rfl]
  generalize c.toNat = v at valid ⊢
  split
  · have b := toNat_byte (n := v) (by omega)
    exact (Sequence.one (by omega)).of_number b.symm
  · split
    · have b := toNat_byte (n := v / 64 % 32 + 192) (by omega)
      have x := toNat_byte (n := v % 64 + 128) (by omega)
      refine (Sequence.two ?_ ?_ ⟨?_, ?_⟩).of_number ?_
      all_goals omega
    · split
      · have b := toNat_byte (n := v / 4096 % 16 + 224) (by omega)
        have x := toNat_byte (n := v / 64 % 64 + 128) (by omega)
        have y := toNat_byte (n := v % 64 + 128) (by omega)
        refine (Sequence.three ?_ ?_ ⟨?_, ?_⟩ ⟨?_, ?_⟩ ?_ ?_).of_number ?_
        all_goals omega
      · have b := toNat_byte (n := v / 262144 % 8 + 240) (by omega)
        have x := toNat_byte (n := v / 4096 % 64 + 128) (by omega)
        have y := toNat_byte (n := v / 64 % 64 + 128) (by omega)
        have z := toNat_byte (n := v % 64 + 128) (by omega)
        refine (Sequence.four ?_ ?_ ⟨?_, ?_⟩ ⟨?_, ?_⟩ ⟨?_, ?_⟩ ?_ ?_).of_number ?_
        all_goals omega

theorem Sequence.ne_nil (sequence : Sequence v bytes) : bytes ≠ [] := by
  cases sequence <;> simp

/-- No bytes have the number of a surrogate, or one beyond the last character. -/
theorem Sequence.valid (sequence : Sequence v bytes) : v.isValidChar := by
  have cases : v < 0xD800 ∨ 0xDFFF < v ∧ v < 0x110000 := by
    cases sequence with
    | one => omega
    | two _ _ first =>
      have := first.2
      omega
    | three _ _ first second _ surrogate =>
      have := first.1
      have := first.2
      have := second.2
      omega
    | four _ _ first second third large outside =>
      have := first.1
      have := first.2
      have := second.2
      have := third.2
      omega
  exact cases

/-- Bytes with a number are the ones that are written for the character with that number. -/
theorem Sequence.eq_encodeChar (sequence : Sequence v bytes) :
    bytes = String.utf8EncodeChar (Char.ofNat v) := by
  have number : (Char.ofNat v).val.toNat = v := by
    rw [Char.ofNat, dif_pos sequence.valid]
    rfl
  unfold String.utf8EncodeChar
  dsimp only
  rw [number]
  cases sequence with
  | @one b low => rw [if_pos (by omega), byte_eq rfl]
  | @two b x low high first =>
    obtain ⟨_, _⟩ := first
    rw [if_neg (by omega), if_pos (by omega), byte_eq (b := b) (by omega),
      byte_eq (b := x) (by omega)]
  | @three b x y low high first second large _ =>
    obtain ⟨⟨_, _⟩, _, _⟩ := And.intro first second
    rw [if_neg (by omega), if_neg (by omega), if_pos (by omega), byte_eq (b := b) (by omega),
      byte_eq (b := x) (by omega), byte_eq (b := y) (by omega)]
  | @four b x y z low high first second third large _ =>
    obtain ⟨⟨_, _⟩, ⟨_, _⟩, _, _⟩ := And.intro first (And.intro second third)
    rw [if_neg (by omega), if_neg (by omega), if_neg (by omega), byte_eq (b := b) (by omega),
      byte_eq (b := x) (by omega), byte_eq (b := y) (by omega), byte_eq (b := z) (by omega)]

end Characters

section Texts
variable {text : Text} {bytes : Bytes}

theorem encode_cons (c : Char) (text : Text) :
    encode (c :: text) = String.utf8EncodeChar c ++ encode text := List.flatMap_cons

/-- Each character of a text is read by itself. -/
theorem scan_encode (text : Text) : scan (encode text) = text.map some := by
  induction text with
  | nil => exact scan.eq_1
  | cons c text ih =>
    have sequence := sequence_encodeChar c
    obtain ⟨b, tail, written⟩ := List.exists_cons_of_ne_nil sequence.ne_nil
    rw [written] at sequence
    rw [encode_cons, written, List.cons_append, scan, sequence.next_eq, Char.ofNat_toNat, ih,
      List.map_cons]

/-- Nothing but the bytes of a text is read without an unreadable stretch. -/
theorem eq_encode_of_scan (read : scan bytes = text.map some) : bytes = encode text := by
  induction text generalizing bytes with
  | nil =>
    cases bytes with
    | nil => rfl
    | cons b rest => simp [scan] at read
  | cons c text ih =>
    cases bytes with
    | nil => simp [scan] at read
    | cons b rest =>
      rw [scan, List.map_cons] at read
      obtain ⟨first, later⟩ := List.cons.inj read
      obtain ⟨v, tail, sequence, rfl, whole⟩ := sequence_of_next (Prod.ext first rfl)
      rw [encode_cons, ← sequence.eq_encodeChar, ← ih later, List.cons_append, ← whole]

theorem mapM_id_eq_some_iff {chars : List (Option Char)} :
    chars.mapM id = some text ↔ chars = text.map some := by
  induction chars generalizing text with
  | nil => cases text <;> simp
  | cons c chars ih => cases text <;> simp [Option.bind_eq_some_iff, ih]

/-- A text is read from its own bytes and from no others. -/
theorem decode?_eq_some_iff : decode? bytes = some text ↔ bytes = encode text := by
  rw [decode?, mapM_id_eq_some_iff]
  constructor
  · exact eq_encode_of_scan
  · rintro rfl
    exact scan_encode text

/-- Where there is no unreadable stretch no mark is put in. -/
theorem decodeLossy_encode (text : Text) : decodeLossy (encode text) = text := by
  rw [decodeLossy, scan_encode, List.map_map]
  exact List.map_id text

end Texts

end TripleSlash.Utf8
