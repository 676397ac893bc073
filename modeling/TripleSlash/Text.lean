/-! Texts are lists of characters, measured in UTF-8 bytes. A source is cut into pieces,
each ending with its line feed (the last one perhaps without), so that the pieces joined
are the source again. -/
namespace TripleSlash

abbrev Text := List Char

namespace Text

/-- The length in UTF-8 bytes. -/
def size : Text → Nat
  | [] => 0
  | c :: rest => c.utf8Size + size rest

@[simp] theorem size_nil : size [] = 0 := rfl

@[simp] theorem size_cons (c : Char) (t : Text) : size (c :: t) = c.utf8Size + size t := rfl

@[simp] theorem size_append (s t : Text) : size (s ++ t) = size s + size t := by
  induction s with
  | nil => simp
  | cons c rest ih => simp only [List.cons_append, size_cons, ih, Nat.add_assoc]

theorem length_le_size (t : Text) : t.length ≤ size t := by
  induction t with
  | nil => simp
  | cons c rest ih =>
    have := c.utf8Size_pos
    simp only [List.length_cons, size_cons]
    omega

/-- White space as Unicode's `White_Space` property has it. -/
def isBlank (c : Char) : Bool :=
  let n := c.toNat
  (0x09 ≤ n && n ≤ 0x0D) || n == 0x20 || n == 0x85 || n == 0xA0 || n == 0x1680
    || (0x2000 ≤ n && n ≤ 0x200A) || n == 0x2028 || n == 0x2029 || n == 0x202F
    || n == 0x205F || n == 0x3000

/-- Whether a text stands before another in a dictionary, or is the same. -/
def isLe : Text → Text → Bool
  | [], _ => true
  | _ :: _, [] => false
  | c :: s, d :: t => if c = d then isLe s t else c.toNat < d.toNat

/-- Cuts after every line feed; no piece is empty. -/
def pieces : Text → List Text
  | [] => []
  | c :: rest =>
    if c = '\n' then [c] :: pieces rest
    else match pieces rest with
      | [] => [[c]]
      | piece :: more => (c :: piece) :: more

@[simp] theorem flatten_pieces (t : Text) : (pieces t).flatten = t := by
  induction t with
  | nil => rfl
  | cons c rest ih =>
    simp only [pieces]
    split
    · simp [ih]
    · split <;> rename_i h <;> simp_all

/-- Cuts at every `mark`, which is dropped; there is one segment more than marks. -/
def splitAt (mark : Char) : Text → List Text
  | [] => [[]]
  | c :: rest =>
    if c = mark then [] :: splitAt mark rest
    else match splitAt mark rest with
      | [] => [[c]]
      | segment :: more => (c :: segment) :: more

/-- Joins segments with `mark` between neighbours. -/
def joinWith (mark : Char) : List Text → Text
  | [] => []
  | [segment] => segment
  | segment :: more => segment ++ mark :: joinWith mark more

theorem splitAt_ne_nil (mark : Char) (t : Text) : splitAt mark t ≠ [] := by
  cases t with
  | nil => simp [splitAt]
  | cons c rest =>
    simp only [splitAt]
    split
    · simp
    · split <;> simp

theorem joinWith_splitAt (mark : Char) (t : Text) : joinWith mark (splitAt mark t) = t := by
  induction t with
  | nil => rfl
  | cons c rest ih =>
    simp only [splitAt]
    split
    · rename_i h
      subst h
      cases hs : splitAt c rest with
      | nil => exact absurd hs (splitAt_ne_nil c rest)
      | cons segment more => simpa [joinWith, hs] using ih
    · split
      · rename_i hs
        exact absurd hs (splitAt_ne_nil mark rest)
      · rename_i segment more hs
        rw [hs] at ih
        cases more with
        | nil => simpa [joinWith] using ih
        | cons next rest => simpa [joinWith] using ih

theorem splitAt_mark (mark : Char) (t : Text) : splitAt mark (mark :: t) = [] :: splitAt mark t := by
  simp [splitAt]

theorem splitAt_cons_of_ne {mark c : Char} {t segment : Text} {more : List Text} (h : c ≠ mark)
    (hs : splitAt mark t = segment :: more) : splitAt mark (c :: t) = (c :: segment) :: more := by
  simp [splitAt, h, hs]

theorem splitAt_of_not_mem {mark : Char} {t : Text} (free : mark ∉ t) : splitAt mark t = [t] := by
  induction t with
  | nil => rfl
  | cons c rest ih =>
    simp only [List.mem_cons, not_or] at free
    exact splitAt_cons_of_ne (Ne.symm free.1) (ih free.2)

theorem splitAt_append {mark : Char} {s t : Text} (free : mark ∉ s) :
    splitAt mark (s ++ mark :: t) = s :: splitAt mark t := by
  induction s with
  | nil => exact splitAt_mark mark t
  | cons c rest ih =>
    simp only [List.mem_cons, not_or] at free
    exact splitAt_cons_of_ne (Ne.symm free.1) (ih free.2)

theorem splitAt_append_mark (mark : Char) (s t : Text) :
    splitAt mark (s ++ mark :: t) = splitAt mark s ++ splitAt mark t := by
  induction s with
  | nil => exact splitAt_mark mark t
  | cons c rest ih =>
    by_cases here : c = mark
    · rw [here, List.cons_append, splitAt_mark, splitAt_mark, ih, List.cons_append]
    · obtain ⟨segment, more, cut⟩ := List.exists_cons_of_ne_nil (splitAt_ne_nil mark rest)
      rw [cut, List.cons_append] at ih
      rw [List.cons_append, splitAt_cons_of_ne here ih, splitAt_cons_of_ne here cut,
        List.cons_append]

theorem splitAt_joinWith {mark : Char} {segments : List Text}
    (free : ∀ s ∈ segments, mark ∉ s) (some_segment : segments ≠ []) :
    splitAt mark (joinWith mark segments) = segments := by
  induction segments with
  | nil => contradiction
  | cons s more ih =>
    cases more with
    | nil => exact splitAt_of_not_mem (free s List.mem_cons_self)
    | cons next rest =>
      rw [joinWith, splitAt_append (free s List.mem_cons_self)]
      · rw [ih (fun t h => free t (List.mem_cons_of_mem _ h)) (List.cons_ne_nil _ _)]
      · simp

theorem not_mem_of_mem_splitAt {mark : Char} {s t : Text} (h : s ∈ splitAt mark t) :
    mark ∉ s := by
  induction t generalizing s with
  | nil => simp_all [splitAt]
  | cons c rest ih =>
    by_cases hc : c = mark
    · rw [splitAt, if_pos hc] at h
      rcases List.mem_cons.mp h with rfl | later
      · exact List.not_mem_nil
      · exact ih later
    · cases hs : splitAt mark rest with
      | nil => exact absurd hs (splitAt_ne_nil mark rest)
      | cons segment more =>
        rw [splitAt_cons_of_ne hc hs] at h
        rcases List.mem_cons.mp h with rfl | later
        · simp only [List.mem_cons, not_or]
          exact ⟨Ne.symm hc, ih (by rw [hs]; exact List.mem_cons_self)⟩
        · exact ih (by rw [hs]; exact List.mem_cons_of_mem _ later)

theorem joinWith_cons_concat (mark : Char) (first : Text) (segments : List Text) (last : Text) :
    joinWith mark (first :: (segments ++ [last])) =
      first ++ mark :: joinWith mark (segments ++ [last]) := by
  cases segments <;> rfl

/-- Segments free of marks are cut off a text that they stand in front of. -/
theorem splitAt_joinWith_concat {mark : Char} {segments : List Text}
    (free : ∀ s ∈ segments, mark ∉ s) (t : Text) :
    splitAt mark (joinWith mark (segments ++ [t])) = segments ++ splitAt mark t := by
  induction segments with
  | nil => rfl
  | cons s more ih =>
    rw [List.cons_append, joinWith_cons_concat, splitAt_append (free s List.mem_cons_self),
      ih fun s h => free s (List.mem_cons_of_mem _ h), List.cons_append]

theorem mem_joinWith {mark c : Char} {s : Text} {segments : List Text} (member : s ∈ segments)
    (inside : c ∈ s) : c ∈ joinWith mark segments := by
  fun_induction joinWith mark segments with
  | case1 => contradiction
  | case2 segment => rwa [← List.mem_singleton.mp member]
  | case3 segment more _ ih =>
    rcases List.mem_cons.mp member with rfl | later
    · exact List.mem_append_left _ inside
    · exact List.mem_append_right _ (List.mem_cons_of_mem _ (ih later))

theorem of_mem_joinWith {mark c : Char} {segments : List Text} (h : c ∈ joinWith mark segments) :
    c = mark ∨ ∃ s ∈ segments, c ∈ s := by
  fun_induction joinWith mark segments with
  | case1 => contradiction
  | case2 segment => exact Or.inr ⟨segment, List.mem_cons_self, h⟩
  | case3 segment more _ ih =>
    rcases List.mem_append.mp h with first | rest
    · exact Or.inr ⟨segment, List.mem_cons_self, first⟩
    · rcases List.mem_cons.mp rest with rfl | later
      · exact Or.inl rfl
      · exact (ih later).imp_right fun ⟨s, member, inside⟩ =>
          ⟨s, List.mem_cons_of_mem _ member, inside⟩

theorem mem_of_mem_splitAt {mark c : Char} {s t : Text} (member : s ∈ splitAt mark t)
    (inside : c ∈ s) : c ∈ t := by
  rw [← joinWith_splitAt mark t]
  exact mem_joinWith member inside

/-- What follows `lead` in a text that starts with it. -/
def after? : Text → Text → Option Text
  | [], t => some t
  | _ :: _, [] => none
  | a :: lead, c :: t => if a = c then after? lead t else none

theorem after?_eq_some_iff {lead t rest : Text} :
    after? lead t = some rest ↔ t = lead ++ rest := by
  induction lead generalizing t with
  | nil => simp [after?]
  | cons a lead ih =>
    cases t with
    | nil => simp [after?]
    | cons c t =>
      by_cases h : a = c
      · simp [after?, h, ih]
      · simp [after?, h, Ne.symm h]

theorem after?_append (lead t : Text) : after? lead (lead ++ t) = some t :=
  after?_eq_some_iff.mpr rfl

/-- There are finitely many texts of bounded length. -/
theorem exists_all_up_to (n : Nat) :
    ∃ all : List Text, ∀ t : Text, t.length ≤ n → t ∈ all := by
  induction n with
  | zero => exact ⟨[[]], fun t h => by simp_all⟩
  | succ n ih =>
    obtain ⟨shorter, h⟩ := ih
    let chars := (List.range 0x110000).map Char.ofNat
    refine ⟨[] :: chars.flatMap fun c => shorter.map (c :: ·), fun t ht => ?_⟩
    cases t with
    | nil => simp
    | cons c rest =>
      refine List.mem_cons_of_mem _ (List.mem_flatMap.2 ⟨c, ?_, ?_⟩)
      · refine List.mem_map.2 ⟨c.toNat, ?_, Char.ofNat_toNat c⟩
        have := c.valid
        simp only [List.mem_range, Char.toNat]
        rcases this with h | h <;> omega
      · exact List.mem_map.2 ⟨rest, h rest (by simpa using ht), rfl⟩

/-- A decimal numeral. -/
def ofNat (n : Nat) : Text := Nat.toDigits 10 n

end Text
end TripleSlash
