import TripleSlash.Text

/-! Sets of characters given by ranges of code points. -/
namespace TripleSlash.Text

/-- Whether a character lies in one of some ranges, each given by its first and last code
point. -/
def within (ranges : List (Nat × Nat)) (c : Char) : Bool :=
  ranges.any fun (first, last) => first ≤ c.toNat && c.toNat ≤ last

end TripleSlash.Text
