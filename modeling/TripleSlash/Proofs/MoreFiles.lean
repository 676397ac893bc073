import TripleSlash.Proofs.Reachability

/-! A walk over the same references when more files can be read. As far as the walk over fewer
files got, the two do the same; where that one broke off, the other may find the file and go on.
So nothing that was found is lost, and it is found in the same order. -/
namespace TripleSlash

/-- Whatever `files` shows, `more` shows too, with the same texts and from the same directory. -/
structure Files.Within (files more : Files) : Prop where
  currentDir : files.currentDir = more.currentDir
  texts : ∀ p text, files.read p = .ok text → more.read p = .ok text

theorem Files.Within.absolute_eq {files more : Files} (within : files.Within more) (p : Path) :
    more.absolute p = files.absolute p := by
  rw [Files.absolute, Files.absolute, within.currentDir]

theorem Files.ofTexts_within (texts others : List (Path × Text)) :
    (ofTexts texts).Within (ofTexts (texts ++ others)) where
  currentDir := rfl
  texts p text read := by
    simp only [ofTexts, List.find?_append] at read ⊢
    cases found : texts.find? fun entry => entry.1 = p with
    | none => simp [found] at read
    | some entry => simpa [found] using read

namespace Discovery

namespace Descends
variable {files more : Files} {visited : PathSet} {file : Path} {pending : List Directive}
  {outcome : Descent}

/-- A recursion that ends reads nothing but files that can still be read. -/
theorem within (within : files.Within more) (h : Descends files visited file pending outcome)
    (ended : outcome.failure = none) : Descends more visited file pending outcome := by
  induction h with
  | done => exact .done
  | known seen _ ih => exact .known seen (ih ended)
  | unreadable => contradiction
  | broken _ _ _ failed => simp only [Descent.report, failed] at ended; contradiction
  | entered fresh readable _ done _ first last =>
    rw [Descent.report, Descent.andThen_of_done done] at ended
    exact .entered fresh (within.texts _ _ readable) (first done) done (last ended)

/-- The recursion over more files finds the same ones first, also if the other one breaks off. -/
theorem found_prefix (within : files.Within more) (h : Descends files visited file pending outcome) :
    ∃ larger, Descends more visited file pending larger ∧ outcome.found <+: larger.found := by
  induction h with
  | done => exact ⟨_, .done, List.prefix_rfl⟩
  | known seen _ ih =>
    obtain ⟨larger, later, front⟩ := ih
    exact ⟨larger, .known seen later, front⟩
  | @unreadable visited file d pending cause _ _ =>
    obtain ⟨larger, h⟩ := exists_outcome more visited file (d :: pending)
    exact ⟨larger, h, List.nil_prefix⟩
  | @broken visited file d pending source inside error fresh readable _ _ ih =>
    obtain ⟨larger, deeper, front⟩ := ih
    have read := within.texts _ _ readable
    cases failed : larger.failure with
    | some error =>
      exact ⟨_, .broken fresh read deeper failed, List.cons_prefix_cons.mpr ⟨rfl, front⟩⟩
    | none =>
      obtain ⟨rest, later⟩ := exists_outcome more larger.visited file pending
      refine ⟨_, .entered fresh read deeper failed later, ?_⟩
      rw [Descent.andThen_of_done failed]
      exact List.cons_prefix_cons.mpr ⟨rfl, front.trans (List.prefix_append _ _)⟩
  | @entered visited file d pending source inside rest fresh readable below done _ _ last =>
    obtain ⟨larger, later, front⟩ := last
    have deeper := below.within within done
    refine ⟨_, .entered fresh (within.texts _ _ readable) deeper done later, ?_⟩
    rw [Descent.andThen_of_done done, Descent.andThen_of_done done]
    exact List.cons_prefix_cons.mpr ⟨rfl, (List.prefix_append_right_inj _).mpr front⟩

end Descends

/-- `larger` goes on where `smaller` ends: it has found the same paths first, and it has visited
whatever `smaller` has. -/
structure Descent.Continues (larger smaller : Descent) : Prop where
  found : smaller.found <+: larger.found
  visited : ∀ p, PathSet.Mem p smaller.visited → PathSet.Mem p larger.visited

theorem Descent.Continues.refl (outcome : Descent) : outcome.Continues outcome :=
  ⟨List.prefix_rfl, fun _ => id⟩

section Walks
variable {files more : Files} {visited : PathSet} {file : Path} {pending : List Directive}

theorem walk_within (within : files.Within more)
    (ended : (walk files visited [⟨file, pending⟩]).failure = none) :
    (walk more visited [⟨file, pending⟩]).outcome = (walk files visited [⟨file, pending⟩]).outcome :=
  ((Descends.iff_outcome.mpr rfl).within within ended).outcome_eq

theorem walk_continues (within : files.Within more) :
    (walk more visited [⟨file, pending⟩]).outcome.Continues
      (walk files visited [⟨file, pending⟩]).outcome := by
  have h : Descends files visited file pending (walk files visited [⟨file, pending⟩]).outcome :=
    Descends.iff_outcome.mpr rfl
  obtain ⟨larger, k, front⟩ := h.found_prefix within
  rw [k.outcome_eq]
  refine ⟨front, fun p seen => (k.mem_visited p).mpr ?_⟩
  exact ((h.mem_visited p).mp seen).imp id fun ⟨q, member, same⟩ => ⟨q, front.subset member, same⟩

end Walks

/-- If more files can be read, a walk that ended is the same again, and one that broke off is
gone on with: what it found is found first, and what it visited is visited. -/
theorem discover_continues {files more : Files} (within : files.Within more) (entry : Path)
    (source : Option Text) (visited : PathSet) :
    ((discover files entry source visited).failure = none →
      (discover more entry source visited).outcome = (discover files entry source visited).outcome) ∧
    (discover more entry source visited).outcome.Continues
      (discover files entry source visited).outcome := by
  have again := within.absolute_eq entry
  cases located : files.absolute entry with
  | error error =>
    rw [located] at again
    rw [discover_lost source located, discover_lost source again]
    exact ⟨fun _ => rfl, .refl _⟩
  | ok file =>
    rw [located] at again
    cases opened : source.elim (files.read file) .ok with
    | error cause =>
      rw [discover_unreadable source located opened]
      refine ⟨fun ended => (nomatch ended), List.nil_prefix, fun p seen => ?_⟩
      cases reopened : source.elim (more.read file) .ok with
      | error cause =>
        rw [discover_unreadable source again reopened]
        exact seen
      | ok text =>
        rw [discover_opened source again reopened]
        exact (Descends.iff_outcome.mpr rfl).grows p seen
    | ok text =>
      have reopened : source.elim (more.read file) .ok = .ok text := by
        cases source with
        | none => exact within.texts _ _ opened
        | some _ => exact opened
      rw [discover_opened source located opened, discover_opened source again reopened]
      exact ⟨walk_within within, walk_continues within⟩

/-- The first of the two files alone, whose reference to the other one leads nowhere. -/
def oneFile : Files := .ofTexts
  [(.ofString "/a.ts", "/// <reference path=\"b.ts\" />\n/// <reference path=\"a.ts\" />\n".toList)]

theorem oneFile_continued : oneFile.Within twoFiles ∧
    ((discover oneFile (.ofString "a.ts") none .empty).failure = none →
      (discover twoFiles (.ofString "a.ts") none .empty).outcome =
        (discover oneFile (.ofString "a.ts") none .empty).outcome) ∧
    (discover twoFiles (.ofString "a.ts") none .empty).outcome.Continues
      (discover oneFile (.ofString "a.ts") none .empty).outcome := by
  have within : oneFile.Within twoFiles := Files.ofTexts_within _ [(.ofString "/b.ts", [])]
  exact ⟨within, discover_continues within _ none .empty⟩

end Discovery
end TripleSlash
