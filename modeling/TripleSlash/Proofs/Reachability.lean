import TripleSlash.Proofs.Descent
import TripleSlash.Proofs.NormalForm

/-! What a walk finds are the files that its entry reaches by references, where no reference
leads on through a file that was visited before or through the entry itself. A walk that ends
has found all of them, each once; one that breaks off has found some, and stopped at one that
cannot be read. -/
namespace TripleSlash

theorem Directive.target_normal (d : Directive) (dir : Path) : (d.target dir).IsNormal :=
  Path.isNormal_normalize _

namespace Discovery

/-- Whatever these directives refer to has the property, unless it is in `barrier`. -/
def Begins (barrier : PathSet) (file : Path) (pending : List Directive) (P : Path → Prop) : Prop :=
  ∀ d ∈ pending, ¬ PathSet.Mem (d.target file.dir) barrier → P (d.target file.dir)

/-- The property goes over from a file to what it refers to, unless that is in `barrier`. -/
def PassesOn (files : Files) (barrier : PathSet) (P : Path → Prop) : Prop :=
  ∀ file text, P file → files.read file = .ok text → Begins barrier file (Directive.scan text) P

theorem Begins.tail {barrier : PathSet} {file : Path} {d : Directive} {pending : List Directive}
    {P : Path → Prop} (begins : Begins barrier file (d :: pending) P) :
    Begins barrier file pending P :=
  fun e h => begins e (List.mem_cons_of_mem _ h)

/-- Everything that these directives refer to has been visited. -/
def Covered (visited : PathSet) (file : Path) (pending : List Directive) : Prop :=
  ∀ d ∈ pending, PathSet.Mem (d.target file.dir) visited

theorem Covered.mono {seen more : PathSet} {file : Path} {pending : List Directive}
    (grows : ∀ p, PathSet.Mem p seen → PathSet.Mem p more) (covered : Covered seen file pending) :
    Covered more file pending :=
  fun d h => grows _ (covered d h)

namespace Descends
variable {files : Files} {visited : PathSet} {file : Path} {pending : List Directive}
  {outcome : Descent}

theorem mem_found_entered {inside rest : Descent} {target p : Path} (done : inside.failure = none) :
    p ∈ ((inside.andThen rest).report target).found ↔
      p = target ∨ p ∈ inside.found ∨ p ∈ rest.found := by
  simp [Descent.report, Descent.andThen_of_done done]

/-- A find was not visited before, could be read and is a normal form. -/
theorem found_spec (h : Descends files visited file pending outcome) :
    ∀ p ∈ outcome.found, ¬ PathSet.Mem p visited ∧ (∃ text, files.read p = .ok text) ∧
      p.IsNormal := by
  induction h with
  | done | unreadable => exact fun p h => absurd h List.not_mem_nil
  | known _ _ ih => exact ih
  | @broken visited file d pending source inside error fresh readable _ _ ih =>
    intro p member
    rcases List.mem_cons.mp member with rfl | later
    · exact ⟨PathSet.not_mem_of_contains fresh, ⟨source, readable⟩, d.target_normal _⟩
    · obtain ⟨absent, rest⟩ := ih p later
      exact ⟨fun seen => absent (PathSet.mem_insert.mpr (Or.inl seen)), rest⟩
  | @entered visited file d pending source inside rest fresh readable below done _ first last =>
    intro p member
    rcases (mem_found_entered done).mp member with rfl | early | late
    · exact ⟨PathSet.not_mem_of_contains fresh, ⟨source, readable⟩, d.target_normal _⟩
    · obtain ⟨absent, rest⟩ := first p early
      exact ⟨fun seen => absent (PathSet.mem_insert.mpr (Or.inl seen)), rest⟩
    · obtain ⟨absent, rest⟩ := last p late
      exact ⟨fun seen => absent (below.grows p (PathSet.mem_insert.mpr (Or.inl seen))), rest⟩

/-- No two finds are the same path, however spelled. -/
theorem found_distinct (h : Descends files visited file pending outcome) :
    outcome.found.Pairwise fun p q => ¬ Path.Same p q := by
  induction h with
  | done | unreadable => exact .nil
  | known _ _ ih => exact ih
  | broken _ _ below _ ih =>
    refine .cons (fun q member same => ?_) ih
    exact (below.found_spec q member).1 (PathSet.mem_insert.mpr (Or.inr same))
  | @entered visited file d pending source inside rest _ _ below done after first last =>
    have marked : PathSet.Mem (d.target file.dir) (visited.insert (d.target file.dir)) :=
      PathSet.mem_insert.mpr (Or.inr (Path.Same.refl _))
    rw [Descent.report, Descent.andThen_of_done done]
    refine .cons (fun q member same => ?_) (List.pairwise_append.mpr ⟨first, last, ?_⟩)
    · obtain ⟨r, seen, again⟩ := marked
      have known : PathSet.Mem q (visited.insert (d.target file.dir)) := ⟨r, seen, again.trans same⟩
      rcases List.mem_append.mp member with early | late
      · exact (below.found_spec q early).1 known
      · exact (after.found_spec q late).1 (below.grows q known)
    · intro p early q late same
      exact (after.found_spec q late).1 ((below.mem_visited q).mpr (Or.inr ⟨p, early, same⟩))

/-- A property that references pass on holds of all finds, and of the file that could not be
read. Nothing but reachable files is ever looked at. -/
theorem looks_only (h : Descends files visited file pending outcome) {barrier : PathSet}
    {P : Path → Prop} (passes : PassesOn files barrier P)
    (behind : ∀ p, PathSet.Mem p barrier → PathSet.Mem p visited)
    (begins : Begins barrier file pending P) :
    (∀ p ∈ outcome.found, P p) ∧
      ∀ p origin cause, outcome.failure = some (.fileRead p origin cause) → P p := by
  induction h with
  | done => exact ⟨fun p h => absurd h List.not_mem_nil, by simp⟩
  | known _ _ ih => exact ih behind begins.tail
  | @unreadable visited file d pending cause fresh _ =>
    refine ⟨fun p h => absurd h List.not_mem_nil, fun p origin cause failed => ?_⟩
    cases failed
    exact begins d List.mem_cons_self fun seen => PathSet.not_mem_of_contains fresh (behind _ seen)
  | @broken visited file d pending source inside error fresh readable _ _ ih =>
    have here : P (d.target file.dir) := begins d List.mem_cons_self fun seen =>
      PathSet.not_mem_of_contains fresh (behind _ seen)
    obtain ⟨found, failed⟩ := ih (fun p seen => PathSet.mem_insert.mpr (Or.inl (behind p seen)))
      (passes _ _ here readable)
    refine ⟨fun p member => ?_, failed⟩
    rcases List.mem_cons.mp member with rfl | later
    · exact here
    · exact found p later
  | @entered visited file d pending source inside rest fresh readable below done _ first last =>
    have here : P (d.target file.dir) := begins d List.mem_cons_self fun seen =>
      PathSet.not_mem_of_contains fresh (behind _ seen)
    have inner : ∀ p, PathSet.Mem p barrier → PathSet.Mem p (visited.insert (d.target file.dir)) :=
      fun p seen => PathSet.mem_insert.mpr (Or.inl (behind p seen))
    have early := (first inner (passes _ _ here readable)).1
    obtain ⟨late, failed⟩ := last (fun p seen => below.grows p (inner p seen)) begins.tail
    constructor
    · intro p member
      rcases (mem_found_entered done).mp member with rfl | member | member
      · exact here
      · exact early p member
      · exact late p member
    · rw [Descent.report, Descent.andThen_of_done done]
      exact failed

/-- A walk that ends leaves nothing behind: its directives and those of every find lead to
visited files. -/
theorem done_covered (h : Descends files visited file pending outcome)
    (ended : outcome.failure = none) :
    Covered outcome.visited file pending ∧
      ∀ p ∈ outcome.found, ∀ text, files.read p = .ok text →
        Covered outcome.visited p (Directive.scan text) := by
  induction h with
  | done =>
    exact ⟨fun d h => absurd h List.not_mem_nil, fun p h => absurd h List.not_mem_nil⟩
  | unreadable => contradiction
  | @known visited file d pending outcome seen later ih =>
    obtain ⟨covered, below⟩ := ih ended
    refine ⟨fun e member => ?_, below⟩
    rcases List.mem_cons.mp member with rfl | member
    · exact later.grows _ (PathSet.contains_iff.mp seen)
    · exact covered e member
  | broken _ _ _ failed => simp only [Descent.report, failed] at ended; contradiction
  | @entered visited file d pending source inside rest _ readable below done after first last =>
    rw [Descent.report, Descent.andThen_of_done done] at ended ⊢
    obtain ⟨inner, early⟩ := first done
    obtain ⟨outer, late⟩ := last ended
    constructor
    · intro e member
      rcases List.mem_cons.mp member with rfl | member
      · exact after.grows _ (below.grows _ (PathSet.mem_insert.mpr (Or.inr (Path.Same.refl _))))
      · exact outer e member
    · intro p member text read
      rcases List.mem_cons.mp member with rfl | member
      · obtain rfl : source = text := Except.ok.inj (readable.symm.trans read)
        exact inner.mono after.grows
      · rcases List.mem_append.mp member with member | member
        · exact (early p member text read).mono after.grows
        · exact late p member text read

/-- A walk breaks off only at a file that some directive refers to, that was not visited and
that cannot be read. -/
theorem failure_spec (h : Descends files visited file pending outcome) {error : ReferenceError}
    (failed : outcome.failure = some error) :
    ∃ p origin cause, error = .fileRead p (some origin) cause ∧ files.read p = .error cause ∧
      ¬ PathSet.Mem p outcome.visited := by
  induction h with
  | done => contradiction
  | known _ _ ih => exact ih failed
  | unreadable fresh unread =>
    cases failed
    exact ⟨_, _, _, rfl, unread, PathSet.not_mem_of_contains fresh⟩
  | broken _ _ _ _ ih => exact ih failed
  | entered _ _ _ done _ _ last =>
    rw [Descent.report, Descent.andThen_of_done done] at failed ⊢
    exact last failed

end Descends

/-- The text of a file in a walk from `entry`, whose own text may be given. -/
def textIn (files : Files) (entry : Path) (source : Option Text) (file : Path) :
    Except IoError Text :=
  if file = entry then source.elim (files.read entry) .ok else files.read file

def Refers (texts : Path → Except IoError Text) (file target : Path) : Prop :=
  ∃ text, texts file = .ok text ∧ ∃ d ∈ Directive.scan text, d.target file.dir = target

/-- The files at the ends of chains of references from `entry`, on which every file after
`entry` is another one and was not seen before. -/
def Reached (texts : Path → Except IoError Text) (entry : Path) (seen : PathSet) : Path → Prop :=
  Relation.TransGen (fun file target =>
    Refers texts file target ∧ ¬ PathSet.Mem target seen ∧ ¬ Path.Same target entry) entry

/-- These paths have been visited, and otherwise only the entry and what was seen before. -/
def Marks (visited seen : PathSet) (entry : Path) (paths : Path → Prop) : Prop :=
  ∀ p, PathSet.Mem p visited ↔ PathSet.Mem p seen ∨ Path.Same entry p ∨ ∃ q, paths q ∧ Path.Same q p

theorem Marks.congr {visited seen : PathSet} {entry : Path} {paths others : Path → Prop}
    (marks : Marks visited seen entry paths) (same : ∀ p, paths p ↔ others p) :
    Marks visited seen entry others := by
  intro p
  rw [marks p]
  simp only [same]

/-- What a walk from `entry` comes to, in terms of the files that `entry` reaches. -/
structure Explores (files : Files) (entry : Path) (source : Option Text) (seen : PathSet)
    (walk : Walk) : Prop where
  /-- The walk ends just if the entry has a text and every reached file can be read. -/
  ends_iff : walk.failure = none ↔ (∃ text, textIn files entry source entry = .ok text) ∧
    ∀ p, Reached (textIn files entry source) entry seen p → ∃ text, files.read p = .ok text
  /-- No path is found twice, however spelled. -/
  distinct : walk.found.Pairwise fun p q => ¬ Path.Same p q
  /-- At its end the walk has found all reached files and nothing else. -/
  finds : walk.failure = none → ∀ p, p ∈ walk.found ↔ Reached (textIn files entry source) entry seen p
  marks : walk.failure = none →
    Marks walk.visited seen entry (Reached (textIn files entry source) entry seen)
  /-- A walk that breaks off at a reference has found reached files that could be read. -/
  breaks : ∀ p origin cause, walk.failure = some (.fileRead p (some origin) cause) →
    (∀ q ∈ walk.found, Reached (textIn files entry source) entry seen q ∧
      ∃ text, files.read q = .ok text) ∧
    Marks walk.visited seen entry (· ∈ walk.found)
  /-- It breaks off at a reached file that cannot be read, which is neither found nor marked. -/
  stops : ∀ p origin cause, walk.failure = some (.fileRead p (some origin) cause) →
    Reached (textIn files entry source) entry seen p ∧ files.read p = .error cause ∧
      p ∉ walk.found ∧ ¬ PathSet.Mem p walk.visited

section Exploration
variable {files : Files} {entry : Path} {source : Option Text} {seen : PathSet}

theorem textIn_entry : textIn files entry source entry = source.elim (files.read entry) .ok :=
  if_pos rfl

theorem textIn_other {file : Path} (other : ¬ Path.Same file entry) :
    textIn files entry source file = files.read file :=
  if_neg fun same : file = entry => other (same ▸ Path.Same.refl file)

theorem not_mem_insert {p : Path} : ¬ PathSet.Mem p (seen.insert entry) ↔
    ¬ PathSet.Mem p seen ∧ ¬ Path.Same p entry := by
  rw [PathSet.mem_insert, not_or]
  exact and_congr_right fun _ => not_congr ⟨Path.Same.symm, Path.Same.symm⟩

theorem Reached.fresh {texts : Path → Except IoError Text} {p : Path}
    (reached : Reached texts entry seen p) : ¬ PathSet.Mem p seen ∧ ¬ Path.Same p entry := by
  cases reached with
  | single step => exact step.2
  | tail _ step => exact step.2

theorem reached_passesOn :
    PassesOn files (seen.insert entry) (Reached (textIn files entry source) entry seen) := by
  intro file text reached read d member absent
  have opened : textIn files entry source file = .ok text :=
    (textIn_other reached.fresh.2).trans read
  exact reached.tail ⟨⟨text, opened, d, member, rfl⟩, not_mem_insert.mp absent⟩

theorem reached_begins {text : Text} (opened : textIn files entry source entry = .ok text) :
    Begins (seen.insert entry) entry (Directive.scan text)
      (Reached (textIn files entry source) entry seen) :=
  fun d member absent => .single ⟨⟨text, opened, d, member, rfl⟩, not_mem_insert.mp absent⟩

variable {text : Text} {outcome : Descent}

theorem reached_of_looked_at
    (h : Descends files (seen.insert entry) entry (Directive.scan text) outcome)
    (opened : textIn files entry source entry = .ok text) :
    (∀ p ∈ outcome.found, Reached (textIn files entry source) entry seen p) ∧
      ∀ p origin cause, outcome.failure = some (.fileRead p origin cause) →
        Reached (textIn files entry source) entry seen p :=
  h.looks_only reached_passesOn (fun _ => id) (reached_begins opened)

/-- A visited file that was not there from the start is a find, under the very name that
leads to it. -/
theorem found_of_visited
    (h : Descends files (seen.insert entry) entry (Directive.scan text) outcome) {p : Path}
    (normal : p.IsNormal) (visited : PathSet.Mem p outcome.visited)
    (fresh : ¬ PathSet.Mem p seen ∧ ¬ Path.Same p entry) : p ∈ outcome.found := by
  rcases (h.mem_visited p).mp visited with old | ⟨q, member, same⟩
  · exact absurd old (not_mem_insert.mpr fresh)
  · rwa [← Path.IsNormal.eq_of_same (h.found_spec q member).2.2 normal same]

theorem found_of_reached
    (h : Descends files (seen.insert entry) entry (Directive.scan text) outcome)
    (opened : textIn files entry source entry = .ok text) (ended : outcome.failure = none)
    {p : Path} (reached : Reached (textIn files entry source) entry seen p) :
    p ∈ outcome.found := by
  obtain ⟨covered, below⟩ := h.done_covered ended
  induction reached with
  | single step =>
    obtain ⟨⟨text', opened', d, member, rfl⟩, fresh⟩ := step
    obtain rfl : text = text' := Except.ok.inj (opened.symm.trans opened')
    exact found_of_visited h (d.target_normal _) (covered d member) fresh
  | tail before step ih =>
    obtain ⟨⟨text', read, d, member, rfl⟩, fresh⟩ := step
    rw [textIn_other (Reached.fresh before).2] at read
    exact found_of_visited h (d.target_normal _) (below _ ih text' read d member) fresh

theorem marks_found
    (h : Descends files (seen.insert entry) entry (Directive.scan text) outcome) :
    Marks outcome.visited seen entry (· ∈ outcome.found) := by
  intro p
  rw [h.mem_visited, PathSet.mem_insert, or_assoc]

end Exploration

/-- A walk from an entry explores the files that the entry reaches, whatever was seen before. -/
theorem discover_explores {files : Files} {path entry : Path}
    (located : files.absolute path = .ok entry) (source : Option Text) (seen : PathSet) :
    Explores files entry source seen (discover files path source seen) := by
  cases opened : textIn files entry source entry with
  | error cause =>
    rw [discover_unreadable source located (textIn_entry.symm.trans opened)]
    refine ⟨?_, .nil, ?_, ?_, ?_, ?_⟩ <;> simp [opened]
  | ok text =>
    rw [discover_opened source located (textIn_entry.symm.trans opened)]
    have h : Descends files (seen.insert entry) entry (Directive.scan text)
        (walk files (seen.insert entry) [.ofSource entry text]).outcome :=
      Descends.iff_outcome.mpr rfl
    obtain ⟨found, stopped⟩ := reached_of_looked_at h opened
    have all := found_of_reached h opened
    exact {
      ends_iff := by
        constructor
        · intro ended
          exact ⟨⟨text, opened⟩, fun p reached => (h.found_spec p (all ended reached)).2.1⟩
        · rintro ⟨-, readable⟩
          cases failed : (walk files (seen.insert entry) [.ofSource entry text]).failure with
          | none => rfl
          | some error =>
            obtain ⟨p, origin, cause, rfl, unread, -⟩ := h.failure_spec failed
            obtain ⟨_, read⟩ := readable p (stopped p origin cause failed)
            exact nomatch unread.symm.trans read
      distinct := h.found_distinct
      finds := fun ended p => ⟨found p, all ended⟩
      marks := fun ended => (marks_found h).congr fun p => ⟨found p, all ended⟩
      breaks := fun p origin cause failed =>
        ⟨fun q member => ⟨found q member, (h.found_spec q member).2.1⟩, marks_found h⟩
      stops := by
        intro p origin cause failed
        obtain ⟨q, _, _, same, unread, absent⟩ := h.failure_spec failed
        cases same
        refine ⟨stopped p origin cause failed, unread, fun member => absent ?_, absent⟩
        exact (h.mem_visited p).mpr (Or.inr ⟨p, member, Path.Same.refl p⟩) }

/-- Two files, of which the first refers to both. -/
def twoFiles : Files := .ofTexts
  [(.ofString "/a.ts", "/// <reference path=\"b.ts\" />\n/// <reference path=\"a.ts\" />\n".toList),
    (.ofString "/b.ts", [])]

theorem twoFiles_explored : twoFiles.absolute (.ofString "/x/../a.ts") = .ok (.ofString "/a.ts") ∧
    Explores twoFiles (.ofString "/a.ts") none .empty
      (discover twoFiles (.ofString "/x/../a.ts") none .empty) :=
  ⟨rfl, discover_explores rfl none .empty⟩

end Discovery
end TripleSlash
