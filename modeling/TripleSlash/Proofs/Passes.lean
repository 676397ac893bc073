import Mathlib.Logic.Relation
import TripleSlash.Proofs.Reachability

/-! Walks one after the other that share what they have visited. A walk passes over everything
that an earlier one has visited, so nothing is lost only because each walk that ends leaves the
visited files closed under references. -/
namespace TripleSlash.Discovery

/-- What one walk is asked for: an entry, and its text if that is at hand. -/
structure Pass where
  entry : Path
  source : Option Text
deriving DecidableEq, Repr

/-- A text that is at hand is the one that would be read. -/
def Pass.Faithful (files : Files) (pass : Pass) : Prop :=
  ∀ file text, files.absolute pass.entry = .ok file → pass.source = some text →
    files.read file = .ok text

/-- Each walk starts with what the walks before it have visited. -/
def passes (files : Files) (visited : PathSet) : List Pass → List Walk
  | [] => []
  | pass :: later =>
    let walk := discover files pass.entry pass.source visited
    walk :: passes files walk.visited later

/-- The entries under their absolute names. -/
def entriesOf (files : Files) (calls : List Pass) : List Path :=
  calls.filterMap fun pass => (files.absolute pass.entry).toOption

/-- A chain of references leads from one of the entries to the file. -/
def ReachedFrom (files : Files) (entries : List Path) (p : Path) : Prop :=
  ∃ entry ∈ entries, Relation.ReflTransGen (Refers files.read) entry p

/-- What walks from these entries have come to, who found these files between them. -/
structure Settled (files : Files) (entries found : List Path) (visited : PathSet) : Prop where
  /-- Nothing is lost: the visited files are those that the entries reach. -/
  reaches : ∀ p, p ∈ visited.toList ↔ ReachedFrom files entries p
  closed : ∀ p q, p ∈ visited.toList → Refers files.read p q → q ∈ visited.toList
  /-- Every visited file is an entry or was found. -/
  parts : ∀ p, p ∈ visited.toList ↔ p ∈ entries ∨ p ∈ found
  /-- Nothing is repeated, however it is spelled. -/
  distinct : found.Pairwise fun p q => ¬ Path.Same p q
  normal : ∀ p ∈ visited.toList, p.IsNormal

section Members
variable {visited : PathSet} {p entry : Path}

theorem mem_toList_of_mem (normal : ∀ q ∈ visited.toList, q.IsNormal) (hp : p.IsNormal)
    (seen : PathSet.Mem p visited) : p ∈ visited.toList := by
  obtain ⟨q, member, same⟩ := seen
  rwa [← (normal q member).eq_of_same hp same]

theorem mem_toList_insert (normal : ∀ q ∈ visited.toList, q.IsNormal) (he : entry.IsNormal) :
    p ∈ (visited.insert entry).toList ↔ p ∈ visited.toList ∨ p = entry := by
  cases known : visited.contains entry with
  | false => simp [PathSet.toList_insert known]
  | true =>
    have there := mem_toList_of_mem normal he (PathSet.contains_iff.mp known)
    simp only [PathSet.insert, known, if_true]
    constructor
    · exact Or.inl
    · rintro (seen | rfl)
      · exact seen
      · exact there

end Members

section Reaching
variable {files : Files} {entries : List Path} {p q : Path}

theorem ReachedFrom.refers (reached : ReachedFrom files entries p)
    (step : Refers files.read p q) : ReachedFrom files entries q := by
  obtain ⟨entry, member, chain⟩ := reached
  exact ⟨entry, member, chain.tail step⟩

theorem ReachedFrom.of_entry (member : p ∈ entries) : ReachedFrom files entries p :=
  ⟨p, member, .refl⟩

theorem ReachedFrom.more (reached : ReachedFrom files entries p) (others : List Path) :
    ReachedFrom files (entries ++ others) p := by
  obtain ⟨entry, member, chain⟩ := reached
  exact ⟨entry, List.mem_append_left _ member, chain⟩

/-- What holds of the entries and goes over from a file to what it refers to holds of all that
the entries reach. -/
theorem ReachedFrom.induct {P : Path → Prop} (start : ∀ entry ∈ entries, P entry)
    (keeps : ∀ p q, P p → Refers files.read p q → P q) (reached : ReachedFrom files entries p) :
    P p := by
  obtain ⟨entry, member, chain⟩ := reached
  induction chain with
  | refl => exact start entry member
  | tail _ step ih => exact keeps _ _ ih step

end Reaching

theorem settled_empty (files : Files) : Settled files [] [] .empty where
  reaches p := by simp [PathSet.empty, ReachedFrom]
  closed p q seen := by simp [PathSet.empty] at seen
  parts p := by simp [PathSet.empty]
  distinct := .nil
  normal p seen := by simp [PathSet.empty] at seen

section Step
variable {files : Files} {entries found : List Path} {visited : PathSet} {entry : Path}
  {text : Text} {outcome : Descent}

/-- Whatever is found from an entry is reached from it. -/
theorem reachedFrom_found (read : files.read entry = .ok text) (member : entry ∈ entries)
    (h : Descends files visited entry (Directive.scan text) outcome) :
    ∀ p ∈ outcome.found, ReachedFrom files entries p := by
  have passes : PassesOn files .empty (ReachedFrom files entries) := fun file text reached read d h _ =>
    reached.refers ⟨text, read, d, h, rfl⟩
  have begins : Begins .empty entry (Directive.scan text) (ReachedFrom files entries) := fun d h _ =>
    (ReachedFrom.of_entry member).refers ⟨text, read, d, h, rfl⟩
  exact (h.looks_only passes (fun p seen => by simp [PathSet.Mem, PathSet.empty] at seen) begins).1

/-- The recursion from one more entry, if it ends, leaves things settled. -/
theorem Settled.after_descent (settled : Settled files entries found visited) (normal : entry.IsNormal)
    (read : files.read entry = .ok text)
    (h : Descends files (visited.insert entry) entry (Directive.scan text) outcome)
    (ended : outcome.failure = none) :
    Settled files (entries ++ [entry]) (found ++ outcome.found) outcome.visited := by
  have members (p : Path) : p ∈ outcome.visited.toList ↔
      (p ∈ visited.toList ∨ p = entry) ∨ p ∈ outcome.found := by
    rw [h.visited_eq, List.mem_append, mem_toList_insert settled.normal normal]
  have allNormal : ∀ p ∈ outcome.visited.toList, p.IsNormal := by
    intro p seen
    rcases (members p).mp seen with (old | rfl) | new
    · exact settled.normal p old
    · exact normal
    · exact (h.found_spec p new).2.2
  obtain ⟨covered, below⟩ := h.done_covered ended
  have closed : ∀ p q, p ∈ outcome.visited.toList → Refers files.read p q →
      q ∈ outcome.visited.toList := by
    rintro p _ seen ⟨text', read', d, member, rfl⟩
    rcases (members p).mp seen with (old | rfl) | new
    · exact (members _).mpr (Or.inl (Or.inl (settled.closed p _ old ⟨text', read', d, member, rfl⟩)))
    · obtain rfl : text = text' := Except.ok.inj (read.symm.trans read')
      exact mem_toList_of_mem allNormal (d.target_normal _) (covered d member)
    · exact mem_toList_of_mem allNormal (d.target_normal _) (below p new text' read' d member)
  refine ⟨fun p => ⟨fun seen => ?_, fun reached => ?_⟩, closed, fun p => ?_, ?_, allNormal⟩
  · rcases (members p).mp seen with (old | rfl) | new
    · exact ((settled.reaches p).mp old).more _
    · exact .of_entry (by simp)
    · exact reachedFrom_found read (by simp) h p new
  · refine reached.induct (fun e member => (members e).mpr (Or.inl ?_)) closed
    rcases List.mem_append.mp member with old | new
    · exact Or.inl ((settled.parts e).mpr (Or.inl old))
    · exact Or.inr (List.mem_singleton.mp new)
  · rw [members, settled.parts, List.mem_append, List.mem_append, List.mem_singleton,
      or_right_comm (a := p ∈ entries), or_assoc]
  · refine List.pairwise_append.mpr ⟨settled.distinct, h.found_distinct, fun p old q new same => ?_⟩
    have seen : PathSet.Mem q visited := ⟨p, (settled.parts p).mpr (Or.inr old), same⟩
    exact (h.found_spec q new).1 (PathSet.mem_insert.mpr (Or.inl seen))

/-- One more walk that ends leaves things settled. -/
theorem Settled.after_walk {pass : Pass} (settled : Settled files entries found visited)
    (faithful : pass.Faithful files)
    (ended : (discover files pass.entry pass.source visited).failure = none) :
    Settled files (entries ++ entriesOf files [pass])
      (found ++ (discover files pass.entry pass.source visited).found)
      (discover files pass.entry pass.source visited).visited := by
  rcases discover_cases pass.source files pass.entry visited with
    ⟨_, failed, _⟩ | ⟨file, text, located, opened, walked⟩
  · exact nomatch ended.symm.trans failed
  · have named : entriesOf files [pass] = [file] := by
      simp [entriesOf, located, Except.toOption]
    have read : files.read file = .ok text := by
      cases given : pass.source with
      | none => simpa [given] using opened
      | some own =>
        obtain rfl : own = text := by simpa [given] using opened
        exact faithful file own located given
    rw [walked] at ended ⊢
    rw [named]
    exact settled.after_descent (Files.absolute_normal located) read (Descends.iff_outcome.mpr rfl) ended

end Step

/-- Every walk of a series leaves settled what it started from settled. -/
theorem Settled.after_walks {files : Files} {calls : List Pass} {entries found : List Path}
    {visited : PathSet} (settled : Settled files entries found visited)
    (faithful : ∀ pass ∈ calls, pass.Faithful files)
    (ended : ∀ walk ∈ passes files visited calls, walk.failure = none) {n : Nat} {walk : Walk}
    (nth : (passes files visited calls)[n]? = some walk) :
    Settled files (entries ++ entriesOf files (calls.take (n + 1)))
      (found ++ ((passes files visited calls).take (n + 1)).flatMap Walk.found) walk.visited := by
  induction calls generalizing entries found visited n with
  | nil => simp [Discovery.passes] at nth
  | cons pass later ih =>
    have first := settled.after_walk (faithful pass List.mem_cons_self)
      (ended _ List.mem_cons_self)
    cases n with
    | zero =>
      obtain rfl : Discovery.discover files pass.entry pass.source visited = walk := by
        simpa [Discovery.passes] using nth
      simpa [Discovery.passes] using first
    | succ n =>
      have rest := ih first (fun p h => faithful p (List.mem_cons_of_mem _ h))
        (fun w h => ended w (List.mem_cons_of_mem _ h)) nth
      have front : entriesOf files [pass] ++ entriesOf files (later.take (n + 1)) =
          entriesOf files ((pass :: later).take (n + 1 + 1)) := by
        rw [entriesOf, entriesOf, ← List.filterMap_append]
        rfl
      rw [List.append_assoc, front, List.append_assoc] at rest
      exact rest

/-- Walks that share one visited set lose nothing and repeat nothing, as long as they all end
and each reads its entry or is given what it would read. -/
theorem passes_settled (files : Files) (calls : List Pass)
    (faithful : ∀ pass ∈ calls, pass.Faithful files)
    (ended : ∀ walk ∈ passes files .empty calls, walk.failure = none) :
    ((passes files .empty calls).flatMap Walk.found).Pairwise (fun p q => ¬ Path.Same p q) ∧
    ∀ n walk, (passes files .empty calls)[n]? = some walk →
      Settled files (entriesOf files (calls.take (n + 1)))
        (((passes files .empty calls).take (n + 1)).flatMap Walk.found) walk.visited := by
  have after : ∀ n walk, (passes files .empty calls)[n]? = some walk →
      Settled files (entriesOf files (calls.take (n + 1)))
        (((passes files .empty calls).take (n + 1)).flatMap Walk.found) walk.visited :=
    fun n walk nth => (settled_empty files).after_walks faithful ended nth
  refine ⟨?_, after⟩
  cases last : (passes files .empty calls).getLast? with
  | none =>
    rw [List.getLast?_eq_none_iff.mp last]
    exact .nil
  | some walk =>
    rw [List.getLast?_eq_getElem?] at last
    have whole := (after _ walk last).distinct
    rwa [List.take_of_length_le (by omega)] at whole

/-- The directives of the first of the two files, in order. -/
def toB : Directive := ⟨1, 0, ⟨21, 25⟩, .double, "b.ts".toList, .ofString "b.ts"⟩

def toA : Directive := ⟨2, 30, ⟨21, 25⟩, .double, "a.ts".toList, .ofString "a.ts"⟩

def bothSeen : PathSet := ⟨[.ofString "/a.ts", .ofString "/b.ts"]⟩

/-- The second file is found, and the first one is not come back to. -/
theorem twoFiles_descent : Descends twoFiles (PathSet.empty.insert (.ofString "/a.ts"))
    (.ofString "/a.ts") [toB, toA] ⟨[.ofString "/b.ts"], bothSeen, none⟩ := by
  have fresh : (PathSet.empty.insert (.ofString "/a.ts")).contains
      (toB.target (Path.ofString "/a.ts").dir) = false := by decide
  have known : bothSeen.contains (toA.target (Path.ofString "/a.ts").dir) = true := by decide
  have inside : Descends twoFiles bothSeen (.ofString "/b.ts") (Directive.scan [])
      ⟨[], bothSeen, none⟩ := .done
  exact .entered fresh rfl inside rfl (.known known .done)

/-- The first of the two files, and then the second one with its text at hand. -/
def twoPasses : List Pass := [⟨.ofString "/x/../a.ts", none⟩, ⟨.ofString "/b.ts", some []⟩]

theorem twoPasses_outcomes : (passes twoFiles .empty twoPasses).map Walk.outcome =
    [⟨[.ofString "/b.ts"], bothSeen, none⟩, ⟨[], bothSeen, none⟩] := by
  have first : (discover twoFiles (.ofString "/x/../a.ts") none .empty).outcome =
      ⟨[.ofString "/b.ts"], bothSeen, none⟩ := by
    have located : twoFiles.absolute (.ofString "/x/../a.ts") = .ok (.ofString "/a.ts") := rfl
    rw [discover_opened none located rfl]
    exact twoFiles_descent.outcome_eq
  have second : (discover twoFiles (.ofString "/b.ts") (some []) bothSeen).outcome =
      ⟨[], bothSeen, none⟩ := by
    have located : twoFiles.absolute (.ofString "/b.ts") = .ok (.ofString "/b.ts") := rfl
    rw [discover_opened (some []) located rfl]
    exact Descends.done.outcome_eq
  have seen : (discover twoFiles (.ofString "/x/../a.ts") none .empty).visited = bothSeen :=
    congrArg Descent.visited first
  simp only [passes, twoPasses, List.map_cons, List.map_nil, first, seen, second]

theorem twoPasses_settled :
    ((∀ pass ∈ twoPasses, pass.Faithful twoFiles) ∧
      ∀ walk ∈ passes twoFiles .empty twoPasses, walk.failure = none) ∧
    ((passes twoFiles .empty twoPasses).flatMap Walk.found).Pairwise (fun p q => ¬ Path.Same p q) ∧
    ∀ n walk, (passes twoFiles .empty twoPasses)[n]? = some walk →
      Settled twoFiles (entriesOf twoFiles (twoPasses.take (n + 1)))
        (((passes twoFiles .empty twoPasses).take (n + 1)).flatMap Walk.found) walk.visited := by
  have faithful : ∀ pass ∈ twoPasses, pass.Faithful twoFiles := by
    intro pass member file text located given
    simp only [twoPasses, List.mem_cons, List.not_mem_nil, or_false] at member
    rcases member with rfl | rfl
    · contradiction
    · cases given
      cases located
      rfl
  have ended : ∀ walk ∈ passes twoFiles .empty twoPasses, walk.failure = none := by
    intro walk member
    have outcome := List.mem_map_of_mem (f := Walk.outcome) member
    rw [twoPasses_outcomes] at outcome
    simp only [List.mem_cons, List.not_mem_nil, or_false] at outcome
    rcases outcome with same | same
    · exact congrArg Descent.failure same
    · exact congrArg Descent.failure same
  exact ⟨⟨faithful, ended⟩, passes_settled twoFiles twoPasses faithful ended⟩

end TripleSlash.Discovery
