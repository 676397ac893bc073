import Mathlib.Data.List.DropRight
import TripleSlash.CommandLine
import TripleSlash.Proofs.CanonicalPaths

/-! The parent that a path has by its text. It is written in front of the last segment that
counts, so it leads by the segments in front of that one, from where the path itself starts. No
directory is asked which one is above it, and nothing is above the segments of a relative path.
The segments themselves are names if the path does not step up. -/
namespace TripleSlash

theorem Text.joinWith_cons_append {mark : Char} {front back : List Text} (first : Text)
    (some_back : back ≠ []) : Text.joinWith mark (first :: (front ++ back)) =
      Text.joinWith mark (first :: front) ++ mark :: Text.joinWith mark back := by
  induction front generalizing first with
  | nil =>
    obtain ⟨next, rest, rfl⟩ := List.exists_cons_of_ne_nil some_back
    rfl
  | cons next rest ih =>
    have later := ih next
    simp only [List.cons_append, Text.joinWith] at later ⊢
    rw [later, List.append_assoc, List.cons_append]

namespace Path
open TripleSlash.Part

section Trimming
variable {segments : List Text}

/-- What is dropped at the end of some segments does not count. -/
theorem trimEnd_split (segments : List Text) :
    ∃ unseen, segments = trimEnd segments ++ unseen ∧ unseen.filterMap inner? = [] := by
  refine ⟨segments.rtakeWhile fun segment => (inner? segment).isNone,
    List.rdropWhile_append_rtakeWhile.symm, List.filterMap_eq_nil_iff.mpr fun segment h => ?_⟩
  simpa using List.mem_rtakeWhile_imp h

theorem filterMap_trimEnd (segments : List Text) :
    (trimEnd segments).filterMap inner? = segments.filterMap inner? := by
  obtain ⟨unseen, split, nothing⟩ := trimEnd_split segments
  conv_rhs => rw [split, List.filterMap_append, nothing, List.append_nil]

/-- The last segment that is left counts. -/
theorem trimEnd_concat (some_left : trimEnd segments ≠ []) :
    ∃ init last part, trimEnd segments = init ++ [last] ∧ inner? last = some part := by
  have counts : ¬ (inner? ((trimEnd segments).getLast some_left)).isNone = true :=
    List.rdropWhile_last_not _ _ some_left
  rw [Option.isNone_iff_eq_none] at counts
  obtain ⟨part, seen⟩ := Option.ne_none_iff_exists'.mp counts
  exact ⟨_, _, part, (List.dropLast_append_getLast some_left).symm, seen⟩

end Trimming

section Beginnings
variable {p : Path} {first : Text} {more pieces : List Text}

theorem segments_joinWith (free : ∀ s ∈ pieces, '/' ∉ s) (some_piece : pieces ≠ []) :
    segments ⟨Text.joinWith '/' pieces⟩ = pieces.filterMap inner? := by
  rw [segments, Text.splitAt_joinWith free some_piece]

/-- A path is one from the root if its text is cut in front of the first character. -/
theorem isAbsolute_cut (cut : Text.splitAt '/' p.text = first :: more) :
    p.isAbsolute = true ↔ first = [] ∧ more ≠ [] := by
  obtain ⟨text⟩ := p
  cases text with
  | nil =>
    obtain ⟨rfl, rfl⟩ := List.cons.inj cut
    simp [isAbsolute]
  | cons c rest =>
    by_cases slash : c = '/'
    · rw [slash, Text.splitAt_mark] at cut
      obtain ⟨rfl, rfl⟩ := List.cons.inj cut
      simp [isAbsolute, slash, Text.splitAt_ne_nil]
    · obtain ⟨segment, later, inside⟩ := List.exists_cons_of_ne_nil (Text.splitAt_ne_nil '/' rest)
      rw [Text.splitAt_cons_of_ne slash inside] at cut
      obtain ⟨rfl, -⟩ := List.cons.inj cut
      simp [isAbsolute, slash]

end Beginnings

/-- How the text of a parent is related to the text of the path. -/
structure IsParent (q p : Path) : Prop where
  in_front : ∃ rest, rest ≠ [] ∧ p.text = q.text ++ rest
  segments : q.segments = p.segments.dropLast
  isAbsolute : q.isAbsolute = p.isAbsolute

section Parents
variable {p q : Path} {first : Text} {more front dropped : List Text} {part : Part}

/-- If nothing behind the first segment counts, that one has the empty path above it. -/
theorem parent?_unseen (cut : Text.splitAt '/' p.text = first :: more) (trimmed : trimEnd more = []) :
    p.parent? = if first = [] then none else some ⟨[]⟩ := by
  simp only [parent?, cut, trimmed]

/-- Otherwise the last one that counts is dropped, with those that do not count beside it. -/
theorem parent?_seen (cut : Text.splitAt '/' p.text = first :: more) (some_left : trimEnd more ≠ []) :
    ∃ front dropped part, more = front ++ dropped ∧ dropped.filterMap inner? = [part] ∧
      p.parent? = some ⟨if Text.joinWith '/' (first :: front) = [] ∧ p.isAbsolute then ['/']
        else Text.joinWith '/' (first :: front)⟩ := by
  obtain ⟨init, last, part, seen, counts⟩ := trimEnd_concat some_left
  obtain ⟨unseen, split, nothing⟩ := trimEnd_split more
  obtain ⟨between, split', nothing'⟩ := trimEnd_split init
  refine ⟨trimEnd init, between ++ last :: unseen, part, ?_, ?_, ?_⟩
  · rw [seen] at split
    rw [split]
    conv_lhs => rw [split']
    simp
  · rw [List.filterMap_append, nothing', List.filterMap_cons_some counts, nothing]
    rfl
  · have some_seen : init ++ [last] ≠ [] := by simp
    simp only [parent?, cut, seen, List.dropLast_concat]

theorem segments_of_orphan (orphan : p.parent? = none) : p.segments = [] := by
  obtain ⟨first, more, cut⟩ := List.exists_cons_of_ne_nil (Text.splitAt_ne_nil '/' p.text)
  by_cases trimmed : trimEnd more = []
  · rw [parent?_unseen cut trimmed] at orphan
    have empty : first = [] := by simpa using orphan
    have unseen : inner? [] = none := rfl
    rw [segments, cut, empty, List.filterMap_cons_none unseen, ← filterMap_trimEnd, trimmed]
    rfl
  · obtain ⟨_, _, _, _, _, above⟩ := parent?_seen cut trimmed
    simp [orphan] at above

theorem isParent_empty (cut : Text.splitAt '/' p.text = first :: more) (some_first : first ≠ [])
    (trimmed : trimEnd more = []) : IsParent ⟨[]⟩ p where
  in_front := by
    refine ⟨p.text, fun empty => ?_, rfl⟩
    rw [empty] at cut
    exact some_first (List.cons.inj cut).1.symm
  segments := by
    have one : p.segments = (inner? first).toList := by
      rw [segments, cut, List.filterMap_cons, ← filterMap_trimEnd more, trimmed]
      cases inner? first <;> rfl
    rw [one]
    cases inner? first <;> rfl
  isAbsolute := by
    have relative : ¬ p.isAbsolute = true := fun h => some_first ((isAbsolute_cut cut).mp h).1
    exact (Bool.eq_false_iff.mpr relative).symm

/-- In front of the first slash there may be nothing, and then the slash is the parent. -/
theorem isParent_front (cut : Text.splitAt '/' p.text = first :: (front ++ dropped))
    (one : dropped.filterMap inner? = [part]) :
    IsParent ⟨if Text.joinWith '/' (first :: front) = [] ∧ p.isAbsolute then ['/']
      else Text.joinWith '/' (first :: front)⟩ p := by
  have some_dropped : dropped ≠ [] := by
    rintro rfl
    contradiction
  have whole : p.text =
      Text.joinWith '/' (first :: front) ++ '/' :: Text.joinWith '/' dropped := by
    rw [← Text.joinWith_cons_append first some_dropped, ← cut, Text.joinWith_splitAt]
  have free : ∀ s ∈ first :: front, '/' ∉ s := fun s h =>
    Text.not_mem_of_mem_splitAt (by rw [cut]; exact List.mem_append_left dropped h)
  have segments_front := segments_joinWith free (List.cons_ne_nil _ _)
  have before : segments ⟨Text.joinWith '/' (first :: front)⟩ = p.segments.dropLast := by
    rw [segments_front, segments, cut, ← List.cons_append, List.filterMap_append, one,
      List.dropLast_concat]
  by_cases slash : Text.joinWith '/' (first :: front) = [] ∧ p.isAbsolute
  · obtain ⟨nothing, absolute⟩ := slash
    rw [if_pos ⟨nothing, absolute⟩]
    rw [nothing] at whole before
    refine ⟨⟨Text.joinWith '/' dropped, fun empty => ?_, whole⟩, before, absolute.symm⟩
    have unseen : dropped.filterMap inner? = [] := by
      have cut_empty : segments ⟨Text.joinWith '/' dropped⟩ = _ :=
        segments_joinWith (fun s h => Text.not_mem_of_mem_splitAt
          (by rw [cut]; exact List.mem_cons_of_mem _ (List.mem_append_right front h))) some_dropped
      rw [← cut_empty, empty]
      rfl
    simp [unseen] at one
  · rw [if_neg slash]
    refine ⟨⟨_, List.cons_ne_nil _ _, whole⟩, before, ?_⟩
    rw [Bool.eq_iff_iff, isAbsolute_cut cut,
      isAbsolute_cut (Text.splitAt_joinWith free (List.cons_ne_nil _ _))]
    have absolute := isAbsolute_cut cut
    have no_slash : first = [] → front ≠ [] := by
      rintro rfl rfl
      exact slash ⟨rfl, absolute.mpr ⟨rfl, by simpa using some_dropped⟩⟩
    simp only [and_congr_right_iff]
    exact fun empty => ⟨fun h => by simp [h], fun _ => no_slash empty⟩

theorem isParent_of_parent? (above : p.parent? = some q) : IsParent q p := by
  obtain ⟨first, more, cut⟩ := List.exists_cons_of_ne_nil (Text.splitAt_ne_nil '/' p.text)
  by_cases trimmed : trimEnd more = []
  · rw [parent?_unseen cut trimmed] at above
    split at above
    · contradiction
    · rename_i some_first
      rw [← Option.some.inj above]
      exact isParent_empty cut some_first trimmed
  · obtain ⟨front, dropped, part, rfl, one, shape⟩ := parent?_seen cut trimmed
    rw [← Option.some.inj (shape.symm.trans above)]
    exact isParent_front cut one

end Parents

section Straight
variable {p : Path}

/-- Parts that can stand behind others and do not step up are names. -/
theorem exists_names {parts : List Part} (inner : ∀ part ∈ parts, Inner part)
    (straight : .up ∉ parts) : ∃ names : List Text, parts = names.map .name := by
  induction parts with
  | nil => exact ⟨[], rfl⟩
  | cons part rest ih =>
    obtain ⟨names, shape⟩ := ih (fun p h => inner p (List.mem_cons_of_mem _ h))
      fun h => straight (List.mem_cons_of_mem _ h)
    cases inner part List.mem_cons_self with
    | up => exact absurd List.mem_cons_self straight
    | @name text _ => exact ⟨text :: names, by rw [shape]; rfl⟩

/-- A path to a file that does not step up is one of names. -/
theorem segments_of_straight {file : Text} (named : p.fileName? = some file)
    (straight : .up ∉ p.parts) :
    ∃ names : List Text, p.segments = (names ++ [file]).map .name := by
  obtain ⟨mark, parts, unnamed⟩ : ∃ mark, p.parts = mark ++ p.segments ∧ .name file ∉ mark := by
    rcases parts_cases p with ⟨-, parts⟩ | ⟨-, parts | parts⟩
    · exact ⟨[.root], parts, by simp⟩
    · exact ⟨[], parts, by simp⟩
    · exact ⟨[.here], parts, by simp⟩
  have inner : ∀ part ∈ p.segments, Inner part :=
    filterMap_inner?_sound fun _ => Text.not_mem_of_mem_splitAt
  rw [parts] at straight
  obtain ⟨all, shape⟩ := exists_names inner fun h => straight (List.mem_append_right mark h)
  have last := fileName?_eq_some_iff.mp named
  rw [parts, shape] at last
  rcases List.eq_nil_or_concat all with rfl | ⟨names, file', rfl⟩
  · rw [List.map_nil, List.append_nil] at last
    exact absurd (List.mem_of_getLast? last) unnamed
  · simp only [List.concat_eq_append, List.map_append, List.map_singleton, ← List.append_assoc,
      List.getLast?_concat, Option.some.injEq, Part.name.injEq] at last
    exact ⟨names, by rw [shape, List.concat_eq_append, last]⟩

end Straight
end Path

namespace CommandLine

variable {p q : Path}

/-- The current directory has no segments, as a dot and as the empty parent of a name. -/
theorem searchDir_of_parent (above : p.parent? = some q) :
    (searchDir p).segments = q.segments ∧ (searchDir p).isAbsolute = q.isAbsolute := by
  obtain ⟨text⟩ := q
  simp only [searchDir, above]
  split
  · rename_i empty
    subst empty
    exact ⟨rfl, rfl⟩
  · exact ⟨rfl, rfl⟩

/-- The search begins at the directory of a path, by its text. -/
theorem segments_searchDir (p : Path) : (searchDir p).segments = p.segments.dropLast := by
  cases above : p.parent? with
  | none =>
    rw [Path.segments_of_orphan above, searchDir, above]
    rfl
  | some q => rw [(searchDir_of_parent above).1, (Path.isParent_of_parent? above).segments]

/-- It begins where the path starts, unless the path is the root. -/
theorem isAbsolute_searchDir (some_segment : p.segments ≠ []) :
    (searchDir p).isAbsolute = p.isAbsolute := by
  cases above : p.parent? with
  | none => exact absurd (Path.segments_of_orphan above) some_segment
  | some q => rw [(searchDir_of_parent above).2, (Path.isParent_of_parent? above).isAbsolute]

end CommandLine
end TripleSlash
