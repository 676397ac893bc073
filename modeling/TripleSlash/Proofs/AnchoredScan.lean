import Mathlib.Data.List.Chain
import TripleSlash.Proofs.Anchored

/-! What is scanned off an anchored text. The name of a directory may hold line feeds, and
then it breaks the lines that it is written on; but no two slashes stand next to each other in
it, so no line that begins inside it is a directive, and neither is the line that it breaks.
Every directive of the anchored text is a whole anchored line. -/
namespace TripleSlash

namespace Layout

variable {l : Layout} {s : Text}

/-- What is put behind a directive is behind its end mark. -/
theorem ofText?_append (read : ofText? s = some l) (t : Text) :
    ofText? (s ++ t) = some { l with rest := l.rest ++ t } := by
  obtain ⟨formed, rfl⟩ := ofText?_eq_some_iff.mp read
  refine ofText?_eq_some_iff.mpr ⟨{ formed with }, ?_⟩
  simp only [text, before, after, List.append_assoc, List.cons_append]

theorem slashes_prefix (read : ofText? s = some l) : ['/', '/'] <+: s := by
  obtain ⟨-, rfl⟩ := ofText?_eq_some_iff.mp read
  rw [text_eq]
  exact ⟨'/' :: _, rfl⟩

end Layout

theorem Directive.paths_scanFrom (line start : Nat) (all : List Text) :
    (scanFrom line start all).map Directive.path =
      all.filterMap fun piece => (Layout.ofText? piece).map Layout.path := by
  induction all generalizing line start with
  | nil => rfl
  | cons piece more ih =>
    rw [scanFrom, List.map_append, ih, List.filterMap_cons]
    cases Layout.ofText? piece <;> rfl

/-- A path is referred to in a source if it is on one of the lines. -/
theorem Directive.path_mem_scan {source : Text} {p : Path} :
    (∃ d ∈ scan source, d.path = p) ↔
      ∃ piece ∈ Text.pieces source, ∃ l, Layout.ofText? piece = some l ∧ l.path = p := by
  rw [← List.mem_map, scan, paths_scanFrom, List.mem_filterMap]
  simp only [Option.map_eq_some_iff]

namespace Anchoring
open Text

/-- No two slashes stand next to each other. -/
def Spaced (t : Text) : Prop := t.IsChain fun a b => ¬ (a = '/' ∧ b = '/')

theorem Spaced.of_append_right {s t : Text} (spaced : Spaced (s ++ t)) : Spaced t :=
  List.IsChain.right_of_append spaced

theorem spaced_name {name t : Text} (no_slash : '/' ∉ name) (spaced : Spaced t) :
    Spaced (name ++ t) := by
  induction name with
  | nil => exact spaced
  | cons c name ih =>
    simp only [List.mem_cons, not_or] at no_slash
    exact List.IsChain.cons (ih no_slash.2) fun _ _ both => no_slash.1 both.1.symm

/-- Names with a slash before each and one at the end. -/
def trail (names : List Text) : Text := names.flatMap ('/' :: ·) ++ ['/']

theorem spaced_trail {names : List Text} (proper : ∀ name ∈ names, Part.IsName name) :
    Spaced (trail names) := by
  induction names with
  | nil => exact List.IsChain.singleton '/'
  | cons name names ih =>
    have isName := proper name List.mem_cons_self
    obtain ⟨c, rest, rfl⟩ := List.exists_cons_of_ne_nil isName.not_empty
    have later := spaced_name isName.no_slash (ih fun n h => proper n (List.mem_cons_of_mem _ h))
    have plain : c ≠ '/' := fun h => isName.no_slash (h ▸ List.mem_cons_self)
    rw [trail, List.flatMap_cons, List.append_assoc, List.cons_append]
    exact List.isChain_cons_cons.mpr ⟨fun both => plain both.2, later⟩

theorem text_ofParts_cons (name : Text) (names : List Text) :
    (Path.ofParts (.root :: (name :: names).map .name)).text =
      (name :: names).flatMap ('/' :: ·) := by
  rw [Path.ofParts, Path.map_text_names]
  induction names generalizing name with
  | nil => simp [joinWith]
  | cons next names ih => simpa [joinWith] using ih next

theorem getLast?_slashed (init : List Text) {last : Text} (isName : Part.IsName last) :
    ((init ++ [last]).flatMap ('/' :: ·)).getLast? ≠ some '/' := by
  intro slash
  rw [List.flatMap_append, List.flatMap_singleton, List.append_cons,
    List.getLast?_append_of_ne_nil _ isName.not_empty] at slash
  exact isName.no_slash (List.mem_of_getLast? slash)

theorem lead_ofParts {names : List Text} (proper : ∀ name ∈ names, Part.IsName name) :
    lead (Path.ofParts (.root :: names.map .name)).text = trail names := by
  rcases List.eq_nil_or_concat names with rfl | ⟨init, last, rfl⟩
  · rfl
  · rw [List.concat_eq_append] at proper ⊢
    have isName : Part.IsName last := proper last (by simp)
    have text : (Path.ofParts (.root :: (init ++ [last]).map .name)).text =
        (init ++ [last]).flatMap ('/' :: ·) := by
      cases init <;> exact text_ofParts_cons _ _
    rw [text, lead, if_neg (getLast?_slashed init isName), trail]

theorem spaced_lead_dir {files : Files} {path file : Path}
    (located : files.absolute path = .ok file) : Spaced (lead file.dir.text) := by
  obtain ⟨names, proper, rfl⟩ := Files.absolute_shape located
  have fewer : ∀ name ∈ names.dropLast, Part.IsName name :=
    fun name h => proper name (List.dropLast_subset _ h)
  rw [Path.dir_ofParts proper, lead_ofParts fewer]
  exact spaced_trail fewer

section Broken
variable {q : Quote} {s t : Text}

theorem head?_escape_append (spaced : Spaced ('/' :: s)) (other : t.head? ≠ some '/') :
    (q.escape s ++ t).head? ≠ some '/' := by
  cases s with
  | nil => exact other
  | cons c s =>
    have plain : c ≠ '/' := fun slash => (List.isChain_cons_cons.mp spaced).1 ⟨rfl, slash⟩
    rw [Quote.escape_cons]
    unfold Quote.unit
    split <;> simp [plain]

/-- No line of an escaped name begins with slashes, up to the line it ends on. -/
theorem no_slashes_of_mem_pieces (spaced : Spaced s) (other : t.head? ≠ some '/')
    (tail : ∀ piece ∈ pieces t, ¬ ['/', '/'] <+: piece) :
    ∀ piece ∈ pieces (q.escape s ++ t), ¬ ['/', '/'] <+: piece := by
  induction s with
  | nil => exact tail
  | cons c s ih =>
    intro piece member slashes
    have later := ih spaced.tail
    rw [Quote.escape_cons] at member
    unfold Quote.unit at member
    split at member
    · rename_i special
      have plain : c ≠ '/' := by
        rintro rfl
        exact special.elim (fun h => q.char_ne_slash h.symm) (by decide)
      rcases mem_pieces_cons member with ⟨begun, rfl, -⟩ | member
      · simp at slashes
      · rcases mem_pieces_cons member with ⟨begun, rfl, -⟩ | member
        · simp [plain.symm] at slashes
        · exact later piece member slashes
    · rcases mem_pieces_cons member with ⟨begun, rfl, front⟩ | member
      · obtain ⟨rfl, next⟩ := List.cons_prefix_cons.mp slashes
        obtain ⟨more, shape⟩ := next.trans front
        have begins : '/' :: more = q.escape s ++ t := shape
        refine head?_escape_append (q := q) spaced other ?_
        rw [← begins]
        rfl
      · exact later piece member slashes

end Broken

variable {dir piece q : Text} {l l' : Layout}

theorem head?_ne_slash (relative : l.path.isAbsolute = false) : l.body.head? ≠ some '/' := by
  intro slash
  have start : l.path.text.head? = some '/' := (Quote.head?_decode _ _).mpr slash
  simp [Path.isAbsolute, start] at relative

theorem no_slashes_behind (formed : l.WellFormed) (relative : l.path.isAbsolute = false)
    (t : Text) : ¬ ['/', '/'] <+: l.body ++ t := by
  have other := head?_ne_slash relative
  obtain ⟨c, body, shape⟩ := List.exists_cons_of_ne_nil formed.body_some
  rw [shape] at other ⊢
  intro slashes
  obtain ⟨rfl, -⟩ := List.cons_prefix_cons.mp slashes
  exact other rfl

theorem rest_lt_after (l : Layout) : l.rest.length < l.after.length := by
  simp only [Layout.after, List.cons_append, List.length_cons, List.length_append]
  omega

/-- A directive is no directive any more when its end mark is cut off. -/
theorem ofText?_cut_off {s t : Text} (read : Layout.ofText? (s ++ (t ++ l.after)) = some l) :
    Layout.ofText? s = none := by
  cases first : Layout.ofText? s with
  | none => rfl
  | some l' =>
    have same := Option.some.inj ((Layout.ofText?_append first _).symm.trans read)
    have short := rest_lt_after l
    have long : l.rest = l'.rest ++ (t ++ l.after) := by rw [← congrArg Layout.rest same]
    simp only [long, List.length_append] at short
    omega

/-- What comes after a line feed in the name of the directory is no directive: it does not
begin with slashes. -/
theorem ofText?_behind_break {t : Text} (formed : l.WellFormed)
    (relative : l.path.isAbsolute = false) (line : IsLine l.text) (spaced : Spaced t)
    (member : q ∈ pieces (l.quote.escape t ++ (l.body ++ l.after))) :
    Layout.ofText? q = none := by
  obtain ⟨-, body, ending⟩ := parts_of_line line
  have rear : IsLine (l.body ++ l.after) := (isLine_append (after_ne_nil l)).mpr ⟨body, ending⟩
  have bare : ∀ p ∈ pieces (l.body ++ l.after), ¬ ['/', '/'] <+: p := by
    rw [pieces_line rear]
    intro p h
    rw [List.mem_singleton.mp h]
    exact no_slashes_behind formed relative l.after
  have other : (l.body ++ l.after).head? ≠ some '/' := by
    rw [List.head?_append_of_ne_nil _ formed.body_some]
    exact head?_ne_slash relative
  cases scanned : Layout.ofText? q with
  | none => rfl
  | some l' =>
    exact absurd (Layout.slashes_prefix scanned)
      (no_slashes_of_mem_pieces spaced other bare q member)

/-- An anchored line that is broken by a line feed in the name of the directory. -/
theorem anchored_text_broken {s t : Text} (broken : lead dir = s ++ '\n' :: t) :
    (anchored dir l).text =
      (l.before ++ l.quote.escape s) ++ '\n' :: (l.quote.escape t ++ (l.body ++ l.after)) := by
  have unit : l.quote.unit '\n' = ['\n'] :=
    if_neg fun special => special.elim (fun h => l.quote.char_ne_newline h.symm) (by decide)
  change l.before ++ absoluteBody dir l.quote l.body ++ l.after = _
  simp only [absoluteBody_eq, broken, Quote.escape_append, Quote.escape_cons, unit,
    List.append_assoc, List.cons_append, List.nil_append]

theorem ofText?_broken (line : IsLine piece) (relative : relative? piece = some l)
    (spaced : Spaced (lead dir)) (broken : '\n' ∈ lead dir)
    (member : q ∈ pieces (anchorPiece dir piece)) : Layout.ofText? q = none := by
  have whole : Layout.ofText? (anchorPiece dir piece) = some (anchored dir l) :=
    ofText?_anchorPiece relative
  obtain ⟨read, inside⟩ := relative?_eq_some_iff.mp relative
  obtain ⟨formed, rfl⟩ := Layout.ofText?_eq_some_iff.mp read
  obtain ⟨s, t, split, free⟩ := List.eq_append_cons_of_mem broken
  have front : '\n' ∉ l.before ++ l.quote.escape s := by
    simp only [List.mem_append, not_or]
    exact ⟨(parts_of_line line).1, fun h => (Quote.mem_escape h).elim (by decide) free⟩
  rw [anchorPiece_relative relative, anchored_text_broken split] at member whole
  rw [pieces_first front] at member
  rcases List.mem_cons.mp member with rfl | later
  · rw [List.append_cons, ← List.append_assoc (l.quote.escape t)] at whole
    exact ofText?_cut_off (l := anchored dir l) whole
  · exact ofText?_behind_break formed inside line (split ▸ spaced).of_append_right.tail later

/-- A directive on an anchored line is the whole line. -/
theorem eq_of_mem_pieces_anchorPiece (line : IsLine piece) (spaced : Spaced (lead dir))
    (member : q ∈ pieces (anchorPiece dir piece)) (read : Layout.ofText? q = some l) :
    q = anchorPiece dir piece := by
  cases relative : relative? piece with
  | none =>
    rw [anchorPiece_other relative, pieces_line line] at member
    rw [anchorPiece_other relative, List.mem_singleton.mp member]
  | some l₀ =>
    by_cases broken : '\n' ∈ lead dir
    · exact nomatch (ofText?_broken line relative spaced broken member).symm.trans read
    · have free : '\n' ∉ dir := mt newline_mem_lead.mpr broken
      rw [pieces_line (isLine_anchorPiece free line)] at member
      exact List.mem_singleton.mp member

/-- A directive of an anchored source has an absolute path, and from anywhere it leads to a
file that some directive of the source leads to. -/
theorem target_of_mem_scan {dir : Path} (absolute : dir.isAbsolute = true)
    (spaced : Spaced (lead dir.text)) {source : Text} {d' : Directive}
    (member : d' ∈ Directive.scan (anchorIn dir.text source)) :
    d'.path.isAbsolute = true ∧
      ∃ d ∈ Directive.scan source, ∀ base, d'.target base = d.target dir := by
  obtain ⟨q, among, l', read, same⟩ := Directive.path_mem_scan.mp ⟨d', member, rfl⟩
  rw [pieces_anchorIn, List.mem_flatMap] at among
  obtain ⟨piece, here, part⟩ := among
  obtain rfl := eq_of_mem_pieces_anchorPiece (isLine_of_mem_pieces here) spaced part read
  simp only [Directive.target, ← same]
  cases relative : relative? piece with
  | none =>
    rw [anchorPiece_other relative] at read
    have outside : l'.path.isAbsolute = true := by
      rw [← Bool.not_eq_false]
      exact fun inside => nomatch relative.symm.trans (relative?_eq_some_iff.mpr ⟨read, inside⟩)
    obtain ⟨d, original, path⟩ := Directive.path_mem_scan.mpr ⟨piece, here, l', read, rfl⟩
    refine ⟨outside, d, original, fun base => ?_⟩
    rw [path, Path.resolve_of_absolute outside, Path.resolve_of_absolute outside]
  | some l =>
    obtain ⟨read', inside⟩ := relative?_eq_some_iff.mp relative
    obtain rfl := Option.some.inj ((ofText?_anchorPiece relative).symm.trans read)
    obtain ⟨d, original, path⟩ := Directive.path_mem_scan.mpr ⟨piece, here, l, read', rfl⟩
    refine ⟨?_, d, original, fun base => ?_⟩
    · rw [anchored_path]
      exact isAbsolute_lead absolute _
    · rw [path, resolve_anchored absolute inside]

end Anchoring
end TripleSlash
