import TripleSlash.Proofs.AnchoredLines
import TripleSlash.Proofs.AnchoredScan
import TripleSlash.Proofs.Scanning

/-! The bytes that anchoring changes. They are those of the spans that a scan of the source
reports for its relative directives: each of them is written anew, all at once, and no other byte
is touched. What is written makes no new relative directive, so an anchored text stays as it is
when it is anchored again, whatever file it is taken for. -/
namespace TripleSlash

/-- A span of bytes and what is written in its place. -/
structure Edit where
  span : Span
  bytes : Bytes

/-- Bytes from some offset on with the spans of edits written anew, and all others kept. -/
inductive Edited : Nat → List Edit → Bytes → Bytes → Prop where
  | done {n} : Edited n [] [] []
  | kept {n edits old new} (byte : UInt8) : Edited (n + 1) edits old new →
      Edited n edits (byte :: old) (byte :: new)
  | written {n edits old new} (gone bytes : Bytes) : Edited (n + gone.length) edits old new →
      Edited n (⟨⟨n, n + gone.length⟩, bytes⟩ :: edits) (gone ++ old) (bytes ++ new)

namespace Edited

variable {n : Nat} {edits edits' : List Edit} {old old' new new' : Bytes}

theorem keep (front : Bytes) (later : Edited (n + front.length) edits old new) :
    Edited n edits (front ++ old) (front ++ new) := by
  induction front generalizing n with
  | nil => exact later
  | cons byte front ih =>
    have next : n + (byte :: front).length = n + 1 + front.length := by
      rw [List.length_cons]
      omega
    rw [next] at later
    exact .kept byte (ih later)

theorem refl (n : Nat) (bytes : Bytes) : Edited n [] bytes bytes := by
  have whole := keep (n := n) bytes .done
  rwa [List.append_nil] at whole

/-- No edit begins in front of the bytes. -/
theorem le_start (edited : Edited n edits old new) : ∀ edit ∈ edits, n ≤ edit.span.start := by
  induction edited with
  | done => exact fun _ member => nomatch member
  | kept _ _ ih =>
    intro edit member
    have later := ih edit member
    omega
  | @written n _ _ _ gone _ _ ih =>
    intro edit member
    rcases List.mem_cons.mp member with rfl | member
    · exact Nat.le_refl n
    · have later := ih edit member
      omega

theorem not_written {gone bytes : Bytes}
    (edited : Edited (n + 1) (⟨⟨n, n + gone.length⟩, bytes⟩ :: edits) old new) : False := by
  have behind : n + 1 ≤ n := edited.le_start _ List.mem_cons_self
  omega

/-- The old bytes and the edits leave no choice for the new ones. -/
theorem unique (edited : Edited n edits old new) (other : Edited n edits' old' new')
    (same_edits : edits = edits') (same_old : old = old') : new = new' := by
  induction edited generalizing edits' old' new' with
  | done =>
    cases other with
    | done => rfl
    | kept => contradiction
    | written => contradiction
  | kept byte later ih =>
    cases other with
    | done => contradiction
    | kept byte' later' =>
      obtain ⟨rfl, same_rest⟩ := List.cons.inj same_old
      rw [ih later' same_edits same_rest]
    | written =>
      subst same_edits
      exact later.not_written.elim
  | written gone bytes _ ih =>
    cases other with
    | done => contradiction
    | kept _ later' =>
      subst same_edits
      exact later'.not_written.elim
    | written gone' bytes' later' =>
      simp only [List.cons.injEq, Edit.mk.injEq, Span.mk.injEq, true_and] at same_edits
      obtain ⟨⟨stop, rfl⟩, same_later⟩ := same_edits
      have long : gone.length = gone'.length := by omega
      obtain ⟨rfl, same_rest⟩ := List.append_inj same_old long
      rw [ih later' same_later same_rest]

end Edited

namespace Quote

theorem escape_eq_flatMap (q : Quote) (t : Text) : q.escape t = t.flatMap q.unit := by
  induction t with
  | nil => rfl
  | cons c t ih => rw [escape_cons, ih, List.flatMap_cons]

end Quote

namespace Anchoring
open Text

/-- What a relative path becomes: the directory with a backslash before each backslash and each
quote, a slash unless it ends with one, and the path as it is written. -/
def replacement (dir : Text) (d : Directive) : Text :=
  let escaped := dir.flatMap d.quote.unit
  (if escaped.getLast? = some '/' then escaped else escaped ++ ['/']) ++ d.raw

def edit (dir : Text) (d : Directive) : Edit := ⟨d.sourceSpan, Utf8.encode (replacement dir d)⟩

def isRelative (d : Directive) : Bool := !d.path.isAbsolute

/-- The edits for these directives, as far as their paths are relative. -/
def edits (dir : Text) (all : List Directive) : List Edit := (all.filter isRelative).map (edit dir)

variable {files : Files} {path file : Path} {dir source text : Text} {l : Layout}
  {all : List Directive}

theorem replacement_ofLayout (dir : Text) (line start : Nat) (l : Layout) :
    replacement dir (Directive.ofLayout line start l) = absoluteBody dir l.quote l.body := by
  have quote : (Directive.ofLayout line start l).quote = l.quote := rfl
  have raw : (Directive.ofLayout line start l).raw = l.body := rfl
  simp only [replacement, absoluteBody, quote, raw, ← Quote.escape_eq_flatMap]
  split
  · rfl
  · rw [List.append_assoc]
    rfl

theorem edits_absolute {d : Directive} (absolute : d.path.isAbsolute = true) :
    edits dir (d :: all) = edits dir all := by
  have dropped : isRelative d = false := by rw [isRelative, absolute]; rfl
  rw [edits, List.filter_cons_of_neg (by rw [dropped]; exact Bool.false_ne_true), edits]

theorem edits_relative {d : Directive} (relative : d.path.isAbsolute = false) :
    edits dir (d :: all) = edit dir d :: edits dir all := by
  have taken : isRelative d = true := by rw [isRelative, relative]; rfl
  rw [edits, List.filter_cons_of_pos taken, List.map_cons, edits]

/-- A line without a relative path is kept in front of those that follow it. -/
theorem edited_other {start : Nat} {piece : Text} {changes : List Edit} {old new : Bytes}
    (other : relative? piece = none) (later : Edited (start + Text.size piece) changes old new) :
    Edited start changes (Utf8.encode piece ++ old)
      (Utf8.encode (anchorPiece dir piece) ++ new) := by
  rw [anchorPiece_other other]
  rw [← Utf8.length_encode] at later
  exact later.keep _

/-- Of a line with a relative path the bytes of the path are written anew. -/
theorem edited_relative {start line : Nat} {changes : List Edit} {old new : Bytes}
    (relative : relative? l.text = some l)
    (later : Edited (start + Text.size l.text) changes old new) :
    Edited start (edit dir (Directive.ofLayout line start l) :: changes)
      (Utf8.encode l.text ++ old) (Utf8.encode (anchorPiece dir l.text) ++ new) := by
  have whole : Text.size l.text = Text.size l.before + Text.size l.body + Text.size l.after := by
    simp only [Layout.text, Text.size_append]
  have behind : start + Text.size l.text =
      start + (Utf8.encode l.before).length + (Utf8.encode l.body).length +
        (Utf8.encode l.after).length := by
    simp only [Utf8.length_encode]
    omega
  have here : edit dir (Directive.ofLayout line start l) =
      ⟨⟨start + (Utf8.encode l.before).length,
        start + (Utf8.encode l.before).length + (Utf8.encode l.body).length⟩,
        Utf8.encode (absoluteBody dir l.quote l.body)⟩ := by
    rw [edit, replacement_ofLayout, Directive.sourceSpan_ofLayout]
    simp only [Utf8.length_encode]
  have before : Utf8.encode l.text ++ old =
      Utf8.encode l.before ++ (Utf8.encode l.body ++ (Utf8.encode l.after ++ old)) := by
    simp only [Layout.text, Utf8.encode_append, List.append_assoc]
  have after : Utf8.encode (anchorPiece dir l.text) ++ new =
      Utf8.encode l.before ++
        (Utf8.encode (absoluteBody dir l.quote l.body) ++ (Utf8.encode l.after ++ new)) := by
    rw [anchorPiece_relative relative]
    change Utf8.encode (l.before ++ absoluteBody dir l.quote l.body ++ l.after) ++ new = _
    simp only [Utf8.encode_append, List.append_assoc]
  rw [behind] at later
  rw [here, before, after]
  exact .keep _ (.written _ _ (.keep _ later))

/-- Line by line, what is found on a line is what is changed of it. -/
theorem edited_pieces (dir : Text) (pieces : List Text) (line start : Nat) :
    Edited start (edits dir (Directive.scanFrom line start pieces)) (Utf8.encode pieces.flatten)
      (Utf8.encode (pieces.flatMap (anchorPiece dir))) := by
  induction pieces generalizing line start with
  | nil => exact .done
  | cons piece more ih =>
    have later := ih (line + 1) (start + Text.size piece)
    rw [List.flatten_cons, Utf8.encode_append, List.flatMap_cons, Utf8.encode_append,
      Directive.scanFrom]
    cases read : Layout.ofText? piece with
    | none =>
      have other : relative? piece = none := by rw [relative?, read]; rfl
      exact edited_other other later
    | some l =>
      have path : (Directive.ofLayout line start l).path = l.path := rfl
      change Edited start (edits dir (Directive.ofLayout line start l :: Directive.scanFrom
        (line + 1) (start + Text.size piece) more)) _ _
      cases absolute : l.path.isAbsolute with
      | true =>
        have other : relative? piece = none := by
          rw [Option.eq_none_iff_forall_ne_some]
          intro l' relative
          obtain ⟨read', inside⟩ := relative?_eq_some_iff.mp relative
          obtain rfl := Option.some.inj (read.symm.trans read')
          rw [absolute] at inside
          contradiction
        rw [edits_absolute (path ▸ absolute)]
        exact edited_other other later
      | false =>
        have relative := relative?_eq_some_iff.mpr ⟨read, absolute⟩
        obtain ⟨-, rfl⟩ := Layout.ofText?_eq_some_iff.mp read
        rw [edits_relative (path ▸ absolute)]
        exact edited_relative relative later

theorem mem_edits {change : Edit} :
    change ∈ edits dir all ↔ ∃ d ∈ all, d.path.isAbsolute = false ∧ edit dir d = change := by
  simp only [edits, isRelative, List.mem_map, List.mem_filter, Bool.not_eq_true', and_assoc]

/-- The spans of two directives of a source lie apart. -/
theorem apart_of_mem_scan {d e : Directive} (first : d ∈ Directive.scan source)
    (second : e ∈ Directive.scan source) (other : d ≠ e) :
    d.sourceSpan.stop < e.sourceSpan.start ∨ e.sourceSpan.stop < d.sourceSpan.start := by
  have apart := Directive.pairwise_scanFrom (pieces source) 1 0
  obtain ⟨i, inside, rfl⟩ := List.getElem_of_mem first
  obtain ⟨j, inside', rfl⟩ := List.getElem_of_mem second
  rcases Nat.lt_trichotomy i j with before | rfl | behind
  · exact .inl (List.pairwise_iff_getElem.mp apart i j inside inside' before)
  · exact absurd rfl other
  · exact .inr (List.pairwise_iff_getElem.mp apart j i inside' inside behind)

/-- A text that differs from the source in the spans of its relative directives only. -/
structure ChangesSpans (dir source text : Text) : Prop where
  edited : ∀ bytes, Edited 0 (edits dir (Directive.scan source)) (Utf8.encode source) bytes ↔
    bytes = Utf8.encode text
  unchanged : (∀ d ∈ Directive.scan source, d.path.isAbsolute = true) → text = source
  absolute : ∀ d ∈ Directive.scan source, d.path.isAbsolute = true →
    ∀ change ∈ edits dir (Directive.scan source),
      d.sourceSpan.stop < change.span.start ∨ change.span.stop < d.sourceSpan.start

theorem edited_anchorIn (dir source : Text) :
    Edited 0 (edits dir (Directive.scan source)) (Utf8.encode source)
      (Utf8.encode (anchorIn dir source)) := by
  have edited := edited_pieces dir (pieces source) 1 0
  rwa [flatten_pieces] at edited

theorem anchorIn_of_absolute
    (absolute : ∀ d ∈ Directive.scan source, d.path.isAbsolute = true) :
    anchorIn dir source = source := by
  have still : ∀ piece ∈ pieces source, anchorPiece dir piece = piece := by
    intro piece here
    refine anchorPiece_other (Option.eq_none_iff_forall_ne_some.mpr fun l relative => ?_)
    obtain ⟨read, inside⟩ := relative?_eq_some_iff.mp relative
    obtain ⟨d, member, path⟩ := Directive.path_mem_scan.mpr ⟨piece, here, l, read, rfl⟩
    have outside := absolute d member
    rw [path] at outside
    exact nomatch inside.symm.trans outside
  rw [anchorIn, List.flatMap_congr still, List.flatMap_id', flatten_pieces]

theorem anchorIn_changes_spans (dir source : Text) :
    ChangesSpans dir source (anchorIn dir source) := by
  refine ⟨fun bytes => ⟨fun edited => ?_, fun same => ?_⟩, anchorIn_of_absolute, ?_⟩
  · exact edited.unique (edited_anchorIn dir source) rfl rfl
  · exact same ▸ edited_anchorIn dir source
  · intro d member outside change among
    obtain ⟨e, found, inside, rfl⟩ := mem_edits.mp among
    have other : d ≠ e := by
      rintro rfl
      exact nomatch inside.symm.trans outside
    exact apart_of_mem_scan member found other

theorem anchor_of_located (located : files.absolute path = .ok file) (source : Text) :
    anchor files path source = .ok (anchorIn file.dir.text source) := by
  rw [anchor, located]
  rfl

/-- Anchoring changes just the spans of the relative directives that a scan reports. -/
theorem anchor_changes_spans (located : files.absolute path = .ok file) (source : Text) :
    ∃ text, anchor files path source = .ok text ∧ ChangesSpans file.dir.text source text :=
  ⟨anchorIn file.dir.text source, anchor_of_located located source,
    anchorIn_changes_spans file.dir.text source⟩

/-- A relative path behind wide characters, and one that stays since it is absolute. -/
theorem quoted_directory_changes_spans :
    (Files.ofTexts []).absolute (.ofString "/p\"q/main.ts") = .ok (.ofString "/p\"q/main.ts") ∧
      (∃ text, anchor (.ofTexts []) (.ofString "/p\"q/main.ts")
          "é\n///\u2003<reference path=\"ä.ts\" />\r\n/// <reference path='/c.ts' />".toList =
            .ok text ∧
        ChangesSpans (Path.ofString "/p\"q/main.ts").dir.text
          "é\n///\u2003<reference path=\"ä.ts\" />\r\n/// <reference path='/c.ts' />".toList text) ∧
      (edits (Path.ofString "/p\"q/main.ts").dir.text (Directive.scan
        "é\n///\u2003<reference path=\"ä.ts\" />\r\n/// <reference path='/c.ts' />".toList)) =
          [⟨⟨26, 31⟩, Utf8.encode "/p\\\"q/ä.ts".toList⟩] :=
  ⟨rfl, anchor_changes_spans rfl _, rfl⟩

/-- Whatever is anchored has no relative directive left, whatever the name of the directory. -/
theorem absolute_of_mem_scan_anchored (located : files.absolute path = .ok file) (source : Text) :
    ∀ d ∈ Directive.scan (anchorIn file.dir.text source), d.path.isAbsolute = true :=
  fun _ member =>
    (target_of_mem_scan (isAbsolute_dir located) (spaced_lead_dir located) member).1

theorem anchored_of_ok (done : anchor files path source = .ok text) :
    ∃ file, files.absolute path = .ok file ∧ text = anchorIn file.dir.text source := by
  cases located : files.absolute path with
  | error cause =>
    rw [anchor, located] at done
    contradiction
  | ok file =>
    rw [anchor_of_located located] at done
    exact ⟨file, rfl, (Except.ok.inj done).symm⟩

/-- An anchored text has no relative directive on any line, and it stays as it is when it is
anchored again, for whatever file and from wherever. -/
theorem anchor_settled (done : anchor files path source = .ok text) :
    (∀ line ∈ pieces text, ∀ d, Directive.parse? line = some d → d.path.isAbsolute = true) ∧
      ∀ (others : Files) (again : Path),
        anchor others again text = (others.absolute again).map fun _ => text := by
  obtain ⟨file, located, rfl⟩ := anchored_of_ok done
  have absolute := absolute_of_mem_scan_anchored located source
  refine ⟨fun line here d parsed => ?_, fun others again => ?_⟩
  · obtain ⟨l, read, rfl⟩ := Directive.parse?_eq_some_iff.mp parsed
    obtain ⟨d, member, path⟩ := Directive.path_mem_scan.mpr ⟨line, here, l, read, rfl⟩
    have outside := absolute d member
    rwa [path] at outside
  · simp only [anchor, anchorIn_of_absolute absolute]

/-- The directory breaks the line that it is written on, just in front of a slash, and has
quotes and backslashes besides. -/
theorem broken_line_settled :
    anchor (.ofTexts []) (.ofString "/a\n/// b\"c\\/main.ts")
        "/// <reference path=\"d.ts\" />".toList =
      .ok "/// <reference path=\"/a\n/ b\\\"c\\\\/d.ts\" />".toList ∧
    (∀ line ∈ pieces "/// <reference path=\"/a\n/ b\\\"c\\\\/d.ts\" />".toList,
      ∀ d, Directive.parse? line = some d → d.path.isAbsolute = true) ∧
    ∀ (others : Files) (again : Path),
      anchor others again "/// <reference path=\"/a\n/ b\\\"c\\\\/d.ts\" />".toList =
        (others.absolute again).map fun _ =>
          "/// <reference path=\"/a\n/ b\\\"c\\\\/d.ts\" />".toList := by
  have done : anchor (.ofTexts []) (.ofString "/a\n/// b\"c\\/main.ts")
      "/// <reference path=\"d.ts\" />".toList =
        .ok "/// <reference path=\"/a\n/ b\\\"c\\\\/d.ts\" />".toList := rfl
  exact ⟨done, anchor_settled done⟩

end Anchoring
end TripleSlash
