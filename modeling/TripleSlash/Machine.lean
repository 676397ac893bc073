import TripleSlash.Action
import TripleSlash.FileTree

/-! A machine that programs run on: a file tree, the directory they stand in and the place
for scratch directories. What it shows of its files is a `Files`, since no path above a
fixed length is ever followed and there are only finitely many shorter ones. -/
namespace TripleSlash

structure Machine where
  tree : FileTree
  cwd : Location
  /-- The directory in which scratch directories are made. -/
  temporary : Location
  /-- How many scratch directories were made so far. -/
  scratches : Nat
  /-- The names that programs find set, with their values. -/
  environment : List (Text × Text)
deriving Repr

/-- The streams that a program writes to. -/
inductive Stream where
  | output
  | complaints
deriving DecidableEq, Repr

namespace FileTree

theorem size_le_of_readText {tree : FileTree} {cwd : Location} {p : Path} {t : Text}
    (h : readText tree cwd p = .ok t) : Text.size p.text ≤ longestPath := by
  apply Decidable.byContradiction
  intro long
  have refused : ∃ cause, check p.text = .error cause := by
    unfold check
    split
    · exact ⟨_, rfl⟩
    · split
      · exact ⟨_, rfl⟩
      · exact ⟨_, by rw [if_pos (Nat.lt_of_not_le long)]⟩
  obtain ⟨cause, hc⟩ := refused
  simp [readText, readBytes, entry, spot, hc, bind, Except.bind] at h

end FileTree

namespace Machine

def place (location : Location) : Path := ⟨'/' :: Text.joinWith '/' location⟩

def currentDir (m : Machine) : Except IoError Path :=
  if (m.tree.find? m.cwd).isSome then .ok (place m.cwd) else .error .notFound

def files (m : Machine) : Files where
  currentDir := m.currentDir
  read := m.tree.readText m.cwd
  present := m.tree.present m.cwd
  isFile := m.tree.isFile m.cwd
  finite := by
    obtain ⟨all, h⟩ := Text.exists_all_up_to FileTree.longestPath
    refine ⟨all.map Path.mk, fun p t read => List.mem_map.2 ⟨p.text, h _ ?_, rfl⟩⟩
    exact Nat.le_trans (Text.length_le_size _) (FileTree.size_le_of_readText read)
  rooted dir h := by
    unfold currentDir at h
    split at h
    · cases h
      rfl
    · contradiction

def write (m : Machine) (p : Path) (text : Text) : Except IoError Unit × Machine :=
  match m.tree.write m.cwd p (Utf8.encode text) with
  | .error cause => (.error cause, m)
  | .ok tree => (.ok (), { m with tree })

instance : HasFiles Machine := ⟨files⟩

/-- The places of the streams. -/
def streamPlaces : List (Location × Stream) :=
  [(["dev", "stdout"].map String.toList, .output),
    (["dev", "stderr"].map String.toList, .complaints)]

/-- The stream that a path leads to. -/
def stream? (m : Machine) (p : Path) : Option Stream :=
  match m.tree.spotToWrite m.cwd p with
  | .ok place => streamPlaces.lookup place
  | .error _ => none

def deposit (m : Machine) (p : Path) (item : FileTree.Item) : Except IoError Unit × Machine :=
  match m.tree.deposit m.cwd p item with
  | .error cause => (.error cause, m)
  | .ok tree => (.ok (), { m with tree })

/-- Puts items one after the other, up to the first that fails. -/
def depositAll (m : Machine) : List (Path × FileTree.Item) → Except IoError Unit × Machine
  | [] => (.ok (), m)
  | (p, item) :: more =>
    match m.deposit p item with
    | (.ok (), m) => m.depositAll more
    | (.error cause, m) => (.error cause, m)

/-- The name of the scratch directory with a number: six digits behind a fixed word. -/
def scratchName (n : Nat) : Text :=
  let digits := Text.ofNat (n % 1000000)
  "tsasset".toList ++ List.replicate (6 - digits.length) '0' ++ digits

/-- A directory for the files of one run of a program. -/
structure ScratchDirectory where
  path : Path
  /-- Where the path led when the directory was made, whatever links it went over. -/
  place : Location

def makeScratch (m : Machine) : Except IoError ScratchDirectory × Machine :=
  let path := place (m.temporary ++ [scratchName m.scratches])
  match m.tree.makeDirectoryAt m.cwd path with
  | .error cause => (.error cause, { m with scratches := m.scratches + 1 })
  | .ok (place, tree) => (.ok ⟨path, place⟩, { m with tree, scratches := m.scratches + 1 })

def removeScratch (m : Machine) (scratch : ScratchDirectory) : Machine :=
  { m with tree := m.tree.erase scratch.place }

end Machine
end TripleSlash
