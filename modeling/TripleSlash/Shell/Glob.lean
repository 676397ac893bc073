import TripleSlash.Shell.State

/-! Fields that are patterns for paths. Such a field stands for the paths that fit it, in
order; one that nothing fits stands for itself. -/
namespace TripleSlash.Shell.Glob

/-- The names in a directory, in the order of their bytes. -/
def names (m : Machine) (dir : Location) : List Text :=
  let found := m.tree.entries.filterMap fun (place, _) =>
    if place ≠ [] ∧ place.dropLast = dir then place.getLast?.map Octets.ofText else none
  found.mergeSort Text.isLe

def segments : Marked → List Marked
  | [] => [[]]
  | c :: rest =>
    if c.1 = '/' then [] :: segments rest
    else match segments rest with
      | s :: more => (c :: s) :: more
      | [] => [[c]]

/-- The paths behind some others by one more segment. A name that starts with a dot fits only
what starts with one too. -/
def extend (m : Machine) (bases : List Text) (segment : Marked) : List Text :=
  if Pattern.isActive segment then
    let pattern := Pattern.ofMarked segment
    bases.flatMap fun base =>
      let dir : Text := if base = [] then ['.'] else base
      match m.tree.spot m.cwd (State.path dir) with
      | .ok (.taken place) =>
        (['.'] :: ['.', '.'] :: names m place).filterMap fun name =>
          let hidden := name.head? == some '.' && segment.head?.map (·.1) != some '.'
          if !hidden && pattern.fits name then some (base ++ name) else none
      | _ => []
  else bases.filterMap fun base =>
    let p := base ++ segment.map (·.1)
    let there := match m.tree.spotOfName m.cwd (State.path p) with
      | .ok (some (dir, name)) => (m.tree.find? (dir ++ [name])).isSome
      | .ok none => true
      | .error _ => false
    if there then some p else none

def walk (m : Machine) : List Text → List Marked → List Text
  | bases, [] => bases
  | bases, [last] => if last = [] then bases else extend m bases last
  | bases, segment :: more =>
    let found := if segment = [] then bases else extend m bases segment
    let dirs := found.filter fun p => p = [] || m.tree.isDirectory m.cwd (State.path p)
    walk m (dirs.map (· ++ ['/'])) more

/-- The texts that a field stands for. -/
def texts (m : Machine) (field : Marked) : List Text :=
  let plain := field.map (·.1)
  if Pattern.isActive field then
    let found := (walk m [[]] (segments field)).mergeSort Text.isLe
    if found = [] then [plain] else found
  else [plain]

end TripleSlash.Shell.Glob
