import TripleSlash.Shell.Format
import TripleSlash.Shell.Glob
import TripleSlash.Shell.Tool

/-! Tools that make, copy, move and remove files, directories and links. -/
namespace TripleSlash.Shell.Tool

def cat (words : List Text) : Tool Unit :=
  withOptions 1 ⟨"nbsuveEtTA", "", [("number", 'n')]⟩ words fun o => do
    let found ← sources 1 about (orInput o.words)
    if o.has 'n' || o.has 'b' then
      let text := found.flatMap (·.2)
      let pad (n : Nat) : Text :=
        let digits := Text.ofNat n
        List.replicate (6 - digits.length) ' ' ++ digits ++ ['\t']
      let (_, shown) := (Text.pieces text).foldl (fun (n, shown) l =>
        if o.has 'b' && l == ['\n'] then (n, l :: shown)
        else (n + 1, (pad n ++ l) :: shown)) (1, [])
      say shown.reverse.flatten
    else say (found.flatMap (·.2))

/-- The place and name that a path stands for without following a link at its end. -/
def nameOf? (m : Machine) (p : Path) : Except IoError Location := do
  match ← m.tree.spotOfName m.cwd p with
  | some (dir, name) => .ok (dir ++ [name])
  | none =>
    match ← m.tree.spot m.cwd p with
    | .taken place => .ok place
    | .free .. => .error .notFound

/-- What a path names, not following a link at its end. -/
def named (m : Machine) (p : Path) : Except IoError Entry := do
  match m.tree.find? (← nameOf? m p) with
  | some entry => .ok entry
  | none => .error .notFound

def isDirectory (m : Machine) (p : Text) : Bool := m.tree.isDirectory m.cwd (path p)

/-- The last name of a path. -/
def lastName (p : Text) : Text :=
  let bare := (p.reverse.dropWhile (· = '/')).reverse
  if bare = [] ∧ p ≠ [] then ['/'] else (bare.reverse.takeWhile (· ≠ '/')).reverse

def joined (dir name : Text) : Text :=
  if dir.getLast? = some '/' then dir ++ name else dir ++ '/' :: name

/-- The tree with all below one place copied to another. -/
def copyBelow (tree : FileTree) (source target : Location) : FileTree :=
  let below := tree.entries.filter fun (place, _) =>
    source.isPrefixOf place && place.length > source.length
  below.foldl (fun tree (place, entry) => tree.put (target ++ place.drop source.length) entry) tree

/-- Copies one thing to a path. -/
def copyOne (deep keepLinks : Bool) (p target : Text) : Tool Unit := do
  let m := (← get).machine
  let found := if keepLinks then named m (path p) else m.tree.entry m.cwd (path p)
  match found.map fun e => if e = .void then Entry.file [] false else e with
  | .error cause =>
    fail 1 ("cannot stat ".toList ++ quoted p ++ ": ".toList ++ problem cause)
  | .ok .directory =>
    if !deep then fail 1 ("-r not specified; omitting directory ".toList ++ quoted p)
    else
      let complaint := "cannot create directory ".toList ++ quoted target
      let bare := (target.reverse.dropWhile (· = '/')).reverse
      match m.tree.spot m.cwd (path p), m.tree.spot m.cwd (path bare) with
      | .ok (.taken source), .ok (.free dir name) =>
        let place := dir ++ [name]
        setTree (copyBelow (m.tree.put place .directory) source place)
      | .ok (.taken source), .ok (.taken place) =>
        if m.tree.find? place = some .directory then setTree (copyBelow m.tree source place)
        else fail 1 ("cannot overwrite non-directory ".toList ++ quoted target
          ++ " with directory ".toList ++ quoted p)
      | _, .error cause => fail 1 (complaint ++ ": ".toList ++ problem cause)
      | _, _ => fail 1 (complaint ++ ": ".toList ++ problem .notFound)
  | .ok (.link linked) =>
    change ("cannot create symbolic link ".toList ++ quoted target)
      (m.tree.makeLink m.cwd (path target) linked)
  | .ok .void => pure ()
  | .ok (.file bytes executable) =>
    let same : Bool := match m.tree.spot m.cwd (path p), m.tree.spot m.cwd (path target) with
      | .ok (.taken a), .ok (.taken b) => a == b
      | _, _ => false
    if same then
      fail 1 (quoted p ++ " and ".toList ++ quoted target
        ++ " are the same file".toList)
    else if target = "/dev/stdout".toList then say (Octets.ofBytes bytes)
    else
      let fresh := !m.tree.present m.cwd (path target)
      match m.tree.write m.cwd (path target) bytes with
      | .error .isDirectory =>
        let cause := if isDirectory m target then IoError.isDirectory else .notDirectory
        fail 1 ("cannot create regular file ".toList ++ quoted target ++ ": ".toList
          ++ problem cause)
      | .error cause =>
        fail 1 ("cannot create regular file ".toList ++ quoted target ++ ": ".toList
          ++ problem cause)
      | .ok tree =>
        let tree := if fresh then
          ((tree.setExecutable m.cwd (path target) executable).toOption).getD tree else tree
        setTree tree

/-- Moves one thing to a path. -/
def moveOne (p target : Text) : Tool Unit := do
  let m := (← get).machine
  let complaint := "cannot move ".toList ++ quoted p ++ " to ".toList ++ quoted target
  match nameOf? m (path p), named m (path p) with
  | .ok source, .ok entry =>
    match nameOf? m (path target) with
    | .error cause => fail 1 (complaint ++ ": ".toList ++ problem cause)
    | .ok place =>
      if place = source then
        fail 1 (quoted p ++ " and ".toList ++ quoted target
          ++ " are the same file".toList)
      else if source.isPrefixOf place then
        fail 1 ("cannot move ".toList ++ quoted p ++ " to a subdirectory of itself, ".toList
          ++ quoted target)
      else if entry ≠ .directory ∧ m.tree.find? place = some .directory then
        fail 1 ("cannot overwrite directory ".toList ++ quoted target
          ++ " with non-directory".toList)
      else
        let moved := copyBelow ((m.tree.erase place).put place entry) source place
        setTree (moved.erase source)
  | .error cause, _ | _, .error cause =>
    fail 1 ("cannot stat ".toList ++ quoted p ++ ": ".toList ++ problem cause)

/-- Brings things to the last of some words, which is a directory if there are several. -/
def bring (o : Options) (one : Text → Text → Tool Unit) : Tool Unit := do
  let toDirectory := o.value? 't'
  let named := match toDirectory with
    | some dir => o.words ++ [dir]
    | none => o.words
  match named.getLast?, named.dropLast with
  | none, _ => missing "missing file operand" 1
  | some only, [] =>
    complain ("missing destination file operand after ".toList ++ quoted only)
    advise 1
  | some target, all =>
    let m := (← get).machine
    let target := target
    if (isDirectory m target ∧ !o.has 'T') ∨ toDirectory.isSome then
      for p in all do one p (joined target (lastName p))
    else match all with
      | [p] => one p target
      | _ =>
        let cause := if m.tree.present m.cwd (path target) then IoError.notDirectory else .notFound
        fail 1 ("target ".toList ++ quoted target ++ ": ".toList
          ++ problem cause)

def cp (words : List Text) : Tool Unit :=
  withOptions 1 ⟨"abdfHilLnprsuvxPRTZ", "tS", [("recursive", 'r'), ("force", 'f'),
    ("archive", 'a')]⟩ words fun o =>
      bring o fun p target => do
        let deep := o.has 'r' || o.has 'R' || o.has 'a'
        if o.has 'v' then sayLine (quoted p ++ " -> ".toList ++ quoted target)
        copyOne deep (o.has 'a' || o.has 'd' || o.has 'P' || (deep && !o.has 'L')) p target

def mv (words : List Text) : Tool Unit :=
  withOptions 1 ⟨"bfinuvTZ", "tS", [("force", 'f')]⟩ words fun o =>
    bring o fun p target => do
      if o.has 'v' then
        sayLine ("renamed ".toList ++ quoted p ++ " -> ".toList ++ quoted target)
      moveOne p target

def rm (words : List Text) : Tool Unit :=
  withOptions 1 ⟨"dfirvIR", "", [("recursive", 'r'), ("force", 'f')]⟩ words fun o => do
    if o.words = [] ∧ !o.has 'f' then missing "missing operand" 1
    for p in o.words do
      let m := (← get).machine
      let complaint := "cannot remove ".toList ++ quoted p
      match named m (path p), nameOf? m (path p) with
      | .ok entry, .ok place =>
        let deep := o.has 'r' || o.has 'R'
        let name := lastName p
        if entry = .directory ∧ !deep then
          fail 1 (complaint ++ ": ".toList ++ problem .isDirectory)
        else if name = ['.'] ∨ name = ['.', '.'] then
          fail 1 ("refusing to remove '.' or '..' directory: skipping ".toList ++ quoted p)
        else
          if o.has 'v' then sayLine ("removed ".toList ++ quoted p)
          setTree (m.tree.erase place)
      | .error cause, _ | _, .error cause =>
        let absent := cause = .notFound ∨ cause = .notDirectory
        if !(o.has 'f' && absent) then fail 1 (complaint ++ ": ".toList ++ problem cause)

def rmdir (words : List Text) : Tool Unit :=
  withOptions 1 ⟨"pv", "", [("parents", 'p')]⟩ words fun o => do
    if o.words = [] then missing "missing operand" 1
    for p in o.words do
      let m := (← get).machine
      let complaint := "failed to remove ".toList ++ quoted p
      match named m (path p), nameOf? m (path p) with
      | .ok .directory, .ok place =>
        if Glob.names m place = [] then setTree (m.tree.erase place)
        else fail 1 (complaint ++ ": ".toList ++ problem .directoryNotEmpty)
      | .ok _, _ => fail 1 (complaint ++ ": ".toList ++ problem .notDirectory)
      | .error cause, _ => fail 1 (complaint ++ ": ".toList ++ problem cause)

def mkdir (words : List Text) : Tool Unit :=
  withOptions 1 ⟨"pvZ", "m", [("parents", 'p'), ("mode", 'm')]⟩ words fun o => do
    if o.words = [] then missing "missing operand" 1
    for p in o.words do
      let m := (← get).machine
      let isBlocked (q : Path) : Bool :=
        m.tree.present m.cwd q && !m.tree.isDirectory m.cwd q
      let complaint (p : Text) : Text := "cannot create directory ".toList ++ quoted p
      if o.has 'p' then
        match (FileTree.lineage (path p)).tail.find? isBlocked with
        | some q => fail 1 (complaint (ofPath q) ++ ": ".toList ++ problem .notDirectory)
        | none => change (complaint p) (m.tree.makeDirectories m.cwd (path p))
      else change (complaint p) (m.tree.makeDirectory m.cwd (path p))

def touch (words : List Text) : Tool Unit :=
  withOptions 1 ⟨"acfhm", "drt", [("no-create", 'c')]⟩ words fun o => do
    if o.words = [] then missing "missing file operand" 1
    for p in o.words do
      let m := (← get).machine
      if !(m.tree.present m.cwd (path p) || o.has 'c') then
        change ("cannot touch ".toList ++ quoted p) (m.tree.write m.cwd (path p) [])

def ln (words : List Text) : Tool Unit :=
  withOptions 1 ⟨"bdfinrsvFLPT", "tS", [("symbolic", 's'), ("force", 'f')]⟩ words fun o => do
    let o := match o.words with
      | [p] => { o with words := [p, ['.']] }
      | _ => o
    bring o fun p target => do
      let m := (← get).machine
      let there := (named m (path target)).toOption.isSome
      if there && o.has 'f' then
        match nameOf? m (path target) with
        | .ok place => setTree (m.tree.erase place)
        | .error _ => pure ()
      let m := (← get).machine
      if o.has 's' then
        change ("failed to create symbolic link ".toList ++ quoted target)
          (m.tree.makeLink m.cwd (path target) (Octets.toText p))
      else match m.tree.entry m.cwd (path p) with
        | .error cause =>
          fail 1 ("failed to access ".toList ++ quoted p ++ ": ".toList ++ problem cause)
        | .ok .directory =>
          fail 1 (p ++ ": hard link not allowed for directory".toList)
        | .ok entry =>
          if there && !o.has 'f' then
            fail 1 ("failed to create hard link ".toList ++ quoted target ++ ": ".toList
              ++ problem .alreadyExists)
          else match m.tree.spotToWrite m.cwd (path target) with
            | .ok place => setTree (m.tree.put place entry)
            | .error cause =>
              fail 1 ("failed to create hard link ".toList ++ quoted target ++ ": ".toList
                ++ problem cause)

/-- Whether a mode lets a file be executed, if it says so at all. -/
def executableMode? (mode : Text) : Option (Option Bool) :=
  if mode ≠ [] ∧ mode.all Format.isOctal then
    some (some ((Arithmetic.digits 8 mode).1 % 128 / 64 % 2 == 1
      || (Arithmetic.digits 8 mode).1 % 16 / 8 % 2 == 1
      || (Arithmetic.digits 8 mode).1 % 2 == 1))
  else
    let who := mode.takeWhile ("ugoa".toList.contains ·)
    match mode.drop who.length with
    | '+' :: what => some (if what.contains 'x' then some true else none)
    | '-' :: what =>
      some (if what.contains 'x' && (who == [] || who.contains 'a') then some false else none)
    | '=' :: what => some (some (what.contains 'x'))
    | _ => none

/-- The options of `chmod`. A mode may start with a dash as well. -/
def modeOptions : Known :=
  ⟨"Rcfv", "", [("recursive", 'R'), ("changes", 'c'), ("silent", 'f'), ("quiet", 'f'),
    ("verbose", 'v')]⟩

def chmod (words : List Text) : Tool Unit := do
  let isMode (w : Text) : Bool := match w with
    | '-' :: c :: _ => "rwxXstugoa,+=01234567".toList.contains c
    | _ => false
  let given := words.filter fun w => !isMode w
  withOptions 1 modeOptions given fun o => do
  let modes := words.filter isMode
  match (if modes = [] then o.words else modes ++ o.words) with
  | [] => missing "missing operand" 1
  | mode :: files =>
    match executableMode? mode, files with
    | none, _ =>
      complain ("invalid mode: ".toList ++ quoted mode)
      advise 1
    | _, [] =>
      complain ("missing operand after ".toList ++ quoted mode)
      advise 1
    | some executable, files =>
      for p in files do
        let m := (← get).machine
        match m.tree.entry m.cwd (path p), executable with
        | .error cause, _ =>
          fail 1 ("cannot access ".toList ++ quoted p ++ ": ".toList ++ problem cause)
        | .ok _, none => pure ()
        | .ok _, some executable =>
          change ("changing permissions of ".toList ++ quoted p)
            (m.tree.setExecutable m.cwd (path p) executable)

def ls (words : List Text) : Tool Unit :=
  withOptions 2 ⟨"abcdfghiklmnopqrstuvxABCDFGHLNQRSUXZ1", "ITw", [("all", 'a')]⟩ words fun o => do
    let m := (← get).machine
    let all := (if o.words = [] then [['.']] else o.words).mergeSort Text.isLe
    let found := all.filter fun p => (named m (path p)).toOption.isSome
    for p in all do
      match named m (path p) with
      | .ok _ => pure ()
      | .error cause =>
        fail 2 ("cannot access ".toList ++ quoted p ++ ": ".toList ++ problem cause)
    let listed (p : Text) : Bool := isDirectory m p && !o.has 'd'
    let files := found.filter fun p => !listed p
    let dirs := found.filter listed
    for p in files do sayLine p
    let inside (p : Text) : List Text :=
      let names := match m.tree.spot m.cwd (path p) with
        | .ok (.taken place) => Glob.names m place
        | _ => []
      let names := if o.has 'a' then ['.'] :: ['.', '.'] :: names
        else if o.has 'A' then names
        else names.filter (·.head? ≠ some '.')
      if o.has 'p' then
        names.map fun n => if isDirectory m (joined p n) then n ++ ['/'] else n
      else names
    let titled := all.length > 1
    let mut first := files.isEmpty
    for p in dirs do
      if !first then say ['\n']
      first := false
      if titled then sayLine (p ++ [':'])
      say (unlines (inside p))

/-- The path of a place with all links followed. -/
def realOf? (m : Machine) (p : Text) : Except IoError Text := do
  match ← m.tree.spot m.cwd (path p) with
  | .taken place => .ok (ofPath (Machine.place place))
  | .free dir name => .ok (ofPath (Machine.place (dir ++ [name])))

def readlink (words : List Text) : Tool Unit :=
  withOptions 1 ⟨"femnqsvz", "", [("canonicalize", 'f')]⟩ words fun o => do
    if o.words = [] then missing "missing operand" 1
    for p in o.words do
      let m := (← get).machine
      let ending : Text := if o.has 'n' then [] else ['\n']
      if o.has 'f' || o.has 'e' || o.has 'm' then
        match realOf? m p with
        | .ok t => say (t ++ ending)
        | .error _ => finish 1
      else match named m (path p) with
        | .ok (.link target) => say (Octets.ofText target ++ ending)
        | _ => finish 1

def realpath (words : List Text) : Tool Unit :=
  withOptions 1 ⟨"eLmPqsz", "", []⟩ words fun o => do
    if o.words = [] then missing "missing operand" 1
    for p in o.words do
      match realOf? (← get).machine p with
      | .ok t => sayLine t
      | .error cause => fail 1 (about p cause)

/-- Makes a file, or a directory, with a fresh name. -/
def mktemp (words : List Text) : Tool Unit :=
  withOptions 1 ⟨"dqtuV", "p", [("directory", 'd')]⟩ words fun o => do
    if o.words.length > 1 then return ← missing "too many templates" 1
    let m := (← get).machine
    let dir := (o.value? 'p').getD (ofPath (Machine.place m.temporary))
    let p := match o.words with
      | [] => joined dir ("tmp.".toList ++ Machine.scratchName m.scratches)
      | model :: _ =>
        let bare := (model.reverse.dropWhile (· = 'X')).reverse
        bare ++ (Machine.scratchName m.scratches).reverse.take (model.length - bare.length)
    let m := { m with scratches := m.scratches + 1 }
    setMachine m
    change ("failed to create file via template ".toList ++ quoted p)
      (if o.has 'd' then m.tree.makeDirectory m.cwd (path p)
        else m.tree.write m.cwd (path p) [])
    sayLine p

def tee (words : List Text) : Tool Unit :=
  withOptions 1 ⟨"aip", "", [("append", 'a')]⟩ words fun o => do
    let text ← takeInput
    say text
    for p in o.words do
      let m := (← get).machine
      let old := if o.has 'a' then (m.tree.readBytes m.cwd (path p)).toOption.getD [] else []
      match m.tree.write m.cwd (path p) (old ++ Octets.toBytes text) with
      | .ok tree => setTree tree
      | .error cause => fail 1 (about p cause)

/-- What is looked for below a directory. -/
structure Wanted where
  name : Option Pattern
  kind : Option Text
  least : Nat
  most : Nat

def Wanted.fits (w : Wanted) (depth : Nat) (name : Text) (entry : Entry) : Bool :=
  let kind : Text := match entry with
    | .directory => ['d']
    | .file .. => ['f']
    | .link _ => ['l']
    | .void => ['c']
  w.least ≤ depth && w.name.all (·.fits name) && w.kind.all (· == kind)

/-- The paths at and below a place that are wanted. -/
def below (m : Machine) (w : Wanted) : Nat → Nat → Text → Location → List Text
  | 0, _, _, _ => []
  | fuel + 1, depth, p, place =>
    match m.tree.find? place with
    | none => []
    | some entry =>
      let here := if w.fits depth (lastName p) entry then [p] else []
      if entry = .directory ∧ depth < w.most then
        here ++ (Glob.names m place).flatMap fun name =>
          below m w fuel (depth + 1) (joined p name) (place ++ [Octets.toText name])
      else here

/-- What some words look for, or the word that nothing is known of. -/
def wantedOf : Wanted → List Text → Except Text Wanted
  | w, [] => .ok w
  | w, flag :: value :: rest =>
    match String.ofList flag with
    | "-name" =>
      wantedOf { w with name := some (Pattern.ofMarked (value.map fun c => (c, false))) } rest
    | "-type" => wantedOf { w with kind := some value } rest
    | "-mindepth" => wantedOf { w with least := (Arithmetic.digits 10 value).1 } rest
    | "-maxdepth" => wantedOf { w with most := (Arithmetic.digits 10 value).1 } rest
    | "-print" => wantedOf w (value :: rest)
    | _ => .error flag
  | w, [flag] => if flag = "-print".toList then .ok w else .error flag

def find (words : List Text) : Tool Unit := do
  let isStart (w : Text) : Bool := w.head? != some '-' || w == ['-']
  let words := if words.head? = some ['-', '-'] then words.tail else words
  let starts := words.takeWhile isStart
  match wantedOf ⟨none, none, 0, 1000⟩ (words.dropWhile isStart) with
  | .error word => fail 1 ("unknown predicate `".toList ++ word ++ ['\''])
  | .ok w =>
    for p in (if starts = [] then [['.']] else starts) do
      let m := (← get).machine
      match nameOf? m (path p), named m (path p) with
      | .ok place, .ok _ => say (unlines (below m w (m.tree.entries.length + 2) 0 p place))
      | .error cause, _ | _, .error cause =>
        fail 1 (quoted p ++ ": ".toList ++ problem cause)

/-- Compares two files byte by byte. -/
def cmp (words : List Text) : Tool Unit :=
  let advise : Tool Unit := do
    complain (advice (← get).name)
    finish 2
  let known : Known := ⟨"bclsv", "in", [("silent", 's'), ("quiet", 's')]⟩
  reading false advise known words fun o => do
    match o.words with
    | a :: rest =>
      let b := rest.head?.getD ['-']
      match ← source a, ← source b with
      | .ok x, .ok y =>
        let common := ((x.zip y).takeWhile fun (c, d) => c = d).length
        if x = y then pure ()
        else
          finish 1
          if !o.has 's' then
            if common = x.length ∨ common = y.length then
              let short := if common = x.length then a else b
              let lines := (x.take common).count '\n'
              if common = 0 then complain ("EOF on ".toList ++ short ++ " which is empty".toList)
              else
                let inside := (x.take common).getLast? ≠ some '\n'
                complain ("EOF on ".toList ++ short ++ " after byte ".toList
                  ++ Text.ofNat common ++ (if inside then ", in line ".toList else ", line ".toList)
                  ++ Text.ofNat (if inside then lines + 1 else lines))
            else
              sayLine (a ++ [' '] ++ b ++ " differ: char ".toList ++ Text.ofNat (common + 1)
                ++ ", line ".toList ++ Text.ofNat ((x.take common).count '\n' + 1))
      | .error cause, _ => if !o.has 's' then fail 2 (about a cause) else finish 2
      | _, .error cause => if !o.has 's' then fail 2 (about b cause) else finish 2
    | [] =>
      complain "missing operand after 'cmp'".toList
      advise

end TripleSlash.Shell.Tool
