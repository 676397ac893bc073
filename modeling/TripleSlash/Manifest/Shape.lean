import TripleSlash.Json.Record

/-! The two things a project manifest is read for: the output file among its compiler
options and the list of its input files. -/
namespace TripleSlash.Manifest

open Json

/-- The texts of a manifest as they are written. -/
structure Written where
  outFile : Text
  files : List Text
deriving DecidableEq, Repr

def optionsName : Text := "struct TsConfigCompilerOptions".toList

def manifestName : Text := "struct TsConfigJson".toList

def outFileKey : Text := "outFile".toList

def optionsKey : Text := "compilerOptions".toList

def filesKey : Text := "files".toList

def optionsMember (outFile : Option Text) (key : Text) : Member (Option Text) :=
  if key = outFileKey then
    if outFile.isSome then .repeated
    else .read fun t => (textValue t).map fun (value, rest) => (some value, rest)
  else .ignored

def optionsObject (t : Text) : Except Fault (Inside Text) := do
  let (outFile, rest) ← members optionsMember (t.length + 1) true none t
  .ok (outFile.bind fun found => found.elim (.error (.missingField outFileKey)) .ok, rest)

def optionsList (t : Text) : Except Fault (Inside Text) := do
  let (more, rest) ← nextElement true t
  if more then
    let (outFile, rest) ← textValue rest
    .ok (.ok outFile, rest)
  else .ok (.error (.invalidLength 0 (optionsName ++ " with 1 element".toList)), rest)

def optionsValue (t : Text) : Except Fault (Text × Text) :=
  recordValue optionsName optionsObject optionsList t

def filesValue (t : Text) : Except Fault (List Text × Text) := listValue textValue t

/-- The fields of a manifest that were read so far. -/
structure Fields where
  outFile : Option Text
  files : Option (List Text)
deriving DecidableEq, Repr

def manifestMember (fields : Fields) (key : Text) : Member Fields :=
  if key = optionsKey then
    if fields.outFile.isSome then .repeated
    else .read fun t => (optionsValue t).map fun (value, rest) =>
      ({ fields with outFile := some value }, rest)
  else if key = filesKey then
    if fields.files.isSome then .repeated
    else .read fun t => (filesValue t).map fun (value, rest) =>
      ({ fields with files := some value }, rest)
  else .ignored

def Fields.complete (fields : Fields) : Except Cause Written :=
  match fields.outFile, fields.files with
  | none, _ => .error (.missingField optionsKey)
  | some _, none => .error (.missingField filesKey)
  | some outFile, some files => .ok ⟨outFile, files⟩

def manifestObject (t : Text) : Except Fault (Inside Written) := do
  let (fields, rest) ← members manifestMember (t.length + 1) true ⟨none, none⟩ t
  .ok (fields.bind Fields.complete, rest)

def tooShort (length : Nat) : Cause :=
  .invalidLength length (manifestName ++ " with 2 elements".toList)

def manifestList (t : Text) : Except Fault (Inside Written) := do
  let (more, rest) ← nextElement true t
  if !more then .ok (.error (tooShort 0), rest)
  else
    let (outFile, rest) ← optionsValue rest
    let (more, rest) ← nextElement false rest
    if !more then .ok (.error (tooShort 1), rest)
    else
      let (files, rest) ← filesValue rest
      .ok (.ok ⟨outFile, files⟩, rest)

/-- Reads the text of a manifest. -/
def Written.ofText (t : Text) : Except Fault Written :=
  document (recordValue manifestName manifestObject manifestList) t

end TripleSlash.Manifest
