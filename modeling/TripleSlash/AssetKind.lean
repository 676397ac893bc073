import TripleSlash.Path

/-! What a file is to the compiler, told by its name alone. Declaration files yield no
output and are nothing to compile. -/
namespace TripleSlash

inductive AssetKind where
  /-- One source. -/
  | script
  /-- A project manifest. -/
  | project
deriving DecidableEq, Repr

namespace AssetKind

def scriptExtensions : List Text := ["ts".toList, "mts".toList, "cts".toList]

def declarationEndings : List Text := [".d.ts".toList, ".d.mts".toList, ".d.cts".toList]

def manifestName : Text := "tsconfig".toList

def ofName? (name extension : Text) : Option AssetKind :=
  if extension = manifestName then some project
  else if extension = "json".toList ∧ manifestName.isPrefixOf name then some project
  else if extension ∈ scriptExtensions ∧ ¬ declarationEndings.any (·.isSuffixOf name) then
    some script
  else none

def ofPath? (p : Path) : Option AssetKind := do
  ofName? (← p.fileName?) (← p.extension?)

end AssetKind
end TripleSlash
