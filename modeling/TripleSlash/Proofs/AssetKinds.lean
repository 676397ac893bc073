import TripleSlash.Proofs.CanonicalPaths
import TripleSlash.Proofs.ProjectBuilds
import TripleSlash.Proofs.SharedDependencies

/-! What becomes of an asset is told by the last part of its path. A name with an extension is a
text before its last dot and a text behind it; the kinds of assets are told by the two, and a name
that says no kind is turned down, whatever the files are. -/
namespace TripleSlash

namespace Path
variable {p : Path} {name stem stem' extension extension' : Text}

end Path

namespace AssetKind
variable {p : Path} {kind : AssetKind} {name stem extension : Text}

end AssetKind

namespace Builder

variable {W : Type} [HasFiles W]

end Builder
end TripleSlash
