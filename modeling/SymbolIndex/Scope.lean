import SymbolIndex.Path.Basic

/-!
# What is of interest below a directory

Below a root, directories that hold tools, caches, builds or other people's code are left out, and so
is all that is hidden. Only the names below the root count, so a root may itself be in such a place.
-/
namespace SymbolIndex

namespace Scope

/-- Names of directories that hold tools, caches, builds and other people's code. -/
def ignoredNames : List String :=
  [".git", ".hg", ".svn", ".idea", ".vscode", ".yarn", ".npm",
    ".cache", "node_modules", ".next", ".turbo", ".parcel-cache", ".nuxt", ".svelte-kit", "build",
    "dist", "coverage", "target", ".venv", "venv", ".tox", ".mypy_cache", ".pytest_cache",
    "__pycache__",
    "vendor", "third_party", "third-party"]

/-- Names of files that tools write, and that declare nothing. -/
def noiseNames : List String := ["package-lock.json", "pnpm-lock.yaml", "npm-shrinkwrap.json"]

/-- Case does not matter. -/
def isIgnoredName (name : String) : Bool := ignoredNames.contains name.toLower

def isHiddenName (name : String) : Bool := name.startsWith "."

end Scope

namespace Path

/-- Whether a path is below `root` in a directory that is left out. -/
def isIgnoredBelow (root p : Path) : Bool := (root.namesBelow p).any Scope.isIgnoredName

/-- Whether a path is below `root` in something hidden. -/
def isHiddenBelow (root p : Path) : Bool := (root.namesBelow p).any Scope.isHiddenName

/-- Whether a directory below `root` is to be watched. -/
def isWatchableBelow (root p : Path) : Bool :=
  p.Same root || (root.isUnder p && !root.isIgnoredBelow p && !root.isHiddenBelow p)

/-- Whether changes of a path matter. Of several roots around it the first one decides. -/
def isRelevant (roots : List Path) (p : Path) : Bool :=
  match roots.find? (·.isUnder p) with
  | some root => !root.isIgnoredBelow p && !root.isHiddenBelow p
  | none => false

/-- Whether a file declares nothing, by its name. -/
def isNoise (p : Path) : Bool := p.fileName?.any fun name => Scope.noiseNames.contains name.toLower

end Path
end SymbolIndex
