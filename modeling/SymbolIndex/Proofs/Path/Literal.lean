import SymbolIndex.Language.Basic
import SymbolIndex.Proofs.FileSystem.Lookup
import SymbolIndex.Scope

/-!
# Names and paths that are written out

What a text starts with, and what it is in lower case, the library finds out in a way that does not reduce.
Here both are told by the characters of the text, and so are the components of a path and what is asked of
a name. For a name or a path that is written out, that can be decided. A look-up goes on as long as there
are links to follow; with a bound on its steps (`FileSystem.resolveIn`) it can be computed, too.
-/
namespace SymbolIndex

variable {p : Path} {name : String}

namespace Text

def lower (s : String) : String := .ofList (s.toList.map Char.toLower)

theorem toLower_eq (s : String) : s.toLower = lower s := by
  apply String.toList_inj.1
  show (s.map Char.toLower).toList = _
  rw [String.toList_map, lower, String.toList_ofList]

theorem startsWith_eq (s t : String) : s.startsWith t = t.toList.isPrefixOf s.toList := by
  rw [Bool.eq_iff_iff, String.startsWith_string_iff, List.isPrefixOf_iff_prefix]

end Text

namespace Scope

theorem isHiddenName_eq (name : String) : isHiddenName name = ".".toList.isPrefixOf name.toList :=
  Text.startsWith_eq ..

theorem isIgnoredName_eq (name : String) : isIgnoredName name = ignoredNames.contains (Text.lower name) := by
  rw [isIgnoredName, Text.toLower_eq]

end Scope

theorem Path.components_eq (p : Path) : p.components =
    if "/".toList.isPrefixOf p.text.toList then .root :: p.steps
    else if p.pieces.head? = some "." then .here :: p.steps
    else p.steps := by
  rw [← Text.startsWith_eq]
  rfl

theorem Path.isNoise_eq (h : p.fileName? = some name) :
    p.isNoise = Scope.noiseNames.contains (Text.lower name) := by
  rw [isNoise, h, Option.any_some, Text.toLower_eq]

theorem Language.ofPath_eq (h : p.fileName? = some name) : ofPath p =
    ((Path.extensionOf? name).bind fun ext => all.find? (·.extensions.contains (Text.lower ext))).getD
      unknown := by
  rw [ofPath, Path.extension?, h, Option.bind_some]
  cases Path.extensionOf? name with
  | none => rfl
  | some ext => rw [Option.map_some, Option.getD_some, ofExtension, Text.toLower_eq, Option.bind_some]

/-! ### Look-ups of a path that is written out -/

namespace FileSystem

variable {fs : FileSystem} {root n : FileNode} {place : Place} {follow : Bool} {links steps : Nat}
  {todo : List String} {r : Except IoFault (Place × FileNode)}

theorem piecesOf_eq (text : String) : piecesOf text =
    if "/".toList.isPrefixOf text.toList then (Text.splitWhere Path.isSlash text).tail
    else Text.splitWhere Path.isSlash text := by
  rw [piecesOf, Text.startsWith_eq]

/-- Goes on from a place as `walkPath` does, unless it takes too many steps. -/
def walkIn (root : FileNode) (follow : Bool) : Nat → Nat → Place → FileNode → List String →
    Option (Except IoFault (Place × FileNode))
  | 0, _, _, _, _ => none
  | _ + 1, _, place, n, [] => some (n.bar?.elim (.ok (place, n)) (.error ·.fault))
  | steps + 1, links, place, n, piece :: rest =>
    if !n.isDirectory then some (.error n.faultBelow)
    else if piece = "" ∨ piece = "." then walkIn root follow steps links place n rest
    else if piece = ".." then
      walkIn root follow steps links place.dropLast ((root.at? place.dropLast).getD root) rest
    else
      match n.entry? piece with
      | none => some (.error (if piece.utf8ByteSize > nameLimit then .nameTooLong else .notFound))
      | some (.link target) =>
        if rest = [] ∧ follow = false then some (.ok (place ++ [piece], .link target))
        else
          match links with
          | 0 => some (.error .tooManyLinks)
          | links + 1 =>
            let pieces := Text.splitWhere Path.isSlash target
            if "/".toList.isPrefixOf target.toList then
              walkIn root follow steps links [] root (pieces.tail ++ rest)
            else walkIn root follow steps links place n (pieces ++ rest)
      | some m => walkIn root follow steps links (place ++ [piece]) m rest

theorem walkPath_of_walkIn (h : walkIn root follow steps links place n todo = some r) :
    walkPath root follow links place n todo = r := by
  fun_induction walkIn root follow steps links place n todo with
  | case1 => cases h
  | case2 _ _ _ n =>
    rw [walkPath, ← Option.some.inj h]
    cases n.bar? <;> rfl
  | case9 _ _ _ _ _ hn hs hup _ hm hrest links pieces ht ih
  | case10 _ _ _ _ _ hn hs hup _ hm hrest links pieces ht ih =>
    rw [walkPath, if_neg hn, if_neg hs, if_neg hup, hm]
    dsimp only
    rw [if_neg hrest, piecesOf_eq, Text.startsWith_eq]
    simp only [ht]
    exact ih h
  | _ =>
    rw [walkPath]
    simp_all

/-- Looks up a path from the root as `resolve` does, unless it takes too many steps. -/
def resolveIn (fs : FileSystem) (steps : Nat) (follow : Bool) (p : Path) :
    Option (Except IoFault (Place × FileNode)) :=
  if Admits p ∧ "/".toList.isPrefixOf p.text.toList then
    walkIn fs.root follow steps linkLimit [] fs.root p.pieces.tail
  else none

theorem resolve_of_resolveIn (steps : Nat) (h : fs.resolveIn steps follow p = some r) :
    fs.resolve follow p = r := by
  unfold resolveIn at h
  split at h
  next hp =>
    obtain ⟨hnul, hempty, hlong⟩ := hp.1
    have ha : p.isAbsolute = true := by rw [Path.isAbsolute, Text.startsWith_eq, hp.2]
    have hpieces : piecesOf p.text = p.pieces.tail := by rw [piecesOf_eq, if_pos hp.2, Path.pieces]
    rw [resolve, if_neg (by simp [hnul]), if_neg hempty, if_neg (Nat.not_lt.2 hlong), if_pos ha, hpieces,
      walkPath_of_walkIn h]
  next => cases h

theorem node_of_resolveIn (steps : Nat) {r : Except IoFault FileNode}
    (h : (fs.resolveIn steps true p).map (·.map (·.2)) = some r) : fs.node p = r := by
  obtain ⟨r', hr, rfl⟩ := Option.map_eq_some_iff.1 h
  rw [node, resolve_of_resolveIn steps hr]

theorem canonical_of_resolveIn (steps : Nat) {r : Except IoFault Path}
    (h : (fs.resolveIn steps true p).map (·.map (pathOf ·.1)) = some r) : fs.canonical p = r := by
  obtain ⟨r', hr, rfl⟩ := Option.map_eq_some_iff.1 h
  rw [canonical, resolve_of_resolveIn steps hr]

theorem key_of_resolveIn (steps : Nat) {c : Path}
    (h : (fs.resolveIn steps true p).map (·.map (pathOf ·.1)) = some (.ok c)) : fs.key p = c := by
  rw [key, canonical_of_resolveIn steps h]

theorem key_of_missing {f : IoFault} {parent dir c : Path} (hc : fs.canonical p = .error f)
    (hdir : fs.canonical parent = .ok dir)
    (hp : p.isAbsolute = true ∧ p.parent? = some parent ∧ p.fileName?.map dir.child = some c) :
    fs.key p = c := by
  obtain ⟨ha, hparent, hchild⟩ := hp
  obtain ⟨name, hname, rfl⟩ := Option.map_eq_some_iff.1 hchild
  rw [key, hc]
  simp only [ha, hparent, hname, hdir, if_true]

end FileSystem
end SymbolIndex
