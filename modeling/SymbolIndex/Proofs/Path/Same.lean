import SymbolIndex.Language.Shebang

/-!
# Paths with the same components

How a path is spelled matters for nothing but its text: paths with the same components have the same
name, the same extension and the same language.
-/
namespace SymbolIndex

namespace Path
variable {p q r : Path}

@[simp] theorem Same.refl (p : Path) : p.Same p := rfl

theorem Same.symm (h : p.Same q) : q.Same p := Eq.symm h

theorem Same.trans (h : p.Same q) (h' : q.Same r) : p.Same r := Eq.trans h h'

theorem Same.congr_right (h : p.Same q) : r.Same p ↔ r.Same q :=
  ⟨fun hr => hr.trans h, fun hr => hr.trans h.symm⟩

theorem Same.extension? (h : p.Same q) : p.extension? = q.extension? := by
  unfold Path.extension? fileName?
  rw [show p.components = q.components from h]

theorem Same.isUnder (h : p.Same q) (dir : Path) : dir.isUnder p = dir.isUnder q := by
  unfold Path.isUnder
  rw [show p.components = q.components from h]

theorem isUnder_iff {dir : Path} : dir.isUnder p = true ↔ dir.components <+: p.components :=
  List.isPrefixOf_iff_prefix

theorem isUnder_of_same (h : p.Same q) : p.isUnder q = true := by
  rw [← h.isUnder p]
  exact isUnder_iff.2 List.prefix_rfl

theorem isUnder_trans (h : q.isUnder r = true) (h' : r.isUnder p = true) : q.isUnder p = true :=
  isUnder_iff.2 ((isUnder_iff.1 h).trans (isUnder_iff.1 h'))

/-- Of two directories that a path is in, one is in the other. -/
theorem isUnder_or_isUnder (h : q.isUnder p = true) (h' : r.isUnder p = true) :
    q.isUnder r = true ∨ r.isUnder q = true :=
  (List.prefix_or_prefix_of_prefix (isUnder_iff.1 h) (isUnder_iff.1 h')).imp isUnder_iff.2 isUnder_iff.2

end Path

theorem Language.ofFile_congr {p q : Path} (h : p.Same q) (content : List UInt8) :
    Language.ofFile p content = Language.ofFile q content := by
  unfold ofFile ofPath
  rw [h.extension?]

end SymbolIndex
