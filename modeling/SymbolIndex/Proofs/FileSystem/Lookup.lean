import SymbolIndex.FileSystem.Basic
import SymbolIndex.Proofs.Path.Same

/-!
# What paths with the same components name

A look-up passes over the pieces of a path that mean nothing, so if it succeeds, it succeeds without them
and comes to the same place (`Walk.filter`). Paths with the same components have the same pieces
otherwise, and name the same if they name anything (`resolve_congr`).
-/
namespace SymbolIndex

/-! ### Pieces -/

namespace Text

variable {p : Char → Bool} {c : Char} {cs : List Char}

/-- The characters before the first separator, and the pieces after it. -/
def parts (p : Char → Bool) (cs : List Char) : List Char × List String :=
  cs.foldr (fun c acc => if p c then ([], String.ofList acc.1 :: acc.2) else (c :: acc.1, acc.2)) ([], [])

theorem splitWhere_ofList (p : Char → Bool) (cs : List Char) :
    splitWhere p (String.ofList cs) = String.ofList (parts p cs).1 :: (parts p cs).2 := by
  rw [splitWhere, String.toList_ofList]
  rfl

theorem parts_cons (p : Char → Bool) (c : Char) (cs : List Char) : parts p (c :: cs) =
    if p c then ([], String.ofList (parts p cs).1 :: (parts p cs).2)
    else (c :: (parts p cs).1, (parts p cs).2) := rfl

/-- A text is split at each separator. -/
theorem splitWhere_append_sep (hc : p c = true) (cs ds : List Char) :
    splitWhere p (String.ofList (cs ++ c :: ds)) =
    splitWhere p (String.ofList cs) ++ splitWhere p (String.ofList ds) := by
  have h : parts p (cs ++ c :: ds) =
      ((parts p cs).1, (parts p cs).2 ++ splitWhere p (String.ofList ds)) := by
    induction cs with
    | nil => rw [List.nil_append, parts_cons, if_pos hc, splitWhere_ofList]; rfl
    | cons d cs ih =>
      rw [List.cons_append, parts_cons, parts_cons, ih]
      split <;> rfl
  rw [splitWhere_ofList, splitWhere_ofList p cs, h]
  rfl

/-- A text without separators is one piece. -/
theorem splitWhere_of_forall {s : String} (h : ∀ c ∈ s.toList, p c = false) : splitWhere p s = [s] := by
  obtain ⟨cs, rfl⟩ : ∃ cs, s = String.ofList cs := ⟨s.toList, String.ofList_toList.symm⟩
  rw [String.toList_ofList] at h
  have hparts : parts p cs = (cs, []) := by
    induction cs with
    | nil => rfl
    | cons d cs ih =>
      rw [parts_cons, ih fun c hc => h c (List.mem_cons_of_mem d hc), h d List.mem_cons_self]
      rfl
  rw [splitWhere_ofList, hparts]

end Text

namespace Component

/-- Whether what stands between two slashes means anything there. -/
def isMeant (s : String) : Bool := ¬ (s = "" ∨ s = ".")

theorem isMeant_eq_true {s : String} : isMeant s = true ↔ ¬ (s = "" ∨ s = ".") := by simp [isMeant]

theorem isMeant_eq_false {s : String} : isMeant s = false ↔ s = "" ∨ s = "." := by
  rw [isMeant, decide_eq_false_iff_not, Classical.not_not]

/-- The pieces that mean anything are known from the components. -/
theorem map_text_filterMap (ps : List String) :
    (ps.filterMap ofPiece?).map text = ps.filter isMeant := by
  induction ps with
  | nil => rfl
  | cons s ps ih =>
    by_cases h : s = "" ∨ s = "."
    · rw [List.filterMap_cons_none (by simp [ofPiece?, h]), ih,
        List.filter_cons_of_neg (by simp [isMeant_eq_false.2 h])]
    · rw [List.filter_cons_of_pos (isMeant_eq_true.2 h), ← ih]
      by_cases hup : s = ".."
      · rw [List.filterMap_cons_some (show ofPiece? s = some up by simp [ofPiece?, hup])]
        simp [text, hup]
      · rw [List.filterMap_cons_some (show ofPiece? s = some (.name s) by simp [ofPiece?, h, hup])]
        simp [text]

theorem ofPiece?_cases {s : String} {c : Component} (h : ofPiece? s = some c) : c = up ∨ c = name s := by
  unfold ofPiece? at h
  split at h
  · cases h
  · split at h <;> cases h
    · exact .inl rfl
    · exact .inr rfl

end Component

namespace Path

theorem splitWhere_slash (s t : String) : Text.splitWhere isSlash (s ++ "/" ++ t) =
    Text.splitWhere isSlash s ++ Text.splitWhere isSlash t := by
  have h := Text.splitWhere_append_sep (show isSlash '/' = true from rfl) s.toList t.toList
  rw [String.ofList_toList, String.ofList_toList] at h
  rw [← h]
  congr 1
  apply String.toList_inj.1
  simp

theorem splitWhere_root (t : String) :
    Text.splitWhere isSlash ("/" ++ t) = "" :: Text.splitWhere isSlash t := by
  have hempty : Text.splitWhere isSlash "" = [""] := rfl
  have h := splitWhere_slash "" t
  rwa [String.empty_append, hempty] at h

/-- The components of a path but for where it begins. -/
def steps (p : Path) : List Component := p.pieces.filterMap Component.ofPiece?

variable {p q : Path}

theorem isAbsolute_iff : p.isAbsolute = true ↔ ∃ t, p.text = "/" ++ t := by
  rw [isAbsolute, String.startsWith_string_iff]
  constructor
  · rintro ⟨cs, h⟩
    exact ⟨String.ofList cs, String.toList_inj.1 (by simp [← h])⟩
  · rintro ⟨t, h⟩
    exact ⟨t.toList, by simp [h]⟩

theorem mem_steps {c : Component} (h : c ∈ p.steps) : c ≠ .root ∧ c ≠ .here := by
  obtain ⟨s, -, hs⟩ := List.mem_filterMap.1 h
  rcases Component.ofPiece?_cases hs with rfl | rfl <;> exact ⟨nofun, nofun⟩

/-- A path begins at the root, at the dot, or with its first step. -/
theorem components_cases (p : Path) : p.isAbsolute = true ∧ p.components = .root :: p.steps ∨
    p.isAbsolute = false ∧ (p.components = .here :: p.steps ∨ p.components = p.steps) := by
  unfold components
  cases h : p.isAbsolute with
  | true => exact .inl ⟨rfl, rfl⟩
  | false =>
    refine .inr ⟨rfl, ?_⟩
    simp only [Bool.false_eq_true, if_false]
    split
    · exact .inl rfl
    · exact .inr rfl

theorem steps_eq_filter (p : Path) : p.steps = p.components.filter fun c => c ≠ .root ∧ c ≠ .here := by
  have hsteps : p.steps.filter (fun c => c ≠ .root ∧ c ≠ .here) = p.steps :=
    List.filter_eq_self.2 fun c hc => by simpa using mem_steps hc
  rcases p.components_cases with ⟨-, h⟩ | ⟨-, h | h⟩
  · rw [h, List.filter_cons_of_neg (by simp), hsteps]
  · rw [h, List.filter_cons_of_neg (by simp), hsteps]
  · rw [h, hsteps]

theorem isAbsolute_iff_head (p : Path) : p.isAbsolute = true ↔ p.components.head? = some .root := by
  rcases p.components_cases with ⟨ha, h⟩ | ⟨ha, h | h⟩
  · simp [ha, h]
  · simp [ha, h]
  · rw [ha, h]
    refine ⟨nofun, fun hr => ?_⟩
    exact absurd rfl (mem_steps (List.mem_of_head? hr)).1

theorem Same.steps_eq (h : p.Same q) : p.steps = q.steps := by
  rw [steps_eq_filter, steps_eq_filter, show p.components = q.components from h]

theorem Same.isAbsolute_eq (h : p.Same q) : p.isAbsolute = q.isAbsolute := by
  rw [Bool.eq_iff_iff, isAbsolute_iff_head, isAbsolute_iff_head, show p.components = q.components from h]

end Path

namespace FileSystem
open Component

variable {root n m : FileNode} {links : Nat} {place place' : Place} {fs : FileSystem} {p q : Path}

theorem piecesOf_root (t : String) : piecesOf ("/" ++ t) = Text.splitWhere Path.isSlash t := by
  have habs : Path.isAbsolute ⟨"/" ++ t⟩ = true := Path.isAbsolute_iff.2 ⟨t, rfl⟩
  rw [Path.isAbsolute] at habs
  rw [piecesOf, if_pos habs, Path.splitWhere_root]
  rfl

theorem piecesOf_relative (hp : p.isAbsolute = false) : piecesOf p.text = p.pieces := by
  rw [piecesOf, if_neg (show ¬ p.text.startsWith "/" = true by simpa [Path.isAbsolute] using hp)]
  rfl

/-- The pieces that a look-up goes along mean what the pieces of the path mean. -/
theorem filter_piecesOf (p : Path) : (piecesOf p.text).filter isMeant = p.steps.map text := by
  rw [Path.steps, map_text_filterMap]
  cases hp : p.isAbsolute with
  | true =>
    obtain ⟨t, ht⟩ := Path.isAbsolute_iff.1 hp
    rw [Path.pieces, ht, piecesOf_root, Path.splitWhere_root]
    rfl
  | false => rw [piecesOf_relative hp]

/-- Where a look-up that follows all links leads to, whether or not what is there can be looked up. -/
inductive Walk (root : FileNode) : Nat → Place → FileNode → List String → Place × FileNode → Prop
  | done (links : Nat) (place : Place) (n : FileNode) : Walk root links place n [] (place, n)
  | stay {links place n piece rest r} (hn : n.isDirectory = true) (hs : isMeant piece = false)
      (h : Walk root links place n rest r) : Walk root links place n (piece :: rest) r
  | up {links place n rest r} (hn : n.isDirectory = true)
      (h : Walk root links place.dropLast ((root.at? place.dropLast).getD root) rest r) :
      Walk root links place n (".." :: rest) r
  | enter {links place n piece m rest r} (hn : n.isDirectory = true) (hs : isMeant piece = true)
      (hup : piece ≠ "..") (hm : n.entry? piece = some m) (hlink : ∀ target, m ≠ .link target)
      (h : Walk root links (place ++ [piece]) m rest r) : Walk root links place n (piece :: rest) r
  /-- From the root again, if the link begins there. -/
  | jump {links place n piece target rest r} (hn : n.isDirectory = true) (hs : isMeant piece = true)
      (hup : piece ≠ "..") (hm : n.entry? piece = some (.link target)) (ht : target.startsWith "/" = true)
      (h : Walk root links [] root (piecesOf target ++ rest) r) :
      Walk root (links + 1) place n (piece :: rest) r
  | follow {links place n piece target rest r} (hn : n.isDirectory = true) (hs : isMeant piece = true)
      (hup : piece ≠ "..") (hm : n.entry? piece = some (.link target)) (ht : ¬ target.startsWith "/" = true)
      (h : Walk root links place n (piecesOf target ++ rest) r) :
      Walk root (links + 1) place n (piece :: rest) r

/-- A look-up that succeeds, and comes to no link if it would not follow one, is one that follows all. -/
theorem Walk.of_walkPath {follow : Bool} {todo : List String} {r : Place × FileNode}
    (h : walkPath root follow links place n todo = .ok r)
    (hr : follow = false → ∀ target, r.2 ≠ .link target) : Walk root links place n todo r := by
  fun_induction walkPath root follow links place n todo with
  | case1 => cases h; exact .done ..
  | case2 | case3 | case6 | case8 => cases h
  | case4 _ _ _ _ _ hn hs ih => exact .stay (by simpa using hn) (isMeant_eq_false.2 hs) (ih h)
  | case5 _ _ _ _ hn _ _ ih => exact .up (by simpa using hn) (ih h)
  | case7 _ _ _ _ _ _ _ _ _ _ hf => cases h; exact absurd rfl (hr hf.2 _)
  | case9 _ _ _ _ hn hs hup _ hm _ _ ht ih =>
    exact .jump (by simpa using hn) (isMeant_eq_true.2 hs) hup hm ht (ih h)
  | case10 _ _ _ _ hn hs hup _ hm _ _ ht ih =>
    exact .follow (by simpa using hn) (isMeant_eq_true.2 hs) hup hm ht (ih h)
  | case11 _ _ _ _ _ hn hs hup m hlink hm ih =>
    exact .enter (by simpa using hn) (isMeant_eq_true.2 hs) hup hm hlink (ih h)

/-- What a look-up comes to can be looked up. -/
theorem bar?_of_walkPath {follow : Bool} {todo : List String} {r : Place × FileNode}
    (h : walkPath root follow links place n todo = .ok r) : r.2.bar? = none := by
  fun_induction walkPath root follow links place n todo with
  | case1 _ _ _ hbar => cases h; exact hbar
  | case2 | case3 | case6 | case8 => cases h
  | case7 => cases h; rfl
  | case4 _ _ _ _ _ _ _ ih | case5 _ _ _ _ _ _ _ ih | case9 _ _ _ _ _ _ _ _ _ _ _ _ ih
  | case10 _ _ _ _ _ _ _ _ _ _ _ _ ih | case11 _ _ _ _ _ _ _ _ _ _ _ ih => exact ih h

theorem Walk.of_ok {todo : List String} {r : Place × FileNode}
    (h : walkPath root true links place n todo = .ok r) : Walk root links place n todo r :=
  .of_walkPath h nofun

theorem Walk.ok {todo : List String} {r : Place × FileNode} (h : Walk root links place n todo r)
    (hbar : r.2.bar? = none) : walkPath root true links place n todo = .ok r := by
  induction h with
  | done => rw [walkPath, hbar]
  | stay hn hs h ih => rw [walkPath, ih hbar]; simp [hn, isMeant_eq_false.1 hs]
  | up hn h ih => rw [walkPath, ih hbar]; simp [hn]
  | @enter _ _ _ _ m _ _ hn hs hup hm hlink h ih =>
    rw [walkPath]
    simp only [hn, isMeant_eq_true.1 hs, hup, hm, Bool.not_true, Bool.false_eq_true, if_false]
    cases m with
    | link target => exact absurd rfl (hlink target)
    | _ => exact ih hbar
  | jump hn hs hup hm ht h ih =>
    rw [walkPath]
    simp [hn, isMeant_eq_true.1 hs, hup, hm, ht, ih hbar]
  | follow hn hs hup hm ht h ih =>
    rw [walkPath]
    simp [hn, isMeant_eq_true.1 hs, hup, hm, ht, ih hbar]

/-- A look-up leads to one place, however many links may be followed. -/
theorem Walk.unique {links' : Nat} {todo : List String} {r r' : Place × FileNode}
    (h : Walk root links place n todo r) (h' : Walk root links' place n todo r') : r = r' := by
  induction h generalizing links' with
  | done =>
    cases h'
    rfl
  | stay _ hs _ ih =>
    cases h' with
    | stay _ _ h' => exact ih h'
    | up => exact absurd hs (by decide)
    | enter _ hs' | jump _ hs' | follow _ hs' => exact absurd (hs.symm.trans hs') nofun
  | up _ _ ih =>
    cases h' with
    | stay _ hs' => exact absurd hs' (by decide)
    | up _ h' => exact ih h'
    | enter _ _ hup | jump _ _ hup | follow _ _ hup => exact absurd rfl hup
  | enter _ hs hup hm hlink _ ih =>
    cases h' with
    | stay _ hs' => exact absurd (hs.symm.trans hs') nofun
    | up => exact absurd rfl hup
    | enter _ _ _ hm' _ h' =>
      cases hm.symm.trans hm'
      exact ih h'
    | jump _ _ _ hm' | follow _ _ _ hm' => exact absurd (Option.some.inj (hm.symm.trans hm')) (hlink _)
  | jump _ hs hup hm ht _ ih =>
    cases h' with
    | stay _ hs' => exact absurd (hs.symm.trans hs') nofun
    | up => exact absurd rfl hup
    | enter _ _ _ hm' hlink => exact absurd (Option.some.inj (hm'.symm.trans hm)) (hlink _)
    | jump _ _ _ hm' _ h' =>
      cases hm.symm.trans hm'
      exact ih h'
    | follow _ _ _ hm' ht' =>
      cases hm.symm.trans hm'
      exact absurd ht ht'
  | follow _ hs hup hm ht _ ih =>
    cases h' with
    | stay _ hs' => exact absurd (hs.symm.trans hs') nofun
    | up => exact absurd rfl hup
    | enter _ _ _ hm' hlink => exact absurd (Option.some.inj (hm'.symm.trans hm)) (hlink _)
    | jump _ _ _ hm' ht' =>
      cases hm.symm.trans hm'
      exact absurd ht' ht
    | follow _ _ _ hm' _ h' =>
      cases hm.symm.trans hm'
      exact ih h'

/-- A look-up that succeeds does so without a piece that means nothing. -/
theorem Walk.erase {s : String} {before after todo : List String} {r : Place × FileNode}
    (h : Walk root links place n todo r) (hs : isMeant s = false) (ht : todo = before ++ s :: after) :
    Walk root links place n (before ++ after) r := by
  -- The piece is the first one, and the look-up passes over it, or it is further on.
  induction h generalizing before with
  | done => simp at ht
  | stay hn hs' h ih =>
    rcases List.cons_eq_append_iff.1 ht with ⟨rfl, ht⟩ | ⟨before, rfl, rfl⟩
    · cases ht; exact h
    · exact .stay hn hs' (ih rfl)
  | up hn h ih =>
    rcases List.cons_eq_append_iff.1 ht with ⟨rfl, ht⟩ | ⟨before, rfl, rfl⟩
    · cases ht; exact absurd hs (by decide)
    · exact .up hn (ih rfl)
  | enter hn hs' hup hm hlink h ih =>
    rcases List.cons_eq_append_iff.1 ht with ⟨rfl, ht⟩ | ⟨before, rfl, rfl⟩
    · cases ht; exact absurd hs (by simp [hs'])
    · exact .enter hn hs' hup hm hlink (ih rfl)
  | jump hn hs' hup hm hr h ih =>
    rcases List.cons_eq_append_iff.1 ht with ⟨rfl, ht⟩ | ⟨before, rfl, rfl⟩
    · cases ht; exact absurd hs (by simp [hs'])
    · have hrest := ih (List.append_assoc ..).symm
      rw [List.append_assoc] at hrest
      exact .jump hn hs' hup hm hr hrest
  | follow hn hs' hup hm hr h ih =>
    rcases List.cons_eq_append_iff.1 ht with ⟨rfl, ht⟩ | ⟨before, rfl, rfl⟩
    · cases ht; exact absurd hs (by simp [hs'])
    · have hrest := ih (List.append_assoc ..).symm
      rw [List.append_assoc] at hrest
      exact .follow hn hs' hup hm hr hrest

/-- A look-up that succeeds does so along the pieces that mean anything. -/
theorem Walk.filter {ps : List String} {r : Place × FileNode} (h : Walk root links place n ps r) :
    Walk root links place n (ps.filter isMeant) r := by
  suffices ∀ before, Walk root links place n (before ++ ps) r →
      Walk root links place n (before ++ ps.filter isMeant) r from this [] h
  clear h
  induction ps with
  | nil => exact fun _ h => h
  | cons s ps ih =>
    intro before h
    cases hs : isMeant s with
    | true =>
      rw [List.filter_cons_of_pos hs, List.append_cons]
      exact ih _ (by rwa [← List.append_cons])
    | false =>
      rw [List.filter_cons_of_neg (by simp [hs])]
      exact ih _ (h.erase hs rfl)

/-- What a path must not be to be looked up at all. -/
def Admits (p : Path) : Prop :=
  p.text.any (· == '\x00') = false ∧ p.text ≠ "" ∧ p.text.utf8ByteSize ≤ pathLimit

theorem admits_iff : Admits p ↔
    p.text.toList.any (· == '\x00') = false ∧ p.text ≠ "" ∧ p.text.utf8ByteSize ≤ pathLimit := by
  rw [Admits, show p.text.any (· == '\x00') = _ from String.contains_bool_eq]

instance (p : Path) : Decidable (Admits p) := decidable_of_iff _ admits_iff.symm

/-- Where the look-up of a path begins. -/
def origin? (fs : FileSystem) (p : Path) : Option (Place × FileNode) :=
  if p.isAbsolute then some ([], fs.root) else (fs.at? fs.current).map (fs.current, ·)

theorem resolve_eq_ok_iff_walkPath {follow : Bool} {r : Place × FileNode} :
    fs.resolve follow p = .ok r ↔ Admits p ∧ ∃ place n, fs.origin? p = some (place, n) ∧
      walkPath fs.root follow linkLimit place n (piecesOf p.text) = .ok r := by
  unfold resolve origin?
  by_cases hnul : p.text.any (· == '\x00') = true
  · rw [if_pos hnul]
    exact ⟨nofun, fun h => by simp [Admits, hnul] at h⟩
  by_cases hempty : p.text = ""
  · rw [if_neg hnul, if_pos hempty]
    exact ⟨nofun, fun h => absurd hempty h.1.2.1⟩
  by_cases hlong : p.text.utf8ByteSize > pathLimit
  · rw [if_neg hnul, if_neg hempty, if_pos hlong]
    exact ⟨nofun, fun h => absurd h.1.2.2 (Nat.not_le_of_gt hlong)⟩
  have hadmits : Admits p := ⟨Bool.eq_false_iff.2 hnul, hempty, Nat.le_of_not_lt hlong⟩
  rw [if_neg hnul, if_neg hempty, if_neg hlong]
  cases ha : p.isAbsolute with
  | true => exact ⟨fun h => ⟨hadmits, [], fs.root, rfl, h⟩, fun ⟨_, _, _, rfl, h⟩ => h⟩
  | false =>
    cases fs.at? fs.current with
    | none => exact ⟨nofun, nofun⟩
    | some m => exact ⟨fun h => ⟨hadmits, fs.current, m, rfl, h⟩, fun ⟨_, _, _, rfl, h⟩ => h⟩

/-- A path can be looked up if it leads to what can be. -/
theorem resolve_eq_ok_iff {r : Place × FileNode} : fs.resolve true p = .ok r ↔ Admits p ∧ r.2.bar? = none ∧
    ∃ place n, fs.origin? p = some (place, n) ∧ Walk fs.root linkLimit place n (piecesOf p.text) r := by
  rw [resolve_eq_ok_iff_walkPath]
  refine and_congr_right fun _ => ⟨fun ⟨place, n, ho, h⟩ => ?_, fun ⟨hbar, place, n, ho, hw⟩ => ?_⟩
  · exact ⟨bar?_of_walkPath h, place, n, ho, .of_ok h⟩
  · exact ⟨place, n, ho, hw.ok hbar⟩

/-- Two paths with the same components name the same if they name anything. -/
theorem resolve_congr {r r' : Place × FileNode} (hs : p.Same q) (hp : fs.resolve true p = .ok r)
    (hq : fs.resolve true q = .ok r') : r = r' := by
  obtain ⟨-, -, place, n, hstart, hp⟩ := resolve_eq_ok_iff.1 hp
  obtain ⟨-, -, place', n', hstart', hq⟩ := resolve_eq_ok_iff.1 hq
  rw [origin?, hs.isAbsolute_eq, ← origin?, hstart'] at hstart
  cases hstart
  have hpieces : (piecesOf p.text).filter isMeant = (piecesOf q.text).filter isMeant := by
    rw [filter_piecesOf, filter_piecesOf, hs.steps_eq]
  have hr := hp.filter
  rw [hpieces] at hr
  exact hr.unique hq.filter

end FileSystem
end SymbolIndex
