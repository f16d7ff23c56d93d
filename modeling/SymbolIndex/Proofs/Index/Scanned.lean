import SymbolIndex.Language.Shebang
import SymbolIndex.Proofs.FileSystem.Canonical
import SymbolIndex.Proofs.Watch.Pruning

/-!
# Files that were found, under their keys

What a scan finds below a directory is there under names, and no link. So the key of its path ends
with the name that the path ends with, whether or not it can be looked up
(`fileName?_key_of_scanned`), and tells the language that the scan found it by
(`ofFile_key_of_scanned`). And if a file can be read under a key, no other key has the same
components (`key_eq_of_same`), so it cannot be lost when another one cannot be read.
-/
namespace SymbolIndex
open FileSystem (pathOf)

/-! ### The name that a path ends with -/

namespace Path
variable {p : Path} {s : String} {names : List String}

theorem fileName?_eq_some_iff : p.fileName? = some s ↔ ∃ cs, p.steps = cs ++ [.name s] := by
  have hiff (cs : List Component) : cs.getLast?.bind Component.name? = some s ↔
      ∃ ds, cs = ds ++ [.name s] := by
    rw [← List.getLast?_eq_some_iff, Option.bind_eq_some_iff]
    constructor
    · rintro ⟨c, hc, hs⟩
      cases c with
      | name t => rwa [← Option.some.inj hs]
      | _ => cases hs
    · exact fun h => ⟨_, h, rfl⟩
  -- The component that a path begins with is no name.
  have hcons {c : Component} (hc : ∀ t, c ≠ .name t) :
      (∃ ds, c :: p.steps = ds ++ [.name s]) ↔ ∃ cs, p.steps = cs ++ [.name s] := by
    constructor
    · rintro ⟨ds, hds⟩
      cases ds with
      | nil => exact absurd (List.cons.inj hds).1 (hc s)
      | cons d ds => exact ⟨ds, (List.cons.inj hds).2⟩
    · rintro ⟨cs, hcs⟩
      exact ⟨c :: cs, by rw [hcs]; rfl⟩
  rw [fileName?, hiff]
  rcases p.components_cases with ⟨-, h⟩ | ⟨-, h | h⟩ <;> rw [h]
  · exact hcons (by simp)
  · exact hcons (by simp)

end Path

namespace FileSystem
variable {fs : FileSystem} {p q : Path} {place : Place} {s : String} {n m : FileNode} {names : List String}
  {r : Place × FileNode}

theorem fileName?_absolute (hfs : fs.WellFormed) (h : p.fileName? = some s) :
    (fs.absolute p).fileName? = some s := by
  cases ha : p.isAbsolute with
  | true => rwa [absolute, if_pos ha]
  | false =>
    obtain ⟨cs, hcs⟩ := Path.fileName?_eq_some_iff.1 h
    rw [Path.fileName?_eq_some_iff, steps_absolute hfs.grounded.names ha, hcs, ← List.append_assoc]
    exact ⟨_, rfl⟩

/-- If a path leads to the name that it ends with, its key does. -/
theorem fileName?_key (hfs : fs.WellFormed) (hs : p.fileName? = some s) (h : fs.Leads p (place ++ [s]) n) :
    (fs.key p).fileName? = some s := by
  cases hc : fs.canonical p with
  | ok c =>
    obtain ⟨r, hr, -⟩ := canonical_eq_ok_iff.1 hc
    obtain ⟨hplace, -⟩ := h.unique (.of_resolve hr nofun)
    obtain ⟨hn, -⟩ := hfs.lands hr
    rw [key_of_resolve hr, ← hplace]
    exact Path.fileName?_pathOf (hplace ▸ hfs.isName hn)
  | error f =>
    have habs := fileName?_absolute hfs hs
    rw [key_of_error hc]
    cases hseat : fs.seat? p with
    | none => exact habs
    | some seat =>
      obtain ⟨dir, t⟩ := seat
      obtain ⟨-, hnames⟩ := hfs.isName_seat hseat
      obtain ⟨hdir, hname⟩ := isName_concat.1 hnames
      obtain ⟨ht, -⟩ := seat?_eq_some_iff.1 hseat
      cases ht.symm.trans habs
      dsimp only
      rw [child_pathOf hdir hname]
      exact Path.fileName?_pathOf hnames

/-! ### What a scan finds -/

theorem exists_of_scanned {limit : Nat} {root : Path} (hfs : fs.WellFormed)
    (hroot : fs.isDirectory root = true)
    (hp : p ∈ fs.sourcesBelow limit root) : ∃ place s n, fs.Leads p (place ++ [s]) n ∧ p.fileName? = some s ∧
      Language.ofPath p ≠ .unknown := by
  obtain ⟨top, es, hr⟩ := isDirectory_iff.1 hroot
  have hdash : ¬ root.Same ⟨"-"⟩ := fun hs => by
    simp [sourcesBelow, Walk.run, hs] at hp
  rw [sourcesBelow_eq hdash hr] at hp
  obtain ⟨e, he, rfl⟩ := List.mem_map.1 hp
  obtain ⟨he, hsource⟩ := List.mem_filter.1 he
  obtain ⟨hfile, hlanguage, -⟩ := isSource_iff.1 hsource
  have hwf := (hfs.tree.at? (hfs.lands hr).1).1
  obtain ⟨names, hat, hpath⟩ := Walk.exists_names hwf he
  have hne : names ≠ [] := by
    rintro rfl
    rw [← FileNode.at?_nil_eq_some_iff.1 hat] at hfile
    cases hfile
  have hleads :=
    (Leads.of_resolve hr (by simp)).descend hwf hat fun target ht => by rw [ht] at hfile; cases hfile
  have hcomponents := Path.components_descend (resolve_eq_ok_iff.1 hr).1.2.1 (hwf.at? hat).2
  obtain ⟨init, s, rfl⟩ : ∃ init s, names = init ++ [s] := ⟨_, _, (List.dropLast_concat_getLast hne).symm⟩
  rw [← List.append_assoc, ← hpath] at hleads
  refine ⟨top ++ init, s, _, hleads, ?_, hlanguage⟩
  rw [hpath, Path.fileName?, hcomponents, List.map_append, ← List.append_assoc, List.map_singleton,
    List.getLast?_concat]
  rfl

/-- A file that was found is in the language that it was found by, also under its key. -/
theorem ofFile_key_of_scanned {limit : Nat} {root : Path} (hfs : fs.WellFormed)
    (hroot : fs.isDirectory root = true) (hp : p ∈ fs.sourcesBelow limit root) (content : List UInt8) :
    Language.ofFile (fs.key p) content = Language.ofPath p ∧ Language.ofPath p ≠ .unknown := by
  obtain ⟨place, s, n, hleads, hs, hlanguage⟩ := exists_of_scanned hfs hroot hp
  have hextension : (fs.key p).extension? = p.extension? := by
    rw [Path.extension?, Path.extension?, hs, fileName?_key hfs hs hleads]
  refine ⟨?_, hlanguage⟩
  have hsome : p.extension?.isSome = true := by
    cases h : p.extension? with
    | some ext => rfl
    | none => exact absurd (by rw [Language.ofPath, h]; rfl) hlanguage
  rw [Language.ofFile, hextension, if_pos hsome, Language.ofPath, hextension, ← Language.ofPath]

/-! ### Keys that differ in their spelling only -/

/-- The directory of a place that can be looked up can be so too. -/
theorem WellFormed.resolve_above (hfs : fs.WellFormed) (ha : Admits (pathOf (place ++ [s])))
    (hn : fs.at? (place ++ [s]) = some n) :
    ∃ es, fs.resolve true (pathOf place) = .ok (place, .directory es) := by
  have hnames := hfs.isName hn
  obtain ⟨hplace, hs⟩ := isName_concat.1 hnames
  obtain ⟨es, hes⟩ := FileNode.exists_above hn (List.prefix_append place [s]) (by simp)
  have hne : (pathOf place).text ≠ "" := by simp [pathOf]
  obtain ⟨front, hfront, hchild⟩ := Path.exists_text_child hne hs
  rw [child_pathOf hplace hs] at hchild
  obtain ⟨back, hback⟩ : ∃ back, (pathOf (place ++ [s])).text = "" ++ (pathOf place).text ++ back := by
    rcases hfront with h | h
    · exact ⟨"/" ++ s, by rw [hchild, h, String.empty_append, String.append_assoc]⟩
    · exact ⟨s, by rw [hchild, h, String.empty_append]⟩
  exact ⟨es, hfs.resolve_pathOf (ha.of_infix hback hne) hes rfl (by simp)⟩

/-- Keys that have the components of a key that a file can be read under are that key. -/
theorem WellFormed.key_eq_of_same (hfs : fs.WellFormed) (hr : fs.resolve true (fs.key p) = .ok r)
    (hfile : r.2.isDirectory = false) (hs : (fs.key q).Same (fs.key p)) : fs.key q = fs.key p := by
  obtain ⟨place, n, hkey, hn, hland⟩ := hfs.exists_key_place hr hfile
  have hnames := hfs.isName hn
  rw [hkey] at hs hr ⊢
  suffices ∃ place', (∀ s ∈ place', IsName s) ∧ fs.key q = pathOf place' by
    obtain ⟨place', hnames', hkey'⟩ := this
    rw [hkey'] at hs ⊢
    rw [eq_of_same_pathOf hnames' hnames hs]
  cases hc : fs.canonical q with
  | ok c =>
    obtain ⟨place', hnames', rfl⟩ := hfs.grounded.exists_pathOf_eq_canonical hc
    exact ⟨place', hnames', by rw [key, hc]⟩
  | error f =>
    have hkey' := key_of_error hc
    cases hseat : fs.seat? q with
    | some seat =>
      obtain ⟨dir, s⟩ := seat
      obtain ⟨-, hnames'⟩ := hfs.isName_seat hseat
      obtain ⟨hdir, hname⟩ := isName_concat.1 hnames'
      rw [hseat] at hkey'
      exact ⟨dir ++ [s], hnames', hkey'.trans (child_pathOf hdir hname)⟩
    | none =>
      -- The path itself would have the directory of the file for its seat.
      rw [hseat] at hkey'
      rw [hkey', Path.Same] at hs
      have hne : place ≠ [] := by
        rintro rfl
        cases FileNode.at?_nil_eq_some_iff.1 hn
        have hdir := hfs.isDirectory_root
        have hplace : r.1 = [] := hland fun target ht => by simp [ht, FileNode.isDirectory] at hdir
        have hr' := (hfs.lands hr).1
        rw [hplace, hn] at hr'
        rw [← Option.some.inj hr', hdir] at hfile
        cases hfile
      obtain ⟨init, s, rfl⟩ : ∃ init s, place = init ++ [s] := ⟨_, _, (List.dropLast_concat_getLast hne).symm⟩
      obtain ⟨es, hes⟩ := hfs.resolve_above (resolve_eq_ok_iff.1 hr).1 hn
      have hseat' : fs.seat? q = some (init, s) := by
        refine seat?_eq_some_iff.2 ⟨?_, pathOf init, .directory es, ?_, hes⟩
        · rw [Path.fileName?, hs, ← Path.fileName?]
          exact Path.fileName?_pathOf hnames
        · rw [Path.parent?, hs, ← Path.parent?]
          exact Path.parent?_pathOf hnames
      cases hseat.symm.trans hseat'

end FileSystem
end SymbolIndex
