import SymbolIndex.Ignore.Walk
import SymbolIndex.Proofs.FileSystem.Place

/-!
# The ignore files of a directory

The rules of an ignore file in a directory are those of the file that the directory has under its name
(`rulesAt_file`), and without such a file there are none (`rulesAt_missing`). So what a walk reads of a
directory is known from its entries, unless the data of its repository is elsewhere (`ignoreLevel_eq`).
-/
namespace SymbolIndex
namespace FileSystem

variable {fs : FileSystem} {place rest : Place} {es : List (String × FileNode)} {s : String}
  {content : ByteArray}
  {r : Place × FileNode}

namespace WellFormed

/-- There is nothing under a name that a directory does not have. -/
theorem resolve_missing (h : fs.WellFormed) (hn : fs.at? place = some (.directory es))
    (hs : es.lookup s = none)
    (hnames : ∀ t ∈ s :: rest, IsName t) : fs.resolve true (pathOf (place ++ s :: rest)) ≠ .ok r := by
  intro hr
  have hplace := h.isName hn
  have hw := walk_pathOf (List.forall_mem_append.2 ⟨hplace, hnames⟩) (by simp) hr
  have hname := hnames s List.mem_cons_self
  -- The look-up comes to the directory, and would have to go on to the entry.
  cases hw.descend hplace hn nofun with
  | stay _ hs' => exact absurd hname.meant (by simp [hs'])
  | up => exact hname.notUp rfl
  | enter _ _ _ hm | jump _ _ _ hm | follow _ _ _ hm => exact absurd (hs.symm.trans hm) nofun

theorem node_missing (h : fs.WellFormed) (hn : fs.at? place = some (.directory es)) (hs : es.lookup s = none)
    (hnames : ∀ t ∈ s :: rest, IsName t) : ∃ f, fs.node (pathOf (place ++ s :: rest)) = .error f := by
  cases hr : fs.resolve true (pathOf (place ++ s :: rest)) with
  | error f => exact ⟨f, node_eq_error_iff.2 hr⟩
  | ok r => exact absurd hr (h.resolve_missing hn hs hnames)

theorem rulesAt_missing (h : fs.WellFormed) (hn : fs.at? place = some (.directory es))
    (hs : es.lookup s = none)
    (hnames : ∀ t ∈ s :: rest, IsName t) : fs.rulesAt (pathOf (place ++ s :: rest)) = [] := by
  obtain ⟨f, hf⟩ := h.node_missing hn hs hnames
  rw [rulesAt, read, hf]

theorem rulesAt_file (h : fs.WellFormed) (ha : Admits (pathOf place))
    (hn : fs.at? place = some (.file content)) :
    fs.rulesAt (pathOf place) = .ofContent content.toList := by
  have hnode : fs.node (pathOf place) = .ok (.file content) := by
    rw [node, h.resolve_pathOf ha hn rfl nofun]
    rfl
  rw [rulesAt, read, hnode]

/-- Unless the data of the repository is elsewhere, the ignore files are those of the directory. -/
theorem ignoreLevel_eq (h : fs.WellFormed) (hn : fs.at? place = some (.directory es))
    (hgit : ∀ n, fs.node (pathOf (place ++ [".git"])) = .ok n → n.isFile = false) : fs.ignoreLevel place =
      ⟨place.length, fs.rulesAt (pathOf (place ++ [".ignore"])),
        fs.rulesAt (pathOf (place ++ [".gitignore"])),
        fs.rulesAt (pathOf (place ++ [".git", "info", "exclude"])),
        fs.isThere (pathOf (place ++ [".git"]))⟩ := by
  have hplace := h.isName hn
  have child {t : String} (ht : IsName t) : (pathOf place).child t = pathOf (place ++ [t]) :=
    child_pathOf hplace ht
  have hdata : fs.repositoryData? (pathOf place) = some (pathOf (place ++ [".git"])) := by
    have hfile : (fs.node (pathOf (place ++ [".git"]))).toOption.any (·.isFile) = false := by
      cases hn : fs.node (pathOf (place ++ [".git"])) with
      | error f => rfl
      | ok n => exact hgit n hn
    rw [repositoryData?, child (by decide), if_neg (by simp [hfile])]
  have hexclude : ((pathOf (place ++ [".git"])).child "info").child "exclude" =
      pathOf (place ++ [".git", "info", "exclude"]) := by
    have hgit' : ∀ t ∈ place ++ [".git"], IsName t := isName_concat.2 ⟨hplace, by decide⟩
    rw [child_pathOf hgit' (by decide), child_pathOf (isName_concat.2 ⟨hgit', by decide⟩) (by decide)]
    simp
  rw [ignoreLevel]
  simp only [child (show IsName ".ignore" by decide), child (show IsName ".gitignore" by decide),
    child (show IsName ".git" by decide), hdata, Option.map_some, Option.getD_some, hexclude]

/-- Where the data of a repository is not there, only the other ignore files count. -/
theorem ignoreLevel_unversioned (h : fs.WellFormed) (hn : fs.at? place = some (.directory es))
    (hgit : es.lookup ".git" = none) : fs.ignoreLevel place =
      ⟨place.length, fs.rulesAt (pathOf (place ++ [".ignore"])),
        fs.rulesAt (pathOf (place ++ [".gitignore"])), [], false⟩ := by
  obtain ⟨f, hf⟩ := h.node_missing hn hgit (show ∀ t ∈ [".git"], IsName t by decide)
  rw [h.ignoreLevel_eq hn (by simp [hf]), isThere, hf, Except.toBool,
    h.rulesAt_missing hn hgit (show ∀ t ∈ [".git", "info", "exclude"], IsName t by decide)]

/-- At the top of a repository whose data has no rules of its own, the ignore files of the directory count. -/
theorem ignoreLevel_repository (h : fs.WellFormed) (hn : fs.at? place = some (.directory es))
    {ds : List (String × FileNode)} (hgit : fs.at? (place ++ [".git"]) = some (.directory ds))
    (ha : Admits (pathOf (place ++ [".git"]))) (hinfo : ds.lookup "info" = none) : fs.ignoreLevel place =
      ⟨place.length, fs.rulesAt (pathOf (place ++ [".ignore"])),
        fs.rulesAt (pathOf (place ++ [".gitignore"])), [], true⟩ := by
  have hnode : fs.node (pathOf (place ++ [".git"])) = .ok (.directory ds) := by
    rw [node, h.resolve_pathOf ha hgit rfl nofun]
    rfl
  have hexclude := h.rulesAt_missing hgit hinfo (show ∀ t ∈ ["info", "exclude"], IsName t by decide)
  rw [List.append_assoc] at hexclude
  rw [h.ignoreLevel_eq hn (by simp [hnode, FileNode.isFile]), isThere, hnode, Except.toBool, ← hexclude]
  rfl

/-- A directory without ignore files has no rules. -/
theorem ignoreLevel_plain (h : fs.WellFormed) (hn : fs.at? place = some (.directory es))
    (hgit : es.lookup ".git" = none) (hignore : es.lookup ".ignore" = none)
    (hgitignore : es.lookup ".gitignore" = none) :
    fs.ignoreLevel place = ⟨place.length, [], [], [], false⟩ := by
  rw [h.ignoreLevel_unversioned hn hgit, h.rulesAt_missing hn hignore (by decide),
    h.rulesAt_missing hn hgitignore (by decide)]

end WellFormed
end FileSystem
end SymbolIndex
