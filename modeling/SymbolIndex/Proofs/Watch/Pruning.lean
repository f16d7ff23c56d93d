import SymbolIndex.Proofs.Ignore.Leading
import SymbolIndex.Proofs.Path.Literal
import SymbolIndex.Proofs.Watch.Coverage
import SymbolIndex.Proofs.Watch.Relevance

/-!
# What is left when walks are cut short

Where no ignore file has rules, a walk leaves an entry out because of the names on the way to it: one
of them is hidden, or not accepted. It does not go below what it leaves out, and loses nothing by
that, since whatever is below has these names on its way too (`Walk.mem_node_of_names`). So a scan
lists the files of interest and a search for directories those to be watched, each of them once and
nothing else, wherever the root is and however it is spelled (`FileSystem.walks_exact`).
-/
namespace SymbolIndex
open FileSystem (pathOf)

/-! ### Directories without rules -/

namespace IgnoreLevel

/-- The ignore files of a directory, if there are any, have no rules. -/
def IsEmpty (l : IgnoreLevel) : Prop := l.plain = [] ∧ l.versioned = [] ∧ l.excluded = []

variable {levels : List IgnoreLevel}

theorem verdicts_of_isEmpty (h : ∀ l ∈ levels, l.IsEmpty) (place : Place) (isDirectory inRepository : Bool) :
    verdicts place isDirectory inRepository levels = (.undecided, .undecided, .undecided) := by
  induction levels generalizing inRepository with
  | nil => rfl
  | cons l levels ih =>
    obtain ⟨hplain, hversioned, hexcluded⟩ := h l List.mem_cons_self
    rw [verdicts, hplain, hversioned, hexcluded, ih fun l hl => h l (List.mem_cons_of_mem _ hl)]
    cases inRepository <;> rfl

theorem verdict_of_isEmpty (h : ∀ l ∈ levels, l.IsEmpty) (place : Place) (isDirectory : Bool) :
    verdict levels place isDirectory = .undecided := by
  rw [verdict, verdicts_of_isEmpty h]
  rfl

end IgnoreLevel

namespace FileSystem
variable {fs : FileSystem} {top place : Place} {n : FileNode}

/-- No directory at a place, above it or below it has rules. -/
def IsUnruled (fs : FileSystem) (top : Place) : Prop :=
  ∀ place es, fs.at? place = some (.directory es) → place <+: top ∨ top <+: place →
    (fs.ignoreLevel place).IsEmpty

theorem IsUnruled.levelsAbove (h : fs.IsUnruled top) (hn : fs.at? top = some n) :
    ∀ l ∈ fs.levelsAbove top, l.IsEmpty := by
  intro l hl
  obtain ⟨k, hk, rfl⟩ := List.mem_map.1 (List.mem_reverse.1 hl)
  have hlt := List.mem_range.1 hk
  have hne : top.take k ≠ top := fun heq => by
    have hlength := congrArg List.length heq
    rw [List.length_take, Nat.min_eq_left (Nat.le_of_lt hlt)] at hlength
    omega
  obtain ⟨es, hes⟩ := FileNode.exists_above hn (List.take_prefix k top) hne
  exact h _ es hes (.inl (List.take_prefix k top))

/-- Directories without ignore files have no rules. -/
theorem isUnruled_of_plain (hfs : fs.WellFormed)
    (h : ∀ place es, fs.at? place = some (.directory es) → place <+: top ∨ top <+: place →
      es.lookup ".git" = none ∧ es.lookup ".ignore" = none ∧ es.lookup ".gitignore" = none) :
    fs.IsUnruled top := by
  intro place es hes hp
  obtain ⟨hgit, hignore, hgitignore⟩ := h place es hes hp
  rw [hfs.ignoreLevel_plain hes hgit hignore hgitignore]
  exact ⟨rfl, rfl, rfl⟩

end FileSystem

/-! ### What a walk comes across by names -/

namespace Walk
variable {w : Walk} {levels : List IgnoreLevel} {place : Place} {path : Path} {n : FileNode} {e : WalkEntry}
  {b : Bool} {ok : String → Bool}

/-- Without rules, an entry is listed if it is accepted, and hidden ones are if they are not left out. -/
theorem admits_of_isEmpty {s : String} (h : ∀ l ∈ levels, l.IsEmpty) :
    w.admits levels (place ++ [s]) path n = true ↔
    w.accepts path = true ∧ (w.skipsHidden = true → Scope.isHiddenName s = false) := by
  rw [admits_iff, IgnoreLevel.verdict_of_isEmpty h, List.getLastD_concat]
  simp [Scope.isHiddenName]

/-- If a walk judges what is below a path by the names on the way there, it lists what no name on the
way to is left out. -/
theorem mem_node_of_names (hn : n.WellFormed) (hpath : path.text ≠ "") (hat : w.fs.at? place = some n)
    (hlevels : ∀ l ∈ levels, l.IsEmpty)
    (hrules : ∀ inner es, w.fs.at? inner = some (.directory es) → place <+: inner →
      (w.fs.ignoreLevel inner).IsEmpty)
    (hacc : ∀ names, (∀ s ∈ names, IsName s) → w.accepts (path.descend names) = (b && names.all ok)) :
    e ∈ w.node levels place path n ↔ ∃ names, n.at? names = some e.node ∧ e.path = path.descend names ∧
      (names ≠ [] → b = true) ∧
      ∀ s ∈ names, ok s = true ∧ (w.skipsHidden = true → Scope.isHiddenName s = false) := by
  induction hn generalizing levels place path b with
  | @intro n names distinct inner ih =>
    have hwf : n.WellFormed := .intro names distinct inner
    -- For each entry, whether it is listed, and what the walk comes across there.
    have below : ∀ c ∈ n.entries, e ∈ w.entry (w.fs.ignoreLevel place :: levels) place path c ↔
        (b && ok c.1) = true ∧ (w.skipsHidden = true → Scope.isHiddenName c.1 = false) ∧
          ∃ rest, c.2.at? rest = some e.node ∧ e.path = (path.child c.1).descend rest ∧
            ∀ s ∈ rest, ok s = true ∧ (w.skipsHidden = true → Scope.isHiddenName s = false) := by
      intro c hc
      have hs := names c hc
      have hentry : n.entry? c.1 = some c.2 := hwf.entry?_eq_some_iff.2 hc
      obtain ⟨es, hes⟩ : ∃ es, n = .directory es := by
        cases n with
        | directory es => exact ⟨es, rfl⟩
        | _ => cases hc
      have hatc : w.fs.at? (place ++ [c.1]) = some c.2 := (FileNode.at?_concat hat).trans hentry
      have hlevels' : ∀ l ∈ w.fs.ignoreLevel place :: levels, l.IsEmpty :=
        List.forall_mem_cons.2 ⟨hrules place es (hes ▸ hat) List.prefix_rfl, hlevels⟩
      have hacc' : ∀ rest, (∀ s ∈ rest, IsName s) →
          w.accepts ((path.child c.1).descend rest) = ((b && ok c.1) && rest.all ok) := by
        intro rest hrest
        rw [Bool.and_assoc]
        exact hacc (c.1 :: rest) (List.forall_mem_cons.2 ⟨hs, hrest⟩)
      have haccepts : w.accepts (path.child c.1) = (b && ok c.1) := by simpa using hacc' [] nofun
      rw [mem_entry, admits_of_isEmpty hlevels', haccepts, and_assoc]
      refine and_congr_right fun hok => and_congr_right fun _ => ?_
      rw [ih c hc (Path.steps_child hpath hs).1 hatc hlevels'
        (fun inner es hes hp => hrules inner es hes ((List.prefix_append ..).trans hp)) hacc']
      simp only [hok, implies_true, true_and]
    rw [node_eq, List.mem_cons, List.mem_flatMap]
    constructor
    · rintro (rfl | ⟨c, hc, he⟩)
      · exact ⟨[], FileNode.at?_nil n, rfl, fun h => absurd rfl h, nofun⟩
      · obtain ⟨hok, hshown, rest, hrest, hpath', hall⟩ := (below c hc).1 he
        obtain ⟨hb, hok⟩ := Bool.and_eq_true_iff.1 hok
        refine ⟨c.1 :: rest, ?_, hpath', fun _ => hb, List.forall_mem_cons.2 ⟨⟨hok, hshown⟩, hall⟩⟩
        exact FileNode.at?_cons_eq_some_iff.2 ⟨c.2, hwf.entry?_eq_some_iff.2 hc, hrest⟩
    · rintro ⟨names', hnode, hpath', hb, hall⟩
      cases names' with
      | nil =>
        cases FileNode.at?_nil_eq_some_iff.1 hnode
        exact .inl (by cases e; cases hpath'; rfl)
      | cons s rest =>
        obtain ⟨m, hm, hrest⟩ := FileNode.at?_cons_eq_some_iff.1 hnode
        have hc : (s, m) ∈ n.entries := FileNode.mem_of_entry_eq hm
        obtain ⟨⟨hok, hshown⟩, hall⟩ := List.forall_mem_cons.1 hall
        refine .inr ⟨(s, m), hc, (below (s, m) hc).2 ⟨?_, hshown, rest, hrest, hpath', hall⟩⟩
        rw [hb (List.cons_ne_nil s rest), hok]
        rfl

end Walk

/-! ### Walks from a directory -/

namespace FileSystem
variable {fs : FileSystem} {root : FileNode} {links : Nat} {place : Place} {n : FileNode} {todo : List String}
  {p : Path} {r : Place × FileNode}

/-- A look-up that follows no link at the end comes to the same, or to a link. -/
theorem Walk.ok_or_link (h : Walk root links place n todo r) (hbar : r.2.bar? = none) :
    walkPath root false links place n todo = .ok r ∨
      ∃ inner target, walkPath root false links place n todo = .ok (inner, .link target) := by
  induction h with
  | done => exact .inl (by rw [walkPath, hbar])
  | stay hn hs _ ih =>
    rw [walkPath]
    simpa [hn, Component.isMeant_eq_false.1 hs] using ih hbar
  | up hn _ ih =>
    rw [walkPath]
    simpa [hn] using ih hbar
  | @enter _ _ _ _ m _ _ hn hs hup hm hlink _ ih =>
    rw [walkPath]
    simp only [hn, Component.isMeant_eq_true.1 hs, hup, hm, Bool.not_true, Bool.false_eq_true, if_false]
    cases m with
    | link target => exact absurd rfl (hlink target)
    | _ => exact ih hbar
  | @jump _ place _ piece target rest _ hn hs hup hm ht _ ih =>
    rw [walkPath]
    simp only [hn, Component.isMeant_eq_true.1 hs, hup, hm, ht, Bool.not_true, Bool.false_eq_true,
      if_false, if_true]
    by_cases hrest : rest = []
    · exact .inr ⟨place ++ [piece], target, by simp [hrest]⟩
    · simpa [hrest] using ih hbar
  | @follow _ place _ piece target rest _ hn hs hup hm ht _ ih =>
    rw [walkPath]
    simp only [hn, Component.isMeant_eq_true.1 hs, hup, hm, ht, Bool.not_true, Bool.false_eq_true, if_false]
    by_cases hrest : rest = []
    · exact .inr ⟨place ++ [piece], target, by simp [hrest]⟩
    · simpa [hrest] using ih hbar

theorem resolve_false_of_true (h : fs.resolve true p = .ok r) :
    fs.resolve false p = .ok r ∨ ∃ inner target, fs.resolve false p = .ok (inner, .link target) := by
  obtain ⟨hp, hbar, place, n, ho, hwalk⟩ := resolve_eq_ok_iff.1 h
  rcases hwalk.ok_or_link hbar with h | ⟨inner, target, h⟩
  · exact .inl (resolve_eq_ok_iff_walkPath.2 ⟨hp, place, n, ho, h⟩)
  · exact .inr ⟨inner, target, resolve_eq_ok_iff_walkPath.2 ⟨hp, place, n, ho, h⟩⟩

theorem resolve_true_of_false (h : fs.resolve false p = .ok r) (hlink : ∀ target, r.2 ≠ .link target) :
    fs.resolve true p = .ok r := by
  obtain ⟨hp, place, n, ho, hwalk⟩ := resolve_eq_ok_iff_walkPath.1 h
  exact resolve_eq_ok_iff.2 ⟨hp, bar?_of_walkPath hwalk, place, n, ho, .of_walkPath hwalk fun _ => hlink⟩

end FileSystem

/-! ### What is found -/

namespace Path
variable {root start p : Path} {names : List String}

theorem isUnder_descend (hp : p.text ≠ "") (h : ∀ s ∈ names, IsName s) : p.isUnder (p.descend names) = true :=
  isUnder_iff.2 ⟨_, (components_descend hp h).symm⟩

theorem namesBelow_descend (hp : p.text ≠ "") (h : ∀ s ∈ names, IsName s) :
    p.namesBelow (p.descend names) = names := by
  rw [namesBelow_eq (components_descend hp h).symm, List.filterMap_map]
  exact List.filterMap_some

theorem shows_descend (hu : root.isUnder start = true) (hp : start.text ≠ "") (h : ∀ s ∈ names, IsName s) :
    root.shows (start.descend names) =
      (root.shows start && names.all fun s => !Scope.isIgnoredName s && !Scope.isHiddenName s) := by
  rw [shows_trans hu (isUnder_descend hp h), shows.eq_1 start, namesBelow_descend hp h]

theorem isWatchableBelow_descend (hu : root.isUnder start = true) (hp : start.text ≠ "")
    (h : ∀ s ∈ names, IsName s) :
    root.isWatchableBelow (start.descend names) = root.shows (start.descend names) :=
  isWatchableBelow_eq (isUnder_trans hu (isUnder_descend hp h))

theorem shows_iff : root.shows p = true ↔
    ∀ s ∈ root.namesBelow p, Scope.isIgnoredName s = false ∧ Scope.isHiddenName s = false := by
  simp only [shows, List.all_eq_true, Bool.and_eq_true, Bool.not_eq_true']

end Path

namespace FileSystem
variable {fs : FileSystem} {root start p : Path} {top : Place} {es : List (String × FileNode)} {limit : Nat}
  {names : List String}

/-- A scan from a directory, or from a link to one, is the walk of the directory. -/
theorem sourcesBelow_eq (hdash : ¬ root.Same ⟨"-"⟩) (hr : fs.resolve true root = .ok (top, .directory es)) :
    fs.sourcesBelow limit root =
      (((Walk.forFiles fs root).node (fs.levelsAbove top) top root (.directory es)).filter
        (fs.isSource limit)).map (·.path) := by
  unfold sourcesBelow
  dsimp only
  rw [← Walk.forFiles, Walk.run, if_neg hdash]
  rcases resolve_false_of_true hr with h | ⟨inner, target, h⟩
  · simp only [Walk.forFiles, h]
  · simp only [Walk.forFiles, h, hr, Walk.node]
    rfl

/-- What is below a root under some names is ignored if one of them is. -/
theorem forFiles_accepts (hroot : root.text ≠ "") (h : ∀ s ∈ names, IsName s) :
    (Walk.forFiles fs root).accepts (root.descend names) =
      (true && names.all fun s => !Scope.isIgnoredName s) := by
  show (!root.isIgnoredBelow (root.descend names)) = _
  rw [Path.isIgnoredBelow, Path.namesBelow_descend hroot h, List.not_any_eq_all_not, Bool.true_and]

/-- Of what a path leads to, the size is known if the path can be looked up. -/
theorem Leads.isLarge_eq_false_iff {place : Place} {n : FileNode} (h : fs.Leads p place n) :
    fs.isLarge limit p = false ↔ n.size ≤ limit ∨ ∃ fault, fs.node p = .error fault := by
  unfold isLarge
  cases hn : fs.node p with
  | error fault => simp
  | ok m =>
    obtain ⟨place', hr⟩ := node_eq_ok_iff.1 hn
    obtain ⟨-, rfl⟩ := h.unique (.of_resolve hr nofun)
    simp

theorem at?_append_directory (h : fs.at? top = some (.directory es)) (names : List String) :
    fs.at? (top ++ names) = (FileNode.directory es).at? names := by
  rw [at?, FileNode.at?_append, show fs.root.at? top = _ from h]
  rfl

theorem mem_sourcesBelow_iff (hfs : fs.WellFormed) (hdash : ¬ root.Same ⟨"-"⟩)
    (hr : fs.resolve true root = .ok (top, .directory es)) (hrules : fs.IsUnruled top) :
    p ∈ fs.sourcesBelow limit root ↔ ∃ names n, fs.at? (top ++ names) = some n ∧ n.isFile = true ∧
      p = root.descend names ∧ (∀ s ∈ names, Scope.isIgnoredName s = false ∧ Scope.isHiddenName s = false) ∧
      Language.ofPath p ≠ .unknown ∧ p.isNoise = false ∧
      (n.size ≤ limit ∨ ∃ fault, fs.node p = .error fault) := by
  obtain ⟨htop, -⟩ := hfs.lands hr
  have hroot : root.text ≠ "" := (resolve_eq_ok_iff.1 hr).1.2.1
  have hmem (e : WalkEntry) :=
    Walk.mem_node_of_names (w := .forFiles fs root) (e := e) (hfs.tree.at? htop).1 hroot htop
      (hrules.levelsAbove htop) (fun inner es hes hp => hrules inner es hes (.inr hp))
      fun _ => forFiles_accepts hroot
  simp only [sourcesBelow_eq hdash hr, List.mem_map, List.mem_filter, isSource_iff, hmem,
    at?_append_directory htop, implies_true, true_and, Bool.not_eq_true']
  -- The path of a file below the root leads to the file.
  have leads {names : List String} {n : FileNode} (hn : (FileNode.directory es).at? names = some n)
      (hfile : n.isFile = true) : fs.Leads (root.descend names) (top ++ names) n :=
    (Leads.of_resolve hr nofun).descend (hfs.tree.at? htop).1 hn fun target ht => by cases ht; cases hfile
  constructor
  · rintro ⟨⟨_, n⟩, ⟨⟨names, hn, rfl, hall⟩, hfile, hlanguage, hnoise, hsize⟩, rfl⟩
    exact ⟨names, n, hn, hfile, rfl, fun s hs => ⟨(hall s hs).1, (hall s hs).2 rfl⟩, hlanguage, hnoise,
      (leads hn hfile).isLarge_eq_false_iff.1 hsize⟩
  · rintro ⟨names, n, hn, hfile, rfl, hall, hlanguage, hnoise, hsize⟩
    exact ⟨⟨_, n⟩,
      ⟨⟨names, hn, rfl, fun s hs => ⟨(hall s hs).1, fun _ => (hall s hs).2⟩⟩, hfile, hlanguage, hnoise,
      (leads hn hfile).isLarge_eq_false_iff.2 hsize⟩, rfl⟩

/-- A search for directories is the walk from where it starts. -/
theorem watchListBelow_eq (hdash : ¬ start.Same ⟨"-"⟩)
    (hr : fs.resolve false start = .ok (top, .directory es)) :
    fs.watchListBelow root start =
      (((Walk.forDirectories fs root).node (fs.levelsAbove top) top start (.directory es)).filter fun e =>
        e.node.isDirectory && root.isWatchableBelow e.path).map (·.path) := by
  unfold watchListBelow
  dsimp only
  rw [← Walk.forDirectories, Walk.run, if_neg hdash]
  simp only [Walk.forDirectories, hr]

theorem mem_watchListBelow_iff (hfs : fs.WellFormed) (hdash : ¬ start.Same ⟨"-"⟩)
    (hu : root.isUnder start = true)
    (hr : fs.resolve false start = .ok (top, .directory es)) (hrules : fs.IsUnruled top) :
    p ∈ fs.watchListBelow root start ↔ ∃ names es, fs.at? (top ++ names) = some (.directory es) ∧
      p = start.descend names ∧ root.shows p = true := by
  obtain ⟨htop, -⟩ := hfs.lands (resolve_true_of_false hr nofun)
  have hstart : start.text ≠ "" := (resolve_eq_ok_iff_walkPath.1 hr).1.2.1
  have hwf := (hfs.tree.at? htop).1
  have hmem (e : WalkEntry) := Walk.mem_node_of_names (w := .forDirectories fs root) (e := e) hwf hstart htop
    (hrules.levelsAbove htop) (fun inner es hes hp => hrules inner es hes (.inr hp)) fun _ hnames =>
      (Path.isWatchableBelow_descend hu hstart hnames).trans (Path.shows_descend hu hstart hnames)
  simp only [watchListBelow_eq hdash hr, List.mem_map, List.mem_filter, hmem, at?_append_directory htop,
    Bool.and_eq_true]
  constructor
  · rintro ⟨⟨_, n⟩, ⟨⟨names, hn, rfl, -, -⟩, hdir, hwatch⟩, rfl⟩
    cases n with
    | directory es =>
      exact ⟨names, es, hn, rfl, (Path.isWatchableBelow_descend hu hstart (hwf.at? hn).2).symm.trans hwatch⟩
    | _ => cases hdir
  · rintro ⟨names, ds, hn, rfl, hshown⟩
    have hnames := (hwf.at? hn).2
    have hwatch := (Path.isWatchableBelow_descend hu hstart hnames).trans hshown
    rw [Path.shows_descend hu hstart hnames, Bool.and_eq_true, List.all_eq_true] at hshown
    refine ⟨⟨_, .directory ds⟩,
      ⟨⟨names, hn, rfl, fun _ => hshown.1, fun s hs => ⟨?_, nofun⟩⟩, rfl, hwatch⟩, rfl⟩
    exact Bool.and_eq_true_iff.1 (hshown.2 s hs)

/-- Where there are no rules, a scan lists the files below the root that are shown and of interest,
whatever the path of the root is, and a search for directories to watch lists those that are shown
below the root. Both list each of them once. A file above the limit is listed nonetheless if its path
cannot be looked up, since its size cannot be found out then. -/
theorem walks_exact (hfs : fs.WellFormed) (root : Path) :
    (∀ limit top es, fs.resolve true root = .ok (top, .directory es) → ¬ root.Same ⟨"-"⟩ → fs.IsUnruled top →
      (fs.sourcesBelow limit root).Nodup ∧ ∀ p, p ∈ fs.sourcesBelow limit root ↔
        ∃ names n, fs.at? (top ++ names) = some n ∧ n.isFile = true ∧ p = root.descend names ∧
          (∀ s ∈ names, Scope.isIgnoredName s = false ∧ Scope.isHiddenName s = false) ∧
          Language.ofPath p ≠ .unknown ∧ p.isNoise = false ∧
          (n.size ≤ limit ∨ ∃ fault, fs.node p = .error fault)) ∧
    (∀ start top es, fs.resolve false start = .ok (top, .directory es) → root.isUnder start = true →
      ¬ start.Same ⟨"-"⟩ → fs.IsUnruled top →
      (fs.watchListBelow root start).Nodup ∧ ∀ p, p ∈ fs.watchListBelow root start ↔
        ∃ names es, fs.at? (top ++ names) = some (.directory es) ∧ p = start.descend names ∧
          ∀ s ∈ root.namesBelow p, Scope.isIgnoredName s = false ∧ Scope.isHiddenName s = false) := by
  constructor
  · intro limit top es hr hdash hrules
    refine ⟨?_, fun p => mem_sourcesBelow_iff hfs hdash hr hrules⟩
    rw [sourcesBelow_eq hdash hr]
    have hwf := (hfs.tree.at? (hfs.lands hr).1).1
    exact (Walk.nodup_node hwf (resolve_eq_ok_iff.1 hr).1.2.1).sublist (List.filter_sublist.map _)
  · intro start top es hr hu hdash hrules
    simp only [← Path.shows_iff]
    refine ⟨?_, fun p => mem_watchListBelow_iff hfs hdash hu hr hrules⟩
    rw [watchListBelow_eq hdash hr]
    have hwf := (hfs.tree.at? (hfs.lands (resolve_true_of_false hr nofun)).1).1
    exact (Walk.nodup_node hwf (resolve_eq_ok_iff_walkPath.1 hr).1.2.1).sublist (List.filter_sublist.map _)

end FileSystem

/-! ### A root that is hidden itself -/

namespace Burrow

/-- What is in the root: a file, one more in a directory that is left out, and a directory to watch. -/
def listing : List (String × FileNode) :=
  [("a.py", .file ⟨#[]⟩), ("build", .directory [("b.py", .file ⟨#[]⟩)]), ("src", .directory [])]

/-- A file system whose only directory at the top is the root, which is hidden. -/
def files : FileSystem := ⟨.directory [(".x", .directory listing)], []⟩

theorem wellFormed : files.WellFormed := by
  refine ⟨?_, _, rfl⟩
  simp [files, listing, FileNode.wellFormed_directory, FileNode.wellFormed_file]
  decide

theorem resolve_root (follow : Bool) :
    files.resolve follow (pathOf [".x"]) = .ok ([".x"], .directory listing) :=
  wellFormed.resolve_pathOf (by decide) rfl rfl nofun

theorem not_same_dash : ¬ (pathOf [".x"]).Same ⟨"-"⟩ := Walk.not_same_dash (Path.isAbsolute_pathOf _)

/-- The directories are the top, the root, and two in the root. -/
theorem eq_of_directory {place : Place} {es : List (String × FileNode)}
    (h : files.at? place = some (.directory es)) :
    (place, es) ∈ [([], [(".x", .directory listing)]), ([".x"], listing),
      ([".x", "build"], [("b.py", .file ⟨#[]⟩)]), ([".x", "src"], [])] := by
  have below {n : FileNode} {s : String} {rest : Place} (hs : n.at? (s :: rest) = some (.directory es)) :
      ∃ m, (s, m) ∈ n.entries ∧ m.at? rest = some (.directory es) :=
    let ⟨m, hm, hrest⟩ := FileNode.at?_cons_eq_some_iff.1 hs
    ⟨m, FileNode.mem_of_entry_eq hm, hrest⟩
  cases place with
  | nil => cases h; simp
  | cons s rest =>
    obtain ⟨n, hn, hrest⟩ := below h
    cases List.mem_singleton.1 hn
    cases rest with
    | nil => cases hrest; simp
    | cons t rest =>
      obtain ⟨m, hm, hrest⟩ := below hrest
      simp only [listing, FileNode.entries, List.mem_cons, Prod.mk.injEq, List.not_mem_nil, or_false] at hm
      rcases hm with ⟨rfl, rfl⟩ | ⟨rfl, rfl⟩ | ⟨rfl, rfl⟩
      · cases (FileNode.at?_leaf rfl hrest).2
      · cases rest with
        | nil => cases hrest; simp
        | cons u rest =>
          obtain ⟨k, hk, hrest⟩ := below hrest
          cases List.mem_singleton.1 hk
          cases (FileNode.at?_leaf rfl hrest).2
      · obtain ⟨rfl, heq⟩ := FileNode.at?_leaf rfl hrest
        cases heq
        simp

theorem isUnruled : files.IsUnruled [".x"] := by
  refine FileSystem.isUnruled_of_plain wellFormed fun place es hes _ => ?_
  have hmem := eq_of_directory hes
  simp only [List.mem_cons, Prod.mk.injEq, List.not_mem_nil, or_false] at hmem
  rcases hmem with ⟨-, rfl⟩ | ⟨-, rfl⟩ | ⟨-, rfl⟩ | ⟨-, rfl⟩ <;> exact ⟨rfl, rfl, rfl⟩

/-- The file in the root is listed and the one that is left out is not; the directory is watched. -/
theorem walks_exact_hidden : files.WellFormed ∧ files.IsUnruled [".x"] ∧
    pathOf [".x", "a.py"] ∈ files.sourcesBelow 0 (pathOf [".x"]) ∧
    pathOf [".x", "build", "b.py"] ∉ files.sourcesBelow 0 (pathOf [".x"]) ∧
    pathOf [".x", "src"] ∈ files.watchListBelow (pathOf [".x"]) (pathOf [".x"]) := by
  obtain ⟨hscan, hwatch⟩ := FileSystem.walks_exact wellFormed (pathOf [".x"])
  have hlisted := (hscan 0 _ _ (resolve_root true) not_same_dash isUnruled).2
  have hwatched := (hwatch _ _ _ (resolve_root false) (Path.isUnder_of_same (Path.Same.refl _)) not_same_dash
    isUnruled).2
  refine ⟨wellFormed, isUnruled, (hlisted _).2 ?_, fun hb => ?_, (hwatched _).2 ?_⟩
  · have hnames : ∀ s ∈ [".x"] ++ ["a.py"], IsName s := by decide
    have hname := Path.fileName?_pathOf hnames
    have hshown : ∀ s ∈ ["a.py"], Scope.isIgnoredName s = false ∧ Scope.isHiddenName s = false := by
      simp only [Scope.isIgnoredName_eq, Scope.isHiddenName_eq]
      decide
    have hlanguage : Language.ofPath (pathOf ([".x"] ++ ["a.py"])) ≠ .unknown := by
      rw [Language.ofPath_eq hname]
      decide
    have hnoise : (pathOf ([".x"] ++ ["a.py"])).isNoise = false := by
      rw [Path.isNoise_eq hname]
      decide
    exact ⟨["a.py"], .file ⟨#[]⟩, rfl, rfl, (Path.descend_pathOf hnames).symm, hshown, hlanguage, hnoise,
      .inl (Nat.le_refl _)⟩
  · obtain ⟨names, _, hat, -, hp, hall, -⟩ := (hlisted _).1 hb
    have hnames := wellFormed.isName hat
    rw [Path.descend_pathOf hnames] at hp
    have heq : [".x", "build", "b.py"] = [".x"] ++ names := FileSystem.pathOf_inj (by decide) hnames hp
    cases heq
    have hbuild : Scope.isIgnoredName "build" = true := by
      rw [Scope.isIgnoredName_eq]
      decide
    exact absurd (hall "build" List.mem_cons_self).1 (by simp [hbuild])
  · have hnames : ∀ s ∈ [".x"] ++ ["src"], IsName s := by decide
    have hshown : ∀ s ∈ (pathOf [".x"]).namesBelow (pathOf ([".x"] ++ ["src"])),
        Scope.isIgnoredName s = false ∧ Scope.isHiddenName s = false := by
      simp only [Path.namesBelow_pathOf hnames, Scope.isIgnoredName_eq, Scope.isHiddenName_eq]
      decide
    exact ⟨["src"], [], rfl, (Path.descend_pathOf hnames).symm, hshown⟩

end Burrow

/-! ### A file whose path is too long -/

namespace Deep

/-- A directory in a directory, and so on along some names, and something in the last one. -/
def nest (n : FileNode) : Place → FileNode
  | [] => n
  | s :: names => .directory [(s, nest n names)]

variable {n m : FileNode} {names place : Place}

theorem wellFormed_nest (hn : n.WellFormed) (hnames : ∀ s ∈ names, IsName s) : (nest n names).WellFormed := by
  induction names with
  | nil => exact hn
  | cons s names ih =>
    obtain ⟨hs, hnames⟩ := List.forall_mem_cons.1 hnames
    exact FileNode.wellFormed_directory.2
      ⟨List.forall_mem_singleton.2 hs, List.nodup_singleton _, List.forall_mem_singleton.2 (ih hnames)⟩

theorem at?_nest : (nest n names).at? names = some n := by
  induction names with
  | nil => rfl
  | cons s names ih =>
    exact FileNode.at?_cons_eq_some_iff.2 ⟨_, by simp [nest, FileNode.entry?, FileNode.entries], ih⟩

/-- On the way along the names there is what is left of it. -/
theorem eq_of_at? (hn : n.entries = []) (hm : (nest n names).at? place = some m) :
    ∃ rest, names = place ++ rest ∧ m = nest n rest := by
  induction place generalizing names with
  | nil => exact ⟨names, rfl, (FileNode.at?_nil_eq_some_iff.1 hm).symm⟩
  | cons s place ih =>
    obtain ⟨k, hk, hm⟩ := FileNode.at?_cons_eq_some_iff.1 hm
    have hmem := FileNode.mem_of_entry_eq hk
    cases names with
    | nil =>
      rw [nest, hn] at hmem
      cases hmem
    | cons t names =>
      cases List.mem_singleton.1 hmem
      obtain ⟨rest, rfl, hrest⟩ := ih hm
      exact ⟨rest, rfl, hrest⟩

/-- A place so far down that its path is too long, though that of its directory is not. -/
def script : Place := List.replicate 409 "directory" ++ ["big.py"]

theorem mem_script {s : String} (h : s ∈ script) : s = "directory" ∨ s = "big.py" :=
  (List.mem_append.1 h).imp List.eq_of_mem_replicate List.mem_singleton.1

theorem isName_script : ∀ s ∈ script, IsName s := by
  intro s hs
  rcases mem_script hs with rfl | rfl <;> decide

/-- A file system with a script of six bytes at the place. -/
def files : FileSystem := ⟨nest (.file "x = 1\n".toUTF8) script, []⟩

theorem wellFormed : files.WellFormed :=
  ⟨wellFormed_nest (FileNode.wellFormed_file _) isName_script, _, rfl⟩

theorem isUnruled : files.IsUnruled [] := by
  refine FileSystem.isUnruled_of_plain wellFormed fun place es hes _ => ?_
  have hnames : ∀ s ∈ script, s ≠ ".git" ∧ s ≠ ".ignore" ∧ s ≠ ".gitignore" := by
    intro s hs
    rcases mem_script hs with rfl | rfl <;> decide
  obtain ⟨rest, hrest, hnest⟩ := eq_of_at? rfl hes
  cases rest with
  | nil => cases hnest
  | cons s rest =>
    cases hnest
    obtain ⟨hgit, hignore, hgitignore⟩ := hnames s (hrest ▸ List.mem_append_right _ List.mem_cons_self)
    have lookup_ne {t : String} (h : s ≠ t) (m : FileNode) : List.lookup t [(s, m)] = none := by
      simpa [List.lookup_eq_none_iff] using h.symm
    exact ⟨lookup_ne hgit _, lookup_ne hignore _, lookup_ne hgitignore _⟩

/-- The path of the script cannot be looked up. -/
theorem exists_fault : ∃ fault, files.node (pathOf script) = .error fault := by
  have hlong : FileSystem.pathLimit < (pathOf script).text.utf8ByteSize := by
    have hne : script ≠ [] := List.append_ne_nil_of_right_ne_nil _ (List.cons_ne_nil _ _)
    rw [Path.utf8ByteSize_pathOf hne, ← List.sum_eq_foldr, script, List.map_append, List.map_replicate,
      List.sum_append_nat, List.sum_replicate_nat]
    decide
  cases hn : files.node (pathOf script) with
  | error fault => exact ⟨fault, rfl⟩
  | ok n =>
    obtain ⟨place, hr⟩ := FileSystem.node_eq_ok_iff.1 hn
    exact absurd (FileSystem.resolve_eq_ok_iff.1 hr).1.2.2 (Nat.not_le.2 hlong)

/-- The script is listed though it is too large, since its path cannot be looked up. -/
theorem walks_exact_unsized : files.WellFormed ∧ files.IsRoot (pathOf []) ∧ files.IsUnruled [] ∧
    files.at? script = some (.file "x = 1\n".toUTF8) ∧ 5 < "x = 1\n".toUTF8.size ∧
    pathOf script ∈ files.sourcesBelow 5 (pathOf []) := by
  have hr : files.resolve true (pathOf []) = .ok ([], files.root) :=
    wellFormed.resolve_pathOf (by decide) rfl rfl nofun
  have hroot : files.IsRoot (pathOf []) := wellFormed.isRoot_pathOf (by decide) rfl
  have hpath : (pathOf []).descend script = pathOf script :=
    Path.descend_pathOf (show ∀ s ∈ [] ++ script, IsName s from isName_script)
  have hshown : ∀ s ∈ script, Scope.isIgnoredName s = false ∧ Scope.isHiddenName s = false := by
    intro s hs
    rw [Scope.isIgnoredName_eq, Scope.isHiddenName_eq]
    rcases mem_script hs with rfl | rfl <;> decide
  have hname : (pathOf script).fileName? = some "big.py" := Path.fileName?_pathOf isName_script
  have hlanguage : Language.ofPath (pathOf script) ≠ .unknown := by
    rw [Language.ofPath_eq hname]
    decide
  have hnoise : (pathOf script).isNoise = false := by
    rw [Path.isNoise_eq hname]
    decide
  refine ⟨wellFormed, hroot, isUnruled, at?_nest, by decide, ?_⟩
  refine (FileSystem.mem_sourcesBelow_iff wellFormed
    (Walk.not_same_dash (Path.isAbsolute_pathOf [])) hr isUnruled).2
    ⟨script, _, at?_nest, rfl, hpath.symm, hshown, hlanguage, hnoise, .inr exists_fault⟩

end Deep
end SymbolIndex
