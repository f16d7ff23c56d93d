import Mathlib.Data.List.Nodup
import SymbolIndex.Ignore.Walk
import SymbolIndex.Proofs.FileSystem.Place
import SymbolIndex.Proofs.Path.Descent

/-!
# What a walk comes across

Whether a walk admits an entry depends on its place only, since the ignore files that count for it are
those of the directories above it (`Walk.Passes`). So a walk from a directory comes across what is at the
places that it reaches, going down through places that it admits (`Walk.mem_run`), and each of them once
(`Walk.nodup_run`). Reaching a place is reaching any place on the way and going on from there
(`Walk.reaches_iff`).
-/
namespace SymbolIndex
open FileSystem (pathOf Admits)

theorem FileSystem.levelsAbove_concat (fs : FileSystem) (place : Place) (s : String) :
    fs.levelsAbove (place ++ [s]) = fs.ignoreLevel place :: fs.levelsAbove place := by
  unfold levelsAbove
  rw [List.length_append, List.length_singleton, List.range_succ, List.map_append, List.reverse_append,
    List.map_singleton, List.take_left, List.reverse_singleton, List.singleton_append]
  congr 2
  refine List.map_congr_left fun n hn => ?_
  rw [List.take_append_of_le_length (Nat.le_of_lt (List.mem_range.1 hn))]

namespace Walk

variable {w : Walk} {levels : List IgnoreLevel} {place top : Place} {path : Path} {n : FileNode}
  {e : WalkEntry}

/-! ### One directory at a time -/

/-- An entry is listed if no rule ignores it, the walk accepts it, and it is shown or a rule keeps it. -/
theorem admits_iff : w.admits levels place path n = true ↔
    IgnoreLevel.verdict levels place n.isDirectory ≠ .ignored ∧ w.accepts path = true ∧
      (IgnoreLevel.verdict levels place n.isDirectory = .undecided → w.skipsHidden = true →
        (place.getLastD "").startsWith "." = false) := by
  unfold admits
  cases IgnoreLevel.verdict levels place n.isDirectory with
  | ignored => simp
  | kept => simp
  | undecided => cases w.skipsHidden <;> simp [and_comm]

/-- What a walk comes across at and below an entry of a directory. -/
def entry (w : Walk) (levels : List IgnoreLevel) (place : Place) (path : Path) (e : String × FileNode) :
    List WalkEntry :=
  if w.admits levels (place ++ [e.1]) (path.child e.1) e.2 then
    w.node levels (place ++ [e.1]) (path.child e.1) e.2
  else []

theorem entries_eq (w : Walk) (levels : List IgnoreLevel) (place : Place) (path : Path)
    (es : List (String × FileNode)) :
    w.entries levels place path es = es.flatMap (w.entry levels place path) := by
  induction es with
  | nil => rw [entries]; rfl
  | cons e es ih => rw [entries, ih]; rfl

theorem node_eq (w : Walk) (levels : List IgnoreLevel) (place : Place) (path : Path) (n : FileNode) :
    w.node levels place path n =
      ⟨path, n⟩ :: n.entries.flatMap (w.entry (w.fs.ignoreLevel place :: levels) place path) := by
  cases n with
  | directory es => rw [node, entries_eq]; rfl
  | _ => simp [node, FileNode.entries]

theorem mem_entry {c : String × FileNode} : e ∈ w.entry levels place path c ↔
    w.admits levels (place ++ [c.1]) (path.child c.1) c.2 = true ∧
      e ∈ w.node levels (place ++ [c.1]) (path.child c.1) c.2 := by
  unfold entry
  split <;> simp_all

/-! ### The paths of what is listed -/

/-- What is listed below a path is what is under some names below it. -/
theorem exists_names (hn : n.WellFormed) (he : e ∈ w.node levels place path n) :
    ∃ names, n.at? names = some e.node ∧ e.path = path.descend names := by
  induction hn generalizing levels place path with
  | @intro n names distinct inner ih =>
    rw [node_eq] at he
    rcases List.mem_cons.1 he with rfl | he
    · exact ⟨[], FileNode.at?_nil n, rfl⟩
    · obtain ⟨c, hc, he⟩ := List.mem_flatMap.1 he
      obtain ⟨-, he⟩ := mem_entry.1 he
      obtain ⟨rest, hrest, hpath⟩ := ih c hc he
      have hentry := (FileNode.WellFormed.intro names distinct inner).entry?_eq_some_iff.2 hc
      exact ⟨c.1 :: rest, FileNode.at?_cons_eq_some_iff.2 ⟨c.2, hentry, hrest⟩, hpath⟩

/-- What is listed below an entry is listed under the name of the entry. -/
theorem exists_names_entry {c : String × FileNode} (hn : c.2.WellFormed) (hs : IsName c.1)
    (he : e ∈ w.entry levels place path c) :
    ∃ names, (∀ s ∈ c.1 :: names, IsName s) ∧ e.path = path.descend (c.1 :: names) := by
  obtain ⟨-, he⟩ := mem_entry.1 he
  obtain ⟨names, hat, hpath⟩ := exists_names hn he
  exact ⟨names, List.forall_mem_cons.2 ⟨hs, (hn.at? hat).2⟩, hpath⟩

/-- Nothing is listed twice. -/
theorem nodup_node (hn : n.WellFormed) (hpath : path.text ≠ "") :
    ((w.node levels place path n).map (·.path)).Nodup := by
  induction hn generalizing levels place path with
  | @intro n names distinct inner ih =>
    rw [node_eq, List.map_cons, List.map_flatMap, List.nodup_cons, List.nodup_flatMap]
    refine ⟨fun h => ?_, fun c hc => ?_, ?_⟩
    · obtain ⟨c, hc, h⟩ := List.mem_flatMap.1 h
      obtain ⟨e, he, heq⟩ := List.mem_map.1 h
      obtain ⟨rest, hrest, hpath'⟩ := exists_names_entry (inner c hc) (names c hc) he
      exact List.cons_ne_nil _ _ (Path.descend_inj hpath hrest nofun (hpath'.symm.trans heq))
    · unfold entry
      split
      · exact ih c hc (Path.steps_child hpath (names c hc)).1
      · exact List.nodup_nil
    · -- What is listed below different entries differs in the names of the entries.
      refine (List.pairwise_map.1 distinct).imp_of_mem fun {c d} hc hd hne => ?_
      refine List.disjoint_left.2 ?_
      intro p hp hp'
      obtain ⟨e, he, rfl⟩ := List.mem_map.1 hp
      obtain ⟨e', he', heq⟩ := List.mem_map.1 hp'
      obtain ⟨rest, hrest, hpath'⟩ := exists_names_entry (inner c hc) (names c hc) he
      obtain ⟨rest', hrest', hpath''⟩ := exists_names_entry (inner d hd) (names d hd) he'
      have hnames := Path.descend_inj hpath hrest hrest' (hpath'.symm.trans (heq.symm.trans hpath''))
      exact hne (List.cons.inj hnames).1

/-! ### Places that a walk reaches -/

/-- Whether a walk admits what is at a place, by the ignore files of the directories above it. -/
def Passes (w : Walk) (place : Place) : Prop :=
  ∃ n, w.fs.at? place = some n ∧ w.admits (w.fs.levelsAbove place) place (pathOf place) n = true

/-- A walk that accepts no less, and leaves out nothing because it is hidden, admits no less. -/
theorem Passes.of_shown {w' : Walk} (h : w.Passes place) (hfs : w'.fs = w.fs)
    (hshown : w'.skipsHidden = false)
    (ha : w.accepts (pathOf place) = true → w'.accepts (pathOf place) = true) : w'.Passes place := by
  obtain ⟨n, hn, h⟩ := h
  obtain ⟨hv, hacc, -⟩ := admits_iff.1 h
  refine ⟨n, hfs ▸ hn, admits_iff.2 ⟨hfs ▸ hv, ha hacc, fun _ hs => ?_⟩⟩
  rw [hshown] at hs
  cases hs

/-- Whether a walk that has come to `top` comes to a place below it. -/
def Reaches (w : Walk) (top place : Place) : Prop :=
  top <+: place ∧ ∀ inner, top <+: inner → inner ≠ top → inner <+: place → w.Passes inner

theorem reaches_refl (w : Walk) (top : Place) : w.Reaches top top :=
  ⟨List.prefix_rfl, fun _ h hne h' => absurd (h'.eq_of_length_le h.length_le) hne⟩

/-- To reach a place is to reach one on the way, and to go on from there. -/
theorem reaches_iff {mid : Place} (ht : top <+: mid) (hm : mid <+: place) :
    w.Reaches top place ↔ w.Reaches top mid ∧ w.Reaches mid place := by
  constructor
  · rintro ⟨-, h⟩
    refine ⟨⟨ht, fun inner hi hne hi' => h inner hi hne (hi'.trans hm)⟩, hm, fun inner hi hne hi' => ?_⟩
    refine h inner (ht.trans hi) (fun heq => hne ?_) hi'
    exact (heq ▸ hi : mid <+: top).eq_of_length_le ht.length_le ▸ heq
  · rintro ⟨⟨-, h⟩, -, h'⟩
    refine ⟨ht.trans hm, fun inner hi hne hi' => ?_⟩
    rcases List.prefix_or_prefix_of_prefix hi' hm with hp | hp
    · exact h inner hi hne hp
    · by_cases heq : inner = mid
      · exact h inner hi hne (heq ▸ List.prefix_rfl)
      · exact h' inner hp heq hi'

theorem reaches_concat {s : String} : w.Reaches top (top ++ [s]) ↔ w.Passes (top ++ [s]) := by
  constructor
  · exact fun h => h.2 _ (List.prefix_append ..) (by simp) List.prefix_rfl
  · refine fun h => ⟨List.prefix_append .., fun inner hi hne hi' => ?_⟩
    rcases List.prefix_concat_iff.1 hi' with rfl | hi'
    · exact h
    · exact absurd (hi'.eq_of_length_le hi.length_le) hne

/-- A walk from a place comes across what is at the places that it reaches. -/
theorem mem_node (hn : n.WellFormed) (htop : ∀ s ∈ top, IsName s) (hat : w.fs.at? top = some n) :
    e ∈ w.node (w.fs.levelsAbove top) top (pathOf top) n ↔
      ∃ place, w.Reaches top place ∧ w.fs.at? place = some e.node ∧ e.path = pathOf place := by
  induction hn generalizing top with
  | @intro n names distinct inner ih =>
    have hwf : n.WellFormed := .intro names distinct inner
    rw [node_eq, List.mem_cons, List.mem_flatMap]
    -- For each entry, what the walk comes across there.
    have below : ∀ c ∈ n.entries, w.fs.at? (top ++ [c.1]) = some c.2 ∧
        (e ∈ w.entry (w.fs.ignoreLevel top :: w.fs.levelsAbove top) top (pathOf top) c ↔
          w.Passes (top ++ [c.1]) ∧ ∃ place, w.Reaches (top ++ [c.1]) place ∧
            w.fs.at? place = some e.node ∧ e.path = pathOf place) := by
      intro c hc
      have hs := names c hc
      have hatc : w.fs.at? (top ++ [c.1]) = some c.2 :=
        (FileNode.at?_concat hat).trans (hwf.entry?_eq_some_iff.2 hc)
      refine ⟨hatc, ?_⟩
      rw [mem_entry, FileSystem.child_pathOf htop hs, ← FileSystem.levelsAbove_concat,
        ih c hc (isName_concat.2 ⟨htop, hs⟩) hatc]
      refine and_congr_left fun _ => ⟨fun h => ⟨c.2, hatc, h⟩, fun ⟨m, hm, h⟩ => ?_⟩
      rwa [Option.some.inj (hatc.symm.trans hm)]
    constructor
    · rintro (rfl | ⟨c, hc, he⟩)
      · exact ⟨top, reaches_refl w top, hat, rfl⟩
      · obtain ⟨hpass, place, hreach, hplace, hpath⟩ := (below c hc).2.1 he
        refine ⟨place, ?_, hplace, hpath⟩
        exact (reaches_iff (List.prefix_append ..) hreach.1).2 ⟨reaches_concat.2 hpass, hreach⟩
    · rintro ⟨place, hreach, hplace, hpath⟩
      obtain ⟨rest, rfl⟩ := hreach.1
      cases rest with
      | nil =>
        rw [List.append_nil] at hplace hpath
        cases hat.symm.trans hplace
        exact .inl (by cases e; cases hpath; rfl)
      | cons s rest =>
        rw [List.append_cons] at hreach hplace hpath
        have hp : top ++ [s] <+: top ++ [s] ++ rest := List.prefix_append ..
        obtain ⟨htop', hreach'⟩ := (reaches_iff (List.prefix_append top [s]) hp).1 hreach
        obtain ⟨m, hm, hadmits⟩ := reaches_concat.1 htop'
        have hc : (s, m) ∈ n.entries := FileNode.mem_of_entry_eq ((FileNode.at?_concat hat).symm.trans hm)
        exact .inr ⟨(s, m), hc, (below (s, m) hc).2.2 ⟨⟨m, hm, hadmits⟩, _, hreach', hplace, hpath⟩⟩

/-! ### Walks from a path -/

/-- A path that begins at the root is no single dash. -/
theorem not_same_dash {p : Path} (hp : p.isAbsolute = true) : ¬ p.Same ⟨"-"⟩ := by
  intro h
  have hdash : Path.isAbsolute ⟨"-"⟩ = false := by decide +kernel
  rw [← h.isAbsolute_eq, hp] at hdash
  cases hdash

variable {es : List (String × FileNode)}

/-- A walk from a directory begins at its place. -/
theorem run_directory (hfs : w.fs.WellFormed) (ha : Admits (pathOf top))
    (hat : w.fs.at? top = some (.directory es)) :
    w.run (pathOf top) = w.node (w.fs.levelsAbove top) top (pathOf top) (.directory es) := by
  have hr : w.fs.resolve false (pathOf top) = .ok (top, .directory es) := hfs.resolve_pathOf ha hat rfl nofun
  unfold run
  rw [if_neg (not_same_dash (Path.isAbsolute_pathOf top)), hr]

/-- A walk from a directory comes across what is at the places that it reaches. -/
theorem mem_run (hfs : w.fs.WellFormed) (ha : Admits (pathOf top))
    (hat : w.fs.at? top = some (.directory es)) : e ∈ w.run (pathOf top) ↔
      ∃ place, w.Reaches top place ∧ w.fs.at? place = some e.node ∧ e.path = pathOf place := by
  rw [run_directory hfs ha hat]
  exact mem_node (hfs.tree.at? hat).1 (hfs.isName hat) hat

/-- What is listed is listed once, below a path. -/
def ListsBelow (top : Place) (es : List WalkEntry) : Prop :=
  (es.map (·.path)).Nodup ∧
    ∀ e ∈ es, ∃ names, (∀ s ∈ top ++ names, IsName s) ∧ e.path = pathOf (top ++ names)

/-- A walk comes across each path at most once, and all of them are below the one it begins at. -/
theorem run_below (hfs : w.fs.WellFormed) (ha : Admits (pathOf top)) (hat : w.fs.at? top = some n) :
    ListsBelow top (w.run (pathOf top)) := by
  have htop := hfs.isName hat
  have of_single (m : FileNode) : ListsBelow top [⟨pathOf top, m⟩] := by
    refine ⟨List.nodup_singleton _, fun e he => ⟨[], by simpa using htop, ?_⟩⟩
    rw [List.mem_singleton.1 he, List.append_nil]
  have of_node (levels : List IgnoreLevel) {place : Place} {m : FileNode} (hm : w.fs.at? place = some m) :
      ListsBelow top (w.node levels place (pathOf top) m) := by
    have hwf := (hfs.tree.at? hm).1
    refine ⟨nodup_node hwf (by simp [pathOf]), fun e he => ?_⟩
    obtain ⟨names, hat, hpath⟩ := exists_names hwf he
    have hall := List.forall_mem_append.2 ⟨htop, (hwf.at? hat).2⟩
    exact ⟨names, hall, hpath.trans (Path.descend_pathOf hall)⟩
  unfold run
  rw [if_neg (not_same_dash (Path.isAbsolute_pathOf top)), hfs.resolve_pathOf_eq ha hat (by simp),
    FileSystem.walkPath]
  cases n with
  | barred size denial => exact ⟨List.nodup_nil, fun _ he => by cases he⟩
  | directory es => exact of_node _ hat
  | link target =>
    -- The walk goes on in the directory that the link leads to.
    dsimp only [FileNode.bar?]
    cases hr' : w.fs.resolve true (pathOf top) with
    | error f => exact ⟨List.nodup_nil, by simp⟩
    | ok r =>
      obtain ⟨place, m⟩ := r
      obtain ⟨hm, -⟩ := hfs.lands hr'
      cases m with
      | directory es =>
        obtain ⟨hnodup, hbelow⟩ := of_node (w.fs.levelsAbove place) hm
        rw [node_eq, ← entries_eq] at hnodup hbelow
        refine ⟨hnodup, fun e he => ?_⟩
        rcases List.mem_cons.1 he with rfl | he
        · exact (of_single (.link target)).2 _ List.mem_cons_self
        · exact hbelow e (List.mem_cons_of_mem _ he)
      | _ => exact of_single _
  | _ => exact of_single _

end Walk
end SymbolIndex
