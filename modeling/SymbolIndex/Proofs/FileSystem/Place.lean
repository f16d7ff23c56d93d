import SymbolIndex.Proofs.FileSystem.Key

/-!
# Places in a well-formed file system

In a well-formed file system, what is somewhere is there under names. The path of a place is taken apart
by its names, and looking it up comes to that place if no link is there (`resolve_pathOf`); a look-up that
follows links comes to a place with no link at it (`WellFormed.lands`). So a canonical path is the path of
the place that it names (`WellFormed.exists_place`).
-/
namespace SymbolIndex

theorem isName_iff {s : String} :
    IsName s ↔ s.toList.all (!Path.isSlash ·) = true ∧ Component.isMeant s = true ∧ s ≠ ".." :=
  ⟨fun h => ⟨by simpa using h.unsplit, h.meant, h.notUp⟩, fun ⟨h, hs, hup⟩ => ⟨by simpa using h, hs, hup⟩⟩

instance (s : String) : Decidable (IsName s) := decidable_of_iff _ isName_iff.symm

theorem isName_concat {place : Place} {s : String} :
    (∀ t ∈ place ++ [s], IsName t) ↔ (∀ t ∈ place, IsName t) ∧ IsName s := by
  simp only [List.forall_mem_append, List.forall_mem_singleton]

/-! ### Well-formed trees -/

namespace FileNode

/-- Every directory has its entries under names, each under a name of its own. -/
inductive WellFormed : FileNode → Prop
  | intro {n : FileNode} (names : ∀ e ∈ n.entries, IsName e.1) (distinct : (n.entries.map (·.1)).Nodup)
      (below : ∀ e ∈ n.entries, WellFormed e.2) : WellFormed n

variable {n m : FileNode} {s : String} {names names' : Place}

namespace WellFormed

theorem isName (h : n.WellFormed) : ∀ e ∈ n.entries, IsName e.1 := by
  cases h; assumption

theorem distinct (h : n.WellFormed) : (n.entries.map (·.1)).Nodup := by
  cases h; assumption

theorem inner (h : n.WellFormed) : ∀ e ∈ n.entries, e.2.WellFormed := by
  cases h; assumption

end WellFormed

theorem wellFormed_file (content : ByteArray) : (file content).WellFormed := .intro nofun .nil nofun

theorem wellFormed_link (target : String) : (link target).WellFormed := .intro nofun .nil nofun

theorem wellFormed_directory {es : List (String × FileNode)} : (directory es).WellFormed ↔
    (∀ e ∈ es, IsName e.1) ∧ (es.map (·.1)).Nodup ∧ ∀ e ∈ es, e.2.WellFormed :=
  ⟨fun h => ⟨h.isName, h.distinct, h.inner⟩, fun ⟨h, hd, hi⟩ => .intro h hd hi⟩

theorem WellFormed.entry?_eq_some_iff (h : n.WellFormed) : n.entry? s = some m ↔ (s, m) ∈ n.entries := by
  refine ⟨mem_of_entry_eq, fun hm => ?_⟩
  obtain ⟨before, after, heq⟩ := List.append_of_mem hm
  refine List.lookup_eq_some_iff.2 ⟨before, after, heq, fun e he => ?_⟩
  have hd := h.distinct
  rw [heq, List.map_append, List.map_cons, List.nodup_append] at hd
  have hne := hd.2.2 e.1 (List.mem_map_of_mem he) s List.mem_cons_self
  simpa using fun heq => hne heq.symm

/-- What is below a well-formed node is well-formed, and there under names. -/
theorem WellFormed.at? (h : n.WellFormed) (hm : n.at? names = some m) :
    m.WellFormed ∧ ∀ s ∈ names, IsName s := by
  induction names generalizing n with
  | nil =>
    cases at?_nil_eq_some_iff.1 hm
    exact ⟨h, nofun⟩
  | cons s names ih =>
    obtain ⟨k, hk, hm⟩ := at?_cons_eq_some_iff.1 hm
    have hmem := mem_of_entry_eq hk
    obtain ⟨hwf, hnames⟩ := ih (h.inner _ hmem) hm
    refine ⟨hwf, fun t ht => ?_⟩
    rcases List.mem_cons.1 ht with rfl | ht
    · exact h.isName _ hmem
    · exact hnames t ht

/-- On the way to something there are directories. -/
theorem exists_above (h : n.at? names = some m) (hp : names' <+: names) (hne : names' ≠ names) :
    ∃ es, n.at? names' = some (.directory es) := by
  obtain ⟨rest, rfl⟩ := hp
  cases rest with
  | nil => exact absurd (List.append_nil names').symm hne
  | cons s rest =>
    rw [at?_append] at h
    obtain ⟨k, hk, hrest⟩ := Option.bind_eq_some_iff.1 h
    obtain ⟨l, hl, -⟩ := at?_cons_eq_some_iff.1 hrest
    cases k with
    | directory es => exact ⟨es, hk⟩
    | _ => cases hl

end FileNode

/-- What is in the file system is well-formed, and the current directory is there. -/
structure FileSystem.WellFormed (fs : FileSystem) : Prop where
  tree : fs.root.WellFormed
  current : ∃ es, fs.at? fs.current = some (.directory es)

namespace Path

variable {place place' names : Place} {s : String}

/-! ### The path of a place, taken apart -/

open FileSystem (pathOf)

theorem isAbsolute_pathOf (place : Place) : (pathOf place).isAbsolute = true := isAbsolute_iff.2 ⟨_, rfl⟩

/-- A path of a place has a slash in front of each name. -/
theorem utf8ByteSize_pathOf (hne : place ≠ []) :
    (pathOf place).text.utf8ByteSize = (place.map (·.utf8ByteSize + 1)).foldr (· + ·) 0 := by
  have hslash : "/".utf8ByteSize = 1 := rfl
  show ("/" ++ "/".intercalate place).utf8ByteSize = _
  rw [String.utf8ByteSize_append, hslash]
  induction place with
  | nil => exact absurd rfl hne
  | cons s rest ih =>
    by_cases hrest : rest = []
    · subst hrest
      simp [Nat.add_comm]
    · rw [String.intercalate_cons_of_ne_nil hrest, String.utf8ByteSize_append, String.utf8ByteSize_append,
        hslash, List.map_cons, List.foldr_cons, ← ih hrest]
      omega

theorem components_pathOf (h : ∀ s ∈ place, IsName s) :
    (pathOf place).components = .root :: place.map .name := by
  rcases (pathOf place).components_cases with ⟨-, hc⟩ | ⟨ha, -⟩
  · rw [hc, FileSystem.steps_pathOf h]
  · rw [isAbsolute_pathOf] at ha
    cases ha

theorem same_pathOf_iff (h : ∀ s ∈ place, IsName s) (h' : ∀ s ∈ place', IsName s) :
    (pathOf place).Same (pathOf place') ↔ place = place' :=
  ⟨FileSystem.eq_of_same_pathOf h h', fun heq => heq ▸ Same.refl _⟩

/-- The components that begin at the root are spelled with one slash before each. -/
theorem ofComponents_root (cs : List Component) :
    ofComponents (.root :: cs) = pathOf (cs.map Component.text) := by
  cases cs with
  | nil => rfl
  | cons c cs =>
    show Path.mk ("/".intercalate ("" :: (c :: cs).map Component.text)) = _
    rw [String.intercalate_cons_of_ne_nil (by simp)]
    rfl

theorem fileName?_pathOf (h : ∀ t ∈ place ++ [s], IsName t) : (pathOf (place ++ [s])).fileName? = some s := by
  rw [fileName?, components_pathOf h, List.map_append, ← List.cons_append, List.map_singleton,
    List.getLast?_concat]
  rfl

theorem parent?_pathOf (h : ∀ t ∈ place ++ [s], IsName t) :
    (pathOf (place ++ [s])).parent? = some (pathOf place) := by
  have hc : (pathOf (place ++ [s])).components = (.root :: place.map .name) ++ [.name s] := by
    rw [components_pathOf h, List.map_append]
    rfl
  have htext : (place.map Component.name).map Component.text = place := by
    rw [List.map_map]
    exact List.map_id place
  rw [parent?, hc, List.getLast?_concat, List.dropLast_concat, ofComponents_root, htext]

theorem isUnder_pathOf (h : ∀ s ∈ place, IsName s) (h' : ∀ s ∈ place', IsName s) :
    (pathOf place).isUnder (pathOf place') = true ↔ place <+: place' := by
  rw [isUnder, List.isPrefixOf_iff_prefix, components_pathOf h, components_pathOf h',
    List.cons_prefix_cons]
  refine ⟨fun ⟨_, hp⟩ => ?_, fun hp => ⟨rfl, hp.map _⟩⟩
  obtain ⟨rest, hrest⟩ := hp
  obtain ⟨front, back, rfl, hfront, -⟩ := List.map_eq_append_iff.1 hrest.symm
  rw [(List.map_inj_right fun _ _ => Component.name.inj).1 hfront]
  exact List.prefix_append ..

theorem isUnder_pathOf_append (h : ∀ s ∈ place ++ names, IsName s) :
    (pathOf place).isUnder (pathOf (place ++ names)) = true :=
  (isUnder_pathOf (fun s hs => h s (List.mem_append_left _ hs)) h).2 (List.prefix_append ..)

/-- The names of a place below another one. -/
theorem namesBelow_pathOf (h : ∀ s ∈ place ++ names, IsName s) :
    (pathOf place).namesBelow (pathOf (place ++ names)) = names := by
  have hplace : ∀ s ∈ place, IsName s := fun s hs => h s (List.mem_append_left _ hs)
  have hunder := isUnder_pathOf_append h
  rw [isUnder] at hunder
  rw [namesBelow, below?, if_pos hunder, Option.getD_some, components_pathOf hplace, components_pathOf h,
    List.map_append, ← List.cons_append, List.drop_left, List.filterMap_map]
  exact List.filterMap_some

end Path

namespace FileSystem
open Component

variable {fs : FileSystem} {root n m : FileNode} {links : Nat} {place names : Place} {p : Path}
  {todo : List String} {r : Place × FileNode} {s : String}

namespace WellFormed

theorem grounded (h : fs.WellFormed) : fs.Grounded := by
  obtain ⟨es, hes⟩ := h.current
  exact ⟨(h.tree.at? hes).2, es, hes⟩

theorem isDirectory_root (h : fs.WellFormed) : fs.root.isDirectory = true := by
  obtain ⟨es, hes⟩ := h.current
  obtain ⟨es', hes'⟩ : ∃ es', fs.at? [] = some (.directory es') := by
    by_cases hc : fs.current = []
    · exact ⟨es, hc ▸ hes⟩
    · exact FileNode.exists_above hes List.nil_prefix (Ne.symm hc)
  rw [FileNode.at?_nil_eq_some_iff.1 hes']
  rfl

theorem isName (h : fs.WellFormed) (hn : fs.at? place = some n) : ∀ s ∈ place, IsName s :=
  (h.tree.at? hn).2

end WellFormed

/-! ### Looking up places -/

/-- Names without a link on the way are gone along one by one. -/
theorem walkPath_names {follow : Bool} (hnames : ∀ s ∈ names, IsName s) (hm : n.at? names = some m)
    (hlink : follow = true → ∀ target, m ≠ .link target) :
    walkPath root follow links place n names = walkPath root follow links (place ++ names) m [] := by
  induction names generalizing n place with
  | nil =>
    cases FileNode.at?_nil_eq_some_iff.1 hm
    rw [List.append_nil]
  | cons s names ih =>
    obtain ⟨k, hk, hm⟩ := FileNode.at?_cons_eq_some_iff.1 hm
    have hs := hnames s List.mem_cons_self
    have hrest : walkPath root follow links (place ++ [s]) k names =
        walkPath root follow links (place ++ [s] ++ names) m [] :=
      ih (fun t ht => hnames t (List.mem_cons_of_mem s ht)) hm
    rw [List.append_assoc] at hrest
    conv => lhs; rw [walkPath]
    simp only [FileNode.isDirectory_of_entry_eq hk, isMeant_eq_true.1 hs.meant, hs.notUp, hk, Bool.not_true,
      Bool.false_eq_true, if_false]
    cases k with
    | link target =>
      -- There is nothing below a link, so it is at the end, and links at the end are not followed.
      obtain ⟨rfl, rfl⟩ := FileNode.at?_leaf rfl hm
      have hf : follow = false := Bool.eq_false_iff.2 fun hf => hlink hf target rfl
      simp [hf, walkPath, FileNode.bar?]
    | _ => exact hrest

/-- Looking up the path of a place is going along its names. -/
theorem walk_pathOf (hnames : ∀ s ∈ names, IsName s) (hne : names ≠ [])
    (hr : fs.resolve true (pathOf names) = .ok r) : Walk fs.root linkLimit [] fs.root names r := by
  obtain ⟨-, -, place, n, ho, hw⟩ := resolve_eq_ok_iff.1 hr
  have habs := Path.isAbsolute_pathOf names
  rw [origin?, if_pos habs] at ho
  cases ho
  rwa [show (pathOf names).text = "/" ++ "/".intercalate names from rfl, piecesOf_root,
    splitWhere_intercalate (fun s hs => (hnames s hs).unsplit) hne] at hw

/-- Looking up the path of a place comes to the place. -/
theorem WellFormed.resolve_pathOf_eq {follow : Bool} (h : fs.WellFormed) (ha : Admits (pathOf place))
    (hn : fs.at? place = some n) (hlink : follow = true → ∀ target, n ≠ .link target) :
    fs.resolve follow (pathOf place) = walkPath fs.root follow linkLimit place n [] := by
  obtain ⟨hnul, hempty, hlong⟩ := ha
  have habs := Path.isAbsolute_pathOf place
  rw [resolve, if_neg (by simp [hnul]), if_neg hempty, if_neg (Nat.not_lt.2 hlong), if_pos habs]
  show walkPath fs.root follow linkLimit [] fs.root (piecesOf ("/" ++ "/".intercalate place)) = _
  rw [piecesOf_root]
  by_cases hne : place = []
  · rw [hne] at hn ⊢
    cases FileNode.at?_nil_eq_some_iff.1 hn
    rw [show Text.splitWhere Path.isSlash ("/".intercalate []) = [""] from rfl]
    conv => lhs; rw [walkPath]
    simp [h.isDirectory_root]
  · rw [splitWhere_intercalate (fun s hs => (h.isName hn s hs).unsplit) hne]
    exact walkPath_names (h.isName hn) hn hlink

/-- The path of a place names what is there, if that can be looked up. -/
theorem WellFormed.resolve_pathOf {follow : Bool} (h : fs.WellFormed) (ha : Admits (pathOf place))
    (hn : fs.at? place = some n) (hbar : n.bar? = none) (hlink : follow = true → ∀ target, n ≠ .link target) :
    fs.resolve follow (pathOf place) = .ok (place, n) := by
  rw [h.resolve_pathOf_eq ha hn hlink, walkPath, hbar]

/-- A look-up from a place without a link comes to one. -/
theorem Walk.lands (hroot : root.isDirectory = true) (h : Walk root links place n todo r)
    (hn : root.at? place = some n) (hlink : ∀ target, n ≠ .link target) :
    root.at? r.1 = some r.2 ∧ ∀ target, r.2 ≠ .link target := by
  have noLink : ∀ {k : FileNode}, k.isDirectory = true → ∀ target, k ≠ .link target := by
    rintro k hk target rfl
    cases hk
  induction h with
  | done => exact ⟨hn, hlink⟩
  | stay _ _ _ ih => exact ih hn hlink
  | @up links place n rest r hd _ ih =>
    -- Above the root is the root.
    by_cases hp : place = []
    · exact ih (by simp [hp]) (by simpa [hp] using noLink hroot)
    · obtain ⟨es, hes⟩ := FileNode.exists_above hn (List.dropLast_prefix place) (by
        intro he
        have := congrArg List.length he
        have := List.length_pos_iff.2 hp
        simp only [List.length_dropLast] at *
        omega)
      refine ih (by simp [hes]) ?_
      simp [hes]
  | enter _ _ _ hm hl _ ih => exact ih (by rw [FileNode.at?_concat hn, hm]) hl
  | jump _ _ _ _ _ _ ih => exact ih (by simp) (noLink hroot)
  | follow _ _ _ _ _ _ ih => exact ih hn hlink

/-- Look-ups begin at directories. -/
theorem WellFormed.origin (h : fs.WellFormed) (ho : fs.origin? p = some (place, n)) :
    fs.at? place = some n ∧ ∀ target, n ≠ .link target := by
  obtain ⟨es, hes⟩ := h.current
  have hroot := h.isDirectory_root
  unfold origin? at ho
  split at ho
  · cases ho
    refine ⟨FileNode.at?_nil _, ?_⟩
    rintro target htarget
    rw [htarget] at hroot
    cases hroot
  · rw [hes] at ho
    cases ho
    exact ⟨hes, nofun⟩

/-- What a path names is at the place that it names, and is no link. -/
theorem WellFormed.lands (h : fs.WellFormed) (hr : fs.resolve true p = .ok r) :
    fs.at? r.1 = some r.2 ∧ ∀ target, r.2 ≠ .link target := by
  obtain ⟨-, -, place, n, ho, hw⟩ := resolve_eq_ok_iff.1 hr
  obtain ⟨hn, hlink⟩ := h.origin ho
  exact hw.lands h.isDirectory_root hn hlink

/-- What a path names can be looked up. -/
theorem bar?_of_resolve (hr : fs.resolve true p = .ok r) : r.2.bar? = none :=
  (resolve_eq_ok_iff.1 hr).2.1

theorem node_eq_error_iff {f : IoFault} : fs.node p = .error f ↔ fs.resolve true p = .error f := by
  unfold node
  cases fs.resolve true p with
  | error e => exact ⟨fun h => congrArg Except.error (Except.error.inj h), fun h => by rw [h]; rfl⟩
  | ok r => exact ⟨nofun, nofun⟩

theorem isDirectory_iff : fs.isDirectory p = true ↔
    ∃ place es, fs.resolve true p = .ok (place, .directory es) := by
  unfold isDirectory node
  cases hr : fs.resolve true p with
  | error f => exact ⟨nofun, nofun⟩
  | ok r =>
    obtain ⟨place, n⟩ := r
    cases n with
    | directory es => exact ⟨fun _ => ⟨place, es, rfl⟩, fun _ => rfl⟩
    | _ => exact ⟨nofun, nofun⟩

/-- A path of a directory that is canonical. -/
structure IsRoot (fs : FileSystem) (root : Path) : Prop where
  canonical : fs.canonical root = .ok root
  directory : fs.isDirectory root = true

/-- A canonical path of a directory is the path of its place. -/
theorem WellFormed.exists_place (h : fs.WellFormed) {root : Path} (hroot : fs.IsRoot root) :
    ∃ place es, root = pathOf place ∧ Admits (pathOf place) ∧ fs.at? place = some (.directory es) := by
  obtain ⟨place, es, hr⟩ := isDirectory_iff.1 hroot.directory
  obtain ⟨r, hr', hc⟩ := canonical_eq_ok_iff.1 hroot.canonical
  cases hr.symm.trans hr'
  exact ⟨place, es, hc.symm, hc ▸ (resolve_eq_ok_iff.1 hr).1, (h.lands hr).1⟩

theorem isRoot_of_resolve {root : Path} {es : List (String × FileNode)}
    (hr : fs.resolve true root = .ok (place, .directory es)) (hroot : pathOf place = root) : fs.IsRoot root :=
  ⟨canonical_eq_ok_iff.2 ⟨_, hr, hroot⟩, isDirectory_iff.2 ⟨_, _, hr⟩⟩

theorem WellFormed.isRoot_pathOf (h : fs.WellFormed) {es : List (String × FileNode)}
    (ha : Admits (pathOf place)) (hes : fs.at? place = some (.directory es)) : fs.IsRoot (pathOf place) :=
  isRoot_of_resolve (h.resolve_pathOf ha hes rfl nofun) rfl

/-- Paths of different places differ in more than their spelling. -/
theorem pairwise_not_same {ps : List Path} (h : ps.Nodup)
    (hp : ∀ p ∈ ps, ∃ place, (∀ s ∈ place, IsName s) ∧ p = pathOf place) :
    ps.Pairwise fun p q => ¬ p.Same q := by
  refine h.imp_of_mem fun {p q} hpm hqm hne hs => hne ?_
  obtain ⟨place, hplace, rfl⟩ := hp p hpm
  obtain ⟨place', hplace', rfl⟩ := hp q hqm
  rw [eq_of_same_pathOf hplace hplace' hs]

end FileSystem
end SymbolIndex
