import Mathlib.Data.List.Basic
import SymbolIndex.Proofs.FileSystem.Place

/-!
# Where the key of a path comes from

A path is taken apart into a directory and a name there, its seat. Looking up a path that has a seat is
looking up the directory and then the name (`WellFormed.resolve_seat`), so if the name is no link there,
the key of the path is the directory's path with the name, whether or not anything is there (`key_seat`).
A key that a file can be read under is the canonical path of that file unless it names a link
(`WellFormed.key_canonical_iff`), and no path that can be looked up itself has such a key.
-/
namespace SymbolIndex

namespace Path

variable {p : Path} {cs : List Component} {s : String}

theorem steps_ofComponents_root
    (h : ∀ c ∈ cs, Component.ofPiece? c.text = some c ∧ ∀ d ∈ c.text.toList, isSlash d = false) :
    (ofComponents (.root :: cs)).steps = cs := by
  rw [ofComponents_root, steps, pieces, FileSystem.pathOf, splitWhere_root, List.filterMap_cons_none rfl]
  by_cases hne : cs = []
  · rw [hne]
    rfl
  · rw [FileSystem.splitWhere_intercalate (by simpa using fun c hc => (h c hc).2) (by simpa using hne),
      List.filterMap_map]
    calc cs.filterMap (Component.ofPiece? ∘ Component.text) = cs.filterMap some :=
          List.filterMap_congr fun c hc => (h c hc).1
      _ = cs := List.filterMap_some

/-- A step of a path is spelled as a piece of it is. -/
theorem ofPiece?_of_mem_steps {c : Component} (h : c ∈ p.steps) :
    Component.ofPiece? c.text = some c ∧ ∀ d ∈ c.text.toList, isSlash d = false := by
  obtain ⟨piece, hpiece, hc⟩ := List.mem_filterMap.1 h
  have htext : c.text = piece := by
    unfold Component.ofPiece? at hc
    split at hc
    · cases hc
    · split at hc
      · cases hc
        exact (‹piece = ".."›).symm
      · cases hc
        rfl
  rw [htext]
  exact ⟨hc, Text.forall_of_mem_splitWhere hpiece⟩

/-- The directory and the name of an absolute path that ends with a name. -/
theorem exists_parent? (ha : p.isAbsolute = true) (hs : p.fileName? = some s) :
    ∃ parent, p.parent? = some parent ∧ parent.isAbsolute = true ∧ p.steps = parent.steps ++ [.name s] := by
  have hc : p.components = .root :: p.steps := by
    rcases p.components_cases with ⟨-, hc⟩ | ⟨ha', -⟩
    · exact hc
    · rw [ha] at ha'
      cases ha'
  obtain ⟨c, hlast, hname⟩ := Option.bind_eq_some_iff.1 hs
  have hc' : c = .name s := by
    cases c with
    | name t => exact congrArg _ (Option.some.inj hname)
    | _ => cases hname
  rw [hc', hc] at hlast
  obtain ⟨init, hinit⟩ : ∃ init, p.steps = init ++ [.name s] := by
    obtain ⟨front, hfront⟩ := List.getLast?_eq_some_iff.1 hlast
    cases front with
    | nil => cases hfront
    | cons d front => exact ⟨front, (List.cons.inj hfront).2⟩
  refine ⟨ofComponents (.root :: init), ?_,
    isAbsolute_iff.2 ⟨_, congrArg Path.text (ofComponents_root init)⟩, ?_⟩
  · rw [parent?, hc, hlast]
    dsimp only
    rw [hinit, ← List.cons_append, List.dropLast_concat]
  · rw [steps_ofComponents_root fun d hd => ofPiece?_of_mem_steps (hinit ▸ List.mem_append_left _ hd), hinit]

end Path

namespace FileSystem
open Component

variable {fs : FileSystem} {root n m : FileNode} {links : Nat} {place names : Place} {p q : Path}
  {todo before after : List String} {r r' : Place × FileNode} {s : String}

/-! ### Look-ups in parts -/

namespace Walk

/-- A look-up along two lists of pieces is one along the first, and from there one along the second. -/
theorem append (h : Walk root links place n (before ++ after) r) :
    ∃ links' mid, Walk root links place n before mid ∧ Walk root links' mid.1 mid.2 after r := by
  generalize htodo : before ++ after = todo at h
  -- The first list is empty, or the look-up makes its first step along it.
  have here {links : Nat} {place : Place} {n : FileNode} {r : Place × FileNode}
      (h : Walk root links place n after r) :
      ∃ links' mid, Walk root links place n [] mid ∧ Walk root links' mid.1 mid.2 after r :=
    ⟨links, (place, n), .done .., h⟩
  induction h generalizing before with
  | done links place n =>
    obtain ⟨rfl, rfl⟩ := List.append_eq_nil_iff.1 htodo
    exact here (.done ..)
  | stay hn hs h ih =>
    rcases List.append_eq_cons_iff.1 htodo with ⟨rfl, rfl⟩ | ⟨before, rfl, hrest⟩
    · exact here (.stay hn hs h)
    · obtain ⟨links', mid, h₁, h₂⟩ := ih hrest.symm
      exact ⟨links', mid, .stay hn hs h₁, h₂⟩
  | up hn h ih =>
    rcases List.append_eq_cons_iff.1 htodo with ⟨rfl, rfl⟩ | ⟨before, rfl, hrest⟩
    · exact here (.up hn h)
    · obtain ⟨links', mid, h₁, h₂⟩ := ih hrest.symm
      exact ⟨links', mid, .up hn h₁, h₂⟩
  | enter hn hs hup hm hlink h ih =>
    rcases List.append_eq_cons_iff.1 htodo with ⟨rfl, rfl⟩ | ⟨before, rfl, hrest⟩
    · exact here (.enter hn hs hup hm hlink h)
    · obtain ⟨links', mid, h₁, h₂⟩ := ih hrest.symm
      exact ⟨links', mid, .enter hn hs hup hm hlink h₁, h₂⟩
  | jump hn hs hup hm ht h ih =>
    rcases List.append_eq_cons_iff.1 htodo with ⟨rfl, rfl⟩ | ⟨before, rfl, hrest⟩
    · exact here (.jump hn hs hup hm ht h)
    · obtain ⟨links', mid, h₁, h₂⟩ := ih ((List.append_assoc ..).trans (congrArg _ hrest.symm))
      exact ⟨links', mid, .jump hn hs hup hm ht h₁, h₂⟩
  | follow hn hs hup hm ht h ih =>
    rcases List.append_eq_cons_iff.1 htodo with ⟨rfl, rfl⟩ | ⟨before, rfl, hrest⟩
    · exact here (.follow hn hs hup hm ht h)
    · obtain ⟨links', mid, h₁, h₂⟩ := ih ((List.append_assoc ..).trans (congrArg _ hrest.symm))
      exact ⟨links', mid, .follow hn hs hup hm ht h₁, h₂⟩

/-- Names without a link on the way are gone along to where the look-up goes on. -/
theorem climb (h : Walk root links (place ++ names) m todo r) (hnames : ∀ s ∈ names, IsName s)
    (hm : n.at? names = some m) (hlink : ∀ target, m ≠ .link target) :
    Walk root links place n (names ++ todo) r := by
  induction names generalizing place n with
  | nil =>
    cases FileNode.at?_nil_eq_some_iff.1 hm
    rwa [List.append_nil] at h
  | cons s names ih =>
    obtain ⟨k, hk, hm⟩ := FileNode.at?_cons_eq_some_iff.1 hm
    have hs := hnames s List.mem_cons_self
    rw [List.append_cons] at h
    exact .enter (FileNode.isDirectory_of_entry_eq hk) hs.meant hs.notUp hk (FileNode.not_link_above hm hlink)
      (ih h (fun t ht => hnames t (List.mem_cons_of_mem s ht)) hm)

/-- Along one name, a look-up comes to what has the name, unless that is a link. -/
theorem single (h : Walk root links place n [s] r) (hs : IsName s) :
    ∃ m, n.entry? s = some m ∧ ((∀ target, m ≠ .link target) → r = (place ++ [s], m)) := by
  cases h with
  | stay _ hs' => exact absurd hs.meant (by simp [hs'])
  | up => exact absurd rfl hs.notUp
  | enter _ _ _ hm _ h =>
    cases h
    exact ⟨_, hm, fun _ => rfl⟩
  | jump _ _ _ hm | follow _ _ _ hm => exact ⟨_, hm, fun hlink => absurd rfl (hlink _)⟩

end Walk

/-! ### The seat of a path -/

/-- A path as seen from the root. -/
def absolute (fs : FileSystem) (p : Path) : Path := if p.isAbsolute then p else (pathOf fs.current).join p

/-- The directory that a path is in, and its name there. -/
def seat? (fs : FileSystem) (p : Path) : Option (Place × String) :=
  match (fs.absolute p).parent?, (fs.absolute p).fileName? with
  | some parent, some s => (fs.resolve true parent).toOption.map fun r => (r.1, s)
  | _, _ => none

/-- The key of a path that cannot be looked up. -/
theorem key_of_error {f : IoFault} (h : fs.canonical p = .error f) : fs.key p =
    match fs.seat? p with
    | some (place, s) => (pathOf place).child s
    | none => fs.absolute p := by
  have habs : fs.absolute p = if p.isAbsolute then p else (pathOf fs.current).join p := rfl
  rw [key, h]
  dsimp only
  rw [← habs, seat?]
  cases (fs.absolute p).parent? with
  | none => rfl
  | some parent =>
    cases (fs.absolute p).fileName? with
    | none => rfl
    | some t =>
      dsimp only
      rw [canonical]
      cases fs.resolve true parent <;> rfl

theorem seat?_eq_some_iff : fs.seat? p = some (place, s) ↔ (fs.absolute p).fileName? = some s ∧
    ∃ parent n, (fs.absolute p).parent? = some parent ∧ fs.resolve true parent = .ok (place, n) := by
  unfold seat?
  cases (fs.absolute p).parent? with
  | none => simp
  | some parent =>
    cases (fs.absolute p).fileName? with
    | none => simp
    | some t =>
      cases hr : fs.resolve true parent with
      | error f => simp [hr, Except.toOption]
      | ok r =>
        obtain ⟨place', n⟩ := r
        simp [hr, Except.toOption, and_comm]

theorem isAbsolute_absolute (h : ∀ s ∈ fs.current, IsName s) (p : Path) :
    (fs.absolute p).isAbsolute = true := by
  unfold absolute
  split
  · assumption
  · exact Path.isAbsolute_iff.2 ⟨_, text_join_pathOf h (by simpa using ‹¬ p.isAbsolute = true›)⟩

/-- A relative path goes on from the current directory. -/
theorem steps_absolute (h : ∀ s ∈ fs.current, IsName s) (hp : p.isAbsolute = false) :
    (fs.absolute p).steps = fs.current.map .name ++ p.steps := by
  rw [absolute, if_neg (by simp [hp]), Path.steps, Path.pieces, text_join_pathOf h hp, Path.splitWhere_root,
    List.filterMap_cons_none rfl, splitWhere_intercalate_concat fun s hs => (h s hs).unsplit,
    List.filterMap_append, filterMap_ofPiece? h]
  rfl

namespace WellFormed

/-- A path that can be looked up can be so from the root, along its steps. -/
theorem walk_absolute (h : fs.WellFormed) (hr : fs.resolve true p = .ok r) :
    Walk fs.root linkLimit [] fs.root ((fs.absolute p).steps.map text) r := by
  obtain ⟨-, -, place, n, ho, hw⟩ := resolve_eq_ok_iff.1 hr
  have hw := hw.filter
  rw [filter_piecesOf] at hw
  cases hp : p.isAbsolute with
  | true =>
    rw [origin?, if_pos hp] at ho
    cases ho
    rwa [absolute, if_pos hp]
  | false =>
    obtain ⟨es, hes⟩ := h.current
    rw [origin?, if_neg (by simp [hp]), hes] at ho
    cases ho
    have hnames := h.isName hes
    have htext : (fs.current.map Component.name).map text = fs.current := by
      rw [List.map_map]
      exact List.map_id _
    rw [steps_absolute hnames hp, List.map_append, htext]
    exact Walk.climb (by simpa using hw) hnames hes fun _ hlink => by cases hlink

/-- Looking up a path with a seat is looking up the directory and then the name. -/
theorem resolve_seat (h : fs.WellFormed) (hr : fs.resolve true p = .ok r)
    (hs : fs.seat? p = some (place, s)) :
    ∃ n links, fs.at? place = some n ∧ Walk fs.root links place n [s] r := by
  obtain ⟨hname, parent, n, hparent, hdir⟩ := seat?_eq_some_iff.1 hs
  obtain ⟨parent', hparent', habs, hsteps⟩ :=
    Path.exists_parent? (isAbsolute_absolute h.grounded.names p) hname
  cases hparent.symm.trans hparent'
  have hw := h.walk_absolute hr
  rw [hsteps, List.map_append] at hw
  have hw' := h.walk_absolute hdir
  rw [absolute, if_pos habs] at hw'
  obtain ⟨links, mid, h₁, h₂⟩ := hw.append
  cases h₁.unique hw'
  exact ⟨n, links, (h.lands hdir).1, h₂⟩

theorem isName_of_seat? (hs : fs.seat? p = some (place, s)) : IsName s :=
  isName_of_fileName? (seat?_eq_some_iff.1 hs).1

/-- Where a directory and a name lead to. -/
theorem isName_seat (h : fs.WellFormed) (hs : fs.seat? p = some (place, s)) :
    (∃ n, fs.at? place = some n ∧ ∀ target, n ≠ .link target) ∧ ∀ t ∈ place ++ [s], IsName t := by
  obtain ⟨-, parent, n, -, hdir⟩ := seat?_eq_some_iff.1 hs
  obtain ⟨hn, hlink⟩ := h.lands hdir
  exact ⟨⟨n, hn, hlink⟩, isName_concat.2 ⟨h.isName hn, isName_of_seat? hs⟩⟩

/-- Unless the name of a path is a link in its directory, it is the last name of the key. -/
theorem key_seat (h : fs.WellFormed) (hs : fs.seat? p = some (place, s))
    (hlink : ∀ target, fs.at? (place ++ [s]) ≠ some (.link target)) : fs.key p = pathOf (place ++ [s]) := by
  obtain ⟨-, hnames⟩ := h.isName_seat hs
  obtain ⟨hplace, hname⟩ := isName_concat.1 hnames
  cases hc : fs.canonical p with
  | error f =>
    rw [key_of_error hc, hs]
    exact child_pathOf hplace hname
  | ok c =>
    obtain ⟨r, hr, rfl⟩ := canonical_eq_ok_iff.1 hc
    obtain ⟨n, links, hn, hw⟩ := h.resolve_seat hr hs
    obtain ⟨m, hm, hland⟩ := hw.single hname
    rw [hland fun target ht => hlink target ((FileNode.at?_concat hn).trans (ht ▸ hm))] at hc
    rw [key, hc]

end WellFormed

/-- The key of a path that can be looked up is the path of its place. -/
theorem key_of_resolve (hr : fs.resolve true p = .ok r) : fs.key p = pathOf r.1 := by
  rw [key, canonical_eq_ok_iff.2 ⟨r, hr, rfl⟩]

/-- A path that names a link. -/
def NamesLink (fs : FileSystem) (p : Path) : Prop :=
  ∃ place target, fs.resolve false p = .ok (place, .link target)

namespace WellFormed

/-- The path of a place names a link if there is one. -/
theorem namesLink_pathOf_iff (h : fs.WellFormed) (ha : Admits (pathOf place)) (hn : fs.at? place = some n) :
    fs.NamesLink (pathOf place) ↔ ∃ target, n = .link target := by
  constructor
  · rintro ⟨place', target, hr⟩
    rw [h.resolve_pathOf_eq ha hn (by simp), walkPath] at hr
    split at hr <;> cases hr
    exact ⟨target, rfl⟩
  · rintro ⟨target, rfl⟩
    exact ⟨place, target, h.resolve_pathOf ha hn rfl (by simp)⟩

/-- The key of a path that can be looked up names no link. -/
theorem not_namesLink_of_resolve (h : fs.WellFormed) (hr : fs.resolve true p = .ok r)
    (ha : Admits (pathOf r.1)) : ¬ fs.NamesLink (fs.key p) := by
  obtain ⟨hn, hlink⟩ := h.lands hr
  rw [key_of_resolve hr, h.namesLink_pathOf_iff ha hn]
  rintro ⟨target, ht⟩
  exact hlink target ht

/-- A key that can be looked up is the path of a place where there is a link, or where the look-up
comes to. -/
theorem exists_key_place (h : fs.WellFormed) (hr : fs.resolve true (fs.key p) = .ok r)
    (hfile : r.2.isDirectory = false) : ∃ place n, fs.key p = pathOf place ∧ fs.at? place = some n ∧
      ((∀ target, n ≠ .link target) → r.1 = place) := by
  cases hc : fs.canonical p with
  | ok c =>
    obtain ⟨r', hr', rfl⟩ := canonical_eq_ok_iff.1 hc
    obtain ⟨hn, hlink⟩ := h.lands hr'
    have hkey := key_of_resolve hr'
    refine ⟨r'.1, r'.2, hkey, hn, fun _ => ?_⟩
    rw [hkey] at hr
    rw [h.resolve_pathOf (resolve_eq_ok_iff.1 hr).1 hn (bar?_of_resolve hr') fun _ => hlink] at hr
    rw [← Except.ok.inj hr]
  | error f =>
    have hkey := key_of_error hc
    cases hs : fs.seat? p with
    | none =>
      -- The key is the path itself, as seen from the root, and the path could be looked up after all.
      rw [hs] at hkey
      rw [show fs.key p = fs.absolute p from hkey] at hr
      have hp : fs.resolve true p = .ok r := by
        cases ha : p.isAbsolute with
        | true => rwa [absolute, if_pos ha] at hr
        | false =>
          rw [absolute, if_neg (by simp [ha])] at hr
          exact h.grounded.resolve_join ha hr hfile
      rw [canonical_eq_ok_iff.2 ⟨r, hp, rfl⟩] at hc
      cases hc
    | some seat =>
      obtain ⟨dir, s⟩ := seat
      obtain ⟨⟨n, hn, hlink⟩, hnames⟩ := h.isName_seat hs
      obtain ⟨hdir, hname⟩ := isName_concat.1 hnames
      rw [hs] at hkey
      replace hkey : fs.key p = pathOf (dir ++ [s]) := hkey.trans (child_pathOf hdir hname)
      rw [hkey] at hr
      obtain ⟨m, hm, hland⟩ := ((walk_pathOf hnames (by simp) hr).descend hdir hn hlink).single hname
      exact ⟨dir ++ [s], m, hkey, (FileNode.at?_concat hn).trans hm, fun hm' => by rw [hland hm']; rfl⟩

/-- A key under which a file can be read is the path of the file's place, unless it names a link. -/
theorem key_canonical_iff {content : ByteArray} (h : fs.WellFormed)
    (hr : fs.resolve true (fs.key p) = .ok (place, .file content)) :
    fs.key p = pathOf place ↔ ¬ fs.NamesLink (fs.key p) := by
  obtain ⟨inner, n, hkey, hn, hland⟩ := h.exists_key_place hr rfl
  obtain ⟨hfile, -⟩ := h.lands hr
  have ha := (resolve_eq_ok_iff.1 hr).1
  rw [hkey] at ha ⊢
  rw [h.namesLink_pathOf_iff ha hn]
  constructor
  · rintro heq ⟨target, rfl⟩
    rw [pathOf_inj (h.isName hn) (h.isName hfile) heq] at hn
    cases hn.symm.trans hfile
  · intro hlink
    rw [← hland fun target ht => hlink ⟨target, ht⟩]

end WellFormed

/-! ### Files that are gone -/

/-- Nothing is missing under a path that cannot be looked up at all. -/
theorem resolve_of_not_admits {follow : Bool} (h : ¬ Admits p) (hne : p.text ≠ "") :
    fs.resolve follow p ≠ .error .notFound := by
  unfold resolve
  by_cases hnul : p.text.any (· == '\x00') = true
  · rw [if_pos hnul]
    exact nofun
  · have hlong : p.text.utf8ByteSize > pathLimit :=
      Nat.lt_of_not_le fun hle => h ⟨Bool.eq_false_iff.2 hnul, hne, hle⟩
    rw [if_neg hnul, if_neg hne, if_pos hlong]
    exact fun h => absurd (Except.error.inj h) (by decide)

/-- A file system in which a path that led to a file is missed under the key that it had in another one:
the path is in the same directory under the same name, and that was no link, or its directory is gone, and
the path is spelled as the key is. -/
inductive Traceable (fs fs' : FileSystem) (p : Path) : Prop
  | seated (place : Place) (s : String) (hs : fs.seat? p = some (place, s))
      (hs' : fs'.seat? p = some (place, s))
      (hlink : ∀ target, fs.at? (place ++ [s]) ≠ some (.link target)) : Traceable fs fs' p
  | spelled (hs : fs'.seat? p = none) (hsame : (fs'.absolute p).Same (fs.key p)) : Traceable fs fs' p

theorem Traceable.key_same {fs' : FileSystem} {f : IoFault} (ht : Traceable fs fs' p) (h : fs.WellFormed)
    (h' : fs'.WellFormed) (hc : fs'.canonical p = .error f) : (fs'.key p).Same (fs.key p) := by
  have hkey := key_of_error hc
  cases ht with
  | seated place s hs hs' hlink =>
    obtain ⟨hplace, hname⟩ := isName_concat.1 (h'.isName_seat hs').2
    rw [hs'] at hkey
    rw [hkey, h.key_seat hs hlink]
    exact congrArg Path.components (child_pathOf hplace hname)
  | spelled hs hsame =>
    rw [hs] at hkey
    rw [hkey]
    exact hsame

end FileSystem

/-- What can be looked up is not found to be missing when it is read. -/
theorem FileSystem.read_ne_notFound {fs : FileSystem} {p : Path} {n : FileNode} (hn : fs.node p = .ok n) :
    fs.read p ≠ .fault .notFound := by
  rw [read, hn]
  cases n with
  | locked _ denial | barred _ denial | refused denial => simpa using denial.present
  | directory | link => exact fun h => absurd (Reading.fault.inj h) (by decide)
  | _ => nofun

/-- A file is not found only if there is nothing. -/
theorem Source.node_of_notFound {fs : FileSystem} {config : Config} {key q : Path}
    (hl : Source.load fs config key = .error (.notFound q)) : fs.node key = .error .notFound := by
  have ofRead {f : IoFault} (h : IndexError.ofRead key f = .notFound q) : f = .notFound := by
    unfold IndexError.ofRead at h
    split at h
    · assumption
    · cases h
  unfold load at hl
  cases hn : fs.node key with
  | error f =>
    rw [hn] at hl
    exact congrArg Except.error (ofRead (Except.error.inj hl))
  | ok n =>
    rw [hn] at hl
    dsimp only at hl
    split at hl
    · cases hl
    split at hl
    · cases hl
    cases hread : fs.read key with
    | fault f =>
      rw [hread] at hl
      exact absurd (ofRead (Except.error.inj hl) ▸ hread) (FileSystem.read_ne_notFound hn)
    | stalled =>
      rw [hread] at hl
      cases hl
    | content bytes =>
      rw [hread] at hl
      dsimp only at hl
      split at hl <;> cases hl

/-- A path is only not found if it cannot be looked up. -/
theorem Source.canonical_of_notFound {fs : FileSystem} {config : Config} {p q : Path} (h : fs.WellFormed)
    (hl : Source.load fs config (fs.key p) = .error (.notFound q)) : ∃ f, fs.canonical p = .error f := by
  cases hc : fs.canonical p with
  | error f => exact ⟨f, rfl⟩
  | ok c =>
    obtain ⟨r, hr, rfl⟩ := FileSystem.canonical_eq_ok_iff.1 hc
    obtain ⟨hn, hlink⟩ := h.lands hr
    rw [FileSystem.key_of_resolve hr] at hl
    by_cases ha : FileSystem.Admits (FileSystem.pathOf r.1)
    · have hnode : fs.node (FileSystem.pathOf r.1) = .ok r.2 := by
        rw [FileSystem.node, h.resolve_pathOf ha hn (FileSystem.bar?_of_resolve hr) fun _ => hlink]
        rfl
      cases hnode.symm.trans (node_of_notFound hl)
    · -- The fault is that the path of the place is too long, or has a character that no path may have.
      have hne : (FileSystem.pathOf r.1).text ≠ "" := by simp [FileSystem.pathOf]
      exact absurd (FileSystem.node_eq_error_iff.1 (node_of_notFound hl))
        (FileSystem.resolve_of_not_admits ha hne)

end SymbolIndex
