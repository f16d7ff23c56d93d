import SymbolIndex.Index.Basic
import SymbolIndex.Proofs.FileSystem.Lookup

/-!
# The spelling of keys

Where the current directory is a directory, every key that a file can be read under is spelled as the
place of a file is, with one slash before each name (`exists_pathOf_eq_key`). So no two keys of files
differ in their spelling only (`Source.eq_of_same`).
-/
namespace SymbolIndex

/-- What an entry of a directory may be called. -/
structure IsName (s : String) : Prop where
  unsplit : ∀ c ∈ s.toList, Path.isSlash c = false
  meant : Component.isMeant s = true
  notUp : s ≠ ".."

/-- A name is a relative path. -/
theorem IsName.isAbsolute_eq_false {s : String} (h : IsName s) : Path.isAbsolute ⟨s⟩ = false := by
  refine Bool.eq_false_iff.2 fun ha => ?_
  obtain ⟨t, ht⟩ := Path.isAbsolute_iff.1 ha
  have := h.unsplit '/' (by rw [show s = "/" ++ t from ht]; simp)
  cases this

/-- The current directory is a directory. -/
structure FileSystem.Grounded (fs : FileSystem) : Prop where
  names : ∀ s ∈ fs.current, IsName s
  directory : ∃ es, fs.at? fs.current = some (.directory es)

namespace Text

variable {p : Char → Bool} {s t : String}

/-- No piece has a separator. -/
theorem forall_of_mem_splitWhere (h : s ∈ splitWhere p t) : ∀ c ∈ s.toList, p c = false := by
  obtain ⟨cs, rfl⟩ : ∃ cs, t = String.ofList cs := ⟨t.toList, String.ofList_toList.symm⟩
  suffices (∀ c ∈ (parts p cs).1, p c = false) ∧ ∀ s ∈ (parts p cs).2, ∀ c ∈ s.toList, p c = false by
    rw [splitWhere_ofList] at h
    rcases List.mem_cons.1 h with rfl | h
    · simpa using this.1
    · exact this.2 s h
  clear h
  induction cs with
  | nil => exact ⟨nofun, nofun⟩
  | cons d cs ih =>
    rw [parts_cons]
    cases hd : p d with
    | true =>
      refine ⟨nofun, fun s hs => ?_⟩
      rcases List.mem_cons.1 hs with rfl | hs
      · simpa using ih.1
      · exact ih.2 s hs
    | false =>
      refine ⟨fun c hc => ?_, ih.2⟩
      rcases List.mem_cons.1 hc with rfl | hc
      · exact hd
      · exact ih.1 c hc

end Text

/-! ### Below a node -/

namespace FileNode

variable {n m : FileNode} {s : String} {names : Place}

@[simp] theorem at?_nil (n : FileNode) : n.at? [] = some n := by rw [at?]

theorem at?_cons (n : FileNode) (s : String) (names : Place) :
    n.at? (s :: names) = (n.entry? s).bind (·.at? names) := by rw [at?]

theorem at?_nil_eq_some_iff : n.at? [] = some m ↔ n = m := by
  rw [at?_nil, Option.some.injEq]

theorem at?_cons_eq_some_iff :
    n.at? (s :: names) = some m ↔ ∃ k, n.entry? s = some k ∧ k.at? names = some m := by
  rw [at?_cons, Option.bind_eq_some_iff]

theorem at?_append (n : FileNode) (names names' : Place) :
    n.at? (names ++ names') = (n.at? names).bind (·.at? names') := by
  induction names generalizing n with
  | nil => simp
  | cons s names ih =>
    rw [List.cons_append, at?_cons, at?_cons, Option.bind_assoc]
    congr 1
    exact funext ih

theorem at?_concat (h : n.at? names = some m) : n.at? (names ++ [s]) = m.entry? s := by
  rw [at?_append, h, Option.bind_some, at?_cons]
  cases m.entry? s <;> simp

theorem mem_of_entry_eq (h : n.entry? s = some m) : (s, m) ∈ n.entries := by
  obtain ⟨before, after, heq, -⟩ := List.lookup_eq_some_iff.1 h
  rw [heq]
  exact List.mem_append_right _ List.mem_cons_self

/-- Only a directory has entries. -/
theorem isDirectory_of_entry_eq (h : n.entry? s = some m) : n.isDirectory = true := by
  cases n with
  | directory es => rfl
  | _ => cases h

/-- There is nothing below what has no entries. -/
theorem at?_leaf (hn : n.entries = []) (h : n.at? names = some m) : names = [] ∧ m = n := by
  cases names with
  | nil => exact ⟨rfl, (at?_nil_eq_some_iff.1 h).symm⟩
  | cons s names =>
    obtain ⟨k, hk, -⟩ := at?_cons_eq_some_iff.1 h
    exact absurd (hn ▸ mem_of_entry_eq hk) List.not_mem_nil

/-- On the way to what is no link there is no link. -/
theorem not_link_above (h : n.at? names = some m) (hlink : ∀ target, m ≠ .link target) :
    ∀ target, n ≠ .link target := by
  rintro target rfl
  exact hlink target (at?_leaf rfl h).2

end FileNode

namespace FileSystem
open Component

variable {root n m : FileNode} {links : Nat} {place place' : Place} {fs : FileSystem} {p q : Path}
  {s : String} {rest todo : List String} {r : Place × FileNode}

/-- What is between two slashes has no slash. -/
theorem forall_of_mem_piecesOf {text : String} (h : s ∈ piecesOf text) :
    ∀ c ∈ s.toList, Path.isSlash c = false := by
  unfold piecesOf at h
  dsimp only at h
  split at h
  · exact Text.forall_of_mem_splitWhere (List.mem_of_mem_tail h)
  · exact Text.forall_of_mem_splitWhere h

/-- A look-up from a place comes to a place. -/
theorem Walk.isName (h : Walk root links place n todo r) (hplace : ∀ s ∈ place, IsName s)
    (htodo : ∀ s ∈ todo, ∀ c ∈ s.toList, Path.isSlash c = false) : ∀ s ∈ r.1, IsName s := by
  induction h with
  | done => exact hplace
  | stay hn hs h ih => exact ih hplace fun s hs => htodo s (List.mem_cons_of_mem _ hs)
  | up hn h ih =>
    exact ih (fun s hs => hplace s (List.dropLast_subset _ hs)) fun s hs =>
      htodo s (List.mem_cons_of_mem _ hs)
  | enter hn hs hup hm hlink h ih =>
    refine ih (fun s hs' => ?_) fun s hs => htodo s (List.mem_cons_of_mem _ hs)
    rcases List.mem_append.1 hs' with hs' | hs'
    · exact hplace s hs'
    · rw [List.mem_singleton.1 hs']
      exact ⟨htodo _ List.mem_cons_self, hs, hup⟩
  | jump hn hs hup hm ht h ih =>
    refine ih nofun fun s hs => ?_
    rcases List.mem_append.1 hs with hs | hs
    · exact forall_of_mem_piecesOf hs
    · exact htodo s (List.mem_cons_of_mem _ hs)
  | follow hn hs hup hm ht h ih =>
    refine ih hplace fun s hs => ?_
    rcases List.mem_append.1 hs with hs | hs
    · exact forall_of_mem_piecesOf hs
    · exact htodo s (List.mem_cons_of_mem _ hs)

theorem Grounded.names_of_resolve (h : fs.Grounded) (hr : fs.resolve true p = .ok r) :
    ∀ s ∈ r.1, IsName s := by
  obtain ⟨-, -, place, n, ho, hw⟩ := resolve_eq_ok_iff.1 hr
  refine hw.isName ?_ fun s hs => forall_of_mem_piecesOf hs
  unfold origin? at ho
  split at ho
  · cases ho
    exact nofun
  · obtain ⟨m, -, hm⟩ := Option.map_eq_some_iff.1 ho
    cases hm
    exact h.names

/-! ### The path of a place -/

/-- What was joined with slashes is split again at them. -/
theorem splitWhere_intercalate_concat {pieces : List String}
    (h : ∀ s ∈ pieces, ∀ c ∈ s.toList, Path.isSlash c = false) (t : String) :
    Text.splitWhere Path.isSlash ("/".intercalate (pieces ++ [t])) =
      pieces ++ Text.splitWhere Path.isSlash t := by
  induction pieces with
  | nil => rw [List.nil_append, String.intercalate_singleton, List.nil_append]
  | cons s pieces ih =>
    rw [List.cons_append, String.intercalate_cons_of_ne_nil (by simp), Path.splitWhere_slash,
      Text.splitWhere_of_forall (h s List.mem_cons_self), ih fun u hu => h u (List.mem_cons_of_mem s hu)]
    rfl

theorem splitWhere_intercalate {pieces : List String}
    (h : ∀ s ∈ pieces, ∀ c ∈ s.toList, Path.isSlash c = false) (hne : pieces ≠ []) :
    Text.splitWhere Path.isSlash ("/".intercalate pieces) = pieces := by
  obtain ⟨init, t, rfl⟩ : ∃ init t, pieces = init ++ [t] := ⟨_, _, (List.dropLast_concat_getLast hne).symm⟩
  rw [splitWhere_intercalate_concat fun s hs => h s (List.mem_append_left _ hs),
    Text.splitWhere_of_forall (h t (by simp))]

theorem filterMap_ofPiece? (h : ∀ s ∈ place, IsName s) : place.filterMap ofPiece? = place.map .name := by
  induction place with
  | nil => rfl
  | cons s place ih =>
    have hs : ofPiece? s = some (.name s) := by
      simp only [ofPiece?, isMeant_eq_true.1 (h s List.mem_cons_self).meant,
        (h s List.mem_cons_self).notUp, if_false]
    rw [List.filterMap_cons_some hs, ih fun t ht => h t (List.mem_cons_of_mem s ht), List.map_cons]

/-- The steps of the path of a place are the names that the place is made of. -/
theorem steps_pathOf (h : ∀ s ∈ place, IsName s) : (pathOf place).steps = place.map .name := by
  rw [Path.steps, Path.pieces, pathOf, Path.splitWhere_root, List.filterMap_cons_none rfl]
  by_cases hne : place = []
  · rw [hne]
    rfl
  · rw [splitWhere_intercalate (fun s hs => (h s hs).unsplit) hne, filterMap_ofPiece? h]

theorem eq_of_same_pathOf (h : ∀ s ∈ place, IsName s) (h' : ∀ s ∈ place', IsName s)
    (hs : (pathOf place).Same (pathOf place')) : place = place' := by
  have hsteps := hs.steps_eq
  rw [steps_pathOf h, steps_pathOf h'] at hsteps
  exact (List.map_inj_right fun _ _ => Component.name.inj).1 hsteps

theorem pathOf_inj (h : ∀ s ∈ place, IsName s) (h' : ∀ s ∈ place', IsName s)
    (heq : pathOf place = pathOf place') : place = place' :=
  eq_of_same_pathOf h h' (heq ▸ Path.Same.refl _)

/-- Going down from a directory by names without a link on the way. -/
theorem Walk.descend {names : Place} (h : Walk root links place n (names ++ todo) r)
    (hnames : ∀ s ∈ names, IsName s) (hm : n.at? names = some m) (hlink : ∀ target, m ≠ .link target) :
    Walk root links (place ++ names) m todo r := by
  induction names generalizing place n with
  | nil =>
    cases FileNode.at?_nil_eq_some_iff.1 hm
    rwa [List.append_nil]
  | cons s names ih =>
    obtain ⟨k, hk, hm⟩ := FileNode.at?_cons_eq_some_iff.1 hm
    have hs := hnames s List.mem_cons_self
    have noLink := FileNode.not_link_above hm hlink
    cases h with
    | stay hn hs' h => exact absurd hs.meant (by simp [hs'])
    | up hn h => exact absurd rfl hs.notUp
    | enter hn _ hup hk' _ h =>
      cases hk.symm.trans hk'
      have := ih h (fun t ht => hnames t (List.mem_cons_of_mem s ht)) hm
      rwa [List.append_assoc] at this
    | jump hn _ hup hk' ht h => exact absurd (Option.some.inj (hk.symm.trans hk')) (noLink _)
    | follow hn _ hup hk' ht h => exact absurd (Option.some.inj (hk.symm.trans hk')) (noLink _)

/-! ### Keys -/

theorem endsWith_pathOf (h : ∀ s ∈ place, IsName s) :
    (pathOf place).text.endsWith "/" = true ↔ place = [] := by
  rw [← String.endsWith_toSlice, String.Slice.endsWith_string_iff, String.copy_toSlice]
  constructor
  · intro hsuffix
    refine Classical.byContradiction fun hne => ?_
    -- The path ends with the last character of a name.
    obtain ⟨init, t, rfl⟩ : ∃ init t, place = init ++ [t] := ⟨_, _, (List.dropLast_concat_getLast hne).symm⟩
    obtain ⟨front, hfront⟩ : ∃ front, (pathOf (init ++ [t])).text = front ++ t := by
      by_cases hi : init = []
      · exact ⟨"/", by simp [pathOf, hi]⟩
      · refine ⟨"/" ++ "/".intercalate init ++ "/", ?_⟩
        rw [pathOf, String.intercalate_append_of_ne_nil hi (by simp)]
        simp [String.append_assoc]
    have ht := h t (by simp)
    have hne : t.toList ≠ [] := fun he =>
      isMeant_eq_true.1 ht.meant (.inl (String.toList_inj.1 (he.trans rfl)))
    obtain ⟨cs, hcs⟩ := hsuffix
    rw [hfront, String.toList_append, ← List.dropLast_concat_getLast hne, ← List.append_assoc] at hcs
    have hlast : '/' = t.toList.getLast hne := (List.cons.inj (List.append_inj' hcs rfl).2).1
    have hslash := ht.unsplit _ (List.getLast_mem hne)
    rw [← hlast] at hslash
    cases hslash
  · rintro rfl
    exact List.suffix_rfl

/-- A relative path as seen from a place. -/
theorem text_join_pathOf (h : ∀ s ∈ place, IsName s) (hq : q.isAbsolute = false) :
    ((pathOf place).join q).text = "/" ++ "/".intercalate (place ++ [q.text]) := by
  have hne : (pathOf place).text ≠ "" := by simp [pathOf]
  unfold Path.join
  rw [hq, Bool.false_or, if_neg (by simpa using hne)]
  by_cases hp : place = []
  · rw [if_pos ((endsWith_pathOf h).2 hp), hp]
    simp [pathOf]
  · rw [if_neg (mt (endsWith_pathOf h).1 hp), String.intercalate_append_of_ne_nil hp (by simp)]
    simp [pathOf, String.append_assoc]

/-- A child of a place is a place. -/
theorem child_pathOf (h : ∀ s ∈ place, IsName s) (hs : IsName s) :
    (pathOf place).child s = pathOf (place ++ [s]) :=
  congrArg Path.mk (text_join_pathOf h hs.isAbsolute_eq_false)

theorem isName_of_fileName? (h : p.fileName? = some s) : IsName s := by
  obtain ⟨c, hc, hcs⟩ := Option.bind_eq_some_iff.1 h
  cases c with
  | name t =>
    cases hcs
    have hmem : .name s ∈ p.steps := by
      rw [Path.steps_eq_filter]
      exact List.mem_filter.2 ⟨List.mem_of_getLast? hc, by simp⟩
    obtain ⟨piece, hpiece, heq⟩ := List.mem_filterMap.1 hmem
    unfold ofPiece? at heq
    split at heq
    · cases heq
    · split at heq <;> cases heq
      exact ⟨Text.forall_of_mem_splitWhere hpiece, isMeant_eq_true.2 ‹_›, ‹_›⟩
  | _ => cases hcs

theorem exists_append_eq_join (p q : Path) : ∃ front, (p.join q).text = front ++ q.text := by
  unfold Path.join
  split
  · exact ⟨"", by simp⟩
  · split <;> exact ⟨_, rfl⟩

/-- A path that is no more than a part of one that can be looked up can be so itself, if it is not empty. -/
theorem Admits.of_infix {front back : String} (h : Admits q) (hq : q.text = front ++ p.text ++ back)
    (hne : p.text ≠ "") : Admits p := by
  obtain ⟨hnul, -, hlong⟩ := admits_iff.1 h
  refine admits_iff.2 ⟨?_, hne, ?_⟩
  · rw [hq, String.toList_append, String.toList_append, List.any_append, List.any_append,
      Bool.or_eq_false_iff, Bool.or_eq_false_iff] at hnul
    exact hnul.1.2
  · rw [hq, String.utf8ByteSize_append, String.utf8ByteSize_append] at hlong
    omega

/-- A relative path names the file that it names as seen from the current directory. -/
theorem Grounded.resolve_join (h : fs.Grounded) (hp : p.isAbsolute = false)
    (hr : fs.resolve true ((pathOf fs.current).join p) = .ok r) (hfile : r.2.isDirectory = false) :
    fs.resolve true p = .ok r := by
  obtain ⟨es, hes⟩ := h.directory
  obtain ⟨hadmits, hbar, place, n, ho, hw⟩ := resolve_eq_ok_iff.1 hr
  obtain ⟨front, hfront⟩ := exists_append_eq_join (pathOf fs.current) p
  have htext := text_join_pathOf h.names hp
  have habs : ((pathOf fs.current).join p).isAbsolute = true := Path.isAbsolute_iff.2 ⟨_, htext⟩
  rw [origin?, if_pos habs] at ho
  cases ho
  have hpieces : piecesOf ((pathOf fs.current).join p).text = fs.current ++ piecesOf p.text := by
    rw [htext, piecesOf_root, splitWhere_intercalate_concat fun s hs => (h.names s hs).unsplit,
      piecesOf_relative hp]
    rfl
  rw [hpieces] at hw
  have hw := hw.descend h.names hes fun _ hlink => by cases hlink
  rw [List.nil_append] at hw
  have hne : p.text ≠ "" := by
    intro he
    have hempty := hw.filter
    rw [he, show (piecesOf "").filter isMeant = [] from rfl] at hempty
    cases hempty
    cases hfile
  have ha := hadmits.of_infix (hfront.trans (String.append_empty ..).symm) hne
  exact resolve_eq_ok_iff.2 ⟨ha, hbar, fs.current, .directory es, by simp [origin?, hp, hes], hw⟩

theorem node_eq_ok_iff : fs.node p = .ok n ↔ ∃ place, fs.resolve true p = .ok (place, n) := by
  unfold node
  cases fs.resolve true p with
  | error e => exact ⟨nofun, nofun⟩
  | ok r =>
    obtain ⟨place, m⟩ := r
    refine ⟨fun h => ?_, fun ⟨_, h⟩ => ?_⟩ <;> cases h
    · exact ⟨_, rfl⟩
    · rfl

/-- Only a file that can be read has a content. -/
theorem read_eq_content_iff {bytes : ByteArray} :
    fs.read p = .content bytes ↔ fs.node p = .ok (.file bytes) := by
  unfold read
  cases fs.node p with
  | error f => exact ⟨nofun, nofun⟩
  | ok n => cases n <;> simp

theorem canonical_eq_ok_iff {c : Path} : fs.canonical p = .ok c ↔
    ∃ r, fs.resolve true p = .ok r ∧ pathOf r.1 = c := by
  unfold canonical
  cases fs.resolve true p with
  | error e => exact ⟨nofun, nofun⟩
  | ok r =>
    refine ⟨fun h => ?_, fun ⟨_, h, hc⟩ => ?_⟩ <;> cases h
    · exact ⟨_, rfl, rfl⟩
    · exact congrArg Except.ok hc

theorem Grounded.exists_pathOf_eq_canonical {c : Path} (h : fs.Grounded) (hc : fs.canonical p = .ok c) :
    ∃ place, (∀ s ∈ place, IsName s) ∧ c = pathOf place := by
  obtain ⟨r, hr, rfl⟩ := canonical_eq_ok_iff.1 hc
  exact ⟨r.1, h.names_of_resolve hr, rfl⟩

/-- The key that a file can be read under is the path of a place. -/
theorem Grounded.exists_pathOf_eq_key (h : fs.Grounded) (hn : fs.node (fs.key p) = .ok n)
    (hfile : n.isDirectory = false) : ∃ place, (∀ s ∈ place, IsName s) ∧ fs.key p = pathOf place := by
  cases hc : fs.canonical p with
  | ok c =>
    have hkey : fs.key p = c := by simp [key, hc]
    rw [hkey]
    exact h.exists_pathOf_eq_canonical hc
  | error e =>
    -- The path itself cannot be looked up, and neither can it from the current directory.
    have absurd_absolute : fs.key p ≠ if p.isAbsolute then p else (pathOf fs.current).join p := by
      intro hkey
      obtain ⟨place, hr⟩ := node_eq_ok_iff.1 hn
      have hp : fs.resolve true p = .ok (place, n) := by
        rw [hkey] at hr
        cases ha : p.isAbsolute with
        | true => rwa [ha] at hr
        | false => exact h.resolve_join ha (by rwa [ha] at hr) hfile
      rw [canonical_eq_ok_iff.2 ⟨_, hp, rfl⟩] at hc
      cases hc
    unfold key at absurd_absolute ⊢
    simp only [hc] at absurd_absolute ⊢
    split at absurd_absolute
    · rename_i parent name hparent hname
      split at absurd_absolute
      · rename_i dir hdir
        obtain ⟨place, hplace, rfl⟩ := h.exists_pathOf_eq_canonical hdir
        have hs := isName_of_fileName? hname
        refine ⟨place ++ [name], fun s hs' => ?_, child_pathOf hplace hs⟩
        rcases List.mem_append.1 hs' with hs' | hs'
        · exact hplace s hs'
        · rwa [List.mem_singleton.1 hs']
      · exact absurd rfl absurd_absolute
    · exact absurd rfl absurd_absolute

end FileSystem

/-! ### Files under their keys -/

namespace Source

variable {fs : FileSystem} {config : Config} {key key' p q : Path} {s t : Source}

/-- What was read is the content of the file that the key names. -/
theorem eq_of_load (h : load fs config key = .ok s) :
    fs.node key = .ok (.file s.content) ∧ s = ⟨key, s.content, .ofBytes s.content⟩ := by
  unfold load at h
  split at h
  · cases h
  split at h
  · cases h
  split at h
  · cases h
  split at h
  · cases h
  · cases h
  next bytes hread =>
    split at h <;> cases h
    exact ⟨FileSystem.read_eq_content_iff.1 hread, rfl⟩

/-- A file that can be read and is not too large is read. -/
theorem load_file {content : ByteArray} (hn : fs.node key = .ok (.file content))
    (hsize : content.size ≤ config.maxSourceBytes) :
    load fs config key = .ok ⟨key, content, .ofBytes content⟩ := by
  have hread := FileSystem.read_eq_content_iff.2 hn
  simp [load, hn, hread, FileNode.isDirectory, FileNode.size, Nat.not_lt.2 hsize]

/-- Under keys with the same components, the same is read. -/
theorem content_congr (h : load fs config key = .ok s) (h' : load fs config key' = .ok t)
    (hs : s.key.Same t.key) : s.content = t.content := by
  obtain ⟨hn, hs'⟩ := eq_of_load h
  obtain ⟨hn', ht'⟩ := eq_of_load h'
  have hkey : key.Same key' := by rwa [hs', ht'] at hs
  obtain ⟨place, hr⟩ := FileSystem.node_eq_ok_iff.1 hn
  obtain ⟨place', hr'⟩ := FileSystem.node_eq_ok_iff.1 hn'
  have hsame := FileSystem.resolve_congr hkey hr hr'
  exact FileNode.file.inj (Prod.mk.inj hsame).2

/-- Keys of files that differ in their spelling only do not differ. -/
theorem eq_of_same (hfs : fs.Grounded) (h : load fs config (fs.key p) = .ok s)
    (h' : load fs config (fs.key q) = .ok t) (hs : s.key.Same t.key) : s = t := by
  obtain ⟨hn, hs'⟩ := eq_of_load h
  obtain ⟨hn', ht'⟩ := eq_of_load h'
  have hkey : (fs.key p).Same (fs.key q) := by rwa [hs', ht'] at hs
  have hsame : fs.key p = fs.key q := by
    obtain ⟨place, hplace, hp⟩ := hfs.exists_pathOf_eq_key hn rfl
    obtain ⟨place', hplace', hq⟩ := hfs.exists_pathOf_eq_key hn' rfl
    rw [hp, hq] at hkey ⊢
    rw [FileSystem.eq_of_same_pathOf hplace hplace' hkey]
  rw [hsame] at h
  exact Except.ok.inj (h.symm.trans h')

end Source
end SymbolIndex
