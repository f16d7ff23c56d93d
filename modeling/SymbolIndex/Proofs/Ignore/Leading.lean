import SymbolIndex.Proofs.FileSystem.Canonical
import SymbolIndex.Proofs.Ignore.Walk

/-!
# Where the paths of a walk lead

A walk can begin at any path that leads somewhere, however that is spelled, and goes on from there by
names. A path leads to a place if the look-up of its steps comes there (`FileSystem.Leads`), and with
the name of an entry that is no link it leads to that entry (`Leads.child`). So if what a walk lists
can be looked up, what is found is what was listed (`node_of_mem_run`).
-/
namespace SymbolIndex

namespace FileSystem
open Component

variable {fs : FileSystem} {root n m : FileNode} {links : Nat} {place place' : Place} {p : Path}
  {todo : List String} {s : String} {es : List (String × FileNode)}

/-- A look-up that comes to a directory goes on to an entry that is no link. -/
theorem Walk.concat (h : Walk root links place n todo (place', m)) {k : FileNode} (hs : IsName s)
    (hk : m.entry? s = some k) (hlink : ∀ target, k ≠ .link target) :
    Walk root links place n (todo ++ [s]) (place' ++ [s], k) := by
  generalize hr : (place', m) = r at h
  induction h with
  | done links place n =>
    cases hr
    exact .enter (FileNode.isDirectory_of_entry_eq hk) hs.meant hs.notUp hk hlink (.done ..)
  | stay hn hs' _ ih => exact .stay hn hs' (ih hr)
  | up hn _ ih => exact .up hn (ih hr)
  | enter hn hs' hup hm hlink' _ ih => exact .enter hn hs' hup hm hlink' (ih hr)
  | jump hn hs' hup hm ht _ ih =>
    have hrest := ih hr
    rw [List.append_assoc] at hrest
    exact .jump hn hs' hup hm ht hrest
  | follow hn hs' hup hm ht _ ih =>
    have hrest := ih hr
    rw [List.append_assoc] at hrest
    exact .follow hn hs' hup hm ht hrest

/-- A path leads to a place, and to what is there. -/
structure Leads (fs : FileSystem) (p : Path) (place : Place) (n : FileNode) : Prop where
  spelled : p.text ≠ ""
  walk : ∃ top k, fs.origin? p = some (top, k) ∧ Walk fs.root linkLimit top k (p.steps.map text) (place, n)

namespace Leads

/-- A look-up that succeeds leads on, unless it comes to a link that it would not follow. -/
theorem of_resolve {follow : Bool} (h : fs.resolve follow p = .ok (place, n))
    (hlink : follow = false → ∀ target, n ≠ .link target) : fs.Leads p place n := by
  obtain ⟨⟨-, hp, -⟩, top, k, ho, hwalk⟩ := resolve_eq_ok_iff_walkPath.1 h
  have hw := (Walk.of_walkPath hwalk hlink).filter
  rw [filter_piecesOf] at hw
  exact ⟨hp, top, k, ho, hw⟩

theorem unique (h : fs.Leads p place n) (h' : fs.Leads p place' m) : place = place' ∧ n = m := by
  obtain ⟨-, top, k, ho, hw⟩ := h
  obtain ⟨-, top', k', ho', hw'⟩ := h'
  cases ho.symm.trans ho'
  exact Prod.mk.inj (hw.unique hw')

theorem wellFormed (hfs : fs.WellFormed) (h : fs.Leads p place n) : n.WellFormed := by
  obtain ⟨-, top, k, ho, hw⟩ := h
  obtain ⟨hk, hlink⟩ := hfs.origin ho
  exact (hfs.tree.at? (hw.lands hfs.isDirectory_root hk hlink).1).1

/-- A path that leads to a directory leads to its entries, under their names. -/
theorem child (h : fs.Leads p place n) (hs : IsName s) (hm : n.entry? s = some m)
    (hlink : ∀ target, m ≠ .link target) : fs.Leads (p.child s) (place ++ [s]) m := by
  obtain ⟨hp, top, k, ho, hw⟩ := h
  obtain ⟨hspelled, habs, hsteps⟩ := Path.steps_child hp hs
  refine ⟨hspelled, top, k, by rw [origin?, habs, ← origin?, ho], ?_⟩
  rw [hsteps, List.map_append]
  exact hw.concat hs hm hlink

/-- Below what a path leads to, names lead on. -/
theorem descend {names : List String} (h : fs.Leads p place n) (hn : n.WellFormed) (hm : n.at? names = some m)
    (hlink : ∀ target, m ≠ .link target) : fs.Leads (p.descend names) (place ++ names) m := by
  induction names generalizing p place n with
  | nil =>
    cases FileNode.at?_nil_eq_some_iff.1 hm
    rwa [List.append_nil]
  | cons s names ih =>
    obtain ⟨k, hk, hm⟩ := FileNode.at?_cons_eq_some_iff.1 hm
    have hmem := FileNode.mem_of_entry_eq hk
    rw [List.append_cons]
    exact ih (h.child (hn.isName _ hmem) hk (FileNode.not_link_above hm hlink)) (hn.inner _ hmem) hm

end Leads

end FileSystem

namespace Walk
variable {w : Walk} {levels : List IgnoreLevel} {place : Place} {path start : Path} {n m : FileNode}
  {e : WalkEntry}

/-- What is listed below a path that leads somewhere has paths that lead there. -/
theorem leads_of_mem_node (hn : n.WellFormed) (h : w.fs.Leads path place n)
    (he : e ∈ w.node levels place path n) (hlink : ∀ target, e.node ≠ .link target) :
    ∃ inner, w.fs.Leads e.path inner e.node := by
  obtain ⟨names, hat, hpath⟩ := exists_names hn he
  exact ⟨place ++ names, hpath ▸ h.descend hn hat hlink⟩

theorem leads_of_mem_run (hfs : w.fs.WellFormed) (he : e ∈ w.run start)
    (hlink : ∀ target, e.node ≠ .link target) : ∃ inner, w.fs.Leads e.path inner e.node := by
  unfold run at he
  split at he
  · cases he
  · split at he
    · cases he
    · rename_i place es hr
      have hstart : w.fs.Leads start place (.directory es) := .of_resolve hr (by simp)
      exact leads_of_mem_node (hstart.wellFormed hfs) hstart he hlink
    · -- A link is only followed at the start.
      split at he
      · rename_i place es hr
        have hstart : w.fs.Leads start place (.directory es) := .of_resolve hr (by simp)
        have hnode : e ∈ w.node (w.fs.levelsAbove place) place start (.directory es) := by
          rcases List.mem_cons.1 he with rfl | he
          · exact absurd rfl (hlink _)
          · rw [node]
            exact List.mem_cons_of_mem _ he
        exact leads_of_mem_node (hstart.wellFormed hfs) hstart hnode hlink
      · rename_i place n hdir hr
        obtain rfl := List.mem_singleton.1 he
        by_cases hfile : n.isFile = true
        · rw [if_pos hfile]
          exact ⟨place, .of_resolve hr (by simp)⟩
        · exact absurd (if_neg hfile) (hlink _)
      · cases he
    · rename_i place n hdir hne hr
      obtain rfl := List.mem_singleton.1 he
      exact ⟨place, .of_resolve hr fun _ => hlink⟩

/-- If what a walk lists can be looked up, what is found is what was listed, unless that is a link. -/
theorem node_of_mem_run (hfs : w.fs.WellFormed) (he : e ∈ w.run start)
    (hlink : ∀ target, e.node ≠ .link target) (hm : w.fs.node e.path = .ok m) : m = e.node := by
  obtain ⟨place, hr⟩ := FileSystem.node_eq_ok_iff.1 hm
  obtain ⟨inner, h⟩ := leads_of_mem_run hfs he hlink
  exact (h.unique (.of_resolve hr nofun)).2.symm

end Walk
end SymbolIndex
