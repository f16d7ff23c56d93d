import SymbolIndex.Proofs.FileSystem.Key

/-!
# Going down from a path

A path is spelled on with a slash and a name, unless it ends with a slash already. Either way it has one
component more (`Path.components_child`), whatever it is that the path begins with. So what is below a path
under some names has the components of the path, and then the names (`Path.components_descend`), and different
names lead to different paths.
-/
namespace SymbolIndex
namespace Path
open FileSystem (pathOf)

variable {p : Path} {s : String} {names names' : List String} {place : Place}

theorem isAbsolute_append {front : String} (h : front ≠ "") (t : String) :
    isAbsolute ⟨front ++ t⟩ = isAbsolute ⟨front⟩ := by
  obtain ⟨c, cs, hfront⟩ := List.exists_cons_of_ne_nil (mt String.toList_eq_nil_iff.1 h)
  rw [isAbsolute, isAbsolute, Bool.eq_iff_iff, String.startsWith_string_iff, String.startsWith_string_iff,
    String.toList_append, hfront]
  show ['/'] <+: c :: (cs ++ t.toList) ↔ ['/'] <+: c :: cs
  simp [List.cons_prefix_cons]

theorem steps_append_name (hs : IsName s) (front : String) :
    steps ⟨front ++ "/" ++ s⟩ = steps ⟨front⟩ ++ [.name s] := by
  have hpiece : Component.ofPiece? s = some (.name s) := by
    simp [Component.ofPiece?, Component.isMeant_eq_true.1 hs.meant, hs.notUp]
  rw [steps, pieces, splitWhere_slash, List.filterMap_append, Text.splitWhere_of_forall hs.unsplit,
    List.filterMap_cons_some hpiece]
  rfl

/-- A slash at the end of a path is no step. -/
theorem steps_append_slash (front : String) : steps ⟨front ++ "/"⟩ = steps ⟨front⟩ := by
  have hempty : front ++ "/" = front ++ "/" ++ "" := (String.append_empty ..).symm
  rw [steps, pieces, hempty, splitWhere_slash, List.filterMap_append]
  exact List.append_nil _

/-- A path is spelled on after the slash that it ends with, or after one more. -/
theorem exists_text_child (hp : p.text ≠ "") (hs : IsName s) :
    ∃ front, (p.text = front ∨ p.text = front ++ "/") ∧ (p.child s).text = front ++ "/" ++ s := by
  unfold child join
  rw [hs.isAbsolute_eq_false, Bool.false_or, if_neg (by simpa using hp)]
  split
  · rename_i hslash
    rw [← String.endsWith_toSlice, String.Slice.endsWith_string_iff, String.copy_toSlice] at hslash
    obtain ⟨cs, hcs⟩ := hslash
    have hfront : p.text = String.ofList cs ++ "/" := String.toList_inj.1 (by simp [← hcs])
    exact ⟨_, .inr hfront, by rw [← hfront]⟩
  · exact ⟨p.text, .inl rfl, rfl⟩

/-- An entry of a directory is one step further, in the same direction. -/
theorem steps_child (hp : p.text ≠ "") (hs : IsName s) :
    (p.child s).text ≠ "" ∧ (p.child s).isAbsolute = p.isAbsolute ∧
    (p.child s).steps = p.steps ++ [.name s] := by
  obtain ⟨front, hfront, hchild⟩ := exists_text_child hp hs
  have hsteps : (p.child s).steps = steps ⟨front⟩ ++ [.name s] :=
    (congrArg steps (congrArg Path.mk hchild)).trans (steps_append_name hs front)
  obtain ⟨more, hmore⟩ : ∃ more, (p.child s).text = p.text ++ more := by
    rcases hfront with h | h
    · exact ⟨"/" ++ s, by rw [hchild, h, String.append_assoc]⟩
    · exact ⟨s, by rw [hchild, h]⟩
  refine ⟨by simp [hmore, hp], ?_, ?_⟩
  · exact (congrArg isAbsolute (congrArg Path.mk hmore)).trans (isAbsolute_append hp more)
  · rw [hsteps]
    rcases hfront with h | h
    · rw [← h]
    · rw [← steps_append_slash, ← h]

theorem pieces_ne_nil (p : Path) : p.pieces ≠ [] := by
  obtain ⟨cs, hcs⟩ : ∃ cs, p.text = String.ofList cs := ⟨p.text.toList, String.ofList_toList.symm⟩
  rw [pieces, hcs, Text.splitWhere_ofList]
  exact List.cons_ne_nil _ _

/-- A path that is spelled on begins as it did. -/
theorem head?_pieces_child (hp : p.text ≠ "") (hs : IsName s) :
    (p.child s).pieces.head? = p.pieces.head? := by
  have hhead (front t : String) : (pieces ⟨front ++ "/" ++ t⟩).head? = (pieces ⟨front⟩).head? := by
    obtain ⟨first, rest, hfirst⟩ := List.exists_cons_of_ne_nil (pieces_ne_nil ⟨front⟩)
    rw [pieces, splitWhere_slash]
    change (pieces ⟨front⟩ ++ _).head? = _
    rw [hfirst]
    rfl
  obtain ⟨front, hfront, hchild⟩ := exists_text_child hp hs
  rw [pieces, hchild]
  refine (hhead front s).trans ?_
  rcases hfront with h | h
  · rw [← h]
  · rw [← hhead front "", String.append_empty, ← h]

theorem components_child (hp : p.text ≠ "") (hs : IsName s) :
    (p.child s).components = p.components ++ [.name s] := by
  obtain ⟨-, habs, hsteps⟩ := steps_child hp hs
  rw [steps, steps] at hsteps
  simp only [components, habs, head?_pieces_child hp hs, hsteps]
  split
  · rfl
  · split <;> rfl

/-! ### Some names -/

/-- What is below a path, under some names. -/
def descend (p : Path) (names : List String) : Path := names.foldl child p

@[simp] theorem descend_nil (p : Path) : p.descend [] = p := rfl

@[simp] theorem descend_cons (p : Path) (s : String) (names : List String) :
    p.descend (s :: names) = (p.child s).descend names := rfl

theorem components_descend (hp : p.text ≠ "") (h : ∀ s ∈ names, IsName s) :
    (p.descend names).components = p.components ++ names.map .name := by
  induction names generalizing p with
  | nil => exact (List.append_nil _).symm
  | cons s names ih =>
    have hs := h s List.mem_cons_self
    rw [descend_cons, ih (steps_child hp hs).1 fun t ht => h t (List.mem_cons_of_mem s ht),
      components_child hp hs, List.append_assoc]
    rfl

/-- Different names lead to different paths. -/
theorem descend_inj (hp : p.text ≠ "") (h : ∀ s ∈ names, IsName s) (h' : ∀ s ∈ names', IsName s)
    (heq : p.descend names = p.descend names') : names = names' := by
  have hcs := congrArg components heq
  rw [components_descend hp h, components_descend hp h', List.append_cancel_left_eq] at hcs
  exact (List.map_inj_right fun _ _ => Component.name.inj).1 hcs

theorem descend_pathOf (h : ∀ s ∈ place ++ names, IsName s) :
    (pathOf place).descend names = pathOf (place ++ names) := by
  induction names generalizing place with
  | nil => rw [List.append_nil, descend_nil]
  | cons s names ih =>
    have hplace : ∀ t ∈ place, IsName t := fun t ht => h t (List.mem_append_left _ ht)
    rw [List.append_cons] at h
    rw [descend_cons, FileSystem.child_pathOf hplace (h s (by simp)), ih h, List.append_assoc]
    rfl

end Path
end SymbolIndex
