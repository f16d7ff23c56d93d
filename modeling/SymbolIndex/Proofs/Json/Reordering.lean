import Mathlib.Data.List.Forall2
import Mathlib.Data.List.Pairwise
import Mathlib.Data.List.Perm.Basic
import Mathlib.Logic.Function.Conjugate
import SymbolIndex.Json.Decode

/-!
# Values with their entries in another order

The entries of an object come in no particular order. A decoder reads something back from a value
(`Decoder.Reads`) if it reads it from every value that differs from this one in the order of entries
alone, at any depth. A record is read back if the entries of an object set parts of it that do not
get in each other's way (`Shape.reads_object`).
-/
namespace SymbolIndex

namespace Json

mutual

/-- The entries of all objects in a value, brought into any order. -/
inductive Reordered : Json → Json → Prop
  | same (v : Json) : Reordered v v
  | array {vs ws : List Json} : ItemsReordered vs ws → Reordered (.array vs) (.array ws)
  | object {es fs gs : List (String × Json)} :
    EntriesReordered es fs → fs.Perm gs → Reordered (.object es) (.object gs)

inductive ItemsReordered : List Json → List Json → Prop
  | nil : ItemsReordered [] []
  | cons {v w : Json} {vs ws : List Json} :
    Reordered v w → ItemsReordered vs ws → ItemsReordered (v :: vs) (w :: ws)

inductive EntriesReordered : List (String × Json) → List (String × Json) → Prop
  | nil : EntriesReordered [] []
  | cons {name : String} {v w : Json} {es fs : List (String × Json)} :
    Reordered v w → EntriesReordered es fs → EntriesReordered ((name, v) :: es) ((name, w) :: fs)

end

theorem ItemsReordered.same : ∀ vs, ItemsReordered vs vs
  | [] => .nil
  | v :: vs => .cons (.same v) (same vs)

theorem EntriesReordered.same : ∀ es, EntriesReordered es es
  | [] => .nil
  | (_, v) :: es => .cons (.same v) (same es)

theorem Reordered.exists_array {vs : List Json} {w : Json} (h : Reordered (.array vs) w) :
    ∃ ws, w = .array ws ∧ ItemsReordered vs ws := by
  cases h with
  | same => exact ⟨vs, rfl, .same vs⟩
  | array h => exact ⟨_, rfl, h⟩

theorem Reordered.exists_object {es : List (String × Json)} {w : Json} (h : Reordered (.object es) w) :
    ∃ fs gs, w = .object gs ∧ EntriesReordered es fs ∧ fs.Perm gs := by
  cases h with
  | same => exact ⟨es, es, rfl, .same es, .refl es⟩
  | object h hperm => exact ⟨_, _, rfl, h, hperm⟩

end Json

namespace Decoder
open Json
variable {α β σ : Type} {d : Decoder α} {v : Json} {a : α}

/-- Something is read back from a value, in whatever order the entries come. -/
def Reads (d : Decoder α) (v : Json) (a : α) : Prop := ∀ w, v.Reordered w → d w = .ok a

/-- All that is written is read back, with its entries in any order. -/
structure ReadsBack (d : Decoder α) (write : α → Json) : Prop where
  plain : ∀ a, d (write a) = .ok a
  reordered : ∀ a, Reads d (write a) a

theorem ReadsBack.of_reads {write : α → Json} (h : ∀ a, Reads d (write a) a) : ReadsBack d write :=
  ⟨fun a => h a _ (.same _), h⟩

theorem reads_natural (expected : String) (n : Nat) : Reads (natural expected) (.natural n) n := by
  rintro w ⟨⟩
  rfl

theorem reads_boolean (b : Bool) : Reads boolean (.bool b) b := by
  rintro w ⟨⟩
  rfl

theorem reads_string (expected s : String) : Reads (string expected) (.string s) s := by
  rintro w ⟨⟩
  rfl

theorem reads_choice {names : List (String × α)} {s : String} (h : names.lookup s = some a) :
    Reads (choice names) (.string s) a := by
  rintro w ⟨⟩
  simp [choice, choice.pick, h]

theorem Reads.optional (h : Reads d v a) (hv : v ≠ .null) : Reads (optional d) v (some a) := by
  intro w hw
  have hw' : w ≠ .null := by
    rintro rfl
    cases hw
    exact hv rfl
  rw [Decoder.optional, h w hw]
  · rfl
  · exact hw'

theorem items_eq_ok {f : α → Json} (h : ∀ a, Reads d (f a) a) (as : List α) (index : Nat) (ws : List Json)
    (hws : ItemsReordered (as.map f) ws) : items d index ws = .ok as := by
  induction as generalizing index ws with
  | nil =>
    cases hws
    rfl
  | cons a as ih =>
    cases hws with
    | cons hw hws =>
      rw [items, h a _ hw, ih _ _ hws]
      rfl

theorem reads_list {f : α → Json} (h : ∀ a, Reads d (f a) a) (as : List α) :
    Reads (list d) (.array (as.map f)) as := by
  intro w hw
  obtain ⟨ws, rfl, hws⟩ := hw.exists_array
  exact items_eq_ok h as 0 ws hws

namespace Shape
variable {shape : Shape σ} {es fs : List (String × Json)} {updates : List (σ → σ)}

/-- An entry sets a part of a record. -/
def Sets (shape : Shape σ) (e : String × Json) (update : σ → σ) : Prop :=
  ∃ f, shape.fields.find? (·.name = e.1) = some f ∧ ∀ known, f.read e.2 known = .ok (update known)

/-- An entry sets a part of a record, in whatever order the entries in it come. -/
def Settles (shape : Shape σ) (e : String × Json) (update : σ → σ) : Prop :=
  ∀ w, e.2.Reordered w → Sets shape (e.1, w) update

theorem settles_field {name : String} {set : α → σ → σ} {update : σ → σ} {f : Field σ} (h : Reads d v a)
    (hf : shape.fields.find? (·.name = name) = some f) (hread : f.read = (field name d set).read)
    (hset : set a = update) : Settles shape (name, v) update := by
  refine fun w hw => ⟨f, hf, fun known => ?_⟩
  rw [hread, ← hset]
  show (set · known) <$> d w = _
  rw [h w hw]
  rfl

theorem sets_of_settles (h : List.Forall₂ (Settles shape) es updates) (hfs : EntriesReordered es fs) :
    List.Forall₂ (Sets shape) fs updates := by
  induction h generalizing fs with
  | nil =>
    cases hfs
    exact .nil
  | cons he _ ih =>
    cases hfs with
    | cons hw hfs => exact .cons (he _ hw) (ih hfs)

theorem readEntries_eq_ok (h : List.Forall₂ (Sets shape) es updates) (known : σ) :
    shape.readEntries known es = .ok (updates.foldl (fun known update => update known) known) := by
  induction h generalizing known with
  | nil => rfl
  | @cons e update es updates he _ ih =>
    obtain ⟨name, v⟩ := e
    obtain ⟨f, hf, hread⟩ := he
    rw [readEntries, hf]
    dsimp only
    rw [hread known]
    exact ih _

/-- A record is read from the entries of an object in any order, if those set different parts of it. -/
theorem reads_object (h : List.Forall₂ (Settles shape) es updates)
    (hcomm : updates.Pairwise fun f g => ∀ known, f (g known) = g (f known)) (start : σ) :
    Reads (shape.read start) (.object es) (updates.foldl (fun known update => update known) start) := by
  intro w hw
  obtain ⟨fs, gs, rfl, hfs, hperm⟩ := hw.exists_object
  obtain ⟨others, hothers, hupdates⟩ := List.perm_comp_forall₂ hperm.symm (sets_of_settles h hfs)
  have hfold : others.foldl (fun known update => update known) start =
      updates.foldl (fun known update => update known) start := by
    refine hupdates.foldl_eq' (fun f hf g hg => ?_) start
    exact hcomm.forall_of_forall_of_flip (fun _ _ _ => rfl) (hcomm.imp fun h known => (h known).symm)
      (hupdates.mem_iff.1 hg) (hupdates.mem_iff.1 hf)
  rw [read, readEntries_eq_ok hothers, hfold]

end Shape
end Decoder
end SymbolIndex
