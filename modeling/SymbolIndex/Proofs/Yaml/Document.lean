import SymbolIndex.Proofs.Yaml.Event
import SymbolIndex.Yaml.Document

/-!
# The places of failures

Why a document has no value is said about the place of one of its events, or about a fault's own place, so the
place of a failure is one that the scanner came to.
-/
open Std.Do

set_option mvcgen.warning false

namespace SymbolIndex.Yaml
open Mark

variable {s : String}

/-- If a failure has a place, the scanner came to it. -/
def Failure.Located (s : String) (f : Failure) : Prop := ∀ m ∈ f.mark?, Reached (chars s) m

namespace Failure

theorem located_of_mark? {f : Failure} {m : Mark} (hf : f.mark? = some m) (hm : Reached (chars s) m) :
    f.Located s := by
  intro m' hm'
  rw [hf] at hm'
  cases hm'
  exact hm

theorem located_of_none {f : Failure} (hf : f.mark? = none) : f.Located s := by
  intro m hm
  rw [hf] at hm
  cases hm

end Failure

namespace Document
open Failure

/-- The places of the pieces of a document, and that of its failure, are places that the scanner came to. -/
structure Located (s : String) (d : Document) : Prop where
  pieces : ∀ p ∈ d.pieces, Reached (chars s) p.2
  failure : ∀ f ∈ d.failure, f.Located s

theorem located_empty : Gathering.empty.document.Located s := by
  refine ⟨fun p hp => ?_, fun f hf => ?_⟩
  · exact absurd hp (Array.not_mem_empty p)
  · cases hf

theorem Located.add {g : Gathering} (h : g.document.Located s) (anchor : Option String) (p : Piece) {m : Mark}
    (hm : Reached (chars s) m) : (g.add anchor p m).document.Located s := by
  have hpieces : ∀ q ∈ g.document.pieces.push (p, m), Reached (chars s) q.2 := by
    intro q hq
    rcases Array.mem_push.1 hq with hq | rfl
    · exact h.pieces q hq
    · exact hm
  cases anchor with
  | none => exact ⟨hpieces, h.failure⟩
  | some name => exact ⟨hpieces, h.failure⟩

theorem Located.failed {d : Document} (h : d.Located s) {f : Failure} (hf : f.Located s) :
    { d with failure := some f }.Located s := by
  refine ⟨h.pieces, fun f' hf' => ?_⟩
  cases hf'
  exact hf

@[simp]
theorem failure_add (g : Gathering) (anchor : Option String) (p : Piece) (m : Mark) :
    (g.add anchor p m).document.failure = g.document.failure := by
  cases anchor <;> rfl

/-- While no failure is found, the state goes on being right. -/
theorem gather_located (first : Bool) (fuel : Nat) {g : Gathering} {o : Outline} (h : Sound s o.reading)
    (hg : g.document.Located s) (hnone : g.document.failure = none) {d : Document} {o' : Outline}
    (hd : gather first fuel g o = (some d, o')) : d.Located s ∧ (d.failure = none → Sound s o'.reading) := by
  induction fuel generalizing g o with
  | zero =>
    cases hd
    exact ⟨hg.failed (located_of_none rfl), fun hfailure => by cases hfailure⟩
  | succ fuel ih =>
    have hnext := Parse.next_run o h
    rw [gather] at hd
    split at hd
    · next f o₁ hrun =>
      rw [hrun] at hnext
      cases hd
      exact ⟨hg.failed (located_of_mark? rfl hnext), fun hfailure => by cases hfailure⟩
    · next e o₁ hrun =>
      rw [hrun] at hnext
      obtain ⟨hsound, hmark⟩ := hnext
      have hadd (anchor : Option String) (p : Piece)
          (hd : gather first fuel (g.add anchor p e.mark) o₁ = (some d, o')) :=
        ih hsound (hg.add anchor p hmark) (by rw [failure_add, hnone]) hd
      split at hd
      · exact ih hsound hg hnone hd
      · exact ih hsound hg hnone hd
      · cases first with
        | false => cases hd
        | true =>
          split at hd
          · cases hd
            exact ⟨hg.add none .nothing hmark, fun _ => hsound⟩
          · cases hd
            exact ⟨hg, fun _ => hsound⟩
      · cases hd
        exact ⟨hg, fun _ => hsound⟩
      · split at hd
        · exact hadd _ _ hd
        · cases hd
          exact ⟨hg.failed (located_of_mark? rfl hmark), fun hfailure => by cases hfailure⟩
      all_goals exact hadd _ _ hd

/-! ### The value of a document -/

/-- Decoding fails at a place that the scanner came to, if at any. -/
abbrev Decodes (s : String) {α : Type} : PostCond α (.arg Nat (.except Failure .pure)) :=
  post⟨fun _ _ => ⌜True⌝, fun f => ⌜f.Located s⌝⟩

variable {d : Document}

theorem throw_spec {α : Type} {Q : PostCond α (.arg Nat (.except Failure .pure))} (f : Failure) :
    ⦃fun _ => Q.2.1 f⦄ (MonadExceptOf.throw f : Decode α) ⦃Q⦄ := fun _ h => h

theorem piece_spec (hd : d.Located s) (at' : Nat) : ⦃fun _ => ⌜True⌝⦄ d.piece at'
    ⦃post⟨fun p _ => ⌜Reached (chars s) p.2⌝, fun f => ⌜f.Located s⌝⟩⦄ := by
  mvcgen [piece, throw_spec, -Spec.throw_StateT]
  · rename_i p hp _
    exact hd.pieces p (Array.mem_of_getElem? hp)
  · cases hf : d.failure with
    | none => exact located_of_none rfl
    | some f => exact hd.failure f hf

theorem follow_spec (anchor : Nat) : ⦃fun _ => ⌜True⌝⦄ d.follow anchor ⦃Decodes s⦄ := by
  mvcgen [follow, throw_spec, -Spec.throw_StateT]
  exact located_of_none rfl

mutual

theorem value_spec (hd : d.Located s) (left : Nat) (path : Path) (at' : Nat) :
    ⦃fun _ => ⌜True⌝⦄ d.value left path at' ⦃Decodes s⦄ := by
  have hpiece := piece_spec hd
  have hcontent (p : Piece) (m : Mark) (next : Nat) (hm : Reached (chars s) m) :=
    content_spec hd left path false p m next hm
  rw [value]
  mvcgen [hpiece, follow_spec, hcontent]
  exact fun _ hm => hm
  termination_by (left, 3, 0)

theorem content_spec (hd : d.Located s) (left : Nat) (path : Path) (settled : Bool) (p : Piece) (m : Mark)
    (next : Nat)
    (hm : Reached (chars s) m) : ⦃fun _ => ⌜True⌝⦄ d.content left path settled p m next ⦃Decodes s⦄ := by
  have hrefused (r : Refusal) : (Failure.refused r m path).Located s := located_of_mark? rfl hm
  have hdeep : (Failure.tooDeep m).Located s := located_of_mark? rfl hm
  cases settled with
  | false =>
    have hcontent := content_spec hd left path true p m next hm
    cases left with
    | zero =>
      rw [content.eq_def]
      mvcgen [hcontent, throw_spec, -Spec.throw_StateT]
    | succ left =>
      have hitems := items_spec hd left path
      have hentries := entries_spec hd left path m hm
      rw [content.eq_def]
      mvcgen [hcontent, hitems, hentries, throw_spec, -Spec.throw_StateT]
  | true =>
    cases left with
    | zero =>
      rw [content.eq_def]
      mvcgen [throw_spec, -Spec.throw_StateT]
    | succ left =>
      have hitems := items_spec hd left path
      have hentries := entries_spec hd left path m hm
      rw [content.eq_def]
      mvcgen [hitems, hentries, throw_spec, -Spec.throw_StateT]
  termination_by (left, if settled then 1 else 2, 0)

theorem items_spec (hd : d.Located s) (left : Nat) (path : Path) (fuel index at' : Nat) (acc : Array Value) :
    ⦃fun _ => ⌜True⌝⦄ d.items left path fuel index at' acc ⦃Decodes s⦄ := by
  have hpiece := piece_spec hd
  have hvalue := value_spec hd left
  cases fuel with
  | zero =>
    rw [items]
    mvcgen [throw_spec, -Spec.throw_StateT]
    exact located_of_none rfl
  | succ fuel =>
    have hitems := items_spec hd left path fuel
    rw [items]
    mvcgen [hpiece, hvalue, hitems]
  termination_by (left, 4, fuel)

theorem entries_spec (hd : d.Located s) (left : Nat) (path : Path) (m : Mark) (hm : Reached (chars s) m)
    (fuel at' : Nat)
    (acc : Array (Value × Value)) : ⦃fun _ => ⌜True⌝⦄ d.entries left path m fuel at' acc ⦃Decodes s⦄ := by
  have hpiece := piece_spec hd
  have hvalue := value_spec hd left
  cases fuel with
  | zero =>
    rw [entries]
    mvcgen [throw_spec, -Spec.throw_StateT]
    exact located_of_none rfl
  | succ fuel =>
    have hentries := entries_spec hd left path m hm fuel
    rw [entries]
    mvcgen [hpiece, hvalue, hentries, throw_spec, -Spec.throw_StateT]
    exact located_of_mark? rfl hm
  termination_by (left, 4, fuel)

end

theorem Decodes.located {α : Type} {x : Decode α} (h : ⦃fun _ => ⌜True⌝⦄ x ⦃Decodes s⦄) {n : Nat}
    {f : Failure} (hf : x n = .error f) : f.Located s := by
  have hx : (wp⟦x n⟧ (post⟨fun _ => ⌜True⌝, fun f => ⌜f.Located s⌝⟩)).down := h n trivial
  rw [hf] at hx
  exact hx

theorem toValue_cases (hd : d.Located s) : match d.toValue with
    | .ok _ => d.failure = none
    | .error f => f.Located s := by
  have hvalue {f : Failure} := Decodes.located (value_spec hd depthLimit [] 0) (n := 0) (f := f)
  rw [toValue, StateT.run]
  cases hrun : d.value depthLimit [] 0 0 with
  | error f => exact hvalue hrun
  | ok a =>
    cases hfailure : d.failure with
    | none => rfl
    | some f => exact hd.failure f hfailure

end Document

theorem sound_ofText (s : String) : Sound s (.ofText s) := by
  refine ⟨by rw [chars], rfl, .zero, fun t ht => ?_, fun key hkey => ?_⟩
  · exact absurd ht (Array.not_mem_empty t)
  · exact absurd (List.mem_singleton.1 hkey) (by simp)

theorem documentsFrom_located (turns fuel : Nat) (first : Bool) {o : Outline} (h : Sound s o.reading)
    (acc : Array Value) {vs : Array Value} {f : Failure}
    (hf : documentsFrom turns fuel first o acc = (vs, some f)) :
    f.Located s := by
  induction fuel generalizing first o acc with
  | zero => cases hf
  | succ fuel ih =>
    rw [documentsFrom] at hf
    split at hf
    · cases hf
    · next d o' hgather =>
      obtain ⟨hd, hsound⟩ := Document.gather_located first turns h Document.located_empty rfl hgather
      have hvalue := Document.toValue_cases hd
      split at hf
      · next v hv =>
        rw [hv] at hvalue
        exact ih false (hsound hvalue) _ hf
      · next f' hv =>
        rw [hv] at hvalue
        cases hf
        exact hvalue

/-- The scanner came to the place of every failure that has one. -/
theorem documents_located {f : Failure} (hf : (documents s).2 = some f) : f.Located s := by
  rw [documents] at hf
  exact documentsFrom_located _ _ true (sound_ofText s) #[] (Prod.ext rfl hf)

end SymbolIndex.Yaml
