import SymbolIndex.Proofs.Yaml.Lexer
import SymbolIndex.Yaml.Event

/-!
# The places of events

An event starts where one of the tokens does that it is made of, or stops, and a fault of the structure is at
such a place too.
-/
open Std.Do

set_option mvcgen.warning false

namespace SymbolIndex.Yaml.Parse
open Mark

variable {s : String}

/-- Before an event all places are places of the text. -/
abbrev Ready (s : String) : Assertion (.except Fault (.arg Outline .pure)) := fun o => ⌜Sound s o.reading⌝

/-- So they are after it, or there is a fault at such a place. -/
abbrev Yields (s : String) {α : Type} (Q : α → Prop) : PostCond α (.except Fault (.arg Outline .pure)) :=
  post⟨fun a o => ⌜Sound s o.reading ∧ Q a⌝, fun f _ => ⌜Reached (chars s) f.mark⌝⟩

theorem wp_apply {ε σ α : Type} (x : EStateM ε σ α) (Q : PostCond α (.except ε (.arg σ .pure))) (s : σ) :
    wp⟦x⟧ Q s = match x.run s with
      | .ok a s' => Q.1 a s'
      | .error e s' => Q.2.1 e s' := by
  cases h : x.run s <;> simp only [wp, PredTrans.apply, h]

theorem scan_spec {α : Type} {x : Scan α} {Q : α → Prop}
    (h : ⦃fun r => ⌜Sound s r⌝⦄ x ⦃Scan.Ends s fun a _ => Q a⦄) : ⦃Ready s⦄ scan x ⦃Yields s Q⦄ := by
  intro o hready
  have hx := h o.reading hready
  rw [wp_apply] at hx ⊢
  rw [EStateM.run, scan]
  cases hrun : x.run o.reading with
  | ok a r =>
    rw [hrun] at hx
    exact hx
  | error f r =>
    rw [hrun] at hx
    exact hx

@[spec]
theorem peek_spec : ⦃Ready s⦄ peek ⦃Yields s fun t => Reached (chars s) t.start ∧ Reached (chars s) t.stop⦄ :=
  scan_spec Scan.peek_spec

@[spec]
theorem skip_spec : ⦃Ready s⦄ skip ⦃Yields s fun _ => True⦄ := scan_spec Scan.advance_spec

@[spec]
theorem turns_spec : ⦃Ready s⦄ scan Scan.turns ⦃Yields s fun _ => True⦄ := by
  refine scan_spec ?_
  mvcgen
  grind -ring -linarith

@[spec]
theorem complain_spec {α : Type} {Q : PostCond α (.except Fault (.arg Outline .pure))} (c : Complaint)
    (m : Mark)
    (context : Option (Activity × Mark)) : ⦃fun o => Q.2.1 ⟨c, m, context⟩ o⦄ complain c m context ⦃Q⦄ := by
  mvcgen [complain]

@[spec]
theorem expect_spec (e : Expected) : ⦃Ready s⦄ expect e ⦃Yields s fun _ => True⦄ := by
  mvcgen [expect]

@[spec]
theorem push_spec (e : Expected) : ⦃Ready s⦄ push e ⦃Yields s fun _ => True⦄ := by
  mvcgen [push]

@[spec]
theorem pop_spec : ⦃Ready s⦄ pop ⦃Yields s fun _ => True⦄ := by
  mvcgen [pop]

@[spec]
theorem pushStart_spec (m : Mark) : ⦃Ready s⦄ pushStart m ⦃Yields s fun _ => True⦄ := by
  mvcgen [pushStart]

@[spec]
theorem popStart_spec : ⦃Ready s⦄ popStart ⦃Yields s fun _ => True⦄ := by
  mvcgen [popStart]

@[spec]
theorem emptyScalar_spec (m : Mark) (hm : Reached (chars s) m) :
    ⦃Ready s⦄ emptyScalar m ⦃Yields s fun e => Reached (chars s) e.mark⦄ := by
  mvcgen [emptyScalar]

@[spec]
theorem close_spec (kind : EventKind) (m : Mark) (hm : Reached (chars s) m) :
    ⦃Ready s⦄ close kind m ⦃Yields s fun e => Reached (chars s) e.mark⦄ := by
  mvcgen [close]
  all_goals grind -ring -linarith

@[spec]
theorem properties_spec : ⦃Ready s⦄ properties
    ⦃Yields s fun p => (∀ t ∈ p.2.1, Reached (chars s) t.2.2) ∧ Reached (chars s) p.2.2⦄ := by
  mvcgen [properties]
  all_goals grind -ring -linarith

@[spec]
theorem resolveTag_spec (start : Mark) (tag : Option (String × Tag × Mark))
    (htag : ∀ t ∈ tag, Reached (chars s) t.2.2) :
    ⦃Ready s⦄ resolveTag start tag ⦃Yields s fun _ => True⦄ := by
  rcases tag with _ | ⟨handle, rest, m⟩
  · mvcgen [resolveTag]
  · have hm : Reached (chars s) m := htag _ rfl
    mvcgen [resolveTag]

@[spec]
theorem node_spec (block indentless : Bool) :
    ⦃Ready s⦄ node block indentless ⦃Yields s fun e => Reached (chars s) e.mark⦄ := by
  mvcgen [node]
  all_goals grind -ring -linarith

@[spec]
theorem nodeUnless_spec (stops : List Lexeme) (e : Expected) (block indentless : Bool) (empty : Token → Mark)
    (hempty : ∀ t, Reached (chars s) t.start ∧ Reached (chars s) t.stop → Reached (chars s) (empty t)) :
    ⦃Ready s⦄ nodeUnless stops e block indentless empty ⦃Yields s fun e => Reached (chars s) e.mark⦄ := by
  mvcgen [nodeUnless]
  all_goals grind -ring -linarith

@[spec]
theorem addTagDirective_spec (handle : String) (lead : Tag) (m : Option Mark)
    (hm : ∀ m' ∈ m, Reached (chars s) m') :
    ⦃Ready s⦄ addTagDirective handle lead m ⦃Yields s fun _ => True⦄ := by
  rcases m with _ | m
  · mvcgen [addTagDirective]
  · have hm : Reached (chars s) m := hm m rfl
    mvcgen [addTagDirective]

@[spec]
theorem directives_spec (fuel : Nat) (versioned : Bool) :
    ⦃Ready s⦄ directives fuel versioned ⦃Yields s fun _ => True⦄ := by
  induction fuel generalizing versioned with
  | zero => mvcgen [directives]
  | succ fuel ih =>
    mvcgen [directives, ih]
    all_goals grind -ring -linarith

@[spec]
theorem skipDocumentEnds_spec (fuel : Nat) : ⦃Ready s⦄ skipDocumentEnds fuel ⦃Yields s fun _ => True⦄ := by
  induction fuel with
  | zero => mvcgen [skipDocumentEnds]
  | succ fuel ih =>
    mvcgen [skipDocumentEnds, ih]
    all_goals grind -ring -linarith

@[spec]
theorem documentStart_spec (first : Bool) :
    ⦃Ready s⦄ documentStart first ⦃Yields s fun e => Reached (chars s) e.mark⦄ := by
  mvcgen [documentStart]
  all_goals grind -ring -linarith

@[spec]
theorem next_spec : ⦃Ready s⦄ next ⦃Yields s fun e => Reached (chars s) e.mark⦄ := by
  mvcgen [next]
  all_goals grind -ring -linarith

theorem next_run (o : Outline) (h : Sound s o.reading) : match next.run o with
    | .ok e o' => Sound s o'.reading ∧ Reached (chars s) e.mark
    | .error f _ => Reached (chars s) f.mark := by
  have hnext := next_spec (s := s) o h
  rw [wp_apply] at hnext
  cases hrun : next.run o with
  | ok e o' =>
    rw [hrun] at hnext
    exact hnext
  | error f o' =>
    rw [hrun] at hnext
    exact hnext

end SymbolIndex.Yaml.Parse
