import SymbolIndex.Json.Text
import SymbolIndex.Proofs.FileSystem.Lookup

/-!
# JSON on one line

The compact text of a value is a single line (`Json.lines_compact`): line breaks in texts are escaped, and
nothing else that is written has any.
-/
namespace SymbolIndex

namespace Text

variable {s t : String}

/-- A text without line breaks. -/
def IsLine (s : String) : Prop := '\n' ∉ s.toList

instance : DecidablePred IsLine := fun s => inferInstanceAs (Decidable ('\n' ∉ s.toList))

theorem IsLine.append (hs : IsLine s) (ht : IsLine t) : IsLine (s ++ t) := by
  simp only [IsLine, String.toList_append, List.mem_append, not_or]
  exact ⟨hs, ht⟩

theorem IsLine.of_subset (ht : IsLine t) (h : s.toList ⊆ t.toList) : IsLine s := fun hs => ht (h hs)

theorem IsLine.take (h : IsLine s) (n : Nat) : IsLine (s.take n).toString :=
  h.of_subset (by simpa using List.take_subset n s.toList)

theorem IsLine.drop (h : IsLine s) (n : Nat) : IsLine (s.drop n).toString :=
  h.of_subset (by simpa using List.drop_subset n s.toList)

theorem isLine_replicate {c : Char} (hc : c ≠ '\n') (n : Nat) :
    IsLine (String.ofList (List.replicate n c)) := by
  rw [IsLine, String.toList_ofList]
  exact fun h => hc (List.eq_of_mem_replicate h).symm

theorem isLine_natural (n : Nat) : IsLine (toString n) := by
  intro h
  have hdigit := Nat.isDigit_of_mem_toDigits (by decide) (by decide) (String.toList_ofList ▸ h)
  exact absurd hdigit (by decide)

theorem isLine_integer (n : Int) : IsLine (toString n) := by
  cases n with
  | ofNat n => exact isLine_natural n
  | negSucc n => exact IsLine.append (s := "-") (by decide) (isLine_natural (n + 1))

theorem IsLine.lines_eq (h : IsLine s) : lines s = [s] := by
  refine splitWhere_of_forall fun c hc => beq_eq_false_iff_ne.2 ?_
  rintro rfl
  exact h hc

end Text

namespace Decimal
open Text

theorem isLine_positional (s : Scientific) (point : Bool) : IsLine (s.positional point) := by
  have hd : IsLine (digitText s.stripped.digits) := isLine_natural _
  have hz (n : Nat) : IsLine (zeros n) := isLine_replicate (by decide) n
  unfold Scientific.positional
  dsimp only
  split
  · refine (hd.append (hz _)).append ?_
    split <;> decide
  · split
    · exact ((hd.take _).append (by decide)).append (hd.drop _)
    · exact (IsLine.append (by decide) (hz _)).append hd

theorem isLine_withExponent (s : Scientific) : IsLine s.withExponent := by
  have hd : IsLine (digitText s.stripped.digits) := isLine_natural _
  refine ((hd.take _).append ?_).append (IsLine.append (by decide) (isLine_integer _))
  split
  · exact IsLine.append (by decide) (hd.drop _)
  · decide

theorem isLine_compact (s : Scientific) : IsLine s.compact := by
  unfold Scientific.compact
  dsimp only
  split
  · exact isLine_positional _ _
  · exact isLine_withExponent _

theorem isLine_render {nan infinity zero : String} {finite : Scientific → String} (hn : IsLine nan)
    (hi : IsLine infinity) (hz : IsLine zero) (hf : ∀ s, IsLine (finite s)) (bits : UInt64) :
    IsLine (render nan infinity zero finite bits) := by
  unfold render
  dsimp only
  split
  · exact hn
  · have hsign : IsLine (if bits = bits &&& 0x7FFFFFFFFFFFFFFF then "" else "-") := by split <;> decide
    split
    · exact hsign.append hi
    · split
      · exact hsign.append hz
      · exact hsign.append (hf _)

end Decimal

namespace Json
open Text

theorem isLine_escapedChar (c : Char) : IsLine (escapedChar c) := by
  have hcontrol : ∀ n : Fin 32, IsLine
      ("\\u00" ++ String.ofList [Nat.digitChar (n / 16), Nat.digitChar (n % 16)]) := by decide
  by_cases hc : c = '\n'
  · subst hc
    decide
  · unfold escapedChar
    iterate 7 (split; · decide)
    split
    · rename_i h
      exact hcontrol ⟨c.toNat, h⟩
    · simpa [IsLine] using Ne.symm hc

theorem isLine_quote (s : String) : IsLine (quote s) := by
  refine IsLine.append ?_ (by decide)
  rw [String.foldl_eq_foldl_toList]
  have h : ∀ (cs : List Char) (acc : String), IsLine acc →
      IsLine (cs.foldl (fun acc c => acc ++ escapedChar c) acc) := by
    intro cs
    induction cs with
    | nil => exact fun _ h => h
    | cons c cs ih => exact fun acc h => ih _ (h.append (isLine_escapedChar c))
  exact h s.toList _ (by decide)

theorem isLine_scalar (v : Json) : IsLine v.scalar := by
  cases v with
  | bool b => cases b <;> decide
  | natural n => exact isLine_natural n
  | negative n => exact isLine_integer n
  | float bits => exact Decimal.isLine_render (by decide) (by decide) (by decide) Decimal.isLine_compact bits
  | string s => exact isLine_quote s
  | null => decide
  | array vs => exact show IsLine "[]" by decide
  | object es => exact show IsLine "\x7b\x7d" by decide

theorem isLine_entryStart {acc s : String} (h : IsLine acc) (hs : IsLine s) (name : String) :
    IsLine (acc ++ s ++ quote name ++ ":") :=
  ((h.append hs).append (isLine_quote name)).append (by decide)

mutual

theorem isLine_writeCompact {acc : String} (h : IsLine acc) : ∀ v : Json, IsLine (writeCompact acc v)
  | array (v :: vs) => by
    rw [writeCompact]
    have hfirst := isLine_writeCompact (h.append (t := "[") (by decide)) v
    exact (isLine_writeItems hfirst vs).append (by decide)
  | object ((name, v) :: es) => by
    rw [writeCompact]
    have hfirst := isLine_writeCompact (isLine_entryStart (s := "\x7b") h (by decide) name) v
    exact (isLine_writeEntries hfirst es).append (by decide)
  | array [] | object [] | null | bool _ | natural _ | negative _ | float _ | string _ => by
    rw [writeCompact]
    · exact h.append (isLine_scalar _)
    all_goals nofun

theorem isLine_writeItems {acc : String} (h : IsLine acc) : ∀ vs : List Json, IsLine (writeItems acc vs)
  | [] => by rwa [writeItems]
  | v :: vs => by
    rw [writeItems]
    exact isLine_writeItems (isLine_writeCompact (h.append (by decide)) v) vs

theorem isLine_writeEntries {acc : String} (h : IsLine acc) :
    ∀ es : List (String × Json), IsLine (writeEntries acc es)
  | [] => by rwa [writeEntries]
  | (name, v) :: es => by
    rw [writeEntries]
    exact isLine_writeEntries (isLine_writeCompact (isLine_entryStart h (by decide) name) v) es

end

/-- The compact text of a value is one line. -/
theorem lines_compact (v : Json) : lines v.compact = [v.compact] :=
  (isLine_writeCompact (by decide) v).lines_eq

end Json
end SymbolIndex
