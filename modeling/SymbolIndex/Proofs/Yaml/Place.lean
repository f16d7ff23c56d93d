import Mathlib.Data.List.Infix
import SymbolIndex.Yaml.Token.Reading

/-!
# Places of YAML texts

The scanner keeps the place it is at as three numbers, and changes them character by character and line
break by line break (`Mark.Reached`). At every place it comes to they are the characters before it, the
line breaks before it, and the characters before it on its line (`Mark.Reached.placed`); only the end of
a text may count as a line of its own.
-/
namespace SymbolIndex.Yaml

/-- The character `k` places after a place; the end of the text reads as 0. -/
def look (text : Array Char) (m : Mark) (k : Nat) : Char := text.getD (m.index + k) '\x00'

/-- How many lines a text ends; a carriage return and a line feed together end one. -/
def lineBreaks : List Char → Nat
  | [] => 0
  | c :: cs => lineBreaks cs + if isBreak c && !(c == '\r' && cs.head? == some '\n') then 1 else 0

namespace Mark

/-- The place `n` characters on. -/
def ahead (m : Mark) (n : Nat) : Mark := ⟨m.index + n, m.line, m.column + n⟩

/-- The place after a line break of `n` characters. -/
def down (m : Mark) (n : Nat) : Mark := ⟨m.index + n, m.line + 1, 0⟩

/-- The places that the scanner comes to in a text. -/
inductive Reached (text : Array Char) : Mark → Prop
  | zero : Reached text .zero
  | ahead {m : Mark} (h : Reached text m) (hc : isBreakOrEnd (look text m 0) = false) :
      Reached text (m.ahead 1)
  | down {m : Mark} (h : Reached text m) (hc : isBreak (look text m 0) = true)
      (hpair : ¬ (look text m 0 = '\r' ∧ look text m 1 = '\n')) : Reached text (m.down 1)
  | pair {m : Mark} (h : Reached text m) (hc : look text m 0 = '\r') (hd : look text m 1 = '\n') :
      Reached text (m.down 2)
  /-- At the end of a text a line that was begun is over. -/
  | past {m : Mark} (h : Reached text m) (hend : m.index = text.size) (hcolumn : m.column ≠ 0) :
      Reached text (m.down 0)

/-- The characters before a place: those of the lines before, and those of its own line. -/
structure Parts (text : Array Char) (m : Mark) (before line : List Char) : Prop where
  le_size : m.index ≤ text.size
  take_eq : text.toList.take m.index = before ++ line
  ended : ∀ c ∈ before.getLast?, isBreak c = true
  unbroken : ∀ c ∈ line, isBreak c = false
  /-- The place is not within a line break. -/
  whole : ¬ (line = [] ∧ before.getLast? = some '\r' ∧ look text m 0 = '\n')

/-- The numbers of a place are those of its parts, or it is the line after the end of a text. -/
inductive Placed (text : Array Char) (m : Mark) : Prop
  | within (before line : List Char) (h : Parts text m before line) (hline : m.line = lineBreaks before)
      (hcolumn : m.column = line.length)
  | past (before line : List Char) (h : Parts text m before line) (hend : m.index = text.size)
      (hne : line ≠ [])
      (hline : m.line = lineBreaks before + 1) (hcolumn : m.column = 0)

end Mark

variable {text : Array Char} {m : Mark} {before line cs ds : List Char} {c : Char} {k : Nat}

theorem lineBreaks_append (h : ¬ (cs.getLast? = some '\r' ∧ ds.head? = some '\n')) :
    lineBreaks (cs ++ ds) = lineBreaks cs + lineBreaks ds := by
  induction cs with
  | nil => simp [lineBreaks]
  | cons c cs ih =>
    cases cs with
    | nil =>
      rw [List.singleton_append, lineBreaks, lineBreaks]
      have hds : (c == '\r' && ds.head? == some '\n') = false := by
        rw [Bool.eq_false_iff]
        intro hpair
        rw [Bool.and_eq_true, beq_iff_eq, beq_iff_eq] at hpair
        exact h ⟨by rw [hpair.1]; rfl, hpair.2⟩
      simp [hds, lineBreaks, Nat.add_comm]
    | cons d cs =>
      have hrest := ih (by simpa using h)
      have hcons (cs : List Char) : lineBreaks (c :: cs) =
          lineBreaks cs + if isBreak c && !(c == '\r' && cs.head? == some '\n') then 1 else 0 := rfl
      rw [List.cons_append, hcons, hcons, hrest, List.cons_append, List.head?_cons, List.head?_cons]
      omega

theorem lineBreaks_of_unbroken (h : ∀ c ∈ cs, isBreak c = false) : lineBreaks cs = 0 := by
  induction cs with
  | nil => rfl
  | cons c cs ih =>
    obtain ⟨hc, hcs⟩ := List.forall_mem_cons.1 h
    simp [lineBreaks, hc, ih hcs]

theorem lineBreaks_singleton (hc : isBreak c = true) : lineBreaks [c] = 1 := by simp [lineBreaks, hc]

/-- A line feed ends a line, and so do other characters. -/
theorem count_le_lineBreaks (cs : List Char) : cs.count '\n' ≤ lineBreaks cs := by
  induction cs with
  | nil => exact Nat.zero_le _
  | cons c cs ih =>
    rw [lineBreaks, List.count_cons]
    by_cases hc : c = '\n'
    · subst hc
      have hbreak : isBreak '\n' && !('\n' == '\r' && cs.head? == some '\n') := by simp [isBreak]
      rw [if_pos hbreak]
      simpa using ih
    · rw [if_neg (by simpa using hc)]
      omega

/-- If only line feeds end lines, the last line that is over ends with one. -/
theorem eq_feed_of_lineBreaks (h : lineBreaks cs = cs.count '\n')
    (hended : ∀ c ∈ cs.getLast?, isBreak c = true) : ∀ c ∈ cs.getLast?, c = '\n' := by
  intro c hc
  rcases List.eq_nil_or_concat' cs with rfl | ⟨ds, d, rfl⟩
  · cases hc
  obtain rfl : d = c := by simpa using hc
  by_contra hne
  have hpair : ¬ (ds.getLast? = some '\r' ∧ [d].head? = some '\n') :=
    fun hpair => hne (Option.some.inj hpair.2)
  have hle := count_le_lineBreaks ds
  rw [lineBreaks_append hpair, lineBreaks_singleton (hended d hc), List.count_append, List.count_singleton,
    if_neg (by simpa using hne)] at h
  omega

theorem getElem?_look (h : isEnd (look text m k) = false) :
    text.toList[m.index + k]? = some (look text m k) := by
  rw [look, Array.getD_eq_getD_getElem?, ← Array.getElem?_toList] at h ⊢
  cases htext : text.toList[m.index + k]? with
  | none => simp [htext, isEnd] at h
  | some c => rfl

theorem lt_size_of_look (h : isEnd (look text m k) = false) : m.index + k < text.size := by
  obtain ⟨hlt, -⟩ := List.getElem?_eq_some_iff.1 (getElem?_look h)
  simpa using hlt

theorem isEnd_of_isBreak (h : isBreak c = true) : isEnd c = false := by
  rw [isEnd, beq_eq_false_iff_ne]
  rintro rfl
  exact absurd h (by decide)

theorem isBreakOrEnd_eq_false : isBreakOrEnd c = false ↔ isBreak c = false ∧ isEnd c = false := by
  rw [isBreakOrEnd, Bool.or_eq_false_iff]

namespace Mark

theorem Parts.next (h : Parts text m before line) (hend : isEnd (look text m 0) = false) :
    text.toList.take (m.index + 1) = before ++ line ++ [look text m 0] := by
  rw [List.take_add_one, h.take_eq, ← Nat.add_zero m.index, getElem?_look hend]
  rfl

theorem Parts.ahead (h : Parts text m before line) (hc : isBreakOrEnd (look text m 0) = false) :
    Parts text (m.ahead 1) before (line ++ [look text m 0]) := by
  obtain ⟨hbreak, hend⟩ := isBreakOrEnd_eq_false.1 hc
  refine ⟨lt_size_of_look hend, by rw [← List.append_assoc]; exact h.next hend, h.ended, ?_, by simp⟩
  intro c hc
  rcases List.mem_append.1 hc with hc | hc
  · exact h.unbroken c hc
  · rwa [List.mem_singleton.1 hc]

/-- What comes next belongs to no line break before it. -/
theorem Parts.lineBreaks_append (h : Parts text m before line) {more : List Char}
    (hmore : more.head? = some (look text m 0)) :
    lineBreaks (before ++ line ++ more) = lineBreaks before + lineBreaks more := by
  have hline := lineBreaks_of_unbroken h.unbroken
  have hpair : ¬ ((before ++ line).getLast? = some '\r' ∧ more.head? = some '\n') := by
    rintro ⟨hlast, hfeed⟩
    have hlook : look text m 0 = '\n' := Option.some.inj (hmore.symm.trans hfeed)
    rcases List.eq_nil_or_concat' line with rfl | ⟨line, c, rfl⟩
    · exact h.whole ⟨rfl, by simpa using hlast, hlook⟩
    · have hc : c = '\r' := by simpa using hlast
      exact absurd (h.unbroken c (by simp)) (by rw [hc]; decide)
  have hempty : ¬ (before.getLast? = some '\r' ∧ line.head? = some '\n') := by
    rintro ⟨-, hfeed⟩
    exact absurd (h.unbroken '\n' (List.mem_of_mem_head? hfeed)) (by decide)
  rw [Yaml.lineBreaks_append hpair, Yaml.lineBreaks_append hempty, hline, Nat.add_zero]

theorem Parts.down (h : Parts text m before line) (hc : isBreak (look text m 0) = true)
    (hpair : ¬ (look text m 0 = '\r' ∧ look text m 1 = '\n')) :
    Parts text (m.down 1) (before ++ line ++ [look text m 0]) [] := by
  have hend := isEnd_of_isBreak hc
  refine ⟨lt_size_of_look hend, by rw [List.append_nil]; exact h.next hend, ?_, by simp, ?_⟩
  · intro c hlast
    rw [List.getLast?_append] at hlast
    cases hlast
    exact hc
  · rintro ⟨-, hlast, hfeed⟩
    rw [List.getLast?_append] at hlast
    exact hpair ⟨Option.some.inj hlast, hfeed⟩

theorem Parts.pair (h : Parts text m before line) (hc : look text m 0 = '\r') (hd : look text m 1 = '\n') :
    Parts text (m.down 2) (before ++ line ++ ['\r', '\n']) [] := by
  have hfirst : isEnd (look text m 0) = false := by rw [hc]; decide
  have hsecond : isEnd (look text m 1) = false := by rw [hd]; decide
  have htake : text.toList.take (m.index + 2) = before ++ line ++ ['\r', '\n'] := by
    rw [List.take_add_one, h.next hfirst, getElem?_look hsecond, hc, hd, List.append_assoc]
    rfl
  refine ⟨lt_size_of_look hsecond, by rw [List.append_nil]; exact htake, ?_, by simp, ?_⟩
  · intro c hlast
    rw [List.getLast?_append] at hlast
    cases hlast
    decide
  · rintro ⟨-, hlast, -⟩
    rw [List.getLast?_append] at hlast
    cases hlast

/-- Only the end of a text is a place after a line that is over. -/
theorem Placed.exists_parts (h : Placed text m) (hlt : isEnd (look text m 0) = false) : ∃ before line,
    Parts text m before line ∧ m.line = lineBreaks before ∧ m.column = line.length := by
  cases h with
  | within before line h hline hcolumn => exact ⟨before, line, h, hline, hcolumn⟩
  | past _ _ h hend =>
    have := lt_size_of_look hlt
    omega

/-- The numbers of the scanner are right wherever it comes to. -/
theorem Reached.placed (h : Reached text m) : Placed text m := by
  induction h with
  | zero => exact .within [] [] ⟨Nat.zero_le _, rfl, by simp, by simp, by simp⟩ rfl rfl
  | ahead _ hc ih =>
    obtain ⟨before, line, hparts, hline, hcolumn⟩ := ih.exists_parts (isBreakOrEnd_eq_false.1 hc).2
    exact .within before _ (hparts.ahead hc) hline (by simp [Mark.ahead, hcolumn])
  | down _ hc hpair ih =>
    obtain ⟨before, line, hparts, hline, -⟩ := ih.exists_parts (isEnd_of_isBreak hc)
    refine .within _ [] (hparts.down hc hpair) ?_ rfl
    rw [hparts.lineBreaks_append rfl, lineBreaks_singleton hc, ← hline]
    rfl
  | pair _ hc hd ih =>
    obtain ⟨before, line, hparts, hline, -⟩ := ih.exists_parts (by rw [hc]; decide)
    refine .within _ [] (hparts.pair hc hd) ?_ rfl
    rw [hparts.lineBreaks_append (by rw [hc]; rfl), ← hline]
    rfl
  | @past m _ hend hcolumn ih =>
    cases ih with
    | within before line h hline hlength =>
      have hne : line ≠ [] := by
        rintro rfl
        exact hcolumn hlength
      refine .past before line ⟨h.le_size, h.take_eq, h.ended, h.unbroken, ?_⟩
        hend hne (by rw [← hline]; rfl) rfl
      exact h.whole
    | past _ _ _ _ _ _ hzero => exact absurd hzero hcolumn

end Mark
end SymbolIndex.Yaml
