import Mathlib.Data.List.DropRight
import Mathlib.Data.List.Infix
import SymbolIndex.Proofs.Language.Places

/-!
# The program of an interpreter line

The program is the file name of the first word of the line, or of the first word without a dash after a
path of `env`. It decides the language (`Told.program`), unless a directory names a program too: then the
directory is heard as well (`Told.directory`, `ofContent_directory`).
-/
namespace SymbolIndex
namespace Shebang
open Text

/-- The name at the end of a path. -/
def fileName (w : List Char) : List Char := (components w).getLastD []

/-- The names before it. -/
def directories (w : List Char) : List (List Char) := (components w).dropLast

def env : List Char := "env".toList

def isDashed (v : List Char) : Bool := v.head? == some '-'

/-- The words after `#!` on the first line of a file. -/
def interpreter? (content : List UInt8) : Option (List (List Char)) :=
  (after? "#!".toList (Utf8.decodeLossy ⟨(content.takeWhile (· != 10)).toArray⟩).toList).map words

/-- The program of a line with the first word `w` and the further words `vs`. -/
def program? (w : List Char) (vs : List (List Char)) : Option (List Char) :=
  if fileName w = env then (vs.find? (!isDashed ·)).map fileName else some (fileName w)

/-- The programs that run a language. -/
inductive Runs : List Char → Language → Prop
  | python (version : List Char) (h : ∀ c ∈ version, c.isDigit ∨ c = '.') :
      Runs ("python".toList ++ version) .python
  | node : Runs "node".toList .javaScript
  | nodejs : Runs "nodejs".toList .javaScript
  | deno : Runs "deno".toList .typeScript
  | tsNode : Runs "ts-node".toList .typeScript
  | tsx : Runs "tsx".toList .typeScript

def names : List (List Char) :=
  ["python".toList, "node".toList, "deno".toList, "ts-node".toList, "tsx".toList]

/-- A text with the name of a program somewhere in it. -/
def HoldsName (p : List Char) : Prop := ∃ name ∈ names, name <:+: p

/-- A line whose other words and directories are silent: no directory of the first word names a
program, and `env` is given by its path, its options are more than a dash and name none below a
slash, and no directory of the word after them names one. -/
structure Plain (w : List Char) (vs : List (List Char)) : Prop where
  directories : ∀ d ∈ directories w, mentioned? d = none
  path : fileName w = env → w ≠ env
  options : fileName w = env → ∀ v ∈ vs.takeWhile isDashed, IsOption v ∧ named? v = none
  further : fileName w = env → ∀ v ∈ vs.find? (!isDashed ·), ∀ d ∈ Shebang.directories v, languageAt? d = none

/-- What a line with the first word `w` and the further words `vs` names: the components of the first
word come first, then the places within it, then the words after a path of `env`. -/
def toldBy? (w : List Char) (vs : List (List Char)) : Option Language :=
  (named? w).or ((mentioned? w).or (if envPath <:+ w then namedAfterEnv? vs else none))

/-- `l` is the language that a line with the first word `w` and the further words `vs` tells. -/
structure Told (w : List Char) (vs : List (List Char)) (l : Language) : Prop where
  found : l = (toldBy? w vs).getD .unknown
  /-- A program that is not `env` decides, whatever its directories are. -/
  runs : fileName w ≠ env → ∀ m, Runs (fileName w) m → l = m
  /-- A file that is no known program and not `env` is unknown just if no directory names one. -/
  directory : fileName w ≠ env → ¬ HoldsName (fileName w) →
    (l = .unknown ↔ ∀ d ∈ directories w, mentioned? d = none)
  /-- On a plain line the program alone decides. -/
  program : Plain w vs → (∀ p ∈ program? w vs, ∀ m, Runs p m → l = m) ∧
    ((∀ p ∈ program? w vs, ¬ HoldsName p) → l = .unknown)

variable {cs rest others place w p : List Char} {vs : List (List Char)} {l m : Language}

/-! ## Programs by name -/

theorem isWordChar_of_isDigit {c : Char} (h : c.isDigit = true) : isWordChar c = true := by
  have hcode : c.toNat < 128 := by
    simp [Char.isDigit, UInt32.le_iff_toNat_le] at h
    omega
  simp [isWordChar, hcode, Char.isAlphanum, h]

theorem stopsInVersion_of_forall {before : Char} {version : List Char} (hbefore : isWordChar before = true)
    (h : ∀ c ∈ version, c.isDigit ∨ c = '.') : stopsInVersion before version = true := by
  induction version generalizing before with
  | nil => simp [stopsInVersion, isWordBoundary, hbefore]
  | cons c version ih =>
    obtain ⟨hc, hversion⟩ := List.forall_mem_cons.1 h
    rw [stopsInVersion]
    rcases hc with hdigit | rfl
    · simp [isVersionChar, hdigit, ih (isWordChar_of_isDigit hdigit) hversion]
    · -- the word stops before a dot
      have hdot : isWordChar '.' = false := by decide
      simp [isWordBoundary, hbefore, hdot]

theorem languageAt?_of_runs (h : Runs p m) : languageAt? p = some m := by
  cases h with
  | python version h =>
    have hpython : isPython ("python".toList ++ version) = true := by
      rw [isPython, after?_eq_some_iff.2 rfl]
      exact stopsInVersion_of_forall (by decide) h
    rw [languageAt?, if_pos hpython]
  | node | nodejs | deno | tsNode | tsx => decide

theorem holdsName_of_languageAt? (h : languageAt? p = some l) : HoldsName p := by
  rw [languageAt?] at h
  split at h
  · next hpython =>
    cases hafter : after? "python".toList p with
    | none =>
      rw [isPython, hafter] at hpython
      cases hpython
    | some version => exact ⟨_, List.mem_cons_self, [], version, (after?_eq_some_iff.1 hafter).symm⟩
  · obtain ⟨⟨name, l'⟩, hfind, rfl⟩ := Option.map_eq_some_iff.1 h
    have hword := List.find?_some hfind
    have hbegins : name <:+: p := by
      cases hafter : after? name p with
      | none => simp [hasWord, hafter] at hword
      | some rest => exact ⟨[], rest, (after?_eq_some_iff.1 hafter).symm⟩
    have hprograms : ∀ q ∈ programs, ∃ name ∈ names, name <:+: q.1 := by decide
    obtain ⟨short, hshort, hinfix⟩ := hprograms _ (List.mem_of_find?_eq_some hfind)
    exact ⟨short, hshort, hinfix.trans hbegins⟩

theorem languageAt?_ne_unknown (h : languageAt? p = some l) : l ≠ .unknown := by
  rw [languageAt?] at h
  split at h
  · rw [← Option.some.inj h]
    decide
  · obtain ⟨q, hfind, rfl⟩ := Option.map_eq_some_iff.1 h
    have hprograms : ∀ q ∈ programs, q.2 ≠ .unknown := by decide
    exact hprograms q (List.mem_of_find?_eq_some hfind)

/-! ## What a path mentions -/

theorem findSome?_eq_some_ne_unknown {places : List (List Char)}
    (h : places.findSome? languageAt? = some l) : l ≠ .unknown := by
  obtain ⟨place, -, hplace⟩ := List.exists_of_findSome?_eq_some h
  exact languageAt?_ne_unknown hplace

theorem mentioned?_eq_none_of_not_holdsName (h : ¬ HoldsName p) : mentioned? p = none := by
  rw [mentioned?, List.findSome?_eq_none_iff]
  intro t ht
  cases hlanguage : languageAt? t with
  | none => rfl
  | some l =>
    obtain ⟨name, hname, hinfix⟩ := holdsName_of_languageAt? hlanguage
    exact absurd ⟨name, hname, hinfix.trans (List.mem_tails t p |>.1 ht).isInfix⟩ h

theorem languageAt?_eq_none (h : mentioned? w = none) : languageAt? w = none :=
  List.findSome?_eq_none_iff.1 h w (List.mem_tails w w |>.2 List.suffix_rfl)

/-- No place within a path names a program just if none within its components does. -/
theorem mentioned?_eq_none_iff : mentioned? w = none ↔ ∀ d ∈ components w, mentioned? d = none := by
  induction w with
  | nil => simp [components]
  | cons c w ih =>
    obtain ⟨first, more, others, hcomponents, hw, hothers⟩ := exists_components w
    rw [mentioned?_cons, components_cons, Option.or_eq_none_iff, ih, hcomponents]
    by_cases hc : c = '/'
    · have hnone : languageAt? (c :: w) = none := by
        have hopen : languageAt? ([] ++ '/' :: w) = languageAt? [] := languageAt?_append (closes_slash w)
        rwa [← hc] at hopen
      have hempty : mentioned? [] = none := by decide
      simp [hc ▸ hnone, hc, hempty]
    · have hfirst : languageAt? (c :: w) = languageAt? (c :: first) := by
        have happend : languageAt? ((c :: first) ++ others) = languageAt? (c :: first) :=
          languageAt?_append hothers
        rwa [List.cons_append, ← hw] at happend
      simp [hc, hfirst, mentioned?_cons, and_assoc]

theorem directories_fileName (ds : List (List Char)) (n : List Char) (h : components w = ds ++ [n]) :
    directories w = ds ∧ fileName w = n := by
  simp [directories, fileName, h]

theorem components_eq (w : List Char) : components w = directories w ++ [fileName w] := by
  obtain ⟨first, more, -, hcomponents, -⟩ := exists_components w
  rcases List.eq_nil_or_concat' (components w) with hnil | ⟨ds, n, hn⟩
  · simp [hnil] at hcomponents
  · rw [(directories_fileName _ _ hn).1, (directories_fileName _ _ hn).2, hn]

theorem fileName_suffix (w : List Char) : directories w = [] ∧ fileName w = w ∨
    directories w ≠ [] ∧ '/' :: fileName w <:+ w := by
  induction w with
  | nil => exact .inl ⟨rfl, rfl⟩
  | cons c w ih =>
    have hcomponents := components_cons c w
    rw [components_eq w] at hcomponents
    by_cases hc : c = '/'
    · rw [if_pos hc, ← List.cons_append] at hcomponents
      obtain ⟨hdirectories, hname⟩ := directories_fileName _ _ hcomponents
      refine .inr ⟨hdirectories ▸ List.cons_ne_nil _ _, ?_⟩
      rcases ih with ⟨-, hw⟩ | ⟨-, hsuffix⟩
      · rw [hname, hw, hc]
      · exact hname ▸ hsuffix.trans (List.suffix_cons c w)
    · rw [if_neg hc] at hcomponents
      rcases ih with ⟨hnil, hw⟩ | ⟨hne, hsuffix⟩
      · obtain ⟨hdirectories, hname⟩ := directories_fileName [] _ (hcomponents.trans (by rw [hnil]; rfl))
        exact .inl ⟨hdirectories, by rw [hname, hw]⟩
      · obtain ⟨d, ds, hds⟩ := List.exists_cons_of_ne_nil hne
        obtain ⟨hdirectories, hname⟩ :=
          directories_fileName ((c :: d) :: ds) _ (hcomponents.trans (by rw [hds]; rfl))
        exact .inr ⟨hdirectories ▸ List.cons_ne_nil _ _, hname ▸ hsuffix.trans (List.suffix_cons c w)⟩

theorem named?_eq (w : List Char) :
    named? w = (languageAt? (fileName w)).or ((directories w).reverse.findSome? languageAt?) := by
  rw [named?, components_eq, List.reverse_append, List.findSome?_append, List.reverse_singleton,
    List.findSome?_singleton]

theorem named?_eq_none (h : mentioned? w = none) : named? w = none := by
  rw [named?, List.findSome?_eq_none_iff]
  intro d hd
  exact languageAt?_eq_none (mentioned?_eq_none_iff.1 h d (List.mem_reverse.1 hd))

theorem envPath_suffix_iff : envPath <:+ w ↔ fileName w = env ∧ w ≠ env := by
  constructor
  · rintro ⟨pre, rfl⟩
    have hcomponents : components (pre ++ '/' :: env) = components pre ++ [env] :=
      List.splitOn_append_cons_self pre env
    refine ⟨(directories_fileName _ _ hcomponents).2, fun heq => ?_⟩
    have hlength := congrArg List.length heq
    rw [List.length_append, show envPath.length = 4 by decide, show env.length = 3 by decide] at hlength
    omega
  · rintro ⟨hname, hne⟩
    rcases fileName_suffix w with ⟨-, hw⟩ | ⟨-, hsuffix⟩
    · exact absurd (hw.symm.trans hname) hne
    · rwa [hname] at hsuffix

/-! ## What a line tells -/

theorem named?_of_runs (h : Runs (fileName w) m) : named? w = some m := by
  rw [named?_eq, languageAt?_of_runs h, Option.some_or]

/-- After options that name nothing, the first other word decides. -/
theorem namedAfterEnv?_eq (h : ∀ v ∈ vs.takeWhile isDashed, IsOption v ∧ named? v = none) :
    namedAfterEnv? vs = (vs.find? (!isDashed ·)).bind named? := by
  induction vs with
  | nil => rfl
  | cons v vs ih =>
    rw [namedAfterEnv?_cons]
    cases hdash : isDashed v with
    | true =>
      rw [List.takeWhile_cons_of_pos hdash] at h
      obtain ⟨⟨hoption, hnone⟩, hvs⟩ := List.forall_mem_cons.1 h
      rw [if_pos hoption, hnone, Option.or_none, ih hvs, List.find?_cons_of_neg (by simp [hdash])]
    | false =>
      have hoption : ¬ IsOption v := by
        rintro ⟨c, cs, rfl⟩
        cases hdash
      rw [if_neg hoption, List.find?_cons_of_pos (by simp [hdash])]
      rfl

theorem mentioned?_eq_none (hdirectories : ∀ d ∈ directories w, mentioned? d = none)
    (hname : mentioned? (fileName w) = none) : mentioned? w = none := by
  rw [mentioned?_eq_none_iff, components_eq]
  intro d hd
  rcases List.mem_append.1 hd with hd | hd
  · exact hdirectories d hd
  · rwa [List.mem_singleton.1 hd]

theorem toldBy?_eq_none_iff (hne : fileName w ≠ env) (h : ¬ HoldsName (fileName w)) :
    toldBy? w vs = none ↔ ∀ d ∈ directories w, mentioned? d = none := by
  have henv : ¬ envPath <:+ w := fun hsuffix => hne (envPath_suffix_iff.1 hsuffix).1
  rw [toldBy?, if_neg henv, Option.or_none, Option.or_eq_none_iff]
  constructor
  · rintro ⟨-, hnone⟩ d hd
    exact mentioned?_eq_none_iff.1 hnone d (components_eq w ▸ List.mem_append_left _ hd)
  · intro hdirectories
    have hnone := mentioned?_eq_none hdirectories (mentioned?_eq_none_of_not_holdsName h)
    exact ⟨named?_eq_none hnone, hnone⟩

theorem toldBy?_env (henv : fileName w = env) (h : Plain w vs) :
    toldBy? w vs = (program? w vs).bind languageAt? := by
  have hnone : mentioned? w = none := mentioned?_eq_none h.directories (by rw [henv]; decide)
  rw [toldBy?, named?_eq_none hnone, hnone, if_pos (envPath_suffix_iff.2 ⟨henv, h.path henv⟩), program?,
    if_pos henv, namedAfterEnv?_eq (h.options henv)]
  cases hfind : vs.find? (!isDashed ·) with
  | none => rfl
  | some v =>
    have hdirectories : (directories v).reverse.findSome? languageAt? = none :=
      List.findSome?_eq_none_iff.2 fun d hd => h.further henv v hfind d (List.mem_reverse.1 hd)
    simp [named?_eq, hdirectories]

theorem named?_ne_unknown (h : named? w = some l) : l ≠ .unknown := findSome?_eq_some_ne_unknown h

theorem toldBy?_ne_unknown (h : toldBy? w vs = some l) : l ≠ .unknown := by
  rw [toldBy?, Option.or_eq_some_iff, Option.or_eq_some_iff] at h
  rcases h with h | ⟨-, h | ⟨-, h⟩⟩
  · exact named?_ne_unknown h
  · exact findSome?_eq_some_ne_unknown h
  · split at h
    · obtain ⟨v, -, hv⟩ := List.exists_of_findSome?_eq_some h
      exact named?_ne_unknown hv
    · cases h

theorem told_toldBy? (w : List Char) (vs : List (List Char)) : Told w vs ((toldBy? w vs).getD .unknown) := by
  have hunknown : (toldBy? w vs).getD .unknown = .unknown ↔ toldBy? w vs = none := by
    cases h : toldBy? w vs with
    | none => simp
    | some l => simp [toldBy?_ne_unknown h]
  have hruns : ∀ m, Runs (fileName w) m → (toldBy? w vs).getD .unknown = m := by
    intro m hm
    rw [toldBy?, named?_of_runs hm, Option.some_or, Option.getD_some]
  refine ⟨rfl, fun _ => hruns, fun hne h => hunknown.trans (toldBy?_eq_none_iff hne h), fun hplain => ?_⟩
  by_cases henv : fileName w = env
  · rw [toldBy?_env henv hplain]
    cases program? w vs with
    | none => exact ⟨nofun, fun _ => rfl⟩
    | some p =>
      refine ⟨?_, fun h => ?_⟩
      · rintro _ ⟨⟩ m hm
        simp [languageAt?_of_runs hm]
      · have hnone := languageAt?_eq_none (mentioned?_eq_none_of_not_holdsName (h p rfl))
        simp [hnone]
  · rw [program?, if_neg henv]
    refine ⟨?_, fun h => ?_⟩
    · rintro _ ⟨⟩ m hm
      exact hruns m hm
    · exact hunknown.2 ((toldBy?_eq_none_iff henv (h _ rfl)).2 hplain.directories)

theorem dropTail_append {c : Char} (hc : isBlank c = false) (pre cs : List Char) :
    dropTail isBlank (pre ++ c :: cs) = pre ++ c :: dropTail isBlank cs := by
  have hstop : (c :: pre.reverse).dropWhile isBlank = c :: pre.reverse :=
    List.dropWhile_cons_of_neg (by simp [hc])
  rw [dropTail, dropTail, List.reverse_append, List.reverse_cons, List.append_assoc, List.singleton_append,
    List.dropWhile_append]
  split
  · next hempty => simp [hstop, List.isEmpty_iff.1 hempty]
  · simp

theorem after?_dropTail (cs : List Char) :
    after? "#!".toList (dropTail isBlank cs) = (after? "#!".toList cs).map (dropTail isBlank) := by
  cases hafter : after? "#!".toList cs with
  | some rest =>
    have hmark : isBlank '!' = false := by decide
    rw [after?_eq_some_iff.1 hafter]
    exact after?_eq_some_iff.2 (dropTail_append hmark ['#'] rest)
  | none =>
    cases hdrop : after? "#!".toList (dropTail isBlank cs) with
    | none => rfl
    | some rest =>
      obtain ⟨more, hmore⟩ : dropTail isBlank cs <+: cs := List.rdropWhile_prefix isBlank cs
      rw [after?_eq_some_iff.1 hdrop, List.append_assoc] at hmore
      rw [after?_eq_some_iff.2 hmore.symm] at hafter
      cases hafter

theorem findSome?_places_words (cs : List Char) :
    (places cs).findSome? languageAt? = match words cs with
      | w :: vs => toldBy? w vs
      | [] => none := by
  by_cases hne : dropBlanks cs = []
  · rw [places, ← words_dropBlanks, hne]
    decide
  · obtain ⟨w, others, hcs, hw, hword, hopens, -⟩ := exists_word hne
    have hwords : words cs = w :: words others := by
      rw [← words_dropBlanks, hcs, words_append hw hword hopens]
    rw [findSome?_places hw hopens hcs, hwords]
    rfl

theorem languageOfLine_told (line : String) :
    match (after? "#!".toList line.toList).map words with
    | some (w :: vs) => Told w vs (languageOfLine line)
    | _ => languageOfLine line = .unknown := by
  have hline : (Text.trimEnd line).toList = dropTail isBlank line.toList := String.toList_ofList
  rw [languageOfLine, hline, after?_dropTail]
  cases after? "#!".toList line.toList with
  | none => rfl
  | some rest =>
    simp only [Option.map_some, findSome?_places_words, words_dropTail]
    cases words rest with
    | nil => rfl
    | cons w vs => exact told_toldBy? w vs

end Shebang

open Shebang

/-- The first line of a file tells nothing unless it begins with `#!` and has a word after that, and
else what its program runs, as far as no directory and no option names a program. -/
theorem Language.ofContent_told (content : List UInt8) :
    match interpreter? content with
    | some (w :: vs) => Told w vs (ofContent content)
    | _ => ofContent content = .unknown :=
  languageOfLine_told _

example : Plain "/usr/bin/env".toList ["-S".toList, "bin/python3.12".toList, "-u".toList] :=
  ⟨by decide, by decide, by decide, by decide⟩

/-- A directory is heard where no program is known, and before the word after `env`. -/
theorem Language.ofContent_directory :
    (∃ w, interpreter? "#!/opt/python3/bin/ruby\n".toUTF8.toList = some [w] ∧
      program? w [] = some "ruby".toList ∧
      ¬ HoldsName "ruby".toList ∧ ofContent "#!/opt/python3/bin/ruby\n".toUTF8.toList = .python) ∧
    ∃ w v, interpreter? "#!/opt/node/bin/env python3\n".toUTF8.toList = some [w, v] ∧
      program? w [v] = some "python3".toList ∧ Runs "python3".toList .python ∧
      ofContent "#!/opt/node/bin/env python3\n".toUTF8.toList = .javaScript := by
  refine ⟨⟨"/opt/python3/bin/ruby".toList, ?_, ?_, ?_, ?_⟩, "/opt/node/bin/env".toList, "python3".toList,
    ?_, ?_, ?_, ?_⟩
  · decide +kernel
  · decide +kernel
  · unfold HoldsName
    decide +kernel
  · decide +kernel
  · decide +kernel
  · decide +kernel
  · exact .python ['3'] fun c hc => List.mem_singleton.1 hc ▸ by decide
  · decide +kernel

end SymbolIndex
