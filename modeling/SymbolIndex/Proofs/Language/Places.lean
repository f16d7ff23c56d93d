import Mathlib.Data.List.Find
import Mathlib.Data.List.Infix
import SymbolIndex.Language.Shebang
import SymbolIndex.Proofs.Text.Word

/-!
# The places where a program is looked for

Whether a place names a program depends on what comes before the next slash or blank alone
(`languageAt?_append`). So the places of a line are the components of its words, and the ends of its first
word (`findSome?_places`).
-/
namespace SymbolIndex.Shebang
open Text

/-- The words of a text. -/
def words (cs : List Char) : List (List Char) := (cs.splitOnP isBlank).filter (· ≠ [])

/-- The pieces of a path between its slashes. -/
def components (w : List Char) : List (List Char) := w.splitOn '/'

/-- A text without blanks. -/
def IsWord (w : List Char) : Prop := ∀ c ∈ w, isBlank c = false

/-- Nothing follows, or a blank. -/
def Opens (rest : List Char) : Prop := ∀ c ∈ rest.head?, isBlank c = true

/-- Nothing follows, or what no name of a program goes on with. -/
def Closes (rest : List Char) : Prop := ∀ c ∈ rest.head?, c = '/' ∨ isBlank c = true

/-- A name without slashes and blanks. -/
def IsName (name : List Char) : Prop := ∀ c ∈ name, c ≠ '/' ∧ isBlank c = false

instance : DecidablePred IsWord := fun w => List.decidableBAll (isBlank · = false) w

instance : DecidablePred IsName := fun name => List.decidableBAll (fun c => c ≠ '/' ∧ isBlank c = false) name

variable {cs rest others place w : List Char} {before c : Char}

theorem Opens.closes (h : Opens rest) : Closes rest := fun c hc => .inr (h c hc)

theorem closes_slash (cs : List Char) : Closes ('/' :: cs) := by
  rintro c ⟨⟩
  exact .inl rfl

/-! ## What a place names -/

theorem after?_eq_some_iff {name : List Char} : after? name place = some rest ↔ place = name ++ rest := by
  induction name generalizing place with
  | nil => simp [after?]
  | cons p ps ih =>
    cases place with
    | nil => simp [after?]
    | cons c cs =>
      rw [after?]
      by_cases hc : p = c
      · rw [if_pos hc, ih]
        simp [hc]
      · rw [if_neg hc]
        simp [Ne.symm hc]

theorem after?_append {name : List Char} (hname : IsName name) (h : Closes rest) :
    after? name (place ++ rest) = (after? name place).map (· ++ rest) := by
  induction name generalizing place with
  | nil => rfl
  | cons p ps ih =>
    obtain ⟨hp, hps⟩ := List.forall_mem_cons.1 hname
    cases place with
    | nil =>
      cases rest with
      | nil => rfl
      | cons c cs =>
        have hc : p ≠ c := by
          rintro rfl
          rcases h p rfl with hslash | hblank
          · exact hp.1 hslash
          · simp [hp.2] at hblank
        simp [after?, hc]
    | cons c cs =>
      rw [List.cons_append, after?, after?]
      split
      · exact ih hps
      · rfl

theorem isVersionChar_of_isBlank (h : isBlank c = true) : isVersionChar c = false := by
  rw [Bool.eq_false_iff]
  intro hversion
  have hcode : (48 ≤ c.toNat ∧ c.toNat ≤ 57) ∨ c.toNat = 46 := by
    rcases Bool.or_eq_true_iff.1 hversion with hdigit | hdot
    · left
      simpa [Char.isDigit, UInt32.le_iff_toNat_le] using hdigit
    · right
      rw [beq_iff_eq.1 hdot]
      rfl
  simp [isBlank] at h
  omega

theorem isWordChar_of_closes (h : Closes rest) :
    ∀ c ∈ rest.head?, isWordChar c = false ∧ isVersionChar c = false := by
  intro c hc
  rcases h c hc with rfl | hblank
  · decide
  · exact ⟨isWordChar_of_isBlank hblank, isVersionChar_of_isBlank hblank⟩

theorem isWordBoundary_closes (h : Closes rest) (b : Option Char) :
    isWordBoundary b rest.head? = isWordBoundary b none := by
  cases hr : rest.head? with
  | none => rfl
  | some c => simp [isWordBoundary, (isWordChar_of_closes h c hr).1]

theorem stopsInVersion_append (h : Closes rest) :
    stopsInVersion before (place ++ rest) = stopsInVersion before place := by
  induction place generalizing before with
  | nil =>
    cases rest with
    | nil => rfl
    | cons c cs =>
      have hboundary := isWordBoundary_closes h (some before)
      rw [List.nil_append, stopsInVersion, stopsInVersion, ← hboundary]
      simp [(isWordChar_of_closes h c rfl).2]
  | cons c cs ih => rw [List.cons_append, stopsInVersion, stopsInVersion, ih]

theorem isPython_append (h : Closes rest) : isPython (place ++ rest) = isPython place := by
  rw [isPython, isPython, after?_append (by decide) h]
  cases after? "python".toList place with
  | none => rfl
  | some version => simp [stopsInVersion_append h]

theorem hasWord_append {name : List Char} (hname : IsName name) (h : Closes rest) :
    hasWord name (place ++ rest) = hasWord name place := by
  rw [hasWord, hasWord, after?_append hname h]
  cases after? name place with
  | none => rfl
  | some more =>
    cases more with
    | nil => exact isWordBoundary_closes h _
    | cons c cs => rfl

/-- What a place names does not depend on what follows the next slash or blank. -/
theorem languageAt?_append (h : Closes rest) : languageAt? (place ++ rest) = languageAt? place := by
  have hnames : ∀ p ∈ programs, IsName p.1 := by decide
  have hfind : (programs.find? fun p => hasWord p.1 (place ++ rest)) =
      programs.find? fun p => hasWord p.1 place :=
    List.find?_congr fun p hp => hasWord_append (hnames p hp) h
  rw [languageAt?, languageAt?, isPython_append h, hfind]

/-! ## Words and components -/

theorem words_cons_blank (hc : isBlank c = true) (cs : List Char) : words (c :: cs) = words cs := by
  simp [words, List.splitOnP_cons_eq_if_modifyHead, hc]

theorem words_append (hw : IsWord w) (hne : w ≠ []) (h : Opens others) :
    words (w ++ others) = w :: words others := by
  cases others with
  | nil => simp [words, List.splitOnP_eq_singleton hw, hne]
  | cons c cs =>
    have hc : isBlank c = true := h c rfl
    rw [words_cons_blank hc, words, List.splitOnP_append_cons_of_forall_mem hw c hc]
    simp [hne, words]

theorem words_dropBlanks (cs : List Char) : words (dropBlanks cs) = words cs := by
  induction cs with
  | nil => rfl
  | cons c cs ih =>
    by_cases hc : isBlank c = true
    · rw [words_cons_blank hc, ← ih, dropBlanks, List.dropWhile_cons_of_pos hc]
      rfl
    · rw [dropBlanks, List.dropWhile_cons_of_neg hc]

theorem words_append_blank (hc : isBlank c = true) (cs : List Char) : words (cs ++ [c]) = words cs := by
  rw [words, List.splitOnP_append_cons cs [] hc]
  simp [words]

theorem words_dropTail (cs : List Char) : words (dropTail isBlank cs) = words cs := by
  induction cs using List.reverseRecOn with
  | nil => rfl
  | append_singleton cs c ih =>
    by_cases hc : isBlank c = true
    · rw [words_append_blank hc, ← ih]
      simp [dropTail, hc]
    · simp [dropTail, hc]

theorem components_cons (c : Char) (w : List Char) :
    components (c :: w) = if c = '/' then [] :: components w else (components w).modifyHead (c :: ·) := by
  simp [components, List.splitOn_cons_eq_if_modifyHead]

/-- A path begins with its first component. -/
theorem exists_components (w : List Char) :
    ∃ first more others, components w = first :: more ∧ w = first ++ others ∧
    Closes others := by
  induction w with
  | nil => exact ⟨[], [], [], rfl, rfl, nofun⟩
  | cons c w ih =>
    obtain ⟨first, more, others, hcomponents, hw, hothers⟩ := ih
    rw [components_cons, hcomponents]
    by_cases hc : c = '/'
    · exact ⟨[], first :: more, c :: w, by simp [hc], rfl, hc ▸ closes_slash w⟩
    · exact ⟨c :: first, more, others, by simp [hc], by simp [hw], hothers⟩

/-- What a place names is told by its first component. -/
theorem languageAt?_eq (w : List Char) (h : Closes rest) :
    ∃ first more, components w = first :: more ∧ languageAt? (w ++ rest) = languageAt? first := by
  obtain ⟨first, more, others, hcomponents, hw, hothers⟩ := exists_components w
  refine ⟨first, more, hcomponents, ?_⟩
  rw [languageAt?_append h]
  conv_lhs => rw [hw]
  exact languageAt?_append hothers

/-! ## The places of a line -/

theorem wordTails_append (hw : IsWord w) (h : Opens others) :
    wordTails (w ++ others) = w.tails.map (· ++ others) := by
  induction w with
  | nil =>
    cases others with
    | nil => rfl
    | cons c cs =>
      have hc : isBlank c = true := h c rfl
      simp [wordTails, hc]
  | cons c w ih =>
    obtain ⟨hc, hw⟩ := List.forall_mem_cons.1 hw
    simp [wordTails, hc, ih hw]

theorem map_belowSlashes (hw : IsWord w) (h : Opens others) :
    (belowSlashes (w ++ others)).map languageAt? = (components w).tail.reverse.map languageAt? := by
  rw [belowSlashes, wordTails_append hw h, List.map_reverse, List.map_reverse]
  congr 1
  induction w with
  | nil =>
    cases others with
    | nil => rfl
    | cons c cs =>
      have hc : c ≠ '/' := by
        rintro rfl
        exact absurd (h '/' rfl) (by decide)
      simp [components, hc]
  | cons c w ih =>
    obtain ⟨-, hw'⟩ := List.forall_mem_cons.1 hw
    obtain ⟨first, more, hcomponents, hfirst⟩ := languageAt?_eq w h.closes
    rw [List.tails_cons, List.map_cons, components_cons]
    by_cases hc : c = '/'
    · subst hc
      rw [if_pos rfl]
      show languageAt? (w ++ others) :: List.map languageAt?
          (List.filterMap _ (w.tails.map (· ++ others))) = _
      rw [ih hw', hfirst, hcomponents]
      rfl
    · rw [if_neg hc, List.cons_append, List.filterMap_cons_none (by simp [hc]), ih hw', hcomponents]
      rfl

theorem findSome?_belowSlashes (hw : IsWord w) (h : Opens others) :
    (belowSlashes (w ++ others)).findSome? languageAt? =
      (components w).tail.reverse.findSome? languageAt? := by
  have hmap := congrArg (List.findSome? id) (map_belowSlashes hw h)
  rwa [List.findSome?_map, List.findSome?_map] at hmap

/-- The first component of a word, from its end, that begins with the name of a program. -/
def named? (w : List Char) : Option Language := (components w).reverse.findSome? languageAt?

theorem findSome?_word (hw : IsWord w) (h : Opens others) :
    (belowSlashes (w ++ others) ++ [w ++ others]).findSome? languageAt? = named? w := by
  obtain ⟨first, more, hcomponents, hfirst⟩ := languageAt?_eq w h.closes
  rw [List.findSome?_append, findSome?_belowSlashes hw h, named?, hcomponents]
  simp [hfirst]

/-- An option in a line: a dash and more. -/
def IsOption (v : List Char) : Prop := ∃ c cs, v = '-' :: c :: cs

instance : DecidablePred IsOption := fun v =>
  match v with
  | '-' :: c :: cs => isTrue ⟨c, cs, rfl⟩
  | [] => isFalse nofun
  | [_] => isFalse nofun
  | c :: d :: cs =>
    if hc : c = '-' then isTrue ⟨d, cs, hc ▸ rfl⟩
    else isFalse fun ⟨_, _, h⟩ => hc (List.cons.inj h).1

/-- The words that the program may be, after that of the path of `env`: the options and the first
that is none. -/
def candidates : List (List Char) → List (List Char)
  | [] => []
  | v :: vs => if IsOption v then v :: candidates vs else [v]

/-- The last candidate with a component that begins with the name of a program. -/
def namedAfterEnv? (vs : List (List Char)) : Option Language := (candidates vs).reverse.findSome? named?

theorem exists_word (hne : dropBlanks cs ≠ []) :
    ∃ w others, dropBlanks cs = w ++ others ∧ IsWord w ∧ w ≠ [] ∧ Opens others ∧
    dropWord (dropBlanks cs) = others := by
  refine ⟨(dropBlanks cs).takeWhile (!isBlank ·), dropWord (dropBlanks cs),
    (List.takeWhile_append_dropWhile).symm, fun c hc => ?_, fun hnil => ?_, fun c hc => ?_, rfl⟩
  · simpa using List.all_eq_true.1 List.all_takeWhile c hc
  · have hfirst := List.head?_dropWhile_not isBlank cs
    cases hcs : dropBlanks cs with
    | nil => exact hne hcs
    | cons c more =>
      rw [dropBlanks] at hcs
      rw [hcs] at hfirst
      have hc : isBlank c = false := by simpa using hfirst
      simp [dropBlanks, hcs, hc] at hnil
  · have hfirst := List.head?_dropWhile_not (!isBlank ·) (dropBlanks cs)
    rw [dropWord] at hc
    rw [Option.mem_def.1 hc] at hfirst
    simpa using hfirst

theorem namedAfterEnv?_cons (v : List Char) (vs : List (List Char)) :
    namedAfterEnv? (v :: vs) = if IsOption v then (namedAfterEnv? vs).or (named? v) else named? v := by
  rw [namedAfterEnv?, candidates]
  split
  · rw [List.reverse_cons, List.findSome?_append, namedAfterEnv?, List.findSome?_singleton]
  · simp

/-- The places in some words. -/
def placesIn (found : List (List Char)) : List (List Char) :=
  found.flatMap fun word => belowSlashes word ++ [word]

theorem findSome?_placesIn_cons (hw : IsWord w) (h : Opens others) (found : List (List Char)) :
    (placesIn ((w ++ others) :: found)).findSome? languageAt? =
      (named? w).or ((placesIn found).findSome? languageAt?) := by
  rw [placesIn, List.flatMap_cons, List.findSome?_append, findSome?_word hw h, placesIn]

theorem findSome?_afterOptions (cs : List Char) (found : List (List Char)) :
    (placesIn (afterOptions cs found)).findSome? languageAt? =
      (namedAfterEnv? (words cs)).or ((placesIn found).findSome? languageAt?) := by
  rw [← words_dropBlanks]
  fun_induction afterOptions cs found with
  | case1 cs found h =>
    rw [h]
    rfl
  | case2 cs found d rest h hd =>
    have hopens : Opens (d :: rest) := by rintro _ ⟨⟩; exact hd
    have hdash : IsWord ['-'] := by decide
    have hoption : ¬ IsOption ['-'] := by decide
    have hplaces := findSome?_placesIn_cons hdash hopens found
    have hwords : words ('-' :: d :: rest) = ['-'] :: words (d :: rest) := words_append hdash (by simp) hopens
    rw [h, hwords, namedAfterEnv?_cons, if_neg hoption]
    exact hplaces
  | case3 cs found d rest h hd ih =>
    obtain ⟨w, others, hcs, hw, hne, hopens, hrest⟩ := exists_word (h ▸ List.cons_ne_nil _ _)
    have hdrop : dropWord rest = others := by
      have hdash : isBlank '-' = false := by decide
      rw [← hrest, h]
      simp [dropWord, hdash, hd]
    have hoption : IsOption w := by
      match w, hne, hcs.symm.trans h with
      | [c], _, hdash =>
        simp only [List.singleton_append, List.cons.injEq] at hdash
        exact absurd (hopens d (by rw [hdash.2]; rfl)) hd
      | c :: e :: more, _, hdash =>
        rw [List.cons_append, List.cons.injEq] at hdash
        exact ⟨e, more, by rw [hdash.1]⟩
    rw [ih, ← h, hcs, findSome?_placesIn_cons hw hopens, words_append hw hne hopens, namedAfterEnv?_cons,
      if_pos hoption, words_dropBlanks, hdrop, Option.or_assoc]
  | case4 cs found h h1 =>
    obtain ⟨w, others, hcs, hw, hne, hopens, hrest⟩ := exists_word h
    have hoption : ¬ IsOption w := by
      rintro ⟨d, more, rfl⟩
      exact h1 d (more ++ others) hcs
    rw [hcs, findSome?_placesIn_cons hw hopens, words_append hw hne hopens, namedAfterEnv?_cons,
      if_neg hoption]

theorem takeWhile_word (hw : IsWord w) (h : Opens others) : (w ++ others).takeWhile (!isBlank ·) = w := by
  have hw' : ∀ c ∈ w, (!isBlank c) = true := by simpa [IsWord] using hw
  rw [List.takeWhile_append_of_pos hw']
  cases others with
  | nil => simp
  | cons c cs =>
    have hc : isBlank c = true := h c rfl
    simp [hc]

/-- The path of `env`, or its end. -/
def envPath : List Char := "/env".toList

theorem isWord_envPath : IsWord envPath := by decide

/-- What the words after the path of `env` name. -/
def underEnv? (w : List Char) (vs : List (List Char)) : Option Language :=
  if w = envPath then namedAfterEnv? vs else none

theorem findSome?_placesAfterEnv (hw : IsWord w) (h : Opens others) :
    (placesAfterEnv (w ++ others)).findSome? languageAt? = underEnv? w (words others) := by
  by_cases henv : w = envPath
  · have hafter : after? "/env".toList (envPath ++ others) = some others := after?_eq_some_iff.2 rfl
    rw [underEnv?, if_pos henv, henv, placesAfterEnv, hafter]
    cases others with
    | nil => rfl
    | cons c cs =>
      have hc : isBlank c = true := h c rfl
      simp only [hc, if_true]
      exact (findSome?_afterOptions (c :: cs) []).trans (Option.or_none)
  · rw [underEnv?, if_neg henv, placesAfterEnv]
    split
    · next c cs hafter =>
      rw [if_neg]
      · rfl
      · intro hc
        have hopens : Opens (c :: cs) := by rintro _ ⟨⟩; exact hc
        refine henv ?_
        rw [← takeWhile_word hw h, after?_eq_some_iff.1 hafter]
        exact takeWhile_word isWord_envPath hopens
    · rfl

/-- The first place within a word that begins with the name of a program. -/
def mentioned? (w : List Char) : Option Language := w.tails.findSome? languageAt?

theorem mentioned?_cons (c : Char) (w : List Char) :
    mentioned? (c :: w) = (languageAt? (c :: w)).or (mentioned? w) := by
  rw [mentioned?, mentioned?, List.tails_cons, ← List.singleton_append, List.findSome?_append,
    List.findSome?_singleton]

theorem languageAt?_or_mentioned?_or (w : List Char) (more : Option Language) :
    (languageAt? w).or ((mentioned? w).or more) = (mentioned? w).or more := by
  cases w with
  | nil => rfl
  | cons c w => rw [mentioned?_cons, Option.or_assoc, ← Option.or_assoc, Option.or_self]

theorem findSome?_place (hw : IsWord w) (h : Opens others) :
    (placesAfterEnv (w ++ others) ++ [w ++ others]).findSome? languageAt? =
      (underEnv? w (words others)).or (languageAt? w) := by
  rw [List.findSome?_append, findSome?_placesAfterEnv hw h, List.findSome?_singleton,
    languageAt?_append h.closes]

theorem findSome?_wordTails (hw : IsWord w) (h : Opens others) :
    ((wordTails (w ++ others)).flatMap fun place => placesAfterEnv place ++ [place]).findSome? languageAt? =
      (mentioned? w).or (if envPath <:+ w then namedAfterEnv? (words others) else none) := by
  rw [wordTails_append hw h]
  induction w with
  | nil =>
    have hplace := findSome?_place hw h
    have hnone : languageAt? [] = none ∧ mentioned? [] = none ∧ [] ≠ envPath ∧ ¬ envPath <:+ [] := by decide
    rw [hnone.2.1, if_neg hnone.2.2.2]
    simpa [underEnv?, hnone.1, hnone.2.2.1] using hplace
  | cons c w ih =>
    rw [List.tails_cons, List.map_cons, List.flatMap_cons, List.findSome?_append, findSome?_place hw h,
      ih (List.forall_mem_cons.1 hw).2, mentioned?_cons]
    by_cases henv : c :: w = envPath
    · -- no program stands in the path of `env` itself
      have hnone : languageAt? envPath = none ∧ mentioned? envPath.tail = none ∧
          ¬ envPath <:+ envPath.tail := by decide
      have hw : w = envPath.tail := by rw [← henv]; rfl
      rw [henv, hw, underEnv?, if_pos rfl, hnone.1, hnone.2.1, if_neg hnone.2.2, if_pos (List.suffix_refl _)]
      simp
    · have henv' : envPath <:+ c :: w ↔ envPath <:+ w := by simp [List.suffix_cons_iff, Ne.symm henv]
      rw [underEnv?, if_neg henv, Option.none_or, Option.or_assoc]
      simp only [henv']

/-- The places of a line name what a component of its first word does, or a place within it, or what
follows it when it ends with the path of `env`. -/
theorem findSome?_places (hw : IsWord w) (h : Opens others) (hcs : dropBlanks cs = w ++ others) :
    (places cs).findSome? languageAt? =
      (named? w).or ((mentioned? w).or (if envPath <:+ w then namedAfterEnv? (words others) else none)) := by
  rw [places, hcs]
  simp only [List.findSome?_append, findSome?_wordTails hw h, findSome?_belowSlashes hw h,
    findSome?_placesAfterEnv hw h]
  by_cases henv : w = envPath
  · have hnone : (components envPath).tail.reverse.findSome? languageAt? = none ∧ named? envPath = none ∧
        mentioned? envPath = none := by decide
    rw [henv, underEnv?, if_pos rfl, hnone.1, hnone.2.1, hnone.2.2, if_pos (List.suffix_refl _)]
    simp
  · have hnamed : named? w = ((components w).tail.reverse.findSome? languageAt?).or (languageAt? w) := by
      rw [← findSome?_word hw h, List.findSome?_append, findSome?_belowSlashes hw h, List.findSome?_singleton,
        languageAt?_append h.closes]
    rw [underEnv?, if_neg henv, Option.none_or, hnamed, Option.or_assoc, languageAt?_or_mentioned?_or]

end SymbolIndex.Shebang
