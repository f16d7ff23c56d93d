import SymbolIndex.Proofs.Store.Invariant

/-!
# Looking into a store

A store answers what is looked up in it in two ways: `get` counts the look-up and puts the entry in front,
`peek?` leaves everything as it is. Both find the same in every state, be there entries that are not for
the content of their analyses or not; `get_eq` says what `get` does to each part of a store. Look-ups by
`peek?`, what a store tells of itself, and puts that it refuses are `Access.isQuiet`: a run without them
comes to the same store and the same answers (`answerAll_filter`).
-/
namespace SymbolIndex
namespace Store
open StoreEntry

variable {s : Store} {p q : Path} {f g : Fingerprint} {e : StoreEntry}

/-! ### Looking up, and counting it -/

/-- The entry of a path, if it is for the content of its analysis. -/
def intact? (s : Store) (p : Path) : Option StoreEntry := (s.find? p).filter (·.isConsistent)

/-- The entry of a path, if it is not for the content of its analysis. -/
def corrupt? (s : Store) (p : Path) : Option StoreEntry := (s.find? p).filter (¬ ·.isConsistent)

/-- Looking up puts an intact entry in front and drops a corrupt one, gives out what `peek?` does, and
counts as a hit, a stale miss or a miss. -/
theorem get_eq (s : Store) (p : Path) (f : Fingerprint) : s.get p f =
    ({ s with
        entries := (s.intact? p).toList ++ s.others p
        bytes := s.bytes - (s.corrupt? p).elim 0 (·.size)
        hits := s.hits + (s.peek? p f).isSome.toNat
        misses := s.misses + (s.intact? p).isNone.toNat
        staleMisses := s.staleMisses + ((s.intact? p).any (·.fingerprint ≠ f)).toNat }, s.peek? p f) := by
  unfold get intact? corrupt? peek?
  cases hp : s.find? p with
  | none => simp [others_of_find?_none hp]
  | some e =>
    -- A corrupt entry counts as a miss, whatever it is looked up for; an intact one may still be stale.
    cases hc : e.isConsistent with
    | false => simp [Option.filter, hc, StoreEntry.answers, remove, hp]
    | true =>
      by_cases hf : e.fingerprint = f
      · simp [Option.filter, hc, StoreEntry.answers, hf]
      · simp [Option.filter, hc, StoreEntry.answers, hf]

theorem same_of_intact? (h : s.intact? p = some e) : e.key.Same p :=
  same_of_find? (Option.filter_eq_some_iff.1 h).1

/-- After a look-up, the path has its entry still unless it was corrupt, and the other paths have theirs. -/
theorem find?_get : (s.get p f).1.find? q = if p.Same q then s.intact? q else s.find? q := by
  have hfind : (s.get p f).1.find? q = ((s.intact? p).toList ++ s.others p).find? (·.key.Same q) := by
    rw [get_eq, find?]
  have hcongr (hs : p.Same q) : s.intact? q = s.intact? p := by rw [intact?, intact?, find?_congr hs]
  rw [hfind, List.find?_append, find?_others]
  cases hi : s.intact? p with
  | none => split <;> simp [*]
  | some e =>
    have he := (same_of_intact? hi).congr_right (r := q)
    split
    · rename_i hs
      simp [hcongr hs, hi, (same_of_intact? hi).trans hs]
    · rename_i hs
      have hq : ¬ e.key.Same q := fun hq => hs ((same_of_intact? hi).symm.trans hq)
      simp [hq]

theorem peek?_eq_intact? : s.peek? p f = ((s.intact? p).filter (·.fingerprint = f)).map (·.analysis) := by
  unfold peek? intact?
  cases s.find? p with
  | none => rfl
  | some e => cases hc : e.isConsistent <;> simp [Option.filter, StoreEntry.answers, hc]

/-- A look-up changes nothing of what is given out, whatever it finds. -/
theorem peek?_after_get : (s.get p f).1.peek? q g = s.peek? q g := by
  rw [peek?_eq_intact?, peek?_eq_intact?, intact?, find?_get]
  split
  · rw [intact?, Option.filter_filter]
    simp
  · rfl

/-- A look-up counts as one hit, one miss or one stale miss. -/
theorem counts_get (s : Store) (p : Path) (f : Fingerprint) :
    let t := (s.get p f).1
    (t.hits, t.misses, t.staleMisses) = (s.hits + 1, s.misses, s.staleMisses) ∧ s.holds p f = true ∨
      (t.hits, t.misses, t.staleMisses) = (s.hits, s.misses + 1, s.staleMisses) ∧ s.intact? p = none ∨
      (t.hits, t.misses, t.staleMisses) = (s.hits, s.misses, s.staleMisses + 1) ∧
        ∃ e, s.intact? p = some e ∧ e.fingerprint ≠ f := by
  intro t
  simp only [t, get_eq, holds, peek?_eq_intact?]
  cases s.intact? p with
  | none => exact .inr (.inl ⟨rfl, rfl⟩)
  | some e =>
    by_cases hf : e.fingerprint = f
    · exact .inl (by simp [Option.filter, hf])
    · exact .inr (.inr (by simp [Option.filter, hf]))

/-! ### The books of a store -/

/-- One entry a path, and every entry counted with its size; the entries may be for any content. -/
structure Booked (s : Store) : Prop where
  distinct : Distinct s.entries
  bytes_eq : s.bytes = weigh s.entries

theorem Sound.booked (h : s.Sound) : s.Booked := ⟨h.distinct, h.bytes_eq⟩

/-- Overwriting the content that an entry is for leaves the books in order. -/
theorem Booked.relabel (h : s.Booked) (p : Path) (f : Fingerprint) : (s.relabel p f).1.Booked := by
  let label (e : StoreEntry) : StoreEntry := if e.key.Same p then { e with fingerprint := f } else e
  have hkey : ∀ e, (label e).key = e.key := fun e => by simp only [label]; split <;> rfl
  have hsize : ∀ e, (label e).size = e.size := fun e => by simp only [label]; split <;> rfl
  constructor
  · refine List.pairwise_map.2 (h.distinct.imp fun {d e} hn hs => hn ?_)
    rw [← hkey d, ← hkey e]
    exact hs
  · show s.bytes = weigh (s.entries.map label)
    rw [h.bytes_eq, weigh, weigh, List.map_map]
    exact congrArg List.sum (List.map_congr_left fun e _ => (hsize e).symm)

theorem Booked.get (h : s.Booked) (p : Path) (f : Fingerprint) : (s.get p f).1.Booked := by
  rw [get_eq]
  unfold intact? corrupt?
  cases hp : s.find? p with
  | none =>
    simp only [Option.filter_none, Option.toList_none, List.nil_append, Option.elim_none, Nat.sub_zero]
    rw [others_of_find?_none hp]
    exact ⟨h.distinct, h.bytes_eq⟩
  | some e =>
    have hperm := perm_others h.distinct hp
    have hweigh : s.bytes = e.size + weigh (s.others p) := h.bytes_eq.trans (weigh_perm hperm)
    cases hc : e.isConsistent with
    | false =>
      refine ⟨?_, ?_⟩
      · simpa [Option.filter, hc] using h.distinct.sublist others_sublist
      · simp [Option.filter, hc, hweigh]
    | true =>
      refine ⟨?_, ?_⟩
      · simpa [Option.filter, hc] using h.distinct.perm hperm
      · simpa [Option.filter, hc] using hweigh

/-! ### Runs with questions that change nothing -/

/-- What may be asked of a store. -/
inductive Access
  | call (o : Operation)
  /-- How many entries are there? -/
  | len
  /-- What does the store tell of itself? -/
  | stats

/-- What is answered. -/
inductive Told
  | reply (r : Reply)
  | len (n : Nat)
  | stats (entries bytes hits misses staleMisses evictions : Nat)

/-- The store after it was asked something, and its answer. -/
def answer (s : Store) : Access → Store × Told
  | .call o => ((s.perform o).1, .reply (s.perform o).2)
  | .len => (s, .len s.len)
  | .stats => (s, .stats s.len s.bytes s.hits s.misses s.staleMisses s.evictions)

/-- The store after it was asked some things in order, and what it answered to each. -/
def answerAll (s : Store) : List Access → Store × List (Access × Told)
  | [] => (s, [])
  | a :: as =>
    let (t, told) := s.answer a
    let (u, rest) := t.answerAll as
    (u, (a, told) :: rest)

/-- Whether something is a look-up that does not count, a question for what the store tells of itself, or a
put of an analysis of another content. -/
def Access.isQuiet : Access → Bool
  | call (.peek _ _) | call (.holds _ _) | len | stats => true
  | call (.put _ a f) => a.fingerprint ≠ f
  | call _ => false

theorem put_eq_error_iff {a : Analysis} {r : IndexError} :
    s.put p a f = .error r ↔ a.fingerprint ≠ f ∧ r = .fingerprintMismatch p := by
  by_cases ha : a.fingerprint = f
  · simp [put, ha]
  · simp [put_of_ne ha, ha, eq_comm]

theorem answer_of_isQuiet {a : Access} (h : a.isQuiet = true) : (s.answer a).1 = s := by
  cases a with
  | len => rfl
  | stats => rfl
  | call o =>
    cases o with
    | peek p f => rfl
    | holds p f => rfl
    | put p a f => simp only [answer, perform, put_of_ne (of_decide_eq_true h)]
    | _ => cases h

/-- Questions that change nothing can be left out: the others come to the same store and the same
answers. -/
theorem answerAll_filter (s : Store) (as : List Access) :
    s.answerAll (as.filter (!·.isQuiet)) =
      ((s.answerAll as).1, (s.answerAll as).2.filter (!·.1.isQuiet)) := by
  induction as generalizing s with
  | nil => rfl
  | cons a as ih =>
    -- After a quiet question the rest is asked of the same store; after another one, of the same successor.
    cases ha : a.isQuiet with
    | true =>
      rw [List.filter_cons_of_neg (by simp [ha])]
      simp only [answerAll, answer_of_isQuiet ha, ih s]
      rw [List.filter_cons_of_neg (by simp [ha])]
    | false =>
      rw [List.filter_cons_of_pos (by simp [ha])]
      simp only [answerAll, ih]
      rw [List.filter_cons_of_pos (by simp [ha])]

/-- In every state of a store, `get` gives out what `peek?` does and changes nothing of what is given out,
and `holds` tells whether that is anything. It counts one hit, one miss or one stale miss. It puts the entry
of its path in front, or drops it with its bytes if it is not for the content of its analysis; all other
entries stay as they are, in order. Look-ups that do not count, what the store tells of itself, and puts
that are refused can be left out of any run. -/
theorem get_agrees_with_peek (s : Store) (p : Path) (f : Fingerprint) :
    let t := (s.get p f).1
    (s.get p f).2 = s.peek? p f ∧
      (s.holds p f = true ↔ ∃ a, s.peek? p f = some a) ∧
      (∀ q g, t.peek? q g = s.peek? q g) ∧
      ((t.hits, t.misses, t.staleMisses) = (s.hits + 1, s.misses, s.staleMisses) ∧ s.holds p f = true ∨
        (t.hits, t.misses, t.staleMisses) = (s.hits, s.misses + 1, s.staleMisses) ∧
          (s.find? p).filter (·.isConsistent) = none ∨
        (t.hits, t.misses, t.staleMisses) = (s.hits, s.misses, s.staleMisses + 1) ∧
          ∃ e, (s.find? p).filter (·.isConsistent) = some e ∧ e.fingerprint ≠ f) ∧
      t.find? p = (s.find? p).filter (·.isConsistent) ∧
      t.entries = (t.find? p).toList ++ s.entries.filter (¬ ·.key.Same p) ∧
      t.bytes = s.bytes - ((s.find? p).filter (¬ ·.isConsistent)).elim 0 (·.size) ∧
      (s.Booked → t.Booked) ∧
      (t.capacity, t.maxBytes, t.evictions) = (s.capacity, s.maxBytes, s.evictions) ∧
      (∀ a r, s.put p a f = .error r ↔ a.fingerprint ≠ f ∧ r = .fingerprintMismatch p) ∧
      ∀ as, s.answerAll (as.filter (!·.isQuiet)) =
        ((s.answerAll as).1, (s.answerAll as).2.filter (!·.1.isQuiet)) := by
  intro t
  have ht : t = (s.get p f).1 := rfl
  have hfind : t.find? p = s.intact? p := by rw [ht, find?_get, if_pos (Path.Same.refl p)]
  refine ⟨by rw [get_eq], Option.isSome_iff_exists, fun q g => peek?_after_get, s.counts_get p f, hfind,
    ?_, ?_, fun h => h.get p f, ?_, fun a r => put_eq_error_iff, s.answerAll_filter⟩
  · rw [hfind, ht, get_eq]
    rfl
  · rw [ht, get_eq]
    rfl
  · rw [ht, get_eq]

/-- A store with one entry, of which it is said that it is for another content than that of its analysis. -/
def mislabelled : Store :=
  (((Store.new 4 1000).after (.put ⟨"a"⟩ (.unsupported ⟨"a"⟩ ⟨1, "00"⟩) ⟨1, "00"⟩)).relabel ⟨"a"⟩ ⟨2, "01"⟩).1

/-- The entry is there, but it is not given out for the content that it is said to be for, and looking it up
drops it with its bytes. -/
theorem get_agrees_with_peek_mislabelled :
    mislabelled.Booked ∧ mislabelled.keys = [⟨"a"⟩] ∧ (mislabelled.get ⟨"a"⟩ ⟨2, "01"⟩).2 = none ∧
      (mislabelled.get ⟨"a"⟩ ⟨2, "01"⟩).1.entries = [] ∧ (mislabelled.get ⟨"a"⟩ ⟨2, "01"⟩).1.bytes = 0 := by
  have hbooked : mislabelled.Booked := ((Sound.new 4 1000).after _).booked.relabel _ _
  obtain ⟨hanswer, -, -, -, hfind, hentries, -, hkept, -⟩ :=
    get_agrees_with_peek mislabelled ⟨"a"⟩ ⟨2, "01"⟩
  have hpeek : mislabelled.peek? ⟨"a"⟩ ⟨2, "01"⟩ = none := by decide +kernel
  have hcorrupt : (mislabelled.find? ⟨"a"⟩).filter (·.isConsistent) = none := by decide +kernel
  have hothers : mislabelled.entries.filter (¬ ·.key.Same ⟨"a"⟩) = [] := by decide +kernel
  rw [hfind, hcorrupt, hothers] at hentries
  have hempty : (mislabelled.get ⟨"a"⟩ ⟨2, "01"⟩).1.entries = [] := hentries
  refine ⟨hbooked, by decide +kernel, hanswer.trans hpeek, hempty, ?_⟩
  rw [(hkept hbooked).bytes_eq, hempty, weigh_nil]

end Store
end SymbolIndex
