import SymbolIndex.Proofs.Store.Entries

/-!
# Runs of store operations

An `Operation` is a call of one of the functions of a store with its arguments, and `perform` makes the
call; a store is used by a run of operations. Each function has an equation or a description of the
entries that it leaves, which holds for stores that are `Counted`.
-/
namespace SymbolIndex
namespace Store
open StoreEntry

/-- A call of a function of a store. -/
inductive Operation
  | put (p : Path) (a : Analysis) (f : Fingerprint)
  | get (p : Path) (f : Fingerprint)
  | peek (p : Path) (f : Fingerprint)
  | holds (p : Path) (f : Fingerprint)
  | invalidate (p : Path)
  | invalidateAll
  | invalidateIfChanged (p : Path) (f : Fingerprint)
  | invalidateUnder (dir : Path)

/-- Whether a call brings something into the store. -/
def Operation.isPut : Operation → Bool
  | put _ _ _ => true
  | _ => false

/-- Whether a call is a look-up that counts. -/
def Operation.isGet : Operation → Bool
  | get _ _ => true
  | _ => false

/-- What a call answers. -/
inductive Reply
  /-- The paths of the entries that gave way. -/
  | stored (gone : List Path)
  | refused (e : IndexError)
  | analysis (a : Option Analysis)
  | truth (b : Bool)
  | dropped (n : Nat)
  | paths (ps : List Path)

/-- Makes a call. -/
def perform (s : Store) : Operation → Store × Reply
  | .put p a f =>
    match s.put p a f with
    | .ok (t, gone) => (t, .stored gone)
    | .error e => (s, .refused e)
  | .get p f => ((s.get p f).1, .analysis (s.get p f).2)
  | .peek p f => (s, .analysis (s.peek? p f))
  | .holds p f => (s, .truth (s.holds p f))
  | .invalidate p => ((s.invalidate p).1, .truth (s.invalidate p).2)
  | .invalidateAll => (s.invalidateAll.1, .dropped s.invalidateAll.2)
  | .invalidateIfChanged p f => ((s.invalidateIfChanged p f).1, .truth (s.invalidateIfChanged p f).2)
  | .invalidateUnder dir => ((s.invalidateUnder dir).1, .paths (s.invalidateUnder dir).2)

/-- The store after a call. -/
def after (s : Store) (o : Operation) : Store := (s.perform o).1

/-- The store after some calls in order. -/
def run (s : Store) (os : List Operation) : Store := os.foldl after s

variable {s : Store} {p q : Path} {a : Analysis} {e : StoreEntry} {f g : Fingerprint}

theorem run_append (s : Store) (os os' : List Operation) : s.run (os ++ os') = (s.run os).run os' :=
  List.foldl_append

@[simp] theorem after_invalidate (s : Store) (p : Path) : s.after (.invalidate p) = s.remove p := rfl

/-! ### One equation for each function -/

theorem get_eq_of_none (h : s.find? p = none) : s.get p f = ({ s with misses := s.misses + 1 }, none) := by
  simp [get, h]

/-- Looking up an entry puts it in front, and counts the look-up. -/
theorem get_eq_of_some (h : s.find? p = some e) (he : e.Genuine) :
    s.get p f =
      if e.fingerprint = f then
        ({ s with entries := e :: s.others p, hits := s.hits + 1 }, some e.analysis)
      else ({ s with entries := e :: s.others p, staleMisses := s.staleMisses + 1 }, none) := by
  simp [get, h, he.isConsistent]

/-- Looking up changes the order of the entries at most. -/
theorem get_perm (h : s.Counted) : s.entries.Perm (s.get p f).1.entries := by
  cases hf : s.find? p with
  | none => rw [get_eq_of_none hf]
  | some e =>
    rw [get_eq_of_some hf (h.genuine e (mem_of_find? hf))]
    split <;> exact perm_others h.distinct hf

/-- Looking up changes nothing but the order of the entries and the counters of look-ups. -/
theorem get_frame (h : s.Counted) : (s.get p f).1.capacity = s.capacity ∧
    (s.get p f).1.maxBytes = s.maxBytes ∧ (s.get p f).1.bytes = s.bytes := by
  cases hf : s.find? p with
  | none => rw [get_eq_of_none hf]; exact ⟨rfl, rfl, rfl⟩
  | some e =>
    rw [get_eq_of_some hf (h.genuine e (mem_of_find? hf))]
    split <;> exact ⟨rfl, rfl, rfl⟩

theorem invalidateIfChanged_eq (h : s.Counted) :
    (s.invalidateIfChanged p f).1 =
      if (s.find? p).any (·.fingerprint ≠ f) then s.remove p else s := by
  unfold invalidateIfChanged
  cases hf : s.find? p with
  | none => simp
  | some e =>
    have hg := (h.genuine e (mem_of_find? hf)).answers f
    by_cases hef : e.fingerprint = f
    · simp [hg.2 hef, hef]
    · simp [hg, hef]

/-- An entry is dropped if it is for another content. -/
theorem invalidateIfChanged_snd (h : s.Counted) :
    (s.invalidateIfChanged p f).2 = (s.find? p).any (·.fingerprint ≠ f) := by
  unfold invalidateIfChanged
  cases hf : s.find? p with
  | none => rfl
  | some e =>
    have hg := (h.genuine e (mem_of_find? hf)).answers f
    by_cases hef : e.fingerprint = f
    · simp [hg.2 hef, hef]
    · simp [hg, hef]

/-- Only an entry for another content is dropped, and only that of the path. -/
theorem find?_invalidateIfChanged_eq_some : (s.invalidateIfChanged p f).1.find? q = some e ↔
    s.find? q = some e ∧ (p.Same q → e.answers f = true) := by
  unfold invalidateIfChanged
  cases hp : s.find? p with
  | none =>
    have hne (hq : s.find? q = some e) : ¬ p.Same q := fun hs => by
      rw [← find?_congr hs, hp] at hq
      cases hq
    exact ⟨fun hq => ⟨hq, fun hs => absurd hs (hne hq)⟩, And.left⟩
  | some d =>
    have heq (hq : s.find? q = some e) (hs : p.Same q) : d = e :=
      Option.some.inj (by rw [← hp, find?_congr hs, hq])
    cases hd : d.answers f with
    | true =>
      simp only [if_true, hd]
      exact ⟨fun hq => ⟨hq, fun hs => heq hq hs ▸ hd⟩, And.left⟩
    | false =>
      simp only [if_false, hd, Bool.false_eq_true, find?_remove_eq_some]
      refine and_congr_right fun hq => ⟨fun hn hs => absurd hs hn, fun ha hs => ?_⟩
      rw [← heq hq hs, hd] at ha
      exact Bool.false_ne_true (ha hs)

/-- Removing some paths one after another keeps the entries of the other paths. -/
theorem foldl_remove_eq (h : s.Counted) (ps : List Path) :
    ps.foldl remove s = { s with
      entries := s.entries.filter fun e => ps.all (¬ e.key.Same ·)
      bytes := weigh (s.entries.filter fun e => ps.all (¬ e.key.Same ·)) } := by
  induction ps generalizing s with
  | nil =>
    have hall : s.entries.filter (fun e => ([] : List Path).all (¬ e.key.Same ·)) = s.entries :=
      List.filter_eq_self.2 fun _ _ => rfl
    rw [hall, ← h.bytes_eq, List.foldl_nil]
  | cons p ps ih =>
    rw [List.foldl_cons, ih (h.remove p), remove_eq h]
    simp [others, List.filter_filter, Bool.and_comm]

theorem Counted.foldl_remove (h : s.Counted) (ps : List Path) : (ps.foldl Store.remove s).Counted := by
  rw [foldl_remove_eq h]
  exact h.sublist List.filter_sublist rfl rfl

/-- At and below a directory is what has the components of the directory in front. -/
theorem filter_inside (s : Store) (dir : Path) :
    (s.entries.filter fun e => (s.keys.filter dir.isUnder).all (¬ e.key.Same ·)) =
      s.entries.filter (!dir.isUnder ·.key) := by
  refine List.filter_congr fun e he => Bool.eq_iff_iff.2 ?_
  simp only [List.all_eq_true, List.mem_filter, keys, List.mem_map, decide_eq_true_eq,
    Bool.not_eq_true']
  constructor
  · intro hall
    cases hu : dir.isUnder e.key with
    | false => rfl
    | true => exact absurd (Path.Same.refl _) (hall e.key ⟨⟨e, he, rfl⟩, hu⟩)
  · rintro hu p ⟨-, hp⟩ hs
    rw [hs.isUnder dir, hp] at hu
    cases hu

theorem invalidateUnder_eq (h : s.Counted) (dir : Path) :
    s.invalidateUnder dir = ({ s with
      entries := s.entries.filter (!dir.isUnder ·.key)
      bytes := weigh (s.entries.filter (!dir.isUnder ·.key)) }, s.keys.filter dir.isUnder) := by
  simp only [invalidateUnder, foldl_remove_eq h, filter_inside]

/-- No other call than a look-up changes more than the entries, their bytes, and how many gave way. -/
theorem after_eq (h : s.Counted) {o : Operation} (ho : o.isGet = false) :
    s.after o = { s with
      entries := (s.after o).entries
      bytes := (s.after o).bytes
      evictions := (s.after o).evictions } := by
  cases o with
  | put p a f =>
    simp only [after, perform]
    by_cases hf : a.fingerprint = f
    · obtain ⟨kept, dropped, -, -, -, heq⟩ := put_eq (p := p) h a hf
      simp [heq]
    · simp [put_of_ne hf]
  | get p f => cases ho
  | peek p f => rfl
  | holds p f => rfl
  | invalidate p => simp [remove_eq h]
  | invalidateAll => rfl
  | invalidateIfChanged p f =>
    simp only [after, perform, invalidateIfChanged_eq h, remove_eq h]
    split <;> rfl
  | invalidateUnder dir => simp [after, perform, invalidateUnder_eq h]

/-- The limits of a store stay as they are. -/
theorem limits_after (h : s.Counted) (o : Operation) :
    (s.after o).capacity = s.capacity ∧ (s.after o).maxBytes = s.maxBytes := by
  by_cases ho : o.isGet = false
  · rw [after_eq h ho]
    exact ⟨rfl, rfl⟩
  · cases o with
    | get p f => exact ⟨(get_frame h).1, (get_frame h).2.1⟩
    | _ => exact absurd rfl ho

/-! ### What a store gives out -/

/-- An analysis is given out for a path and a content if there is an entry of both. -/
theorem peek?_eq_some (h : s.Counted) :
    s.peek? p f = some a ↔ ∃ e ∈ s.entries, e.key.Same p ∧ e.fingerprint = f ∧ e.analysis = a := by
  unfold peek?
  constructor
  · intro hp
    obtain ⟨e, he, rfl⟩ := Option.map_eq_some_iff.1 hp
    obtain ⟨hf, ha⟩ := Option.filter_eq_some_iff.1 he
    have hm := mem_of_find? hf
    exact ⟨e, hm, same_of_find? hf, ((h.genuine e hm).answers f).1 ha, rfl⟩
  · rintro ⟨e, hm, hs, hf, rfl⟩
    simp [find?_of_mem h.distinct hm hs, Option.filter, (h.genuine e hm).answers f, hf]

theorem Counted.get (h : s.Counted) (p : Path) (f : Fingerprint) : (s.get p f).1.Counted :=
  h.perm (get_perm h) (get_frame h).1 (get_frame h).2.2

/-- Looking up does not change what a store gives out. -/
theorem peek?_get (h : s.Counted) : (s.get p f).1.peek? q g = s.peek? q g := by
  refine Option.ext fun a => ?_
  rw [peek?_eq_some h, peek?_eq_some (h.get p f)]
  simp only [(get_perm (p := p) (f := f) h).mem_iff]

theorem get_snd (h : s.Counted) : (s.get p f).2 = s.peek? p f := by
  unfold peek?
  cases hf : s.find? p with
  | none => rw [get_eq_of_none hf]; rfl
  | some e =>
    have hg := h.genuine e (mem_of_find? hf)
    rw [get_eq_of_some hf hg]
    by_cases he : e.fingerprint = f
    · simp [Option.filter, hg.answers f, he]
    · simp [Option.filter, hg.answers f, he]

/-- What is in the store after an operation was there before, or was put by it. -/
theorem mem_after (h : s.Counted) {o : Operation} (he : e ∈ (s.after o).entries) :
    e ∈ s.entries ∨ ∃ p a f, o = .put p a f ∧ e.key.Same p ∧ e.fingerprint = f ∧ e.analysis = a := by
  cases o with
  | put p a f =>
    simp only [after, perform] at he
    by_cases hf : a.fingerprint = f
    · obtain ⟨kept, dropped, hsplit, -, -, heq⟩ := put_eq (p := p) h a hf
      simp only [heq] at he
      rcases List.mem_cons.1 he with rfl | he
      · exact .inr ⟨p, a, f, rfl, front_same s _, rfl, rfl⟩
      · exact .inl (mem_others.1 (hsplit ▸ List.mem_append_left _ he)).1
    · rw [put_of_ne hf] at he
      exact .inl he
  | get p f => exact .inl ((get_perm h).mem_iff.2 he)
  | peek p f => exact .inl he
  | holds p f => exact .inl he
  | invalidate p =>
    rw [after_invalidate, remove_eq h] at he
    exact .inl (mem_others.1 he).1
  | invalidateAll => cases he
  | invalidateIfChanged p f =>
    simp only [after, perform, invalidateIfChanged_eq h, remove_eq h] at he
    split at he
    · exact .inl (mem_others.1 he).1
    · exact .inl he
  | invalidateUnder dir =>
    simp only [after, perform, invalidateUnder_eq h] at he
    exact .inl (List.mem_filter.1 he).1

end Store
end SymbolIndex
