import Mathlib.Algebra.GroupWithZero.Nat
import Mathlib.Order.Bounds.Basic
import SymbolIndex.Proofs.Path.Same
import SymbolIndex.Store

/-!
# The entries of a store

What the parts of an operation do to the list of entries. Look-ups and removals are read through
`Distinct`: with at most one entry a path, the entry that is found is the one that is there
(`Distinct.find?`), and what is left without it is everything else (`perm_others`). Putting an entry is
pushing it and shrinking the store, and comes to one equation: the new entry in front of a beginning of
the others, and the rest given out as what gave way (`put_eq`); as many are kept as fit
(`put_eq_take`).
-/
namespace SymbolIndex

/-- What the entries of a store weigh together. -/
def StoreEntry.weigh (es : List StoreEntry) : Nat := (es.map (·.size)).sum

namespace StoreEntry
variable {es ds : List StoreEntry} {e : StoreEntry}

@[simp] theorem weigh_nil : weigh [] = 0 := rfl

@[simp] theorem weigh_cons : weigh (e :: es) = e.size + weigh es := rfl

@[simp] theorem weigh_append : weigh (es ++ ds) = weigh es + weigh ds := by
  simp [weigh]

theorem weigh_perm (h : es.Perm ds) : weigh es = weigh ds := (h.map _).sum_nat

theorem weigh_filter_add (es : List StoreEntry) (P : StoreEntry → Bool) :
    weigh (es.filter (!P ·)) + weigh (es.filter P) = weigh es := by
  rw [Nat.add_comm, ← weigh_append]
  exact weigh_perm (List.filter_append_perm P es)

theorem size_le_weigh (h : e ∈ es) : e.size ≤ weigh es := by
  obtain ⟨before, after, rfl⟩ := List.append_of_mem h
  simp only [weigh_append, weigh_cons]
  omega

theorem weigh_le_of_sublist (h : es.Sublist ds) : weigh es ≤ weigh ds := by
  induction h with
  | slnil => exact Nat.le_refl _
  | cons d _ ih => simp only [weigh_cons]; omega
  | cons_cons d _ ih => simp only [weigh_cons]; omega

theorem weigh_dropLast (h : es ≠ []) : weigh es.dropLast + (es.getLast h).size = weigh es := by
  simpa using congrArg weigh (List.dropLast_concat_getLast h)

/-- No two entries are for the same path. -/
def Distinct (es : List StoreEntry) : Prop := es.Pairwise fun d e => ¬ d.key.Same e.key

theorem Distinct.perm (h : Distinct es) (hp : es.Perm ds) : Distinct ds :=
  (hp.pairwise_iff fun hn hs => hn hs.symm).1 h

theorem Distinct.sublist (h : Distinct es) (hs : ds.Sublist es) : Distinct ds := List.Pairwise.sublist hs h

theorem Distinct.eq_of_same (h : Distinct es) {d : StoreEntry} (hd : d ∈ es) (he : e ∈ es)
    (hs : d.key.Same e.key) : d = e :=
  List.Pairwise.forall_of_forall_of_flip (R := fun d e => d.key.Same e.key → d = e) (fun _ _ _ => rfl)
    (h.imp fun hn hs => absurd hs hn) (h.imp fun hn hs => absurd hs.symm hn) hd he hs

theorem Distinct.perm_cons_filter (h : Distinct es) {p : Path} (he : e ∈ es) (hp : e.key.Same p) :
    es.Perm (e :: es.filter (¬ ·.key.Same p)) := by
  induction es with
  | nil => cases he
  | cons d es ih =>
    obtain ⟨hd, h⟩ := List.pairwise_cons.1 h
    rcases List.mem_cons.1 he with rfl | he
    · have hall : es.filter (¬ ·.key.Same p) = es :=
        List.filter_eq_self.2 fun c hc => by simpa using fun hs => hd c hc (hp.trans (Path.Same.symm hs))
      rw [List.filter_cons_of_neg (by simpa using hp), hall]
    · have hdp : ¬ d.key.Same p := fun hs => hd e he (hs.trans hp.symm)
      rw [List.filter_cons_of_pos (by simpa using hdp)]
      exact ((ih h he).cons d).trans (List.Perm.swap ..)

/-- An entry with its weight is as its analysis says. -/
structure Genuine (e : StoreEntry) : Prop where
  fingerprint_eq : e.fingerprint = e.analysis.fingerprint
  size_eq : e.size = e.analysis.size

theorem Genuine.isConsistent (h : e.Genuine) : e.isConsistent = true := by
  simp [StoreEntry.isConsistent, h.fingerprint_eq]

theorem Genuine.answers (h : e.Genuine) (f : Fingerprint) : e.answers f = true ↔ e.fingerprint = f := by
  simp [StoreEntry.answers, h.isConsistent]

end StoreEntry

namespace Store
open StoreEntry

variable {s : Store} {p q : Path} {e : StoreEntry} {f : Fingerprint}

/-! ### Looking up and removing -/

theorem mem_of_find? (h : s.find? p = some e) : e ∈ s.entries := List.mem_of_find?_eq_some h

theorem same_of_find? (h : s.find? p = some e) : e.key.Same p := by simpa using List.find?_some h

theorem find?_eq_none : s.find? p = none ↔ ∀ e ∈ s.entries, ¬ e.key.Same p := by
  simp [find?, List.find?_eq_none]

theorem find?_of_mem (hd : Distinct s.entries) (he : e ∈ s.entries) (hp : e.key.Same p) :
    s.find? p = some e := by
  cases hf : s.find? p with
  | none => exact absurd hp (find?_eq_none.1 hf e he)
  | some d => rw [hd.eq_of_same (mem_of_find? hf) he ((same_of_find? hf).trans hp.symm)]

theorem find?_congr (h : p.Same q) : s.find? p = s.find? q := by
  unfold find?
  congr 1
  funext e
  exact decide_eq_decide.2 h.congr_right

theorem mem_others : e ∈ s.others p ↔ e ∈ s.entries ∧ ¬ e.key.Same p := by
  simp [others, List.mem_filter]

theorem others_sublist : (s.others p).Sublist s.entries := List.filter_sublist

theorem others_of_find?_none (h : s.find? p = none) : s.others p = s.entries := by
  simpa [others, List.filter_eq_self] using find?_eq_none.1 h

theorem perm_others (hd : Distinct s.entries) (h : s.find? p = some e) :
    s.entries.Perm (e :: s.others p) :=
  hd.perm_cons_filter (mem_of_find? h) (same_of_find? h)

/-- The entries of the other paths have none for the path itself, and all that there is for another one. -/
theorem find?_others :
    (s.others p).find? (·.key.Same q) = if p.Same q then none else s.find? q := by
  split
  · rename_i hs
    exact List.find?_eq_none.2 fun e he hq => (mem_others.1 he).2 ((of_decide_eq_true hq).trans hs.symm)
  · rename_i hs
    rw [others, List.find?_filter, find?]
    congr 1
    funext e
    by_cases hq : e.key.Same q
    · have hp : ¬ e.key.Same p := fun hp => hs (hp.symm.trans hq)
      simp [hp, hq]
    · simp [hq]

/-- Entries that can be kept: one a path, genuine, within the capacity, and counted byte by byte. -/
structure Counted (s : Store) : Prop where
  distinct : Distinct s.entries
  capacity_pos : 1 ≤ s.capacity
  length_le : s.entries.length ≤ s.capacity
  bytes_eq : s.bytes = weigh s.entries
  genuine : ∀ e ∈ s.entries, e.Genuine

namespace Counted

theorem size_le (h : s.Counted) (he : e ∈ s.entries) : e.size ≤ s.bytes :=
  h.bytes_eq ▸ size_le_weigh he

/-- The size that an entry is counted with goes with it. -/
theorem bytes_sub (h : s.Counted) (he : s.find? p = some e) : s.bytes - e.size = weigh (s.others p) := by
  rw [h.bytes_eq, weigh_perm (perm_others h.distinct he), weigh_cons]
  omega

theorem sublist (h : s.Counted) {t : Store} (hs : t.entries.Sublist s.entries)
    (hc : t.capacity = s.capacity) (hb : t.bytes = weigh t.entries) : t.Counted where
  distinct := h.distinct.sublist hs
  capacity_pos := hc ▸ h.capacity_pos
  length_le := hc ▸ Nat.le_trans hs.length_le h.length_le
  bytes_eq := hb
  genuine e he := h.genuine e (hs.subset he)

/-- The order of the entries and the counters of look-ups are free. -/
theorem perm (h : s.Counted) {t : Store} (hp : s.entries.Perm t.entries)
    (hc : t.capacity = s.capacity) (hb : t.bytes = s.bytes) : t.Counted where
  distinct := h.distinct.perm hp
  capacity_pos := hc ▸ h.capacity_pos
  length_le := hc ▸ hp.length_eq ▸ h.length_le
  bytes_eq := by rw [hb, h.bytes_eq, weigh_perm hp]
  genuine e he := h.genuine e (hp.mem_iff.2 he)

end Counted

theorem remove_of_none (h : s.find? p = none) : s.remove p = s := by
  unfold remove; rw [h]

/-- Removing a path leaves the entries of the others. -/
theorem find?_remove : (s.remove p).find? q = if p.Same q then none else s.find? q := by
  cases hf : s.find? p with
  | none =>
    rw [remove_of_none hf]
    split
    · rename_i hs
      rw [← find?_congr hs, hf]
    · rfl
  | some e =>
    have hentries : (s.remove p).entries = s.others p := by simp only [remove, hf]
    rw [find?, hentries, find?_others]

theorem find?_remove_eq_some : (s.remove p).find? q = some e ↔ s.find? q = some e ∧ ¬ p.Same q := by
  rw [find?_remove]
  split <;> simp [*]

theorem remove_eq (h : s.Counted) :
    s.remove p = { s with entries := s.others p, bytes := weigh (s.others p) } := by
  cases hf : s.find? p with
  | none => rw [remove_of_none hf, others_of_find?_none hf, ← h.bytes_eq]
  | some e => simp only [remove, hf, h.bytes_sub hf]

theorem Counted.remove (h : s.Counted) (p : Path) : (s.remove p).Counted := by
  rw [remove_eq h]
  exact h.sublist others_sublist rfl rfl

theorem length_others_lt (h : s.Counted) (he : s.find? p = some e) :
    (s.others p).length < s.entries.length := by
  have := (perm_others h.distinct he).length_eq
  simp only [List.length_cons] at this
  omega

/-! ### Putting -/

/-- An entry as it is put in front: a path that is there already keeps its spelling. -/
def front (s : Store) (e : StoreEntry) : StoreEntry :=
  { e with key := ((s.find? e.key).map (·.key)).getD e.key }

theorem front_same (s : Store) (e : StoreEntry) : (s.front e).key.Same e.key := by
  cases h : s.find? e.key with
  | none => simp [front, h]
  | some d => simpa [front, h] using same_of_find? h

/-- The entries with a new one in front of those of the other paths, before any gives way. -/
def placed (s : Store) (e : StoreEntry) : List StoreEntry := s.front e :: s.others e.key

theorem Counted.distinct_placed (h : s.Counted) (e : StoreEntry) : Distinct (s.placed e) :=
  List.pairwise_cons.2 ⟨fun _ hd hs => (mem_others.1 hd).2 ((front_same s e).symm.trans hs).symm,
    h.distinct.sublist others_sublist⟩

/-- There is one entry more than there is room for, at most. -/
theorem length_placed_le (h : s.Counted) (e : StoreEntry) : (s.placed e).length ≤ s.capacity + 1 :=
  Nat.succ_le_succ (Nat.le_trans others_sublist.length_le h.length_le)

/-- Pushing keeps the entries that there is room for; what comes after them gives way. -/
theorem push_eq (h : s.Counted) (e : StoreEntry) :
    s.push e = ({ s with
      entries := (s.placed e).take s.capacity
      bytes := weigh ((s.placed e).take s.capacity) }, (s.placed e)[s.capacity]?) := by
  unfold push
  cases hf : s.find? e.key with
  | some old =>
    have hroom : (s.placed e).length ≤ s.capacity :=
      Nat.le_trans (Nat.succ_le_of_lt (length_others_lt h hf)) h.length_le
    rw [List.take_of_length_le hroom, List.getElem?_eq_none hroom]
    simp [placed, front, hf, h.bytes_sub hf, Nat.add_comm]
  | none =>
    have hplaced : s.placed e = e :: s.entries := by simp [placed, front, hf, others_of_find?_none hf]
    rw [hplaced]
    by_cases hfull : s.capacity ≤ s.entries.length
    · obtain ⟨n, hn⟩ : ∃ n, s.capacity = n + 1 :=
        Nat.exists_eq_succ_of_ne_zero (by have := h.capacity_pos; omega)
      have hlength : n = s.entries.length - 1 := by have := h.length_le; omega
      have hne : s.entries ≠ [] := List.ne_nil_of_length_pos (by omega)
      have hw := h.bytes_eq.trans (weigh_dropLast hne).symm
      rw [if_pos hfull, hn, List.take_succ_cons, List.getElem?_cons_succ, hlength, ← List.dropLast_eq_take,
        ← List.getLast?_eq_getElem?]
      simp [List.getLast?_eq_some_getLast hne, hw, Nat.add_comm]
    · have hroom : (e :: s.entries).length ≤ s.capacity := Nat.succ_le_of_lt (Nat.lt_of_not_le hfull)
      rw [if_neg hfull, List.take_of_length_le hroom, List.getElem?_eq_none hroom]
      simp [h.bytes_eq, Nat.add_comm]

/-- Of some entries, `n` at most can be kept: `k` is how many are, as many from the front as are within
the limit of bytes together, but one at least. -/
def Fits (s : Store) (es : List StoreEntry) (n k : Nat) : Prop :=
  IsGreatest {k | 1 ≤ k ∧ k ≤ n ∧ (k = 1 ∨ weigh (es.take k) ≤ s.maxBytes)} k

theorem fits_take {es : List StoreEntry} {m n k : Nat} (h : n ≤ m) :
    s.Fits (es.take m) n k ↔ s.Fits es n k := by
  have htake : ∀ j ≤ n, (es.take m).take j = es.take j := fun j hj => by
    rw [List.take_take, Nat.min_eq_left (Nat.le_trans hj h)]
  have hset : {k | 1 ≤ k ∧ k ≤ n ∧ (k = 1 ∨ weigh ((es.take m).take k) ≤ s.maxBytes)} =
      {k | 1 ≤ k ∧ k ≤ n ∧ (k = 1 ∨ weigh (es.take k) ≤ s.maxBytes)} :=
    Set.ext fun j => and_congr_right fun _ => and_congr_right fun hj => by rw [htake j hj]
  rw [Fits, hset, Fits]

/-- More room is of no use if all entries together are too many. -/
theorem Fits.extend {es : List StoreEntry} {n k : Nat} (h : s.Fits es n k)
    (hover : s.maxBytes < weigh (es.take (n + 1))) : s.Fits es (n + 1) k := by
  obtain ⟨⟨hpos, hk, hfit⟩, hmax⟩ := h
  refine ⟨⟨hpos, Nat.le_succ_of_le hk, hfit⟩, ?_⟩
  rintro j ⟨hj, hjn, hjfit⟩
  rcases Nat.lt_or_eq_of_le hjn with hlt | rfl
  · exact hmax ⟨hj, Nat.le_of_lt_succ hlt, hjfit⟩
  · omega

/-- Shrinking keeps as many entries as fit. -/
theorem shrink_eq (s : Store) (gone : List Path) (h : s.bytes = weigh s.entries) (hne : s.entries ≠ []) :
    ∃ k, s.Fits s.entries s.entries.length k ∧
      s.shrink gone = ({ s with entries := s.entries.take k, bytes := weigh (s.entries.take k) },
        gone ++ (s.entries.drop k).reverse.map (·.key)) := by
  induction s, gone using shrink.induct with
  | case1 s gone hover last ih =>
    have hsplit : s.entries.dropLast ++ [last] = s.entries := List.dropLast_concat_getLast hne
    have hw : weigh s.entries.dropLast + last.size = weigh s.entries := weigh_dropLast hne
    obtain ⟨n, hn⟩ : ∃ n, s.entries.length = n + 1 := Nat.exists_eq_succ_of_ne_zero (by omega)
    have hlength : s.entries.dropLast.length = n := by rw [List.length_dropLast, hn]; rfl
    obtain ⟨k, hfits, heq⟩ := ih (show s.bytes - last.size = weigh s.entries.dropLast by omega)
      (List.ne_nil_of_length_pos (show 0 < s.entries.dropLast.length by omega))
    have hk : k ≤ s.entries.dropLast.length := hfits.1.2.1
    have htake : s.entries.dropLast = s.entries.take n := by rw [List.dropLast_eq_take, hn]; rfl
    refine ⟨k, ?_, ?_⟩
    · rw [hlength, htake] at hfits
      rw [hn]
      refine ((fits_take (Nat.le_refl n)).1 hfits).extend ?_
      rw [← hn, List.take_length]
      show s.maxBytes < weigh s.entries
      omega
    · have hkept : s.entries.take k = s.entries.dropLast.take k := by
        rw [htake, List.take_take, Nat.min_eq_left (hlength ▸ hk)]
      have hdropped : s.entries.drop k = s.entries.dropLast.drop k ++ [last] := by
        rw [← List.drop_append_of_le_length hk, hsplit]
      rw [shrink, dif_pos hover, hkept, hdropped]
      simpa using heq
  | case2 s gone hover =>
    have hpos := List.length_pos_iff.2 hne
    refine ⟨s.entries.length, ⟨⟨hpos, Nat.le_refl _, ?_⟩, fun j hj => hj.2.1⟩, ?_⟩
    · rw [List.take_length]
      omega
    · rw [shrink, dif_neg hover]
      simp [← h]

/-- What putting an analysis does: of the entries with the new one in front, as many are kept as fit, and
the rest gives way, the last one first. -/
theorem put_eq_take (h : s.Counted) (a : Analysis) (hf : a.fingerprint = f) :
    ∃ k, s.Fits (s.placed ⟨p, a, f, a.size⟩) (min (s.placed ⟨p, a, f, a.size⟩).length s.capacity) k ∧
      s.put p a f = .ok ({ s with
          entries := (s.placed ⟨p, a, f, a.size⟩).take k
          bytes := weigh ((s.placed ⟨p, a, f, a.size⟩).take k)
          evictions := s.evictions + ((s.placed ⟨p, a, f, a.size⟩).drop k).length },
        ((s.placed ⟨p, a, f, a.size⟩).drop k).reverse.map (·.key)) := by
  have hpush := push_eq h ⟨p, a, f, a.size⟩
  have hlength := length_placed_le h ⟨p, a, f, a.size⟩
  have hcapacity := h.capacity_pos
  have hpos : 0 < (s.placed ⟨p, a, f, a.size⟩).length := Nat.succ_pos _
  generalize s.placed ⟨p, a, f, a.size⟩ = all at hpush hlength hpos ⊢
  have hroom : (all.take s.capacity).length = min all.length s.capacity := by
    rw [List.length_take, Nat.min_comm]
  obtain ⟨k, hfits, hshrink⟩ := shrink_eq (s.push ⟨p, a, f, a.size⟩).1 (all[s.capacity]?.map (·.key)).toList
    (by rw [hpush]) (by rw [hpush]; exact List.ne_nil_of_length_pos (show 0 < (all.take _).length by omega))
  rw [hpush] at hfits hshrink
  have hk : k ≤ s.capacity := Nat.le_trans hfits.1.2.1 (hroom ▸ Nat.min_le_right ..)
  refine ⟨k, ?_, ?_⟩
  · rw [← hroom]
    exact (fits_take (hroom ▸ Nat.min_le_right ..)).1 hfits
  · -- What gives way when the entry is pushed comes after what gives way when the store shrinks.
    have hlast : all.drop s.capacity = all[s.capacity]?.toList := by
      rw [List.drop_eq_getElem?_toList_append, List.drop_eq_nil_of_le hlength, List.append_nil]
    have hdrop : all.drop k = (all.take s.capacity).drop k ++ all[s.capacity]?.toList := by
      rw [← hlast, ← List.drop_append_of_le_length hfits.1.2.1, List.take_append_drop]
    have htake : (all.take s.capacity).take k = all.take k := by rw [List.take_take, Nat.min_eq_left hk]
    simp only [put, hf, ne_eq, not_true_eq_false, if_false, hpush, hshrink, htake, hdrop]
    cases all[s.capacity]? with
    | none => simp
    | some d => simp

/-- If there is room for all entries, none gives way. -/
theorem put_of_room (h : s.Counted) (a : Analysis) (hf : a.fingerprint = f)
    (hlength : (s.placed ⟨p, a, f, a.size⟩).length ≤ s.capacity)
    (hweigh : weigh (s.placed ⟨p, a, f, a.size⟩) ≤ s.maxBytes) : s.put p a f = .ok ({ s with
      entries := s.placed ⟨p, a, f, a.size⟩
      bytes := weigh (s.placed ⟨p, a, f, a.size⟩) }, []) := by
  obtain ⟨k, ⟨-, hmax⟩, hput⟩ := put_eq_take (p := p) h a hf
  have hall : (s.placed ⟨p, a, f, a.size⟩).length ≤ k :=
    hmax ⟨Nat.succ_pos _, Nat.le_min.2 ⟨Nat.le_refl _, hlength⟩, .inr (by rwa [List.take_length])⟩
  rw [hput, List.take_of_length_le hall, List.drop_eq_nil_of_le hall]
  rfl

/-- What putting an analysis does: it comes in front of a beginning of the others, and the rest gives
way, the last one first. -/
theorem put_eq (h : s.Counted) (a : Analysis) (hf : a.fingerprint = f) :
    ∃ kept dropped, s.others p = kept ++ dropped ∧ kept.length < s.capacity ∧
      (weigh (s.front ⟨p, a, f, a.size⟩ :: kept) ≤ s.maxBytes ∨ kept = []) ∧
      s.put p a f = .ok ({ s with
          entries := s.front ⟨p, a, f, a.size⟩ :: kept
          bytes := weigh (s.front ⟨p, a, f, a.size⟩ :: kept)
          evictions := s.evictions + dropped.length }, dropped.reverse.map (·.key)) := by
  obtain ⟨k, ⟨⟨hpos, hk, hfit⟩, -⟩, hput⟩ := put_eq_take (p := p) h a hf
  obtain ⟨n, rfl⟩ := Nat.exists_eq_add_of_le' hpos
  have hn : n < s.capacity := Nat.lt_of_lt_of_le (Nat.lt_succ_self n) (Nat.le_trans hk (Nat.min_le_right ..))
  refine ⟨(s.others p).take n, (s.others p).drop n, (List.take_append_drop ..).symm, ?_, ?_, hput⟩
  · exact Nat.lt_of_le_of_lt (List.length_take_le ..) hn
  · rcases hfit with hone | hfit
    · obtain rfl : n = 0 := Nat.succ.inj hone
      exact .inr (List.take_zero ..)
    · exact .inl hfit

/-- An analysis of another content is refused. -/
theorem put_of_ne {a : Analysis} (hf : a.fingerprint ≠ f) :
    s.put p a f = .error (.fingerprintMismatch p) := by
  simp [put, hf]

end Store
end SymbolIndex
