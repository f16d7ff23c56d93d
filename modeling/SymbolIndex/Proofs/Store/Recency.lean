import SymbolIndex.Proofs.Store.Invariant

/-!
# Stores keep their entries in the order of use

Putting an analysis under a path uses the path, and so does looking it up when there is an entry for it,
be it for the content asked for or not. A request is numbered by how many came before it, so a path is
used at a time. A request puts the path that it uses in front and leaves the order of the others
(`Sound.reordered`); from this, the paths in a store stand in the order of their last uses, and what
gives way was last used before all that stays (`run_new_recency`).
-/
namespace SymbolIndex
namespace Store
open StoreEntry

/-- What may be asked of a store. -/
inductive Request
  | call (o : Operation)
  /-- When was the entry of a path last put or given out? The answer is read off the entry. -/
  | lastAccess (p : Path)

/-- The store after a request. -/
def serve (s : Store) : Request → Store
  | .call o => s.after o
  | .lastAccess _ => s

/-- The store after some requests in order. -/
def serveAll (s : Store) (rs : List Request) : Store := rs.foldl serve s

/-- Whether a request uses a path: it puts an analysis under it, or looks it up and there is a consistent
entry. -/
def uses (s : Store) (p : Path) : Request → Bool
  | .call (.put q a f) => q.Same p && (s.put q a f).toBool
  | .call (.get q _) => q.Same p && (s.find? q).any (·.isConsistent)
  | _ => false

/-- Whether the request at a time uses a path. -/
def usesAt (s : Store) (rs : List Request) (p : Path) (i : Nat) : Bool :=
  (rs[i]?).any ((s.serveAll (rs.take i)).uses p)

/-- The time at which some requests last use a path. -/
structure LastUse (s : Store) (rs : List Request) (p : Path) (i : Nat) : Prop where
  used : s.usesAt rs p i = true
  last : ∀ j, s.usesAt rs p j = true → j ≤ i

/-- Some requests last use `p` later than `q`. -/
def UsedAfter (s : Store) (rs : List Request) (p q : Path) : Prop :=
  ∃ i j, s.LastUse rs p i ∧ s.LastUse rs q j ∧ j < i

variable {s t : Store} {rs : List Request} {r : Request} {p q : Path} {a : Analysis} {f : Fingerprint}
  {i j : Nat}

theorem serveAll_append (s : Store) (rs rs' : List Request) :
    s.serveAll (rs ++ rs') = (s.serveAll rs).serveAll rs' :=
  List.foldl_append

theorem Sound.serve (h : s.Sound) (r : Request) : (s.serve r).Sound := by
  cases r with
  | call o => exact h.after o
  | lastAccess p => exact h

theorem Sound.serveAll (h : s.Sound) (rs : List Request) : (s.serveAll rs).Sound := by
  induction rs generalizing s with
  | nil => exact h
  | cons r rs ih => exact ih (h.serve r)

/-! ### What one request does to the order -/

/-- How a request leaves the paths of a store: it uses one, which comes in front, or none; all others
stand in the order in which they stood, as far as they are still there. -/
inductive Reordered (s : Store) (r : Request) : List Path → Prop
  | used (p : Path) (rest : List Path) (hp : s.uses p r = true) (hrest : rest.Sublist s.keys)
      (hunused : ∀ q ∈ rest, s.uses q r = false) : Reordered s r (p :: rest)
  | unused (keys : List Path) (hkeys : keys.Sublist s.keys) (hunused : ∀ q, s.uses q r = false) :
      Reordered s r keys

/-- What a request does not use stands in the order in which it stood. -/
theorem Reordered.filter_sublist {keys : List Path} (h : Reordered s r keys) :
    (keys.filter (!s.uses · r)).Sublist s.keys := by
  cases h with
  | used p rest hp hrest _ =>
    rw [List.filter_cons_of_neg (by simp [hp])]
    exact List.filter_sublist.trans hrest
  | unused _ hkeys _ => exact List.filter_sublist.trans hkeys

theorem not_same_of_mem_keys_others (h : q ∈ (s.others p).map (·.key)) : ¬ p.Same q := by
  obtain ⟨e, he, rfl⟩ := List.mem_map.1 h
  exact fun hs => (mem_others.1 he).2 hs.symm

/-- A put that is not refused puts its path in front of a beginning of the others. -/
theorem Sound.reordered_put (h : s.Sound) (ha : a.fingerprint = f) :
    Reordered s (.call (.put p a f)) (s.after (.put p a f)).keys := by
  obtain ⟨kept, dropped, hsplit, -, -, heq⟩ := put_eq (p := p) h.toCounted a ha
  have hkeys : (s.after (.put p a f)).keys = (s.front ⟨p, a, f, a.size⟩).key :: kept.map (·.key) := by
    simp only [Store.after, perform, heq, keys, List.map_cons]
  have hkept : (kept.map (·.key)).Sublist ((s.others p).map (·.key)) := by
    rw [hsplit, List.map_append]
    exact List.sublist_append_left ..
  rw [hkeys]
  refine .used _ _ ?_ (hkept.trans (others_sublist.map _)) fun q hq => ?_
  · simp [uses, heq, (front_same s ⟨p, a, f, a.size⟩).symm, Except.toBool]
  · simp [uses, not_same_of_mem_keys_others (hkept.subset hq)]

theorem Sound.reordered_get (h : s.Sound) : Reordered s (.call (.get p f)) (s.after (.get p f)).keys := by
  cases hp : s.find? p with
  | none =>
    have hkeys : (s.after (.get p f)).keys = s.keys := by
      simp only [Store.after, perform, get_eq_of_none hp, keys]
    rw [hkeys]
    exact .unused _ (List.Sublist.refl _) fun q => by simp [uses, hp]
  | some e =>
    have he : e.Genuine := h.genuine e (mem_of_find? hp)
    have hkeys : (s.after (.get p f)).keys = e.key :: (s.others p).map (·.key) := by
      simp only [Store.after, perform, get_eq_of_some hp he]
      split <;> rfl
    rw [hkeys]
    refine .used _ _ ?_ (others_sublist.map _) fun q hq => ?_
    · simp [uses, hp, he.isConsistent, (same_of_find? hp).symm]
    · simp [uses, not_same_of_mem_keys_others hq]

/-- One request puts the path that it uses in front, and leaves the order of the others. -/
theorem Sound.reordered (h : s.Sound) (r : Request) : Reordered s r (s.serve r).keys := by
  -- A call that only drops entries uses no path.
  have drops : ∀ {o : Operation}, (∀ q, s.uses q (.call o) = false) →
      (s.after o).entries.Sublist s.entries → Reordered s (.call o) (s.after o).keys :=
    fun hn hs => .unused _ (hs.map _) hn
  cases r with
  | lastAccess p => exact .unused _ (List.Sublist.refl _) fun _ => rfl
  | call o =>
    cases o with
    | put p a f =>
      by_cases ha : a.fingerprint = f
      · exact h.reordered_put ha
      · refine drops (fun q => by simp [uses, put_of_ne ha, Except.toBool]) ?_
        simp only [Store.after, perform, put_of_ne ha]
        exact List.Sublist.refl _
    | get p f => exact h.reordered_get
    | peek p f => exact drops (fun _ => rfl) (List.Sublist.refl _)
    | holds p f => exact drops (fun _ => rfl) (List.Sublist.refl _)
    | invalidate p =>
      refine drops (fun _ => rfl) ?_
      rw [after_invalidate, remove_eq h.toCounted]
      exact others_sublist
    | invalidateAll => exact drops (fun _ => rfl) (List.nil_sublist _)
    | invalidateIfChanged p f =>
      refine drops (fun _ => rfl) ?_
      simp only [Store.after, perform, invalidateIfChanged_eq h.toCounted, remove_eq h.toCounted]
      split
      · exact others_sublist
      · exact List.Sublist.refl _
    | invalidateUnder dir =>
      refine drops (fun _ => rfl) ?_
      simp only [Store.after, perform, invalidateUnder_eq h.toCounted]
      exact List.filter_sublist

/-! ### Times of use -/

/-- One more request is the last one, and changes nothing of what was before. -/
theorem usesAt_concat : s.usesAt (rs ++ [r]) p i = true ↔
    s.usesAt rs p i = true ∨ i = rs.length ∧ (s.serveAll rs).uses p r = true := by
  rcases Nat.lt_trichotomy i rs.length with hi | rfl | hi
  · have hne : i ≠ rs.length := Nat.ne_of_lt hi
    simp [usesAt, List.getElem?_append_left hi, List.take_append_of_le_length (Nat.le_of_lt hi), hne]
  · simp [usesAt]
  · have hnone : (rs ++ [r])[i]? = none := List.getElem?_eq_none (by rw [List.length_append]; exact hi)
    have hnone' : rs[i]? = none := List.getElem?_eq_none (Nat.le_of_lt hi)
    simp [usesAt, hnone, hnone', Nat.ne_of_gt hi]

theorem lt_length_of_usesAt (h : s.usesAt rs p i = true) : i < rs.length := by
  unfold usesAt at h
  rcases Nat.lt_or_ge i rs.length with hi | hi
  · exact hi
  · rw [List.getElem?_eq_none hi] at h
    cases h

/-- A request that does not use a path leaves its last use. -/
theorem LastUse.concat (h : s.LastUse rs p i) (hr : (s.serveAll rs).uses p r = false) :
    s.LastUse (rs ++ [r]) p i where
  used := usesAt_concat.2 (.inl h.used)
  last j hj := by
    rcases usesAt_concat.1 hj with hj | ⟨-, hj⟩
    · exact h.last j hj
    · rw [hr] at hj
      cases hj

/-- A request that uses a path is its last use. -/
theorem lastUse_concat_of_uses (hr : (s.serveAll rs).uses p r = true) :
    s.LastUse (rs ++ [r]) p rs.length where
  used := usesAt_concat.2 (.inr ⟨rfl, hr⟩)
  last j hj := by
    rcases usesAt_concat.1 hj with hj | ⟨rfl, -⟩
    · exact Nat.le_of_lt (lt_length_of_usesAt hj)
    · exact Nat.le_refl _

theorem UsedAfter.concat (h : s.UsedAfter rs p q) (hp : (s.serveAll rs).uses p r = false)
    (hq : (s.serveAll rs).uses q r = false) : s.UsedAfter (rs ++ [r]) p q := by
  obtain ⟨i, j, hi, hj, hji⟩ := h
  exact ⟨i, j, hi.concat hp, hj.concat hq, hji⟩

theorem usedAfter_concat_of_uses (hp : (s.serveAll rs).uses p r = true)
    (hq : (s.serveAll rs).uses q r = false) (hj : s.LastUse rs q j) : s.UsedAfter (rs ++ [r]) p q :=
  ⟨rs.length, j, lastUse_concat_of_uses hp, hj.concat hq, lt_length_of_usesAt hj.used⟩

/-! ### The order of a store after some requests -/

/-- The paths in a store stand in the order in which some requests last used them. -/
structure InOrderOfUse (s : Store) (rs : List Request) : Prop where
  used : ∀ p ∈ (s.serveAll rs).keys, ∃ i, s.LastUse rs p i
  ordered : (s.serveAll rs).keys.Pairwise fun p q => s.UsedAfter rs p q

theorem InOrderOfUse.concat (h : s.InOrderOfUse rs) (hs : s.Sound) (r : Request) :
    s.InOrderOfUse (rs ++ [r]) := by
  have hr := (hs.serveAll rs).reordered r
  have hserve : s.serveAll (rs ++ [r]) = (s.serveAll rs).serve r := serveAll_append s rs [r]
  rw [← hserve] at hr
  generalize hkeys : (s.serveAll (rs ++ [r])).keys = keys at hr
  cases hr with
  | used p rest hp hrest hunused =>
    refine ⟨fun q hq => ?_, ?_⟩ <;> rw [hkeys] at *
    · rcases List.mem_cons.1 hq with rfl | hq
      · exact ⟨_, lastUse_concat_of_uses hp⟩
      · obtain ⟨j, hj⟩ := h.used q (hrest.subset hq)
        exact ⟨j, hj.concat (hunused q hq)⟩
    · refine List.pairwise_cons.2 ⟨fun q hq => ?_, ?_⟩
      · obtain ⟨j, hj⟩ := h.used q (hrest.subset hq)
        exact usedAfter_concat_of_uses hp (hunused q hq) hj
      · exact (h.ordered.sublist hrest).imp_of_mem fun hq hq' hu => hu.concat (hunused _ hq) (hunused _ hq')
  | unused keys hsub hunused =>
    refine ⟨fun q hq => ?_, ?_⟩ <;> rw [hkeys] at *
    · obtain ⟨j, hj⟩ := h.used q (hsub.subset hq)
      exact ⟨j, hj.concat (hunused q)⟩
    · exact (h.ordered.sublist hsub).imp fun hu => hu.concat (hunused _) (hunused _)

theorem InOrderOfUse.append (h : s.InOrderOfUse rs) (hs : s.Sound) (rs' : List Request) :
    s.InOrderOfUse (rs ++ rs') := by
  induction rs' generalizing rs with
  | nil => simpa using h
  | cons r rs' ih => simpa using ih (h.concat hs r)

theorem inOrderOfUse_new (maxEntries maxBytes : Nat) (rs : List Request) :
    (Store.new maxEntries maxBytes).InOrderOfUse rs := by
  have hnil : (Store.new maxEntries maxBytes).InOrderOfUse [] :=
    ⟨by simp [serveAll, Store.new, keys], .nil⟩
  exact hnil.append (.new maxEntries maxBytes) rs

/-- What gives way to a put was last used before all that is there after it. -/
theorem InOrderOfUse.put (h : s.InOrderOfUse rs) (hs : s.Sound) {gone : List Path}
    (hput : (s.serveAll rs).put p a f = .ok (t, gone)) {k : Path} (hq : q ∈ gone) (hk : k ∈ t.keys) :
    s.UsedAfter (rs ++ [.call (.put p a f)]) k q := by
  by_cases ha : a.fingerprint = f
  · obtain ⟨kept, dropped, hsplit, -, -, heq⟩ := put_eq (p := p) (hs.serveAll rs).toCounted a ha
    rw [heq] at hput
    obtain ⟨rfl, rfl⟩ := Prod.mk.inj (Except.ok.inj hput)
    have hothers : (kept ++ dropped).map (·.key) = ((s.serveAll rs).others p).map (·.key) := by rw [hsplit]
    have hmem : ∀ d ∈ kept ++ dropped, (s.serveAll rs).uses d.key (.call (.put p a f)) = false ∧
        ∃ j, s.LastUse rs d.key j := by
      intro d hd
      have hd : d.key ∈ ((s.serveAll rs).others p).map (·.key) := hothers ▸ List.mem_map_of_mem hd
      exact ⟨by simp [uses, not_same_of_mem_keys_others hd], h.used _ ((others_sublist.map _).subset hd)⟩
    obtain ⟨d, hd, rfl⟩ := List.mem_map.1 hq
    have hd : d ∈ dropped := List.mem_reverse.1 hd
    obtain ⟨hunused, j, hj⟩ := hmem d (List.mem_append_right _ hd)
    rcases List.mem_cons.1 (show k ∈ _ :: kept.map (·.key) from hk) with rfl | hk
    · refine usedAfter_concat_of_uses ?_ hunused hj
      simp [uses, heq, (front_same (s.serveAll rs) ⟨p, a, f, a.size⟩).symm, Except.toBool]
    · obtain ⟨e, he, rfl⟩ := List.mem_map.1 hk
      -- Before the put, what stays stood in front of what gives way.
      have hbefore : ((kept ++ dropped).map (·.key)).Pairwise fun p q => s.UsedAfter rs p q :=
        hothers ▸ h.ordered.sublist (others_sublist.map _)
      rw [List.map_append, List.pairwise_append] at hbefore
      have hed := hbefore.2.2 e.key (List.mem_map_of_mem he) d.key (List.mem_map_of_mem hd)
      exact hed.concat (hmem e (List.mem_append_left _ he)).1 hunused
  · rw [put_of_ne ha] at hput
    cases hput

/-- After any requests to an empty store, every path in it has been used, and the paths stand in the order
of their last uses, the latest first. One more request leaves the order of all that it does not use, as
far as it is still there. And whenever something gives way to a put, all that is there after the put was
last used later. -/
theorem run_new_recency (maxEntries maxBytes : Nat) (rs : List Request) :
    let s := Store.new maxEntries maxBytes
    let t := s.serveAll rs
    (∀ p ∈ t.keys, ∃ i, s.LastUse rs p i) ∧
      t.keys.Pairwise (fun p q => s.UsedAfter rs p q) ∧
      (∀ r, ((t.serve r).keys.filter (!t.uses · r)).Sublist t.keys) ∧
      ∀ p a f u gone, t.put p a f = .ok (u, gone) → ∀ q ∈ gone, ∀ k ∈ u.keys,
        s.UsedAfter (rs ++ [.call (.put p a f)]) k q := by
  intro s t
  have hs : s.Sound := .new maxEntries maxBytes
  have h : s.InOrderOfUse rs := inOrderOfUse_new maxEntries maxBytes rs
  refine ⟨h.used, h.ordered, fun r => ?_, fun p a f u gone hput q hq k hk => h.put hs hput hq hk⟩
  exact ((hs.serveAll rs).reordered r).filter_sublist

/-- Three requests to a store with room for two entries: two puts, and a look-up of the path that was put
first, for another content. -/
def twoPutsAndALook : List Request :=
  [.call (.put ⟨"a"⟩ (.unsupported ⟨"a"⟩ ⟨1, "00"⟩) ⟨1, "00"⟩),
    .call (.put ⟨"b"⟩ (.unsupported ⟨"b"⟩ ⟨1, "00"⟩) ⟨1, "00"⟩),
    .call (.get ⟨"a"⟩ ⟨2, "01"⟩)]

/-- After them, a third path makes the one give way that was put last. -/
theorem put_twoPutsAndALook :
    ∃ u, ((Store.new 2 1000).serveAll twoPutsAndALook).put ⟨"c"⟩ (.unsupported ⟨"c"⟩ ⟨1, "00"⟩) ⟨1, "00"⟩ =
      .ok (u, [⟨"b"⟩]) ∧ u.keys = [⟨"c"⟩, ⟨"a"⟩] := by
  have hput : (((Store.new 2 1000).serveAll twoPutsAndALook).put ⟨"c"⟩ (.unsupported ⟨"c"⟩ ⟨1, "00"⟩)
      ⟨1, "00"⟩).map (fun u => (u.1.keys, u.2)) = .ok ([⟨"c"⟩, ⟨"a"⟩], [⟨"b"⟩]) := by decide +kernel
  generalize Store.put _ _ _ _ = result at hput ⊢
  cases result with
  | error e => cases hput
  | ok r =>
    obtain ⟨hkeys, hgone⟩ := Prod.mk.inj (Except.ok.inj hput)
    exact ⟨r.1, by rw [← hgone], hkeys⟩

/-- It was used last before the one that was looked up, though it was put later. -/
theorem run_new_recency_twoPutsAndALook :
    let s := Store.new 2 1000
    let a := Analysis.unsupported ⟨"c"⟩ ⟨1, "00"⟩
    ∃ u, (s.serveAll twoPutsAndALook).put ⟨"c"⟩ a ⟨1, "00"⟩ = .ok (u, [⟨"b"⟩]) ∧ ⟨"a"⟩ ∈ u.keys ∧
      s.UsedAfter (twoPutsAndALook ++ [.call (.put ⟨"c"⟩ a ⟨1, "00"⟩)]) ⟨"a"⟩ ⟨"b"⟩ := by
  intro s a
  obtain ⟨u, hput, hkeys⟩ := put_twoPutsAndALook
  have hstays : ⟨"a"⟩ ∈ u.keys := by simp [hkeys]
  have h := (run_new_recency 2 1000 twoPutsAndALook).2.2.2
  exact ⟨u, hput, hstays, h _ _ _ u _ hput ⟨"b"⟩ (List.mem_singleton_self _) ⟨"a"⟩ hstays⟩

end Store
end SymbolIndex
