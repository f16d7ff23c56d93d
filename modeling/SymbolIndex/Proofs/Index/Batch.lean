import SymbolIndex.Index.Analyze
import SymbolIndex.Proofs.FileSystem.Key
import SymbolIndex.Proofs.Index.Progress
import SymbolIndex.Proofs.Index.Transparency

/-!
# Many files at once

Calls for many files share a store and wait for each other, but while the files stay as they are, each
comes to what its file comes to by itself (`Session.isPointwise_report`): what a call reads is what is
under the key of its path (`World.Reads`), and what it answers is the analysis of that
(`World.agree_of_finished`).
-/
namespace SymbolIndex

/-- What the analysis of a file comes to if nothing is stored. -/
def Registry.answer (registry : Registry) (config : Config) (fs : FileSystem) (p : Path) : Answer :=
  match Source.load fs config (fs.key p) with
  | .error e => .error e
  | .ok s => registry.analyze s

/-- Two answers that differ at most in the spelling of a path. -/
inductive Answer.Same : Answer → Answer → Prop
  | ok {a b : Analysis} (h : a.Same b) : Same (.ok a) (.ok b)
  | error (e : IndexError) : Same (.error e) (.error e)

/-- Two answers that differ at most in the spelling of a path, and that only if the current directory
is no directory. -/
structure FileSystem.Agree (fs : FileSystem) (r r' : Answer) : Prop where
  same : Answer.Same r r'
  eq : fs.Grounded → r = r'

variable {registry : Registry} {config : Config} {fs : FileSystem} {p : Path} {i : Nat} {c : CallStage}
  {paths : List Path} {schedule : List Nat} {r : Answer}

theorem FileSystem.Agree.refl (fs : FileSystem) (r : Answer) : fs.Agree r r := by
  refine ⟨?_, fun _ => rfl⟩
  cases r with
  | ok a => exact .ok ⟨.refl _, rfl, rfl, rfl, rfl, rfl⟩
  | error e => exact .error e

/-- An index that has nothing in its store and knows no locks analyses what it reads. -/
theorem Index.analyze_fresh {x : Index} (hc : x.store.Counted) (hp : ∀ key f, x.store.peek? key f = none)
    (hl : x.locks = []) (fs : FileSystem) (p : Path) :
    (x.analyze fs p).2 = x.registry.answer x.config fs p := by
  unfold Registry.answer
  cases hs : Source.load fs x.config (fs.key p) with
  | error e => rw [analyze_of_error hs]
  | ok s =>
    have hmiss := analyze_of_miss hs hc (hp s.key s.fingerprint) (by rw [hl]; rfl)
    cases ha : x.registry.analyze s with
    | error e =>
      simp only [ha] at hmiss
      rw [hmiss]
      exact ha.symm
    | ok a =>
      simp only [ha] at hmiss
      rw [hmiss, keep_answer _ _ _ (Registry.analyze_fingerprint ha)]
      exact ha.symm

theorem Index.analyze_new {x : Index} (h : Index.new config registry = .ok x) (fs : FileSystem) (p : Path) :
    (x.analyze fs p).2 = registry.answer config fs p := by
  rw [new_eq_ok h]
  exact analyze_fresh (Store.Sound.new _ _).toCounted (fun _ _ => rfl) rfl fs p

namespace World
variable {w : World}

/-- Calls that are asked for and then take steps do so as in a session. -/
theorem session_run_asked (x : Index) (fs : FileSystem) (paths : List Path) (schedule : List Nat) :
    ((start x fs).run (paths.map .ask ++ schedule.map .advance)).session =
      (Session.start x paths).run fs schedule := by
  obtain ⟨hs, hf⟩ := run_ask (start x fs) paths
  rw [run_append, (run_advance _ _).1, hs, hf]
  rfl

/-- A call for a path at a stage goes with what is under the key of the path. -/
def Heads (config : Config) (fs : FileSystem) (p : Path) (source? : Option Source) : CallStage → Prop
  | .started q => q = p
  | .located key => key = fs.key p
  | .loaded _ outcome => outcome = Source.load fs config (fs.key p)
  | .finished (.error e) => source? = none → Source.load fs config (fs.key p) = .error e
  | _ => True

/-- The calls of a world are those for some paths, and read what is under the keys of these. -/
structure Reads (config : Config) (fs : FileSystem) (paths : List Path) (w : World) : Prop where
  files_eq : w.files = fs
  config_eq : w.index.config = config
  source : ∀ i p s, paths[i]? = some p → w.source? i = some s → Source.load fs config (fs.key p) = .ok s
  stage : ∀ i p c, paths[i]? = some p → w.calls[i]? = some c → Heads config fs p (w.source? i) c

theorem exists_advance_eq (hc : w.calls[i]? = some c) :
    ∃ x c', Index.Advance w.index w.files w.calls c x c' ∧ w.advance i = { w with
      session := ⟨x, w.calls.set i c'⟩
      source? := fun j => if j = i then c'.read?.or (w.source? i) else w.source? j
      analyzed := w.analyzed ++ (w.index.examined? c).toList } :=
  ⟨_, _, Index.advance_cases .., by rw [advance, hc]⟩

theorem config_advance {x x' : Index} {calls : List CallStage} {c' : CallStage}
    (h : Index.Advance x fs calls c x' c') : x'.config = x.config := by
  cases h with
  | fail key e => exact (x.dropUnreadable_frame key e).2.1
  | refer s => exact (x.lockOf_frame s.key).2.1
  | examine s n a _ _ => exact (x.examine_frame s).2.1
  | giveUp s n e _ _ => exact (x.examine_frame s).2.1
  | keep s n a => exact (x.keep_frame s a).2.1
  | release s r => exact (x.releaseLock_frame s.key _).2.1
  | _ => rfl

/-- A call goes on with what is under the key of its path. -/
theorem Heads.advance {x x' : Index} {calls : List CallStage} {c' : CallStage} {source? : Option Source}
    (h : Heads x.config fs p source? c) (hs : Index.Advance x fs calls c x' c')
    (hd : ∀ s r, c = .detached s r → source? = some s) :
    Heads x.config fs p (c'.read?.or source?) c' := by
  cases hs with
  | locate q => exact congrArg fs.key h
  | load key =>
    cases h
    exact rfl
  | fail key e => exact fun _ => h.symm
  | release s r =>
    cases r with
    | ok a => trivial
    | error e => exact fun hn => by rw [hd s _ rfl] at hn; cases hn
  | rest r => exact h
  | _ => trivial

theorem Reads.advance (h : w.Reads config fs paths) (ht : w.Traced) (i : Nat) :
    (w.advance i).Reads config fs paths := by
  cases hc : w.calls[i]? with
  | none => rwa [World.advance, hc]
  | some c =>
    obtain ⟨x, c', hs, heq⟩ := exists_advance_eq hc
    obtain ⟨rfl, rfl, hsource, hstage⟩ := h
    rw [heq]
    refine ⟨rfl, config_advance hs, fun j p s hp hj => ?_, fun j p d hp hd => ?_⟩
    · by_cases hji : j = i
      · subst hji
        simp only [if_true] at hj
        rcases Option.or_eq_some_iff.1 hj with hr | ⟨-, hj⟩
        · obtain ⟨key, rfl, hl⟩ := hs.located_of_read? hr
          rwa [← show key = w.files.key p from hstage j p _ hp hc]
        · exact hsource j p s hp hj
      · exact hsource j p s hp (by simpa [hji] using hj)
    · rcases CallStage.getElem?_set_cases hd with ⟨rfl, rfl⟩ | ⟨hji, hd⟩
      · have hread : ∀ s r, c = .detached s r → w.source? j = some s := by
          rintro s r rfl
          exact (ht.stages j _ hc).1
        simpa using (hstage j p c hp hc).advance hs hread
      · simpa [hji] using hstage j p d hp hd

/-- What was asked for and not yet read is read from what is there. -/
theorem reads_asked (x : Index) (fs : FileSystem) (paths : List Path)
    (ht : ((start x fs).run (paths.map .ask)).Traced) :
    ((start x fs).run (paths.map .ask)).Reads x.config fs paths := by
  obtain ⟨hs, hf⟩ := run_ask (start x fs) paths
  have hcalls : ((start x fs).run (paths.map .ask)).calls = paths.map .started := congrArg Session.calls hs
  have hstarted : ∀ (i : Nat) (p : Path), paths[i]? = some p →
      ((start x fs).run (paths.map .ask)).calls[i]? = some (.started p) := by
    intro i p hp
    rw [hcalls, List.getElem?_map, hp]
    rfl
  refine ⟨hf, by rw [index, hs]; rfl, fun i p s hp hi => ?_, fun i p c hp hc => ?_⟩
  · have hnone := ht.stages i _ (hstarted i p hp)
    rw [show _ = none from hnone] at hi
    cases hi
  · rw [hstarted i p hp] at hc
    cases hc
    rfl

theorem reads_run {x : Index} (h : Index.new config registry = .ok x) (fs : FileSystem) (paths : List Path)
    (schedule : List Nat) :
    ((start x fs).run (paths.map .ask ++ schedule.map .advance)).Traced ∧
      ((start x fs).run (paths.map .ask ++ schedule.map .advance)).Reads config fs paths := by
  obtain rfl := Index.new_eq_ok h
  have ht := (Traced.start config registry config.maxEntries config.maxBytes fs).run (paths.map .ask)
  have hr := reads_asked _ fs paths ht
  rw [run_append]
  generalize (start _ fs).run (paths.map .ask) = w at ht hr
  refine ⟨ht.run _, ?_⟩
  induction schedule generalizing w with
  | nil => exact hr
  | cons i schedule ih => exact ih _ (ht.step (.advance i)) (hr.advance ht i)

/-- Whatever the order of the steps, a call that is finished has come to what its file comes to by itself. -/
theorem agree_of_finished (ht : w.Traced) (h : w.Reads config fs paths) (hp : paths[i]? = some p)
    (hlen : w.calls.length = paths.length)
    (hc : w.calls[i]? = some (.finished r)) : fs.Agree r (w.index.registry.answer config fs p) := by
  have hanswered := ht.stages i _ hc
  cases r with
  | error e =>
    have herror : w.index.registry.answer config fs p = .error e := by
      unfold Registry.answer
      cases hs : w.source? i with
      | none => rw [show Source.load fs config (fs.key p) = .error e from h.stage i p _ hp hc hs]
      | some s => rw [h.source i p s hp hs]; exact hanswered s hs
    rw [herror]
    exact .refl fs _
  | ok a =>
    obtain ⟨s, hs, j, t, ht', hk, hf, ha, -⟩ := hanswered
    obtain ⟨q, hq⟩ : ∃ q, paths[j]? = some q := by
      have hj : j < w.calls.length := by
        refine Nat.lt_of_not_le fun hj => ?_
        rw [ht.unasked j (List.getElem?_eq_none hj)] at ht'
        cases ht'
      exact ⟨_, List.getElem?_eq_getElem (hlen ▸ hj)⟩
    have hls := h.source i p s hp hs
    have hlt := h.source j q t hq ht'
    have hanswer : w.index.registry.answer config fs p = w.index.registry.analyze s := by
      rw [Registry.answer, hls]
    obtain ⟨b, hb, hsame⟩ := Registry.analyze_congr hk (Source.content_congr hlt hls hk) hf ha
    rw [hanswer, hb]
    refine ⟨.ok hsame, fun hfs => ?_⟩
    obtain rfl := Source.eq_of_same hfs hlt hls hk
    rw [← ha, hb]

end World

/-- How some files have come out in a session with a call for each. -/
def Session.report (s : Session) (paths : List Path) : List ReportEntry := paths.zipWith .mk s.answers

/-- In a report on some files, each of them, in order, comes out as it does by itself. -/
structure Index.IsPointwise (x : Index) (fs : FileSystem) (paths : List Path) (report : List ReportEntry) :
    Prop where
  paths_eq : report.map (·.path) = paths
  agree : ∀ r ∈ report, fs.Agree r.outcome (x.analyze fs r.path).2

theorem Session.Finished.calls_eq {s : Session} (h : s.Finished) : s.calls = s.answers.map .finished := by
  suffices ∀ calls : List CallStage, (∀ c ∈ calls, ∃ r, c = .finished r) →
      calls = (calls.filterMap CallStage.answer?).map .finished from this s.calls h
  intro calls hcalls
  induction calls with
  | nil => rfl
  | cons c calls ih =>
    obtain ⟨r, rfl⟩ := hcalls c List.mem_cons_self
    have hrest := ih fun d hd => hcalls d (List.mem_cons_of_mem _ hd)
    rw [List.filterMap_cons_some (by rfl), List.map_cons, ← hrest]

/-- Calls for some files at an index that has nothing stored come, in whatever order they take their
steps, to what each file comes to by itself. -/
theorem Session.isPointwise_report {x : Index} (h : Index.new config registry = .ok x) (fs : FileSystem)
    (paths : List Path) (schedule : List Nat) (hf : ((start x paths).run fs schedule).Finished) :
    x.IsPointwise fs paths (((start x paths).run fs schedule).report paths) := by
  obtain ⟨ht, hr⟩ := World.reads_run h fs paths schedule
  have hsession := World.session_run_asked x fs paths schedule
  have hregistry := World.registry_run (World.start x fs) (paths.map .ask ++ schedule.map .advance)
  generalize (World.start x fs).run (paths.map .ask ++ schedule.map .advance) = w at ht hr hsession hregistry
  have hlength : w.calls.length = paths.length := by
    rw [World.calls, hsession, length_run]
    exact List.length_map ..
  rw [← hsession] at hf ⊢
  have hcalls : w.calls = w.session.answers.map .finished := hf.calls_eq
  have hanswers : w.session.answers.length = paths.length := by rwa [hcalls, List.length_map] at hlength
  refine ⟨?_, fun r hmem => ?_⟩
  · calc (w.session.report paths).map (·.path)
      _ = (paths.zip w.session.answers).map Prod.fst := by
        rw [report, List.map_zipWith, List.map_zip_eq_zipWith]
        rfl
      _ = paths := List.map_fst_zip (Nat.le_of_eq hanswers.symm)
  · obtain ⟨i, hi⟩ := List.mem_iff_getElem?.1 hmem
    obtain ⟨p, outcome, hp, ho, rfl⟩ := List.getElem?_zipWith_eq_some.1 hi
    have hc : w.calls[i]? = some (.finished outcome) := by rw [hcalls, List.getElem?_map, ho]; rfl
    have hagree := World.agree_of_finished ht hr hp hlength hc
    have hx : x.registry = registry := by rw [Index.new_eq_ok h]; rfl
    rwa [hregistry, show (World.start x fs).index.registry = registry from hx,
      ← Index.analyze_new h] at hagree

end SymbolIndex
