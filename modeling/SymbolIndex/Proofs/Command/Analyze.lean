import SymbolIndex.Command.Analyze
import SymbolIndex.Proofs.Command.Arguments
import SymbolIndex.Proofs.Index.Batch
import SymbolIndex.Proofs.Json.Line

/-!
# What the command that analyses files tells

Its report is that of the calls for the files, in whatever order these take their steps, and it fails if
none of the files can be analysed by itself (`Command.analyze_pointwise`). It can be asked for any files, as
long as there are some and none of their paths is empty.
-/
namespace SymbolIndex

/-- An entry has either the summary of an analysis or an error. -/
theorem ReportEntry.toJson_cases (r : ReportEntry) :
    (∃ a, r.outcome = .ok a ∧
      r.toJson = .object [("path", r.path.text), ("ok", true), ("result", a.summary.toJson)]) ∨
    ∃ e, r.outcome = .error e ∧
      r.toJson = .object [("path", r.path.text), ("ok", false), ("error", e.toJson)] := by
  obtain ⟨p, outcome⟩ := r
  cases outcome with
  | ok a => exact .inl ⟨a, rfl, rfl⟩
  | error e => exact .inr ⟨e, rfl, rfl⟩

/-- Two answers that differ at most in the spelling of a path are both errors or none is. -/
theorem Answer.Same.error_iff {r r' : Answer} (h : Answer.Same r r') :
    (∃ e, r = .error e) ↔ ∃ e, r' = .error e := by
  cases h with
  | ok h => simp
  | error e => exact Iff.rfl

/-- All files of a report failed if each of them fails by itself. -/
theorem Index.IsPointwise.failed_iff {x : Index} {fs : FileSystem} {paths : List Path}
    {report : List ReportEntry} (h : x.IsPointwise fs paths report) :
    (∀ r ∈ report, ∃ e, r.outcome = .error e) ↔ ∀ p ∈ paths, ∃ e, (x.analyze fs p).2 = .error e := by
  rw [← h.paths_eq, List.forall_mem_map]
  exact forall₂_congr fun r hr => (h.agree r hr).same.error_iff

namespace Command

/-- What the command comes to if the calls for the files take their steps in some order. -/
def analyzeIn (schedule : List Nat) (fs : FileSystem) (v : Verbosity) (a : AnalyzeArguments) : Outcome :=
  let index := do openIndex (← loadConfig fs a.config)
  match index with
  | .error f => .ofFailure? [] [] (some f)
  | .ok x =>
    let s := (Session.start x a.paths).run fs schedule
    let report := s.report a.paths
    .ofFailure? (reportLines a.pretty report)
      (v.select (reportLog report ++ [⟨.debug, s.index.statsText⟩])) (reportFailure? report)

/-- The command takes the calls for the files in turn. -/
theorem analyze_eq_analyzeIn (fs : FileSystem) (v : Verbosity) (a : AnalyzeArguments) :
    analyze fs v a = analyzeIn (Session.inTurn a.paths.length CallStage.lookUpSteps ++
      Session.inTurn a.paths.length CallStage.remainingSteps) fs v a := rfl

theorem openIndex_eq_ok {config : Config} {x : Index} (h : openIndex config = .ok x) :
    Index.new config .builtins = .ok x := by
  unfold openIndex at h
  cases hx : Index.new config .builtins with
  | error e => rw [hx] at h; cases h
  | ok y => rw [hx] at h; exact congrArg Except.ok (Except.ok.inj h)

theorem output_ofFailure? (output : List String) (log : List LogLine) (f? : Option Failure) :
    (Outcome.ofFailure? output log f?).output = output := by
  cases f? <;> rfl

/-- The command fails if all files of the report failed. -/
theorem code_ne_zero_iff (output : List String) (log : List LogLine) (report : List ReportEntry) :
    (Outcome.ofFailure? output log (reportFailure? report)).code ≠ 0 ↔
      ∀ r ∈ report, ∃ e, r.outcome = .error e := by
  have hall : report.all (!·.isOk) = true ↔ ∀ r ∈ report, ∃ e, r.outcome = .error e := by
    rw [List.all_eq_true]
    refine forall₂_congr fun r _ => ?_
    obtain ⟨p, outcome⟩ := r
    cases outcome <;> simp [ReportEntry.isOk]
  rw [← hall, reportFailure?]
  split <;> simp [Outcome.ofFailure?, *]

/-- What the command comes to tells how each of the files comes out by itself. -/
structure Tells (x : Index) (fs : FileSystem) (a : AnalyzeArguments) (report : List ReportEntry)
    (o : Outcome) : Prop where
  pointwise : x.IsPointwise fs a.paths report
  output : o.output = report.flatMap fun r => Text.lines (entryText a.pretty r)
  /-- Without line breaks inside the entries there is one line for each file. -/
  line : a.pretty = false → o.output = report.map (·.toJson.compact)
  entry : ∀ r ∈ report,
    (∃ b, r.outcome = .ok b ∧
      r.toJson = .object [("path", r.path.text), ("ok", true), ("result", b.summary.toJson)]) ∨
    ∃ e, r.outcome = .error e ∧
      r.toJson = .object [("path", r.path.text), ("ok", false), ("error", e.toJson)]
  code : o.code ≠ 0 ↔ ∀ p ∈ a.paths, ∃ e, (x.analyze fs p).2 = .error e

theorem reportLines_compact (report : List ReportEntry) :
    reportLines false report = report.map (·.toJson.compact) := by
  rw [reportLines, List.map_eq_flatMap]
  exact congrArg (List.flatMap · report) (funext fun r => Json.lines_compact r.toJson)

theorem tells_analyzeIn {fs : FileSystem} {v : Verbosity} {a : AnalyzeArguments} {config : Config} {x : Index}
    (hc : loadConfig fs a.config = .ok config) (hx : openIndex config = .ok x) (schedule : List Nat)
    (hf : ((Session.start x a.paths).run fs schedule).Finished) :
    Tells x fs a (((Session.start x a.paths).run fs schedule).report a.paths)
      (analyzeIn schedule fs v a) := by
  have hpointwise := Session.isPointwise_report (openIndex_eq_ok hx) fs a.paths schedule hf
  have hindex : (do openIndex (← loadConfig fs a.config)) = .ok x := by rw [hc]; exact hx
  unfold analyzeIn
  simp only [hindex]
  refine ⟨hpointwise, ?_, fun hp => ?_, fun r _ => r.toJson_cases, ?_⟩
  · rw [output_ofFailure?]
    rfl
  · rw [output_ofFailure?, hp, reportLines_compact]
  · rw [code_ne_zero_iff, hpointwise.failed_iff]

/-- A batch of calls is the pointwise map of single calls, whatever the order of their steps, and
each such order comes to an end if every call has its turns. The command tells just that, of whatever
paths its arguments name, which are some and none of them empty; and all such paths can be named. -/
theorem analyze_pointwise (fs : FileSystem) :
    (∀ (config : Config) (registry : Registry) (x : Index), Index.new config registry = .ok x →
      ∀ paths : List Path,
        (∀ schedule : List Nat, ((Session.start x paths).run fs schedule).Finished →
          x.IsPointwise fs paths (((Session.start x paths).run fs schedule).report paths)) ∧
        (∀ rounds : List (List Nat), (∀ round ∈ rounds, ∀ i < paths.length, i ∈ round) →
          10 * paths.length ≤ rounds.length → ((Session.start x paths).run fs rounds.flatten).Finished) ∧
        x.IsPointwise fs paths (x.analyzeMany fs paths).2) ∧
    (∀ (v : Verbosity) (a : AnalyzeArguments) (config : Config) (x : Index),
      loadConfig fs a.config = .ok config → openIndex config = .ok x →
        (∀ schedule : List Nat, ((Session.start x a.paths).run fs schedule).Finished →
          Tells x fs a (((Session.start x a.paths).run fs schedule).report a.paths)
            (analyzeIn schedule fs v a)) ∧
        Tells x fs a (x.analyzeMany fs a.paths).2 (analyze fs v a)) ∧
    (∀ (args : List String) (v : Verbosity) (a : AnalyzeArguments), Request.ofArguments args = .analyze v a →
      a.paths ≠ [] ∧ ∀ p ∈ a.paths, p.text ≠ "") ∧
    ∀ paths : List Path, paths ≠ [] → (∀ p ∈ paths, p.text ≠ "") →
      Request.ofArguments ("analyze" :: "--" :: paths.map (·.text)) =
        .analyze ⟨false, false⟩ ⟨paths, none, false⟩ := by
  refine ⟨?_, ?_, fun _ _ _ => Request.paths_of_analyze, fun _ => Request.ofArguments_analyze⟩
  · intro config registry x h paths
    have hevery := Session.isPointwise_report h fs paths
    refine ⟨hevery, fun rounds hall hn => ?_, hevery _ (Session.finished_inTurn x fs paths)⟩
    refine Session.finished_of_rounds rounds ?_ ((Session.stepsLeft_start x paths).symm ▸ hn)
    rwa [show (Session.start x paths).calls.length = paths.length from List.length_map ..]
  · intro v a config x hc hx
    have hevery := tells_analyzeIn (v := v) hc hx
    refine ⟨hevery, ?_⟩
    rw [analyze_eq_analyzeIn]
    exact hevery _ (Session.finished_inTurn x fs a.paths)

/-- Two spellings of the path of a script and a file that is missing, at an index with room for one
analysis, and a command for missing files only. -/
theorem analyze_pointwise_script :
    let config : Config := { Config.standard with maxEntries := 1 }
    let x := Index.over config Script.registry (.new 1 config.maxBytes)
    let paths : List Path := [⟨"/a.py"⟩, ⟨"/./a.py"⟩, ⟨"/b.py"⟩]
    let report :=
      ((Session.start x paths).run Script.files (List.replicate 30 [2, 1, 0]).flatten).report paths
    report.map (·.path) = paths ∧ (∀ r ∈ report, r.outcome = (x.analyze Script.files r.path).2) ∧
      Request.ofArguments ["analyze", "--", "/b.py", "/./b.py"] =
        .analyze ⟨false, false⟩ ⟨[⟨"/b.py"⟩, ⟨"/./b.py"⟩], none, false⟩ ∧
      (analyze Script.files ⟨false, false⟩ ⟨[⟨"/b.py"⟩, ⟨"/./b.py"⟩], none, false⟩).code ≠ 0 := by
  intro config x paths report
  obtain ⟨hbatch, hcommand, -, hasked⟩ := analyze_pointwise Script.files
  obtain ⟨hevery, hends, -⟩ := hbatch config Script.registry x rfl paths
  have hfinished := hends (List.replicate 30 [2, 1, 0])
    (fun round hround => by rw [List.eq_of_mem_replicate hround]; decide) (by decide)
  have hreport : x.IsPointwise Script.files paths report := hevery _ hfinished
  refine ⟨hreport.paths_eq, fun r hr => (hreport.agree r hr).eq ⟨nofun, _, rfl⟩,
    hasked [⟨"/b.py"⟩, ⟨"/./b.py"⟩] (by simp) (by simp), ?_⟩
  obtain ⟨-, htells⟩ := hcommand ⟨false, false⟩ ⟨[⟨"/b.py"⟩, ⟨"/./b.py"⟩], none, false⟩ .standard
    (.over .standard .builtins (.new Config.standard.maxEntries Config.standard.maxBytes)) rfl rfl
  have hdir : Script.files.canonical ⟨"/"⟩ = .ok ⟨"/"⟩ := FileSystem.canonical_of_resolveIn 9 rfl
  have hmissing : ∀ p, Script.files.key p = ⟨"/b.py"⟩ →
      ∃ e, Source.load Script.files .standard (Script.files.key p) = .error e := by
    intro p hp
    have hnode : Script.files.node ⟨"/b.py"⟩ = .error .notFound := FileSystem.node_of_resolveIn 9 rfl
    exact ⟨_, by rw [hp, Source.load, hnode]⟩
  refine htells.code.2 fun p hp => ?_
  obtain ⟨e, he⟩ : ∃ e, Source.load Script.files .standard (Script.files.key p) = .error e := by
    refine hmissing _ ?_
    simp only [List.mem_cons, List.not_mem_nil, or_false] at hp
    rcases hp with rfl | rfl <;>
      exact FileSystem.key_of_missing (FileSystem.canonical_of_resolveIn 9 rfl) hdir (by decide +kernel)
  exact ⟨e, congrArg Prod.snd (Index.analyze_of_error he)⟩

/-- If one of the paths is empty, there is no report, though another one can be analysed. -/
theorem analyze_pointwise_empty :
    let fs : FileSystem := ⟨.directory [("a", .file ⟨#[]⟩)], []⟩
    Request.ofArguments ["analyze", "", "/a"] = .misuse ∧ misuse.code ≠ 0 ∧ misuse.output = [] ∧
      ∃ x a, openIndex .standard = .ok x ∧ (x.analyze fs ⟨"/a"⟩).2 = .ok a := by
  intro fs
  refine ⟨by decide +kernel, by decide, rfl, _, .unsupported ⟨"/a"⟩ (.ofBytes ⟨#[]⟩), rfl, ?_⟩
  have hload : Source.load fs .standard (fs.key ⟨"/a"⟩) = .ok ⟨⟨"/a"⟩, ⟨#[]⟩, .ofBytes ⟨#[]⟩⟩ := by
    rw [show fs.key ⟨"/a"⟩ = ⟨"/a"⟩ from FileSystem.key_of_resolveIn 9 rfl]
    exact Source.load_file (FileSystem.node_of_resolveIn 9 rfl) (Nat.zero_le _)
  have hunknown : Registry.builtins.analyzerFor? ⟨⟨"/a"⟩, ⟨#[]⟩, .ofBytes ⟨#[]⟩⟩ = none := by
    rw [Registry.analyzerFor?,
      show Language.ofFile ⟨"/a"⟩ (ByteArray.toList ⟨#[]⟩) = .unknown by decide +kernel]
    rfl
  have hnew : Index.new .standard .builtins = .ok _ := rfl
  rw [Index.analyze_new hnew, Registry.answer, hload]
  simp only [Registry.analyze, hunknown]

end Command
end SymbolIndex
