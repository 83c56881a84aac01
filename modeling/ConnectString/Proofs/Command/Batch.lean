/-
  ConnectString.Proofs.Command.Batch — a batch resolves each of its urls by itself.

  The outcome at each place of a batch is the one of the url at that place (`value_resolveAll`), so what is done to the
  list of urls is done to the list of outcomes, and nothing else. The strict rule makes a batch fail that would not
  fail without it, and changes neither what is written nor what is reported to the log (`runResolve_strict`).

  Main statement: what a batch writes, how it ends and what it counts, for all settings and lists that can be read
  (`runResolve_pointwise`).
-/

import ConnectString.Command.Run
import ConnectString.Proofs.Command.Console
import ConnectString.Toml.Standard

namespace ConnectString.Command

def results (limit : Nat) (urls : List Text) : List Outcome := (Batch.resolveAll limit urls).value

/-- The items at the given places, in the order of the places. -/
def pick {α : Type} (xs : List α) (places : List Nat) : List α := places.filterMap (xs[·]?)

/-! ## Outcomes -/

variable (limit : Nat)

theorem results_eq_map (urls : List Text) : results limit urls = urls.map fun url => (resolve limit (some url)).value := by
  induction urls with
  | nil => rfl
  | cons url urls ih =>
    rw [List.map_cons, ← ih]
    rfl

theorem getElem?_results (urls : List Text) (i : Nat) :
    (results limit urls)[i]? = urls[i]?.map fun url => (resolve limit (some url)).value := by
  rw [results_eq_map, List.getElem?_map]

theorem length_results (urls : List Text) : (results limit urls).length = urls.length := by
  rw [results_eq_map, List.length_map]

theorem results_append (us vs : List Text) : results limit (us ++ vs) = results limit us ++ results limit vs := by
  simp only [results_eq_map, List.map_append]

/-- Urls left out, put in another order or taken twice are outcomes left out, put in that order or taken twice. -/
theorem results_pick (urls : List Text) (places : List Nat) :
    results limit (pick urls places) = pick (results limit urls) places := by
  induction places with
  | nil => rfl
  | cons i places ih =>
    rw [results_eq_map] at ih ⊢
    simp only [pick, List.filterMap_cons, getElem?_results] at ih ⊢
    rcases urls[i]? with _ | url
    · exact ih
    · rw [Option.map_some, List.map_cons, ih]

/-! ## Counts -/

variable (os : List Outcome)

def failures : Nat := os.countP fun o => !o.isComplete

theorem countUnresolved_eq : Batch.countUnresolved os = failures os := List.countP_eq_length_filter.symm

theorem countResolved_add_failures : Batch.countResolved os + failures os = os.length := by
  rw [Batch.countResolved, ← List.countP_eq_length_filter, failures]
  simpa using (List.length_eq_countP_add_countP Outcome.isComplete (l := os)).symm

theorem failures_eq_zero_iff : failures os = 0 ↔ ∀ o ∈ os, o.isComplete = true := by
  simp [failures, List.countP_eq_zero]

/-! ## Runs -/

variable {codec : Toml.Codec} {dir : Workdir} {env : Environment} {o : ResolveOptions}

/-- A run with settings and a list that can be read reports on the outcomes of its urls. -/
theorem value_runResolve {s : Settings} {list : Option Text}
    (hs : (loadSettings codec dir env env o.config).value = .ok s) (hlist : readList dir o.file = .ok list) :
    (runResolve codec dir env o).value =
      if collectUrls o.urls list = [] then .failed .noUrls
      else reportBatch o.json o.strict (results s.maxDepth (collectUrls o.urls list)) := by
  rw [runResolve, Logged.value_bind, hs]
  simp only [hlist]
  cases collectUrls o.urls list with
  | nil => rfl
  | cons url urls => rfl

/-- The strict rule changes neither what a run writes nor what it reports to the log, whatever becomes of it. -/
theorem runResolve_strict (strict : Bool) :
    (runResolve codec dir env { o with strict := strict }).value.output = (runResolve codec dir env o).value.output ∧
      (runResolve codec dir env { o with strict := strict }).events = (runResolve codec dir env o).events := by
  unfold runResolve
  simp only [Logged.value_bind, Logged.events_bind]
  cases (loadSettings codec dir env env o.config).value with
  | error f => exact ⟨rfl, rfl⟩
  | ok s =>
    cases readList dir o.file with
    | error fault => exact ⟨rfl, rfl⟩
    | ok list =>
      dsimp only
      cases collectUrls o.urls list with
      | nil => exact ⟨rfl, rfl⟩
      | cons url urls => exact ⟨rfl, rfl⟩

theorem exitCode_eq_zero_iff (r : Report) : r.exitCode = 0 ↔ r.failure = none := by
  rw [Report.exitCode]
  cases r.failure <;> simp

/-- A report on outcomes fails only under a strict rule, and only if one of them found nothing. -/
theorem exitCode_reportBatch_eq_zero_iff (json strict : Bool) :
    (reportBatch json strict os).exitCode = 0 ↔ strict = false ∨ ∀ r ∈ os, r.isComplete = true := by
  rw [exitCode_eq_zero_iff, ← failures_eq_zero_iff, reportBatch, countUnresolved_eq]
  cases strict <;> simp

theorem failure_reportBatch {json strict : Bool} (h : (reportBatch json strict os).exitCode ≠ 0) :
    (reportBatch json strict os).failure = some (.unresolved (failures os) os.length) := by
  rw [Ne, exitCode_eq_zero_iff] at h
  simp only [reportBatch, countUnresolved_eq] at h ⊢
  split at h
  · rename_i hfails
    rw [if_pos hfails]
  · exact absurd rfl h

/-- What is written of outcomes, and how many there are of each kind. -/
theorem output_reportBatch (hsome : os ≠ []) (json strict : Bool) :
    (reportBatch json strict os).output =
      if json then "[" ++ ",".intercalate (os.map Console.resultJson) ++ "\n]\n"
      else
        "\x1b[36m\x1b[1mResolve\x1b[0m\x1b[39m\n\x1b[2m=======\x1b[0m\n" ++
          String.join (os.map Console.resultText) ++
          "\n\x1b[1m\x1b[32m" ++ toString (os.countP fun r => r.isComplete) ++ "\x1b[39m\x1b[0m resolved, " ++
          "\x1b[1m\x1b[31m" ++ toString (os.countP fun r => !r.isComplete) ++ "\x1b[39m\x1b[0m unresolved\n" := by
  have hresolved : Batch.countResolved os = os.countP fun r => r.isComplete := List.countP_eq_length_filter.symm
  have hunresolved : (os.length - os.countP fun r => r.isComplete) = os.countP fun r => !r.isComplete := by
    rw [← hresolved, ← countResolved_add_failures os, Nat.add_sub_cancel_left, failures]
  have houtcome : Console.outcome = Console.resultText := funext Console.outcome_eq_resultText
  cases json
  · simp only [reportBatch, Batch.report, Bool.false_eq_true, if_false, hresolved, hunresolved, houtcome,
      Console.title_resolve, Console.totals_eq]
    apply String.toList_injective
    simp
  · simp only [reportBatch, Batch.json, if_true, Console.pretty_results hsome]
    apply String.toList_injective
    simp

/-- What a run writes that has settings and a list to read, and how it ends. Its outcomes are those of its urls, each
    resolved by itself, in their order and no others; so more urls are more outcomes, and fewer of them or another
    order are fewer outcomes or another order. The run succeeds if there are urls at all and, under the strict rule,
    each of them found something; if that rule makes it fail, it names the outcomes that found nothing and their
    total. What is written shows each outcome in its place, and the last line of the text counts the same two kinds of
    them, which are all there are. The rule changes nothing of what is written. -/
theorem runResolve_pointwise (codec : Toml.Codec) (dir : Workdir) (env : Environment) (o : ResolveOptions) {s : Settings}
    {list : Option Text} (hs : (loadSettings codec dir env env o.config).value = .ok s)
    (hlist : readList dir o.file = .ok list) :
    let urls := collectUrls o.urls list
    let os := results s.maxDepth urls
    let report := (runResolve codec dir env o).value
    (∀ i : Nat, os[i]? = urls[i]?.map fun url => (resolve s.maxDepth (some url)).value) ∧
      (∀ us vs, results s.maxDepth (us ++ vs) = results s.maxDepth us ++ results s.maxDepth vs) ∧
      (∀ us places, results s.maxDepth (pick us places) = pick (results s.maxDepth us) places) ∧
      (report.exitCode = 0 ↔ urls ≠ [] ∧ (o.strict = false ∨ ∀ r ∈ os, r.isComplete = true)) ∧
      (urls = [] → report = ⟨"", some .noUrls⟩) ∧
      (urls ≠ [] → report.exitCode ≠ 0 → report.failure = some (.unresolved (failures os) urls.length)) ∧
      (urls ≠ [] → report.output =
        if o.json then "[" ++ ",".intercalate (os.map Console.resultJson) ++ "\n]\n"
        else
          "\x1b[36m\x1b[1mResolve\x1b[0m\x1b[39m\n\x1b[2m=======\x1b[0m\n" ++
            String.join (os.map Console.resultText) ++
            "\n\x1b[1m\x1b[32m" ++ toString (os.countP fun r => r.isComplete) ++ "\x1b[39m\x1b[0m resolved, " ++
            "\x1b[1m\x1b[31m" ++ toString (os.countP fun r => !r.isComplete) ++ "\x1b[39m\x1b[0m unresolved\n") ∧
      ((os.countP fun r => r.isComplete) + failures os = urls.length) ∧
      ∀ strict, (runResolve codec dir env { o with strict := strict }).value.output = report.output ∧
        (runResolve codec dir env { o with strict := strict }).events = (runResolve codec dir env o).events := by
  intro urls os report
  have hreport : report = if urls = [] then .failed .noUrls else reportBatch o.json o.strict os :=
    value_runResolve hs hlist
  have htotal : (os.countP fun r => r.isComplete) + failures os = urls.length := by
    rw [← length_results s.maxDepth urls, ← countResolved_add_failures, Batch.countResolved,
      List.countP_eq_length_filter]
  refine ⟨getElem?_results _ urls, results_append _, results_pick _, ?verdict, ?empty, ?blame, ?written, htotal,
    runResolve_strict⟩
  case verdict =>
    by_cases hurls : urls = []
    · rw [hreport, if_pos hurls]
      simp [Report.failed, exitCode_eq_zero_iff, hurls]
    · rw [hreport, if_neg hurls, exitCode_reportBatch_eq_zero_iff]
      simp [hurls]
  case empty =>
    intro hurls
    rw [hreport, if_pos hurls, Report.failed]
  case blame =>
    intro hurls hexit
    rw [hreport, if_neg hurls] at hexit ⊢
    rw [failure_reportBatch os hexit, length_results]
  case written =>
    intro hurls
    have hsome : os ≠ [] := by
      rw [← List.length_pos_iff, length_results]
      exact List.length_pos_iff.mpr hurls
    rw [hreport, if_neg hurls, output_reportBatch os hsome]

/-- Of two urls, one among the arguments and one in a list file, the second finds nothing. -/
theorem runResolve_pointwise_strict :
    let dir : Workdir := ⟨fun path => if path = "urls".toList then .content "# old\n oracle:x\r\n".toUTF8 else .missing⟩
    let env := Environment.ofList []
    let o : ResolveOptions := ⟨["jdbc:tibero:thin:@h:1:db".toList], some "urls".toList, false, true, none⟩
    let report := (runResolve Toml.standard dir env o).value
    (loadSettings Toml.standard dir env env o.config).value = .ok Settings.default ∧
      readList dir o.file = .ok (some "# old\n oracle:x\r\n".toList) ∧
      report.failure = some (.unresolved 1 2) ∧
      report.output =
        "\x1b[36m\x1b[1mResolve\x1b[0m\x1b[39m\n\x1b[2m=======\x1b[0m\n" ++
          "\n\x1b[1m\x1b[32mok\x1b[39m\x1b[0m jdbc:tibero:thin:@h:1:db\n" ++
          "  \x1b[2mEndpoint                    \x1b[0m h:1\n" ++
          "  \x1b[2mDatabase                    \x1b[0m db\n" ++
          "  \x1b[2mService type                \x1b[0m TIBERO(2420)\n" ++
          "\n\x1b[1m\x1b[33m??\x1b[39m\x1b[0m \x1b[33moracle:x\x1b[39m\n" ++
          "  \x1b[2mError                       \x1b[0m jdbc url has invalid prefix (expected `jdbc:tibero:`)\n" ++
          "  \x1b[2mService type                \x1b[0m UNKNOWN_DB(2050)\n" ++
          "\n\x1b[1m\x1b[32m1\x1b[39m\x1b[0m resolved, \x1b[1m\x1b[31m1\x1b[39m\x1b[0m unresolved\n" := by
  intro dir env o report
  have hs : (loadSettings Toml.standard dir env env o.config).value = .ok Settings.default := by rfl
  have hlist : readList dir o.file = .ok (some "# old\n oracle:x\r\n".toList) := by rfl
  obtain ⟨-, -, -, hverdict, -, hblame, hwritten, -, -⟩ := runResolve_pointwise Toml.standard dir env o hs hlist
  let urls := ["jdbc:tibero:thin:@h:1:db".toList, "oracle:x".toList]
  have hurls : collectUrls o.urls (some "# old\n oracle:x\r\n".toList) = urls := by decide +kernel
  let os : List Outcome := [.resolved "jdbc:tibero:thin:@h:1:db".toList [⟨['h'], ['1']⟩] "db".toList,
    .unresolved "oracle:x".toList (.schemeMismatch "jdbc:tibero:")]
  have hresults : results Settings.default.maxDepth urls = os := by decide +kernel
  rw [hurls, hresults] at hverdict hblame hwritten
  have hexit : report.exitCode ≠ 0 := by
    intro hzero
    rcases (hverdict.mp hzero).2 with hlax | hall
    · cases hlax
    · exact absurd (hall _ (List.mem_cons_of_mem _ List.mem_cons_self)) Bool.false_ne_true
  refine ⟨hs, hlist, hblame (List.cons_ne_nil _ _) hexit, ?_⟩
  rw [hwritten (List.cons_ne_nil _ _)]
  decide +kernel

end ConnectString.Command
