import VmTools.Re

/-
# `generate_jit_gc_test_report.py`: the test run and what its report counts

`TestReportGenerator.run_tests` runs eight unit-test targets, three integration-test targets, a
benchmark and `cargo tarpaulin`, one `subprocess.run` each, and records what happened in four
fields: `test_results`, `coverage_data`, `benchmark_data` and `issues`.  The summary and the
recommendations of the report are computed from these fields alone.

The three loops are alike but not the same.  A unit test that times out or cannot be run is
recorded in `test_results` as a failure; an integration test that does so is only an issue.
So over every run (`failedTests_runTests`):

* `total_tests` counts the eight unit tests and the integration tests that ran to completion;
* the tests the report names as failed are the unit tests that did not pass and the integration
  tests that completed with a nonzero exit code: an integration test that timed out is named
  nowhere in the summary.

The recommendations follow from the same fields (`generateRecommendations_runTests`).  The
coverage one tells to install `cargo-tarpaulin` whenever the coverage was not generated, also
when the tool is there and its run fails; the benchmark one is given only for a benchmark that
completed with a nonzero exit code, so a benchmark that timed out gives none.

`_extract_test_errors` adds one issue per match of each of four patterns, and the fourth,
`panicked at '.*'`, matches inside every match of the first, `thread '.*' panicked at '.*'`: a
panic in the format Rust printed before 1.73 is counted twice (`extractTestErrors_panic_twice`).
Nothing else is made up: every issue it adds is the test's name and a text of standard error at
which one of the patterns matches, in the sense of `Re.Matches` (`extractTestErrors_sound`).

What a command does is outside the script: the model takes the outcome of every command as a
parameter `env`, and `str.lower` as `lower`.  `re.findall` is a scan over `Re`'s matcher, as
`subScan` is for `re.sub`.  The success rate, a float, the report files, the timestamp and the
printed messages are left out.
-/

namespace VmTools.TestReport

open VmTools VmTools.Re

/-! ## 1. `re.findall` and the error patterns -/

/-- The scan of `re.findall` for a pattern without groups, in at most `fuel` steps: each match is
kept whole and the scan resumes after it; an empty match is kept and one character passed. -/
def findAllScan (p : List Item) : Nat → List Char → List (List Char)
  | 0, _ => []
  | _ + 1, [] => match matchAt p [] [] with
    | some _ => [[]]
    | none => []
  | fuel + 1, c :: s => match matchAt p (c :: s) [] with
    | some (_, r) =>
      if r.length < s.length + 1 then
        (c :: s).take (s.length + 1 - r.length) :: findAllScan p fuel r
      else [] :: findAllScan p fuel s
    | none => findAllScan p fuel s

/-- `re.findall(pattern, s)`: each step of the scan takes at least one character. -/
def findAll (p : List Item) (s : List Char) : List (List Char) := findAllScan p (s.length + 1) s

/-- A literal string, as pattern items. -/
def lit (w : List Char) : List Item := w.map fun c => .one (.char c)

/-- `thread '.*' panicked at '.*'`. -/
def threadPanicPattern : List Item :=
  lit "thread '".toList ++ (.star .dot :: (lit "' panicked at '".toList ++ (.star .dot :: lit "'".toList)))

/-- `panicked at '.*'`. -/
def panicPattern : List Item := lit "panicked at '".toList ++ (.star .dot :: lit "'".toList)

/-- `error_patterns`, in their order. -/
def errorPatterns : List (List Item) :=
  [threadPanicPattern,
   lit "test ".toList ++ (.star .dot :: lit " failed".toList),
   lit "error: ".toList ++ [.star .dot],
   panicPattern]

/-- `_extract_test_errors(test_name, stderr)`: the issues it appends, pattern by pattern. -/
def extractTestErrors (testName stderr : List Char) : List (List Char) :=
  errorPatterns.flatMap fun p => (findAll p stderr).map fun m => testName ++ ": ".toList ++ m

theorem matchAt_lit (p : List Item) (s : List Char) (gs : List (List Char)) :
    ∀ w : List Char, matchAt (lit w ++ p) (w ++ s) gs = matchAt p s gs
  | [] => rfl
  | c :: w => by simp [lit, matchAt, Cls.test, ← matchAt_lit p s gs w]

/-- `.*` takes any run of characters of one line. -/
theorem dot_test {w : List Char} (hw : '\n' ∉ w) : ∀ c ∈ w, Cls.dot.test c := by
  intro c hc
  simp only [Cls.test, bne_iff_ne, ne_eq]
  exact fun h => hw (h ▸ hc)

/-- `re.findall` finds something wherever a match starts. -/
theorem findAllScan_ne_nil {p : List Item} {s : List Char} (h : (matchAt p s []).isSome) :
    ∀ (a : List Char) (fuel : Nat), a.length < fuel → findAllScan p fuel (a ++ s) ≠ []
  | [], fuel + 1, _ => by
    obtain ⟨m, hm⟩ := Option.isSome_iff_exists.mp h
    cases s with
    | nil => simp [findAllScan, hm]
    | cons c s =>
      simp only [List.nil_append, findAllScan, hm]
      split_ifs <;> simp
  | c :: a, fuel + 1, ha => by
    simp only [List.cons_append, findAllScan]
    split
    · split_ifs <;> simp
    · exact findAllScan_ne_nil h a fuel (by simp at ha; omega)

theorem findAll_ne_nil {p : List Item} {s : List Char} (h : (matchAt p s []).isSome)
    (a : List Char) : findAll p (a ++ s) ≠ [] :=
  findAllScan_ne_nil h a _ (by simp only [List.length_append]; omega)

/-- The text of a match is what it takes before the rest. -/
theorem take_append_of_suffix {r l : List Char} (h : r <:+ l) :
    l.take (l.length - r.length) ++ r = l := by
  obtain ⟨t, rfl⟩ := h
  rw [List.length_append, Nat.add_sub_cancel, List.take_left]

/-- Every string the scan of `re.findall` returns is the text of a match that starts somewhere
in the input. -/
theorem findAllScan_sound {p : List Item} :
    ∀ (fuel : Nat) (s x : List Char), x ∈ findAllScan p fuel s →
      ∃ t gs r, t <:+ s ∧ t = x ++ r ∧ Matches p t [] (gs, r)
  | 0, _, _, h => absurd h (List.not_mem_nil _)
  | fuel + 1, [], x, h => by
    simp only [findAllScan] at h
    split at h
    · rename_i m hm
      have hmatch := matchAt_sound _ _ _ hm
      have hr : m.2 = [] := List.suffix_nil.mp hmatch.rest_suffix
      obtain rfl := List.mem_singleton.mp h
      exact ⟨[], m.1, m.2, List.suffix_refl _, by rw [hr]; rfl, hmatch⟩
    · exact absurd h (List.not_mem_nil _)
  | fuel + 1, c :: s, x, h => by
    have skip (h : x ∈ findAllScan p fuel s) :
        ∃ t gs r, t <:+ c :: s ∧ t = x ++ r ∧ Matches p t [] (gs, r) :=
      let ⟨t, gs, r, ht, htx, hm⟩ := findAllScan_sound fuel s x h
      ⟨t, gs, r, ht.trans (List.suffix_cons c s), htx, hm⟩
    simp only [findAllScan] at h
    split at h
    · rename_i gs r hm
      have hmatch := matchAt_sound _ _ _ hm
      have hr : r <:+ c :: s := hmatch.rest_suffix
      split_ifs at h with hlen <;> rcases List.mem_cons.mp h with rfl | h
      · exact ⟨c :: s, gs, r, List.suffix_refl _, (take_append_of_suffix hr).symm, hmatch⟩
      · obtain ⟨t, gs', r', ht, htx, hm'⟩ := findAllScan_sound fuel r x h
        exact ⟨t, gs', r', ht.trans hr, htx, hm'⟩
      · obtain rfl : r = c :: s := hr.eq_of_length (Nat.le_antisymm hr.length_le (not_lt.mp hlen))
        exact ⟨c :: s, gs, c :: s, List.suffix_refl _, rfl, hmatch⟩
      · exact skip h
    · exact skip h

/-- **Every issue is a real match**: each issue `_extract_test_errors` appends is the test's
name and a text of standard error at which one of the four patterns matches. -/
theorem extractTestErrors_sound (testName stderr e : List Char)
    (h : e ∈ extractTestErrors testName stderr) :
    ∃ p ∈ errorPatterns, ∃ x t gs r, e = testName ++ ": ".toList ++ x ∧ t <:+ stderr ∧
      t = x ++ r ∧ Matches p t [] (gs, r) := by
  obtain ⟨p, hp, he⟩ := List.mem_flatMap.mp h
  obtain ⟨x, hx, rfl⟩ := List.mem_map.mp he
  obtain ⟨t, gs, r, ht, htx, hm⟩ := findAllScan_sound _ _ x hx
  exact ⟨p, hp, x, t, gs, r, rfl, ht, htx, hm⟩

theorem extractTestErrors_sound_error :
    "t: error: boom".toList ∈ extractTestErrors "t".toList "error: boom".toList ∧
      ∃ p ∈ errorPatterns, ∃ x t gs r, "t: error: boom".toList = "t".toList ++ ": ".toList ++ x ∧
        t <:+ "error: boom".toList ∧ t = x ++ r ∧ Matches p t [] (gs, r) :=
  ⟨by decide, extractTestErrors_sound _ _ _ (by decide)⟩

/-- **One panic, two issues**: standard error that holds a line `thread 'T' panicked at 'M'`
gives an issue from the first pattern and another from the fourth. -/
theorem extractTestErrors_panic_twice (testName a b T M : List Char) (hT : '\n' ∉ T)
    (hM : '\n' ∉ M) :
    2 ≤ (extractTestErrors testName
      (a ++ ("thread '".toList ++ T ++ "' panicked at '".toList ++ M ++ "'".toList ++ b))).length := by
  have hrest : (matchAt (lit "'".toList) ("'".toList ++ b) []).isSome := by
    rw [← List.append_nil (lit "'".toList), matchAt_lit]; rfl
  have hpanic : (matchAt panicPattern ("panicked at '".toList ++ (M ++ ("'".toList ++ b))) []).isSome := by
    rw [panicPattern, matchAt_lit]
    exact starThen_isSome hrest M (dot_test hM)
  have hthread : (matchAt threadPanicPattern
      ("thread '".toList ++ (T ++ ("' panicked at '".toList ++ (M ++ ("'".toList ++ b))))) []).isSome := by
    rw [threadPanicPattern, matchAt_lit]
    refine starThen_isSome ?_ T (dot_test hT)
    rw [matchAt_lit]
    exact starThen_isSome hrest M (dot_test hM)
  have h1 : findAll threadPanicPattern
      (a ++ ("thread '".toList ++ T ++ "' panicked at '".toList ++ M ++ "'".toList ++ b)) ≠ [] := by
    simpa only [List.append_assoc] using findAll_ne_nil hthread a
  have h4 : findAll panicPattern
      (a ++ ("thread '".toList ++ T ++ "' panicked at '".toList ++ M ++ "'".toList ++ b)) ≠ [] := by
    rw [show "' panicked at '".toList = "' ".toList ++ "panicked at '".toList from rfl]
    simpa only [List.append_assoc] using
      findAll_ne_nil hpanic (a ++ "thread '".toList ++ T ++ "' ".toList)
  simp only [extractTestErrors, errorPatterns, List.flatMap_cons, List.flatMap_nil,
    List.length_append, List.length_map, List.append_nil]
  have := List.length_pos.mpr h1
  have := List.length_pos.mpr h4
  omega

theorem extractTestErrors_panic_twice_main :
    '\n' ∉ "main".toList ∧ '\n' ∉ "boom".toList ∧
      2 ≤ (extractTestErrors "gc_module_tests".toList ([] ++ ("thread '".toList ++ "main".toList ++
        "' panicked at '".toList ++ "boom".toList ++ "'".toList ++ []))).length :=
  ⟨by decide, by decide, extractTestErrors_panic_twice "gc_module_tests".toList [] [] "main".toList
    "boom".toList (by decide) (by decide)⟩

/-! ## 2. The run -/

/-- What `subprocess.run` gives for a command: it completed, with its exit code and its output;
or it raised `TimeoutExpired`, or another exception, each with `str(e)`. -/
inductive RunOutcome where
  | completed (returncode : Int) (stdout stderr : List Char)
  | timedOut (message : List Char)
  | raised (message : List Char)

/-- The commands the generator runs. -/
inductive Command where
  /-- `cargo test --package vm-engine-jit --test <test_file>`, with a timeout of 300 s. -/
  | unitTest (testFile : List Char)
  /-- The same for an integration test, with a timeout of 600 s. -/
  | integrationTest (testFile : List Char)
  /-- `cargo bench --package vm-engine-jit <benchmark>`, with a timeout of 600 s. -/
  | bench (benchmark : List Char)
  /-- `cargo tarpaulin --version`. -/
  | tarpaulinVersion
  /-- `cargo tarpaulin --out Html ...`, with a timeout of 600 s. -/
  | tarpaulin

/-- An entry of `test_results` or of `benchmark_data`. -/
structure RunResult where
  exitCode : Int
  stdout : List Char
  stderr : List Char
  success : Bool
  /-- `"results"`, which `_extract_benchmark_results` sets on a benchmark. -/
  results : Option (List Char)

/-- The fields `run_tests` fills.  `coverage_data` is `{}` (`none`) or its three entries. -/
structure Generator where
  testResults : List (List Char × RunResult)
  coverageData : Option (Bool × List Char × List Char)
  benchmarkData : List (List Char × RunResult)
  issues : List (List Char)

/-- The fields as `__init__` leaves them. -/
def Generator.init : Generator := ⟨[], none, [], []⟩

/-- `d[k] = v` on a dictionary, kept as its entries in insertion order. -/
def dictSet {β : Type} (d : List (List Char × β)) (k : List Char) (v : β) :
    List (List Char × β) :=
  if d.any (fun e => e.1 = k) then d.map fun e => if e.1 = k then (k, v) else e else d ++ [(k, v)]

/-- The unit-test targets of `_run_unit_tests`. -/
def unitTestFiles : List (List Char) :=
  ["jit_optimizing_compiler_comprehensive_tests", "gc_comprehensive_tests",
   "hotspot_cache_comprehensive_tests", "register_allocator_tests", "ewma_hotspot_tests",
   "gc_module_tests", "unified_cache_tests", "jit_error_tests"].map String.toList

/-- The targets of `_run_integration_tests`. -/
def integrationTestFiles : List (List Char) :=
  ["jit_gc_integration_tests", "aot_integration_tests", "task3_integration"].map String.toList

/-- The benchmarks of `_run_benchmarks`. -/
def benchmarkNames : List (List Char) := ["jit_gc_performance_benchmarks"].map String.toList

/-- The entry of a test that completed. -/
def completedResult (code : Int) (stdout stderr : List Char) : RunResult :=
  ⟨code, stdout, stderr, decide (code = 0), none⟩

/-- One pass of the loop of `_run_unit_tests`. -/
def runUnitTest (env : Command → RunOutcome) (g : Generator) (testFile : List Char) : Generator :=
  match env (.unitTest testFile) with
  | .completed code out err =>
    let g := { g with testResults := dictSet g.testResults testFile (completedResult code out err) }
    if code = 0 then g else { g with issues := g.issues ++ extractTestErrors testFile err }
  | .timedOut _ =>
    { g with testResults := dictSet g.testResults testFile ⟨-1, [], "Test timed out".toList, false, none⟩
             issues := g.issues ++ [testFile ++ ": 测试超时".toList] }
  | .raised e =>
    { g with testResults := dictSet g.testResults testFile ⟨-2, [], e, false, none⟩
             issues := g.issues ++ [testFile ++ ": 执行异常 - ".toList ++ e] }

/-- One pass of the loop of `_run_integration_tests`: a timeout or an exception is only an
issue. -/
def runIntegrationTest (env : Command → RunOutcome) (g : Generator) (testFile : List Char) :
    Generator :=
  match env (.integrationTest testFile) with
  | .completed code out err =>
    let key := "integration_".toList ++ testFile
    let g := { g with testResults := dictSet g.testResults key (completedResult code out err) }
    if code = 0 then g else { g with issues := g.issues ++ extractTestErrors key err }
  | .timedOut _ => { g with issues := g.issues ++ ["集成测试 ".toList ++ testFile ++ ": 测试超时".toList] }
  | .raised e =>
    { g with issues := g.issues ++ ["集成测试 ".toList ++ testFile ++ ": 执行异常 - ".toList ++ e] }

/-- `_extract_benchmark_results`: the first line of the output that mentions a test result or a
benchmark, lowered by `lower`. -/
def benchmarkResultLine (lower : List Char → List Char) (stdout : List Char) : Option (List Char) :=
  (stdout.splitOn '\n').find? fun line =>
    decide ("test result".toList <:+: lower line) || decide ("benchmark".toList <:+: lower line)

/-- One pass of the loop of `_run_benchmarks`. -/
def runBenchmark (env : Command → RunOutcome) (lower : List Char → List Char) (g : Generator)
    (benchmark : List Char) : Generator :=
  match env (.bench benchmark) with
  | .completed code out err =>
    if code = 0 then
      let r := { completedResult code out err with results := benchmarkResultLine lower out }
      { g with benchmarkData := dictSet g.benchmarkData benchmark r }
    else
      { g with benchmarkData := dictSet g.benchmarkData benchmark (completedResult code out err)
               issues := g.issues ++ ["基准测试 ".toList ++ benchmark ++ ": 执行失败".toList] }
  | .timedOut _ => { g with issues := g.issues ++ ["基准测试 ".toList ++ benchmark ++ ": 测试超时".toList] }
  | .raised e =>
    { g with issues := g.issues ++ ["基准测试 ".toList ++ benchmark ++ ": 执行异常 - ".toList ++ e] }

/-- `_generate_coverage_report`: nothing without `cargo-tarpaulin`; every exception, a timeout
included, is one issue with its message. -/
def generateCoverageReport (env : Command → RunOutcome) (g : Generator) : Generator :=
  let failed (e : List Char) := { g with issues := g.issues ++ ["覆盖率报告生成异常 - ".toList ++ e] }
  match env .tarpaulinVersion with
  | .completed code _ _ =>
    if code ≠ 0 then g
    else match env .tarpaulin with
      | .completed code out err =>
        if code = 0 then { g with coverageData := some (true, out, err) }
        else { g with coverageData := some (false, out, err)
                      issues := g.issues ++ ["覆盖率报告生成失败".toList] }
      | .timedOut e => failed e
      | .raised e => failed e
  | .timedOut e => failed e
  | .raised e => failed e

/-- `run_tests()`. -/
def runTests (env : Command → RunOutcome) (lower : List Char → List Char) (g : Generator) :
    Generator :=
  generateCoverageReport env <|
    benchmarkNames.foldl (runBenchmark env lower) <|
      integrationTestFiles.foldl (runIntegrationTest env) <| unitTestFiles.foldl (runUnitTest env) g

/-! ## 3. The summary and the recommendations -/

/-- `_generate_summary()`, its success rate apart. -/
structure Summary where
  totalTests : Nat
  passedTests : Nat
  failedTests : Nat
  benchmarksRun : Nat
  coverageGenerated : Bool

/-- `coverage_data.get("success", False)`. -/
def Generator.coverageSuccess (g : Generator) : Bool :=
  match g.coverageData with
  | some (b, _, _) => b
  | none => false

def generateSummary (g : Generator) : Summary :=
  let total := g.testResults.length
  let passed := (g.testResults.filter fun e => e.2.success).length
  ⟨total, passed, total - passed, g.benchmarkData.length, g.coverageSuccess⟩

/-- One recommendation of the report. -/
structure Recommendation where
  category : List Char
  priority : List Char
  description : List Char
  action : List Char

/-- The tests the first recommendation names: `[name for name, result in test_results.items()
if not result.get("success", False)]`. -/
def failedTests (g : Generator) : List (List Char) :=
  (g.testResults.filter fun e => !e.2.success).map Prod.fst

/-- `_generate_recommendations()`. -/
def generateRecommendations (g : Generator) : List Recommendation :=
  let failedBenchmarks := (g.benchmarkData.filter fun e => !e.2.success).map Prod.fst
  (if failedTests g = [] then [] else
    [⟨"测试失败".toList, "高".toList,
      "以下测试失败，需要修复: ".toList ++ ", ".toList.intercalate (failedTests g),
      "检查失败的测试用例，修复相关代码问题".toList⟩]) ++
  (if g.coverageSuccess then [] else
    [⟨"覆盖率".toList, "中".toList, "测试覆盖率报告生成失败".toList,
      "安装cargo-tarpaulin: cargo install cargo-tarpaulin".toList⟩]) ++
  (if failedBenchmarks = [] then [] else
    [⟨"性能基准".toList, "中".toList,
      "以下基准测试失败: ".toList ++ ", ".toList.intercalate failedBenchmarks,
      "检查基准测试环境，确保系统资源充足".toList⟩]) ++
  (if g.issues.length > 5 then
    [⟨"整体质量".toList, "高".toList,
      "发现 ".toList ++ (toString g.issues.length).toList ++ " 个问题，需要系统性改进".toList,
      "建议进行代码审查，改进测试策略".toList⟩] else [])

/-! ## 4. What the summary counts, over every run -/

/-- A test passed: its command completed with exit code 0. -/
def RunOutcome.passed : RunOutcome → Bool
  | .completed code _ _ => decide (code = 0)
  | _ => false

/-- The command completed, whatever its exit code. -/
def RunOutcome.completes : RunOutcome → Bool
  | .completed .. => true
  | _ => false

/-- What the summary reads of `test_results`: each test's name and whether it passed. -/
def Generator.verdicts (g : Generator) : List (List Char × Bool) :=
  g.testResults.map fun e => (e.1, e.2.success)

/-- The key an integration test is recorded under. -/
def integrationKey (testFile : List Char) : List Char := "integration_".toList ++ testFile

theorem dictSet_of_fresh {β : Type} {d : List (List Char × β)} {k : List Char}
    (h : k ∉ d.map Prod.fst) (v : β) : dictSet d k v = d ++ [(k, v)] := by
  rw [dictSet, if_neg]
  simp only [List.any_eq_true, decide_eq_true_eq, not_exists, not_and]
  exact fun e he hk => h (List.mem_map.mpr ⟨e, he, hk⟩)

theorem fst_verdicts (g : Generator) : g.verdicts.map Prod.fst = g.testResults.map Prod.fst := by
  simp [Generator.verdicts]

theorem testResults_runUnitTest (env : Command → RunOutcome) (g : Generator) (n : List Char) :
    (runUnitTest env g n).testResults = dictSet g.testResults n (match env (.unitTest n) with
      | .completed code out err => completedResult code out err
      | .timedOut _ => ⟨-1, [], "Test timed out".toList, false, none⟩
      | .raised e => ⟨-2, [], e, false, none⟩) := by
  unfold runUnitTest
  rcases env (.unitTest n) with ⟨code, out, err⟩ | e | e
  · dsimp only
    split_ifs <;> rfl
  all_goals rfl

/-- A unit test is always recorded, as passed exactly when it completed with exit code 0. -/
theorem verdicts_runUnitTest (env : Command → RunOutcome) (g : Generator) {n : List Char}
    (h : n ∉ g.verdicts.map Prod.fst) :
    (runUnitTest env g n).verdicts = g.verdicts ++ [(n, (env (.unitTest n)).passed)] := by
  rw [fst_verdicts] at h
  rw [Generator.verdicts, testResults_runUnitTest, dictSet_of_fresh h]
  cases env (.unitTest n) <;> simp [Generator.verdicts, completedResult, RunOutcome.passed]

theorem testResults_runIntegrationTest (env : Command → RunOutcome) (g : Generator)
    (n : List Char) :
    (runIntegrationTest env g n).testResults = match env (.integrationTest n) with
      | .completed code out err => dictSet g.testResults (integrationKey n) (completedResult code out err)
      | _ => g.testResults := by
  unfold runIntegrationTest
  rcases env (.integrationTest n) with ⟨code, out, err⟩ | e | e
  · dsimp only
    split_ifs <;> rfl
  all_goals rfl

/-- An integration test is recorded only when its command completed. -/
theorem verdicts_runIntegrationTest (env : Command → RunOutcome) (g : Generator) {n : List Char}
    (h : integrationKey n ∉ g.verdicts.map Prod.fst) :
    (runIntegrationTest env g n).verdicts = g.verdicts ++
      if (env (.integrationTest n)).completes then [(integrationKey n, (env (.integrationTest n)).passed)]
      else [] := by
  rw [fst_verdicts] at h
  rw [Generator.verdicts, testResults_runIntegrationTest]
  cases env (.integrationTest n) <;>
    simp [Generator.verdicts, dictSet_of_fresh h, completedResult, RunOutcome.passed,
      RunOutcome.completes]

theorem testResults_runBenchmark (env : Command → RunOutcome) (lower : List Char → List Char)
    (g : Generator) (b : List Char) : (runBenchmark env lower g b).testResults = g.testResults := by
  unfold runBenchmark
  split <;> (try split_ifs) <;> rfl

theorem testResults_generateCoverageReport (env : Command → RunOutcome) (g : Generator) :
    (generateCoverageReport env g).testResults = g.testResults := by
  unfold generateCoverageReport
  split
  · split_ifs
    · rfl
    · split <;> (try split_ifs) <;> rfl
  all_goals rfl

theorem verdicts_foldl_runUnitTest (env : Command → RunOutcome) :
    ∀ (ns : List (List Char)) (g : Generator), ns.Nodup → (∀ n ∈ ns, n ∉ g.verdicts.map Prod.fst) →
      (ns.foldl (runUnitTest env) g).verdicts =
        g.verdicts ++ ns.map fun n => (n, (env (.unitTest n)).passed)
  | [], g, _, _ => by simp
  | n :: ns, g, hnd, h => by
    rw [List.nodup_cons] at hnd
    have hstep := verdicts_runUnitTest env g (h n (List.mem_cons_self n ns))
    rw [List.foldl_cons, verdicts_foldl_runUnitTest env ns _ hnd.2 fun m hm => ?_, hstep]
    · simp
    · rw [hstep, List.map_append, List.mem_append, not_or]
      exact ⟨h m (List.mem_cons_of_mem n hm), by simpa using fun e : m = n => hnd.1 (e ▸ hm)⟩

theorem verdicts_foldl_runIntegrationTest (env : Command → RunOutcome) :
    ∀ (ns : List (List Char)) (g : Generator), (ns.map integrationKey).Nodup →
      (∀ n ∈ ns, integrationKey n ∉ g.verdicts.map Prod.fst) →
      (ns.foldl (runIntegrationTest env) g).verdicts =
        g.verdicts ++ (ns.filter fun n => (env (.integrationTest n)).completes).map
          fun n => (integrationKey n, (env (.integrationTest n)).passed)
  | [], g, _, _ => by simp
  | n :: ns, g, hnd, h => by
    rw [List.map_cons, List.nodup_cons] at hnd
    have hstep := verdicts_runIntegrationTest env g (h n (List.mem_cons_self n ns))
    rw [List.foldl_cons, verdicts_foldl_runIntegrationTest env ns _ hnd.2 fun m hm => ?_, hstep]
    · split_ifs with hc <;> simp [List.filter_cons, hc]
    · rw [hstep, List.map_append, List.mem_append, not_or]
      refine ⟨h m (List.mem_cons_of_mem n hm), ?_⟩
      split_ifs <;> simp only [List.map_cons, List.map_nil, List.mem_singleton, List.not_mem_nil]
      · exact fun e => hnd.1 (e ▸ List.mem_map_of_mem _ hm)
      · exact id

/-- A part of the generator that no pass of a loop touches is as it was after the whole loop. -/
theorem foldl_frame {α : Type} (f : Generator → α) {step : Generator → List Char → Generator}
    (h : ∀ g b, f (step g b) = f g) : ∀ (bs : List (List Char)) (g : Generator),
      f (bs.foldl step g) = f g
  | [], _ => rfl
  | b :: bs, g => (foldl_frame f h bs _).trans (h g b)

theorem testResults_foldl_runBenchmark (env : Command → RunOutcome) (lower : List Char → List Char)
    (bs : List (List Char)) (g : Generator) :
    (bs.foldl (runBenchmark env lower) g).testResults = g.testResults :=
  foldl_frame Generator.testResults (testResults_runBenchmark env lower) bs g

/-- The verdicts of a whole run: the unit tests, then the integration tests that completed. -/
theorem verdicts_runTests (env : Command → RunOutcome) (lower : List Char → List Char) :
    (runTests env lower Generator.init).verdicts =
      unitTestFiles.map (fun n => (n, (env (.unitTest n)).passed)) ++
        (integrationTestFiles.filter fun n => (env (.integrationTest n)).completes).map
          fun n => (integrationKey n, (env (.integrationTest n)).passed) := by
  have hunit := verdicts_foldl_runUnitTest env unitTestFiles Generator.init (by decide)
    (by simp [Generator.verdicts, Generator.init])
  have hinteg := verdicts_foldl_runIntegrationTest env integrationTestFiles
    (unitTestFiles.foldl (runUnitTest env) Generator.init) (by decide) (by
      rw [hunit]
      simp only [Generator.verdicts, Generator.init, List.map_nil, List.nil_append, List.map_map,
        Function.comp_def, List.map_id']
      decide)
  simp only [runTests, Generator.verdicts, testResults_generateCoverageReport,
    testResults_foldl_runBenchmark] at hunit hinteg ⊢
  rw [hinteg, hunit]
  rfl

/-- The tests the first recommendation names are those whose verdict is a failure. -/
theorem failedTests_verdicts (g : Generator) :
    failedTests g = (g.verdicts.filter fun v => !v.2).map Prod.fst := by
  simp [failedTests, Generator.verdicts, List.filter_map, Function.comp_def, List.map_map]

/-- **A timed-out integration test is counted nowhere**: over every run, the tests the report
names as failed are the unit tests that did not pass and the integration tests that completed
with a nonzero exit code, and `total_tests` counts the unit tests and the integration tests that
completed.  A unit test that times out or cannot be run is a failure; an integration test that
does so is in neither. -/
theorem failedTests_runTests (env : Command → RunOutcome) (lower : List Char → List Char) :
    failedTests (runTests env lower Generator.init) =
        unitTestFiles.filter (fun n => !(env (.unitTest n)).passed) ++
          (integrationTestFiles.filter fun n =>
            (env (.integrationTest n)).completes && !(env (.integrationTest n)).passed).map
            integrationKey ∧
      (generateSummary (runTests env lower Generator.init)).totalTests =
        unitTestFiles.length +
          (integrationTestFiles.filter fun n => (env (.integrationTest n)).completes).length := by
  have hv := verdicts_runTests env lower
  constructor
  · rw [failedTests_verdicts, hv]
    simp [List.filter_map, Function.comp_def, List.filter_filter, Bool.and_comm]
  · have : (generateSummary (runTests env lower Generator.init)).totalTests =
        (runTests env lower Generator.init).verdicts.length := by
      simp [generateSummary, Generator.verdicts]
    rw [this, hv, List.length_append, List.length_map, List.length_map]

/-! ## 5. What the recommendations say, over every run -/

/-- The tests touch neither the coverage nor the benchmarks. -/
theorem runUnitTest_frame (env : Command → RunOutcome) (g : Generator) (n : List Char) :
    (runUnitTest env g n).coverageData = g.coverageData ∧
      (runUnitTest env g n).benchmarkData = g.benchmarkData := by
  unfold runUnitTest
  split <;> (try split_ifs) <;> exact ⟨rfl, rfl⟩

theorem runIntegrationTest_frame (env : Command → RunOutcome) (g : Generator) (n : List Char) :
    (runIntegrationTest env g n).coverageData = g.coverageData ∧
      (runIntegrationTest env g n).benchmarkData = g.benchmarkData := by
  unfold runIntegrationTest
  split <;> (try split_ifs) <;> exact ⟨rfl, rfl⟩

theorem coverageData_runBenchmark (env : Command → RunOutcome) (lower : List Char → List Char)
    (g : Generator) (b : List Char) : (runBenchmark env lower g b).coverageData = g.coverageData := by
  unfold runBenchmark
  split <;> (try split_ifs) <;> rfl

theorem benchmarkData_generateCoverageReport (env : Command → RunOutcome) (g : Generator) :
    (generateCoverageReport env g).benchmarkData = g.benchmarkData := by
  unfold generateCoverageReport
  split
  · split_ifs
    · rfl
    · split <;> (try split_ifs) <;> rfl
  all_goals rfl

/-- The coverage counts as generated exactly when `cargo tarpaulin --version` and the coverage
run both completed with exit code 0. -/
theorem coverageSuccess_generateCoverageReport (env : Command → RunOutcome) {g : Generator}
    (h : g.coverageData = none) :
    (generateCoverageReport env g).coverageSuccess =
      ((env .tarpaulinVersion).passed && (env .tarpaulin).passed) := by
  unfold generateCoverageReport
  rcases env .tarpaulinVersion with ⟨code, _, _⟩ | _ | _
  · by_cases hc : code = 0
    · rcases env .tarpaulin with ⟨code', _, _⟩ | _ | _
      · by_cases hc' : code' = 0 <;> simp [hc, hc', Generator.coverageSuccess, RunOutcome.passed]
      all_goals simp [hc, h, Generator.coverageSuccess, RunOutcome.passed]
    · simp [hc, h, Generator.coverageSuccess, RunOutcome.passed]
  all_goals simp [h, Generator.coverageSuccess, RunOutcome.passed]

/-- A benchmark run with none recorded before is recorded as failed exactly when it completed
with a nonzero exit code: one that timed out or could not be run is not recorded. -/
theorem failedBenchmarks_runBenchmark (env : Command → RunOutcome) (lower : List Char → List Char)
    {g : Generator} (h : g.benchmarkData = []) (b : List Char) :
    ((runBenchmark env lower g b).benchmarkData.filter fun e => !e.2.success).map Prod.fst =
      if (env (.bench b)).completes && !(env (.bench b)).passed then [b] else [] := by
  unfold runBenchmark
  rcases env (.bench b) with ⟨code, _, _⟩ | _ | _
  · by_cases hc : code = 0 <;>
      simp [hc, h, dictSet, completedResult, RunOutcome.passed, RunOutcome.completes]
  all_goals simp [h, RunOutcome.passed, RunOutcome.completes]

/-- **What the recommendations say of a run**: the failed-tests recommendation appears exactly
when a unit test did not pass or an integration test completed with a nonzero exit code; the
coverage one, which says to install `cargo-tarpaulin`, whenever the coverage was not generated,
a tool that is installed but fails included; the benchmark one exactly when a benchmark
completed with a nonzero exit code, so a benchmark that times out gives none; the last one when
there are more than five issues. -/
theorem generateRecommendations_runTests (env : Command → RunOutcome)
    (lower : List Char → List Char) :
    (generateRecommendations (runTests env lower Generator.init)).map Recommendation.category =
      (if unitTestFiles.all (fun n => (env (.unitTest n)).passed) &&
          integrationTestFiles.all (fun n =>
            !(env (.integrationTest n)).completes || (env (.integrationTest n)).passed)
        then [] else ["测试失败".toList]) ++
      (if (env .tarpaulinVersion).passed && (env .tarpaulin).passed then [] else ["覆盖率".toList]) ++
      (if benchmarkNames.all (fun b => !(env (.bench b)).completes || (env (.bench b)).passed)
        then [] else ["性能基准".toList]) ++
      (if 5 < (runTests env lower Generator.init).issues.length then ["整体质量".toList] else []) := by
  have hunit := foldl_frame (fun g => (g.coverageData, g.benchmarkData))
    (fun g n => Prod.ext (runUnitTest_frame env g n).1 (runUnitTest_frame env g n).2)
    unitTestFiles Generator.init
  have hinteg := foldl_frame (fun g => (g.coverageData, g.benchmarkData))
    (fun g n => Prod.ext (runIntegrationTest_frame env g n).1 (runIntegrationTest_frame env g n).2)
    integrationTestFiles (unitTestFiles.foldl (runUnitTest env) Generator.init)
  simp only [Prod.ext_iff] at hunit hinteg
  have hcov := coverageSuccess_generateCoverageReport env
    ((foldl_frame Generator.coverageData (coverageData_runBenchmark env lower) benchmarkNames _).trans
      (hinteg.1.trans hunit.1))
  have hbench := failedBenchmarks_runBenchmark env lower (hinteg.2.trans hunit.2)
    "jit_gc_performance_benchmarks".toList
  have hfail : failedTests (runTests env lower Generator.init) = [] ↔
      (unitTestFiles.all (fun n => (env (.unitTest n)).passed) &&
        integrationTestFiles.all (fun n =>
          !(env (.integrationTest n)).completes || (env (.integrationTest n)).passed)) = true := by
    rw [failedTests_verdicts, verdicts_runTests]
    simp [List.filter_map, Function.comp_def, List.filter_filter, or_iff_not_imp_right]
  simp only [generateRecommendations, List.map_append, runTests, benchmarkNames, List.map_cons,
    List.map_nil, List.foldl_cons, List.foldl_nil, benchmarkData_generateCoverageReport]
    at hcov hfail ⊢
  simp only [hcov, hbench, hfail, apply_ite (List.map Recommendation.category), List.map_nil,
    List.map_cons, List.all_cons, List.all_nil, Bool.and_true]
  generalize (env (.bench "jit_gc_performance_benchmarks".toList)).completes = c
  generalize (env (.bench "jit_gc_performance_benchmarks".toList)).passed = p
  cases c <;> cases p <;> rfl

end VmTools.TestReport
