import ImagegenBridge.CodexAppServer.Capabilities
import ImagegenBridge.CodexResponses.Batch
import ImagegenBridge.Runtime.FanoutOutcomes

/-!
# What a batch of `codex-responses` says of its outcome

A call that was sent may have produced an image even when its image is refused
afterwards. The fail-fast path marks its error; the errors of a finished loop are
the first output's, or the missing revised prompt.
-/

namespace ImagegenBridge.CodexResponses

open Batch Unordered

variable {config : Config} {codecs : ImageCodecs} {request : ImageRequest}
  {negotiated : NegotiatedRequest} {imageModel requestId : String} {clock : OutputClock}

/-- The call was sent and may have produced an image. -/
def OutputRun.MayHaveRun (run : OutputRun) : Prop :=
  ∃ result, run.call = .sent result ∧ Ambiguous result

def OutputMayHaveRun (ended : OutputCourse) : Prop := ∃ run ∈ ended.delivered, run.MayHaveRun

def OutputRun.Succeeded (codecs : ImageCodecs) (request : ImageRequest) (run : OutputRun) : Prop :=
  ∃ output, run.result codecs request = .ok output

/-- The courses after which the request says so when work may have been done. -/
def DominatingOutputs (config : Config) (codecs : ImageCodecs) (request : ImageRequest) :
    OutputCourse → Prop
  | .stopped finished _ run error _ _ =>
    1 < request.parameters.n ∧ (1 < config.maxParallelOutputs ∨ finished ≠ []) ∨
      (run.MayHaveRun → ReportsUnknown error)
  | .completed finished =>
    ((∃ entry ∈ finished, entry.2.Succeeded codecs request) →
      request.policies.revisedPrompt = .require →
        ∃ entry ∈ finished, ∃ output, entry.2.result codecs request = .ok output ∧
          output.1.revisedPrompt ≠ none) ∧
    ((∀ entry ∈ finished, ¬entry.2.Succeeded codecs request) →
      (∃ entry ∈ finished, entry.2.MayHaveRun) → ∀ entry ∈ finished, entry.1 = 0 →
        ∀ error, entry.2.result codecs request = .error error → ReportsUnknown error)

theorem OutputRun.mayHaveRun_of_succeeded {run : OutputRun}
    (succeeded : run.Succeeded codecs request) : run.MayHaveRun := by
  obtain ⟨output, result⟩ := succeeded
  unfold OutputRun.result at result
  split at result
  · cases result
  · rename_i call own
    cases ended : run.call with
    | unsent error =>
      rw [ended] at own
      cases own
    | sent outcome =>
      rw [ended] at own
      cases own
      exact ⟨.ok call, ended, trivial⟩

theorem outputStops_some {run : OutputRun} {error : BridgeError}
    (stopped : outputStops codecs request run = some error) :
    request.parameters.failurePolicy = .failFast := by
  unfold outputStops at stopped
  split at stopped
  · assumption
  · cases stopped

theorem outputStops_none {run : OutputRun} (goes : outputStops codecs request run = none)
    (strict : request.parameters.failurePolicy = .failFast) : run.Succeeded codecs request := by
  unfold outputStops at goes
  cases result : run.result codecs request with
  | ok output => exact ⟨output, result⟩
  | error error => simp [result, strict] at goes

/-! ## The collected outputs -/

/-- What the loop keeps of the outputs, whatever it had before. -/
structure Took (before : Outputs) (outputs : List IndexedOutput) (after : Outputs) : Prop where
  images : after.images = [] ↔
    before.images = [] ∧ ∀ output ∈ outputs, ∃ error, output.result = .error error
  failures : after.failures = before.failures ++ outputs.filterMap fun output =>
    match output.result with
    | .ok _ => none
    | .error error => some ⟨output.index, error, output.generationMs⟩
  revisedPrompt : after.revisedPrompt = none ↔ before.revisedPrompt = none ∧
    ∀ output ∈ outputs, ∀ call image, output.result = .ok (call, image) → call.revisedPrompt = none

theorem take_took (before : Outputs) (outputs : List IndexedOutput) :
    Took before outputs (outputs.foldl Outputs.take before) := by
  induction outputs generalizing before with
  | nil => exact ⟨by simp, by simp, by simp⟩
  | cons output rest ih =>
    obtain ⟨images, failures, revised⟩ := ih (before.take output)
    rw [List.foldl_cons]
    cases own : output.result with
    | error error =>
      simp only [Outputs.take, own] at images failures revised ⊢
      refine ⟨?_, ?_, ?_⟩
      · rw [images]
        simp [own]
      · rw [failures]
        simp [own]
      · rw [revised]
        simp [own]
    | ok pair =>
      obtain ⟨call, image⟩ := pair
      simp only [Outputs.take, own] at images failures revised ⊢
      refine ⟨?_, ?_, ?_⟩
      · rw [images]
        simp [own]
      · rw [failures]
        simp [own]
      · rw [revised]
        cases prompt : call.revisedPrompt <;> simp [own, prompt]

/-! ## Courses -/

theorem runOutputs_fair {completions : List (Completion OutputRun)} {ended : OutputCourse}
    (checked : config.check = .ok ()) (ran : runOutputs config codecs request completions = some ended) :
    ended.Fair (outputStops codecs request) config.maxParallelOutputs
      (List.range request.parameters.n) := by
  apply course_fair _ ran
  simp only [Config.check, Outcome.bind_ok, Outcome.failIf_ok] at checked
  omega

/-- Without a sibling that may have run, no other call was started. -/
theorem alone_of_unmarked {finished : List (Nat × OutputRun)} {index : Nat} {run : OutputRun}
    {error : BridgeError} {running : List Nat} {drained : List OutputRun}
    (fair : Course.Fair (outputStops codecs request) config.maxParallelOutputs
      (List.range request.parameters.n) (.stopped finished index run error running drained))
    (unmarked : siblingMayHaveRun config codecs request finished = false) :
    finished = [] ∧ running = [] ∧ drained = [] := by
  obtain ⟨calm, stopped, room, bounded, waiting, all⟩ := fair
  have strict := outputStops_some stopped
  have counted := all.length_eq
  simp only [List.length_append, List.length_map, List.length_cons, List.length_range] at counted
  have first : finished = [] := by
    cases finished with
    | nil => rfl
    | cons entry rest =>
      obtain ⟨output, succeeded⟩ := outputStops_none (calm entry (List.mem_cons_self ..)) strict
      simp only [siblingMayHaveRun, Bool.and_eq_false_iff, decide_eq_false_iff_not,
        Bool.or_eq_false_iff, List.any_cons, succeeded] at unmarked
      obtain few | ⟨_, impossible, _⟩ := unmarked
      · simp only [List.length_cons] at counted
        omega
      · cases impossible
  have idle : running = [] := by
    simp only [siblingMayHaveRun, Bool.and_eq_false_iff, decide_eq_false_iff_not,
      Bool.or_eq_false_iff] at unmarked
    apply List.length_eq_zero_iff.mp
    omega
  rw [idle] at bounded
  exact ⟨first, idle, List.length_eq_zero_iff.mp (Nat.le_zero.mp bounded)⟩

theorem stopped_dominated {finished : List (Nat × OutputRun)} {index : Nat} {run : OutputRun}
    {error : BridgeError} {running : List Nat} {drained : List OutputRun}
    (fair : Course.Fair (outputStops codecs negotiated.effectiveRequest) config.maxParallelOutputs
      (List.range negotiated.effectiveRequest.parameters.n)
      (.stopped finished index run error running drained)) :
    (OutputMayHaveRun (.stopped finished index run error running drained) →
      ∀ answer, settleOutputs config codecs negotiated imageModel requestId clock
        (.stopped finished index run error running drained) = some answer → Dominated answer) ↔
      DominatingOutputs config codecs negotiated.effectiveRequest
        (.stopped finished index run error running drained) := by
  simp only [settleOutputs, Option.some.injEq, forall_eq', DominatingOutputs]
  rw [dominated_error, reportsUnknown_stopError]
  cases marked : siblingMayHaveRun config codecs negotiated.effectiveRequest finished with
  | true =>
    simp only [true_or, implies_true, true_iff]
    simp only [siblingMayHaveRun, Bool.and_eq_true, decide_eq_true_eq, Bool.or_eq_true,
      List.any_eq_true] at marked
    obtain ⟨many, beside⟩ := marked
    refine .inl ⟨many, beside.imp_right ?_⟩
    rintro ⟨entry, member, _⟩ none
    rw [none] at member
    cases member
  | false =>
    obtain ⟨rfl, rfl, rfl⟩ := alone_of_unmarked fair marked
    have few : ¬(1 < negotiated.effectiveRequest.parameters.n ∧ 1 < config.maxParallelOutputs) := by
      rintro ⟨many, parallel⟩
      simp [siblingMayHaveRun, many, parallel] at marked
    simp [OutputMayHaveRun, Course.delivered, few]

@[simp] theorem indexedOutput_ok {entry : Nat × OutputRun} {output : CallResult × GeneratedImage} :
    (indexedOutput codecs request entry).result = .ok output ↔
      entry.2.result codecs request = .ok output := by
  simp only [indexedOutput]
  cases entry.2.result codecs request <;> simp [Except.mapError]

theorem indexedOutput_error {entry : Nat × OutputRun} {error : BridgeError}
    (failed : entry.2.result codecs request = .error error) :
    (indexedOutput codecs request entry).result =
      .error (atOutput error entry.1 entry.2.generationMs) := by
  simp only [indexedOutput, failed]
  rfl

theorem revisedPromptError_plain : ¬ReportsUnknown revisedPromptError := by
  rw [revisedPromptError, reportsUnknown_withProvider]
  exact not_reportsUnknown_new (by decide) (by decide)

/-- With an image at hand only the missing revised prompt fails the request. -/
theorem conclude_served {outputs : Outputs} (served : outputs.images ≠ []) :
    (∀ answer, concludeOutputs negotiated imageModel requestId clock outputs = some answer →
      Dominated answer) ↔
      (negotiated.effectiveRequest.policies.revisedPrompt = .require →
        outputs.revisedPrompt ≠ none) := by
  have some_image : outputs.images.isEmpty = false := by
    rw [List.isEmpty_eq_false_iff]
    exact served
  simp only [concludeOutputs, some_image, Bool.false_eq_true, if_false]
  by_cases missing : negotiated.effectiveRequest.policies.revisedPrompt = .require ∧
      outputs.revisedPrompt = none
  · simp only [if_pos missing, Option.some.injEq, forall_eq', dominated_error,
      revisedPromptError_plain, false_iff]
    intro present
    exact present missing.1 missing.2
  · simp only [if_neg missing, Option.some.injEq, forall_eq', dominated_ok, true_iff]
    intro required absent
    exact missing ⟨required, absent⟩

/-- Without an image the request fails with the error of its first failure. -/
theorem conclude_unserved {outputs : Outputs} {failure : ImageFailure} {later : List ImageFailure}
    (unserved : outputs.images = []) (failures : outputs.failures = failure :: later) :
    (∀ answer, concludeOutputs negotiated imageModel requestId clock outputs = some answer →
      Dominated answer) ↔ ReportsUnknown failure.error := by
  simp only [concludeOutputs, unserved, failures, List.isEmpty_nil, if_true, List.head?_cons,
    Option.map_some, Option.some.injEq, forall_eq', dominated_error, reportsUnknown_allFailedError]

section

variable {finished : List (Nat × OutputRun)} {collected : List IndexedOutput}

/-- The loop collects an image exactly when an output succeeded. -/
theorem images_empty_iff (among : ∀ output, output ∈ collected ↔
      ∃ entry ∈ finished, indexedOutput codecs request entry = output) :
    (collected.foldl Outputs.take {}).images = [] ↔
      ∀ entry ∈ finished, ¬entry.2.Succeeded codecs request := by
  rw [(take_took {} collected).images]
  constructor
  · rintro ⟨_, failed⟩ entry member ⟨output, succeeded⟩
    obtain ⟨error, own⟩ := failed _ ((among _).mpr ⟨entry, member, rfl⟩)
    rw [indexedOutput_ok.mpr succeeded] at own
    cases own
  · intro nothing
    refine ⟨rfl, ?_⟩
    intro output member
    obtain ⟨entry, at_entry, rfl⟩ := (among output).mp member
    cases own : entry.2.result codecs request with
    | ok output => exact absurd ⟨output, own⟩ (nothing entry at_entry)
    | error error => exact ⟨_, indexedOutput_error own⟩

/-- The loop collects a revised prompt exactly when an output has one. -/
theorem revisedPrompt_present_iff (among : ∀ output, output ∈ collected ↔
      ∃ entry ∈ finished, indexedOutput codecs request entry = output) :
    (collected.foldl Outputs.take {}).revisedPrompt ≠ none ↔
      ∃ entry ∈ finished, ∃ output, entry.2.result codecs request = .ok output ∧
        output.1.revisedPrompt ≠ none := by
  rw [Ne, (take_took {} collected).revisedPrompt]
  constructor
  · intro present
    by_contra absent
    apply present
    refine ⟨rfl, ?_⟩
    intro output member call image own
    obtain ⟨entry, at_entry, rfl⟩ := (among output).mp member
    by_contra prompt
    exact absent ⟨entry, at_entry, _, indexedOutput_ok.mp own, prompt⟩
  · rintro ⟨entry, member, ⟨call, image⟩, own, prompt⟩ ⟨_, absent⟩
    exact prompt (absent _ ((among _).mpr ⟨entry, member, rfl⟩) call image
      (indexedOutput_ok.mpr own))

/-- The first failure of a request without images is the one of output 0. -/
theorem first_failure {count : Nat} (all : (finished.map Prod.fst).Perm (List.range count))
    (nothing : ∀ entry ∈ finished, ¬entry.2.Succeeded codecs request) (some_run : finished ≠ []) :
    ∃ entry ∈ finished, ∃ error failure later, entry.1 = 0 ∧
      (∀ other ∈ finished, other.1 = 0 → other.2.result codecs request = .error error) ∧
      (((finished.map (indexedOutput codecs request)).insertionSort (·.index ≤ ·.index)).foldl
        Outputs.take {}).failures = failure :: later ∧
      (ReportsUnknown failure.error ↔ ReportsUnknown error) := by
  have wanted : count ≠ 0 := by
    rintro rfl
    exact some_run (List.map_eq_nil_iff.mp all.eq_nil)
  obtain ⟨more, rfl⟩ := Nat.exists_eq_succ_of_ne_zero wanted
  have keys : ((finished.map (indexedOutput codecs request)).map IndexedOutput.index).Perm
      (0 :: (List.range more).map Nat.succ) := by
    rw [List.map_map, ← List.range_succ_eq_map]
    exact all
  have ordered : (0 :: (List.range more).map Nat.succ).Pairwise (· < ·) := by
    rw [← List.range_succ_eq_map]
    exact List.pairwise_lt_range
  cases sorted : (finished.map (indexedOutput codecs request)).insertionSort (·.index ≤ ·.index) with
  | nil =>
    have empty := congrArg List.length sorted
    rw [List.length_insertionSort, List.length_map] at empty
    exact absurd (List.length_eq_zero_iff.mp empty) some_run
  | cons first rest =>
    obtain ⟨present, zero, _⟩ := sorted_first keys ordered sorted
    obtain ⟨entry, member, rfl⟩ := List.mem_map.mp present
    cases own : entry.2.result codecs request with
    | ok output => exact absurd ⟨output, own⟩ (nothing entry member)
    | error error =>
      have collected := (take_took {} (indexedOutput codecs request entry :: rest)).failures
      rw [List.filterMap_cons, indexedOutput_error own] at collected
      refine ⟨entry, member, error, _, _, zero, ?_, collected, ?_⟩
      · intro other at_other also
        have distinct : (finished.map Prod.fst).Nodup := all.nodup_iff.mpr List.nodup_range
        rw [List.inj_on_of_nodup_map distinct at_other member (also.trans zero.symm)]
        exact own
      · simp only [atOutput]
        rw [reportsUnknown_withDetail _ (by decide), reportsUnknown_withDetail _ (by decide)]

theorem completed_dominated {count : Nat} (all : (finished.map Prod.fst).Perm (List.range count)) :
    (OutputMayHaveRun (.completed finished) →
      ∀ answer, settleOutputs config codecs negotiated imageModel requestId clock
        (.completed finished) = some answer → Dominated answer) ↔
      DominatingOutputs config codecs negotiated.effectiveRequest (.completed finished) := by
  have among : ∀ output,
      output ∈ (finished.map (indexedOutput codecs negotiated.effectiveRequest)).insertionSort
        (·.index ≤ ·.index) ↔
      ∃ entry ∈ finished, indexedOutput codecs negotiated.effectiveRequest entry = output := by
    intro output
    rw [List.mem_insertionSort, List.mem_map]
  have happened : OutputMayHaveRun (.completed finished) ↔
      ∃ entry ∈ finished, entry.2.MayHaveRun := by
    simp only [OutputMayHaveRun, Course.delivered, List.mem_map]
    constructor
    · rintro ⟨_, ⟨entry, member, rfl⟩, ran⟩
      exact ⟨entry, member, ran⟩
    · rintro ⟨entry, member, ran⟩
      exact ⟨entry.2, ⟨entry, member, rfl⟩, ran⟩
  simp only [settleOutputs, DominatingOutputs]
  rw [happened]
  by_cases served : ∃ entry ∈ finished, entry.2.Succeeded codecs negotiated.effectiveRequest
  · have unserved : ¬∀ entry ∈ finished, ¬entry.2.Succeeded codecs negotiated.effectiveRequest := by
      intro nothing
      obtain ⟨entry, member, succeeded⟩ := served
      exact nothing entry member succeeded
    have ran : ∃ entry ∈ finished, entry.2.MayHaveRun := by
      obtain ⟨entry, member, succeeded⟩ := served
      exact ⟨entry, member, OutputRun.mayHaveRun_of_succeeded succeeded⟩
    have delivered := mt (images_empty_iff among).mp unserved
    rw [imp_iff_right ran, conclude_served delivered, imp_iff_right served,
      revisedPrompt_present_iff among]
    simp only [unserved, false_imp_iff, and_true]
  · have nothing : ∀ entry ∈ finished, ¬entry.2.Succeeded codecs negotiated.effectiveRequest := by
      intro entry member succeeded
      exact served ⟨entry, member, succeeded⟩
    rw [imp_iff_right nothing]
    simp only [served, false_imp_iff, true_and]
    apply imp_congr_right
    rintro ⟨ran, at_ran, _⟩
    obtain ⟨entry, member, error, failure, later, zero, unique, failures, same⟩ :=
      first_failure all nothing (List.ne_nil_of_mem at_ran)
    rw [conclude_unserved ((images_empty_iff among).mpr nothing) failures, same]
    constructor
    · intro reports other at_other also error' failed
      rw [unique other at_other also] at failed
      cases failed
      exact reports
    · intro reports
      exact reports entry member zero error (unique entry member zero)

end

/-- A request reports an uncertain outcome, once a call that was sent may have
produced an image, exactly after the dominating courses. -/
theorem settleOutputs_dominated {completions : List (Completion OutputRun)} {ended : OutputCourse}
    (checked : config.check = .ok ())
    (ran : runOutputs config codecs negotiated.effectiveRequest completions = some ended) :
    (OutputMayHaveRun ended → ∀ answer, settleOutputs config codecs negotiated imageModel requestId
      clock ended = some answer → Dominated answer) ↔
      DominatingOutputs config codecs negotiated.effectiveRequest ended := by
  have fair := runOutputs_fair checked ran
  cases ended with
  | stopped finished index run error running drained => exact stopped_dominated fair
  | completed finished =>
    obtain ⟨_, all⟩ := fair
    exact completed_dominated all

end ImagegenBridge.CodexResponses

namespace ImagegenBridge.Batch

open CodexResponses (Config ImageCodecs OutputClock OutputCourse OutputRun OutputMayHaveRun
  DominatingOutputs executeOutputs runOutputs settleOutputs settleOutputs_dominated)
open Fanout (BatchClock ChunkCourse ChunkRun Dominating MayHaveRun OutputFanoutConfig executeFanout
  runChunks settle settle_dominated)
open Orchestrator Unordered

section

variable {fanout : OutputFanoutConfig} {document : ProviderCapabilities}
  {request : ImageRequest} {chunkEnds : List (Completion ChunkRun)} {course : ChunkCourse}
  {config : Config} {codecs : ImageCodecs} {negotiated : NegotiatedRequest}
  {outputEnds : List (Completion OutputRun)} {outputCourse : OutputCourse}

/-- Whatever the order of completions and the results, a batch whose dispatched
sub-calls may have produced an output fails with an uncertain error exactly after
the dominating courses, for the fan-out as for the provider's own loop. -/
theorem unknown_outcome_dominates_iff (checked : fanout.validate = .ok ())
    (valid : document.validate = .ok ())
    (ran : runChunks fanout request document.count chunkEnds = some course)
    (accepted : config.check = .ok ())
    (outputsRan : runOutputs config codecs negotiated.effectiveRequest outputEnds = some outputCourse)
    (requestId imageModel : String) (clock : BatchClock) (outputClock : OutputClock) :
    ((MayHaveRun course → ∀ answer, executeFanout fanout request requestId document.count clock
        chunkEnds = some answer → Dominated answer) ↔ Dominating request course) ∧
    ((OutputMayHaveRun outputCourse → ∀ answer, executeOutputs config codecs negotiated imageModel
        requestId outputClock outputEnds = some answer → Dominated answer) ↔
      DominatingOutputs config codecs negotiated.effectiveRequest outputCourse) := by
  constructor
  · have settled : executeFanout fanout request requestId document.count clock chunkEnds =
        some (settle request requestId clock course) := by
      rw [executeFanout, ran, Option.map_some]
    simp only [settled, Option.some.injEq, forall_eq']
    exact settle_dominated checked valid ran
  · have settled : executeOutputs config codecs negotiated imageModel requestId outputClock
        outputEnds = settleOutputs config codecs negotiated imageModel requestId outputClock
          outputCourse := by
      rw [executeOutputs, outputsRan, Option.bind_some]
    rw [settled]
    exact settleOutputs_dominated accepted outputsRan

end

/-- Two outputs that run one after the other. -/
def pair (policy : MultiImageFailurePolicy) : ImageRequest :=
  { ImageRequest.generate "a kite" with
    parameters := { n := 2, failurePolicy := policy }
    policies := { batchExecution := .sequential } }

/-- The request the provider's own loop sees. -/
def pairAsGiven : NegotiatedRequest := ⟨(pair .failFast).parameters, pair .failFast, []⟩

def refused : BridgeError := .new .upstream "no image"

def vanished : BridgeError := unknownOutcomeError .timeout "no answer"

def oneByOne : OutputFanoutConfig := ⟨2, 1⟩

def oneCallAtATime : Config := ⟨"gpt-image-2", 2, 1, 1⟩

def blindCodecs : ImageCodecs := ⟨fun _ => none, fun _ => .error refused, 64⟩

/-- The first output is refused and the second vanishes. -/
def refusedThenVanished : List (Completion ChunkRun) :=
  [⟨0, 5, .executed (.error refused)⟩, ⟨0, 7, .executed (.error vanished)⟩]

theorem vanished_output_reported : ∃ answer, executeFanout oneByOne (pair .failFast) "kite"
    CodexAppServer.capabilities.count ⟨0, 0, 0⟩ refusedThenVanished.reverse = some answer ∧
      Dominated answer := by
  have accepted : oneCallAtATime.check = .ok () := rfl
  have outputsRan : runOutputs oneCallAtATime blindCodecs pairAsGiven.effectiveRequest
      [⟨0, 5, .sent (.error vanished)⟩] = some _ := rfl
  have answered : executeFanout oneByOne (pair .failFast) "kite" CodexAppServer.capabilities.count
      ⟨0, 0, 0⟩ refusedThenVanished.reverse = some _ := rfl
  refine ⟨_, answered, (unknown_outcome_dominates_iff rfl rfl rfl accepted outputsRan "kite"
    "gpt-image-2" ⟨0, 0, 0⟩ ⟨0, 0⟩).1.mpr ?_ ?_ _ answered⟩
  · apply Or.inr
    apply Or.inr
    intro _
    simp [ReportsUnknown, vanished, unknownOutcomeError]
  · exact ⟨_, List.mem_cons_self .., ⟨_, rfl⟩, .inl rfl⟩

/-- A best-effort batch without outputs reports its first error, so an unknown outcome
behind a known one is lost and the next route may be paid. -/
theorem vanished_output_unreported : ∃ course answer error,
    runChunks oneByOne (pair .bestEffort) CodexAppServer.capabilities.count refusedThenVanished =
      some course ∧ MayHaveRun course ∧
    executeFanout oneByOne (pair .bestEffort) "kite" CodexAppServer.capabilities.count ⟨0, 0, 0⟩
      refusedThenVanished = some answer ∧
    classifyProviderExecutionResult answer = .error error ∧ ¬Uncertain error ∧
    shouldFallback error .onError = true := by
  refine ⟨_, _, _, rfl, ⟨_, List.mem_cons_of_mem _ (List.mem_cons_self ..), ⟨_, rfl⟩, .inl rfl⟩,
    rfl, rfl, ?_, rfl⟩
  rintro ⟨unknown, _⟩
  cases unknown

end ImagegenBridge.Batch
