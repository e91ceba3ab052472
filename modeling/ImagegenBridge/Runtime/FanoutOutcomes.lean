import ImagegenBridge.Runtime.Fanout

/-!
# What a fan-out batch says of its outcome

Once a dispatched chunk may have produced an output, the error of the batch must be
uncertain. The fail-fast path marks its error; `aggregate` marks none of its own.
-/

namespace ImagegenBridge.Fanout

open Batch Orchestrator Unordered

variable {request : ImageRequest} {requestId : String} {clock : BatchClock}
  {results : List ChunkResult} {collected : Collected} {e : BridgeError}

/-! ## Results of `aggregate` -/

/-- The outputs a successful chunk returned are exactly its own. -/
def ChunkResult.ValidSet (result : ChunkResult) : Prop :=
  ∀ response, result.result = .ok response →
    validateChunkIndices response result.offset result.count = .ok ()

def ChunkResult.Succeeded (result : ChunkResult) : Prop := ∃ response, result.result = .ok response

/-- The sub-responses of one batch fit together. -/
structure Coherent (request : ImageRequest) (results : List ChunkResult) : Prop where
  indices : ∀ result ∈ results, result.ValidSet
  identity : ∀ result ∈ results, ∀ other ∈ results, ∀ response response',
    result.result = .ok response → other.result = .ok response' →
      response.provider = response'.provider ∧ response.model = response'.model
  complete : request.parameters.failurePolicy = .bestEffort ∨
    ∀ result ∈ results, ∀ response, result.result = .ok response → response.failures = []

theorem validateChunkIndices_error {response : ImageResponse} {offset count : Nat}
    (refused : validateChunkIndices response offset count = .error e) : ¬ReportsUnknown e := by
  obtain ⟨_, rfl⟩ := (Outcome.failIf_error _ _ _).mp refused
  rw [reportsUnknown_withDetail _ (by decide)]
  exact not_reportsUnknown_new (by decide) (by decide)

theorem collect_error (failed : collect results = .error e) : ¬ReportsUnknown e := by
  induction results with
  | nil => cases failed
  | cons result rest ih =>
    rw [collect] at failed
    split at failed
    · obtain refused | ⟨_, _, later⟩ := Outcome.bind_error.mp failed
      · exact validateChunkIndices_error refused
      · obtain refused | ⟨_, _, impossible⟩ := Outcome.bind_error.mp later
        · exact ih refused
        · cases impossible
    · obtain refused | ⟨_, _, impossible⟩ := Outcome.bind_error.mp failed
      · exact ih refused
      · cases impossible

/-- What the loop has collected once it reaches the end. -/
structure Gathered (results : List ChunkResult) (collected : Collected) : Prop where
  indices : ∀ result ∈ results, result.ValidSet
  successful : ∀ placed, placed ∈ collected.successful ↔
    ∃ result ∈ results, ∃ response, result.result = .ok response ∧
      placed = placeOutputs result response
  failures : collected.failures = results.flatMap fun result =>
    match result.result with
    | .ok _ => []
    | .error error => chunkFailures result error

theorem collect_gathered (ran : collect results = .ok collected) : Gathered results collected := by
  induction results generalizing collected with
  | nil =>
    cases ran
    exact ⟨by simp, by simp, rfl⟩
  | cons result rest ih =>
    rw [collect] at ran
    split at ran
    · rename_i response own
      obtain ⟨_, valid, ran⟩ := Outcome.bind_ok.mp ran
      obtain ⟨later, tail, same⟩ := Outcome.bind_ok.mp ran
      cases same
      have gathered := ih tail
      constructor
      · intro r member
        obtain rfl | later := List.mem_cons.mp member
        · intro response' other
          rw [own] at other
          cases other
          exact valid
        · exact gathered.indices r later
      · intro placed
        simp only [List.mem_cons, gathered.successful placed]
        constructor
        · rintro (rfl | ⟨r, member, found⟩)
          · exact ⟨result, .inl rfl, response, own, rfl⟩
          · exact ⟨r, .inr member, found⟩
        · rintro ⟨r, rfl | member, response', succeeded, rfl⟩
          · rw [own] at succeeded
            cases succeeded
            exact .inl rfl
          · exact .inr ⟨r, member, response', succeeded, rfl⟩
      · simp only [List.flatMap_cons, own, List.nil_append]
        exact gathered.failures
    · rename_i error own
      obtain ⟨later, tail, same⟩ := Outcome.bind_ok.mp ran
      cases same
      have gathered := ih tail
      constructor
      · intro r member
        obtain rfl | later := List.mem_cons.mp member
        · intro response other
          rw [own] at other
          cases other
        · exact gathered.indices r later
      · intro placed
        simp only [List.mem_cons, gathered.successful placed]
        constructor
        · rintro ⟨r, member, found⟩
          exact ⟨r, .inr member, found⟩
        · rintro ⟨r, rfl | member, response, succeeded, placing⟩
          · rw [own] at succeeded
            cases succeeded
          · exact ⟨r, member, response, succeeded, placing⟩
      · simp only [List.flatMap_cons, own]
        rw [gathered.failures]

/-- With valid output sets the loop reaches the end. -/
theorem collect_reaches (valid : ∀ result ∈ results, result.ValidSet) :
    ∃ collected, collect results = .ok collected := by
  induction results with
  | nil => exact ⟨_, rfl⟩
  | cons result rest ih =>
    obtain ⟨later, tail⟩ := ih fun r member => valid r (List.mem_cons_of_mem _ member)
    rw [collect]
    split
    · rename_i response own
      have first := valid result (List.mem_cons_self ..) response own
      refine ⟨_, Outcome.bind_ok.mpr ⟨(), first, Outcome.bind_ok.mpr ⟨later, tail, rfl⟩⟩⟩
    · exact ⟨_, Outcome.bind_ok.mpr ⟨later, tail, rfl⟩⟩

/-- Merging fails with an error of its own, unless the sub-responses agree. -/
theorem mergeResponses_dominated (collected : Collected) (first : ImageResponse)
    (rest : List ImageResponse) :
    Dominated (mergeResponses request requestId clock collected first rest) ↔
      (∀ other ∈ rest, other.provider = first.provider ∧ other.model = first.model) ∧
      (request.parameters.failurePolicy = .bestEffort ∨
        collected.failures = [] ∧ ∀ response ∈ first :: rest, response.failures = []) := by
  have identity : ¬ReportsUnknown identityError := not_reportsUnknown_new (by decide) (by decide)
  have partial_failures : ¬ReportsUnknown partialFailuresError :=
    not_reportsUnknown_new (by decide) (by decide)
  rw [mergeResponses]
  by_cases differ : rest.any (fun response =>
      response.provider != first.provider || response.model != first.model) = true
  · have agree : ¬∀ other ∈ rest, other.provider = first.provider ∧ other.model = first.model := by
      intro agree
      obtain ⟨other, member, different⟩ := List.any_eq_true.mp differ
      simp [agree other member] at different
    simp only [Outcome.failIf, if_pos differ, agree, false_and, iff_false]
    intro dominated
    exact identity (dominated_error.mp dominated)
  · have agree : ∀ other ∈ rest, other.provider = first.provider ∧ other.model = first.model := by
      intro other member
      simp only [List.any_eq_true, not_exists, not_and] at differ
      simpa using differ other member
    have sorted : ∀ failures : List ImageFailure,
        failures.insertionSort (·.index ≤ ·.index) = [] ↔ failures = [] := by
      intro failures
      rw [← List.length_eq_zero_iff, List.length_insertionSort, List.length_eq_zero_iff]
    have none_failed : (collected.failures ++ (first :: rest).flatMap ImageResponse.failures) = [] ↔
        collected.failures = [] ∧ ∀ response ∈ first :: rest, response.failures = [] := by
      rw [List.append_eq_nil_iff, List.flatMap_eq_nil_iff]
    simp only [Outcome.failIf, if_neg differ]
    by_cases failed : (collected.failures ++ (first :: rest).flatMap ImageResponse.failures).insertionSort
        (·.index ≤ ·.index) ≠ [] ∧ request.parameters.failurePolicy ≠ .bestEffort
    · simp only [bind, Except.bind, if_pos failed]
      rw [dominated_error]
      obtain ⟨some_failed, strict⟩ := failed
      rw [Ne, sorted, none_failed] at some_failed
      apply iff_of_false partial_failures
      rintro ⟨_, complete⟩
      exact some_failed (complete.resolve_left strict)
    · simp only [bind, Except.bind, if_neg failed]
      refine ⟨fun _ => ⟨agree, ?_⟩, fun _ => dominated_ok _⟩
      rw [not_and_or, not_not, not_not, sorted, none_failed] at failed
      exact failed.symm

/-- A batch with a successful chunk reports an uncertain outcome whenever it fails
exactly when its sub-responses fit together: its own errors mark nothing. -/
theorem aggregate_served (served : ∃ result ∈ results, result.Succeeded)
    (calm : request.parameters.failurePolicy = .failFast → ∀ result ∈ results, result.Succeeded) :
    Dominated (aggregate request requestId clock results) ↔ Coherent request results := by
  rw [aggregate]
  cases ran : collect results with
  | error e =>
    have plain := collect_error ran
    constructor
    · intro dominated
      exact absurd (dominated_error.mp dominated) plain
    · intro coherent
      obtain ⟨_, reached⟩ := collect_reaches coherent.indices
      rw [ran] at reached
      cases reached
  | ok collected =>
    have gathered := collect_gathered ran
    obtain ⟨result, member, response, succeeded⟩ := served
    have placed := (gathered.successful _).mpr ⟨result, member, response, succeeded, rfl⟩
    cases successful : collected.successful with
    | nil =>
      rw [successful] at placed
      cases placed
    | cons first rest =>
      simp only [bind, Except.bind, successful]
      rw [mergeResponses_dominated]
      have origin := gathered.successful
      rw [successful] at origin
      obtain ⟨source, at_source, head, is_head, rfl⟩ := (origin first).mp (List.mem_cons_self ..)
      constructor
      · rintro ⟨agree, complete⟩
        have alike : ∀ r ∈ results, ∀ response, r.result = .ok response →
            response.provider = head.provider ∧ response.model = head.model := by
          intro r at_r response own
          obtain same | later := List.mem_cons.mp
            ((origin _).mpr ⟨r, at_r, response, own, rfl⟩)
          · have provider := congrArg ImageResponse.provider same
            have model := congrArg ImageResponse.model same
            exact ⟨provider, model⟩
          · have alike := agree _ later
            exact alike
        refine ⟨gathered.indices, ?_, ?_⟩
        · intro r at_r r' at_r' response response' own own'
          have left := alike r at_r response own
          have right := alike r' at_r' response' own'
          exact ⟨left.1.trans right.1.symm, left.2.trans right.2.symm⟩
        · apply complete.imp_right
          rintro ⟨_, empty⟩ r at_r response own
          have none := empty _ ((origin _).mpr ⟨r, at_r, response, own, rfl⟩)
          exact List.map_eq_nil_iff.mp none
      · intro coherent
        constructor
        · intro other later
          obtain ⟨r, at_r, response, own, rfl⟩ := (origin other).mp (List.mem_cons_of_mem _ later)
          exact coherent.identity r at_r source at_source response head own is_head
        · cases policy : request.parameters.failurePolicy with
          | bestEffort => exact .inl rfl
          | failFast =>
            obtain impossible | empty := coherent.complete
            · rw [policy] at impossible
              cases impossible
            · refine .inr ⟨?_, ?_⟩
              · rw [gathered.failures, List.flatMap_eq_nil_iff]
                intro r at_r
                obtain ⟨response, own⟩ := calm policy r at_r
                simp [own]
              · intro placed among
                obtain ⟨r, at_r, response, own, rfl⟩ := (origin placed).mp among
                simp [placeOutputs, empty r at_r response own]

/-- A batch without a successful chunk reports the error of its first chunk. -/
theorem aggregate_unserved {first : ChunkResult} {rest : List ChunkResult} {error : BridgeError}
    (unserved : ∀ result ∈ first :: rest, ¬result.Succeeded) (own : first.result = .error error)
    (counted : 0 < first.count) :
    Dominated (aggregate request requestId clock (first :: rest)) ↔ ReportsUnknown error := by
  have valid : ∀ result ∈ first :: rest, result.ValidSet := by
    intro result member response succeeded
    exact absurd ⟨response, succeeded⟩ (unserved result member)
  obtain ⟨collected, ran⟩ := collect_reaches valid
  have gathered := collect_gathered ran
  have none : collected.successful = [] := by
    rw [List.eq_nil_iff_forall_not_mem]
    intro placed among
    obtain ⟨result, member, response, succeeded, _⟩ := (gathered.successful placed).mp among
    exact unserved result member ⟨response, succeeded⟩
  obtain ⟨count, rest_of_count⟩ : ∃ count, first.count = count + 1 := ⟨first.count - 1, by omega⟩
  have failures := gathered.failures
  rw [List.flatMap_cons, own] at failures
  simp only [chunkFailures, rest_of_count, List.range_succ_eq_map, List.map_cons,
    List.cons_append] at failures
  rw [aggregate, ran]
  simp only [bind, Except.bind, none, failures]
  rw [dominated_error, reportsUnknown_allFailedError, reportsUnknown_withDetail _ (by decide)]

/-! ## Courses -/

/-- The sub-request was sent and may have produced an output. -/
def ChunkRun.MayHaveRun (run : ChunkRun) : Prop := run.Dispatched ∧ Ambiguous run.result

def MayHaveRun (ended : ChunkCourse) : Prop := ∃ run ∈ ended.delivered, run.MayHaveRun

/-- The courses after which the batch says so when work may have been done. -/
def Dominating (request : ImageRequest) : ChunkCourse → Prop
  | .stopped finished _ run error running _ =>
    finished ≠ [] ∨ running ≠ [] ∨ (run.MayHaveRun → ReportsUnknown error)
  | .completed finished =>
    ((∃ result ∈ finished.map chunkResult, result.Succeeded) →
      Coherent request (finished.map chunkResult)) ∧
    ((∀ result ∈ finished.map chunkResult, ¬result.Succeeded) →
      (∃ entry ∈ finished, entry.2.MayHaveRun) → ∀ entry ∈ finished, entry.1.offset = 0 →
        ∀ error, entry.2.result = .error error → ReportsUnknown error)

theorem ChunkRun.mayHaveRun_of_ok {run : ChunkRun} {response : ImageResponse}
    (succeeded : run.result = .ok response) : run.MayHaveRun := by
  refine ⟨?_, by rw [succeeded]; trivial⟩
  unfold ChunkRun.result at succeeded
  unfold ChunkRun.Dispatched
  split at succeeded
  · cases succeeded
  · cases succeeded
  · cases succeeded
  · rename_i finish
    exact ⟨_, finish⟩

theorem stops_some {policy : MultiImageFailurePolicy} {run : ChunkRun} {error : BridgeError}
    (stopped : stops policy run = some error) : run.result = .error error := by
  unfold stops at stopped
  split at stopped
  · rename_i failed
    cases stopped
    exact failed
  · cases stopped

/-- Under fail-fast only a success lets the batch go on. -/
theorem stops_none {policy : MultiImageFailurePolicy} {run : ChunkRun}
    (goes : stops policy run = none) (strict : policy = .failFast) :
    ∃ response, run.result = .ok response := by
  subst strict
  unfold stops at goes
  cases result : run.result with
  | ok response => exact ⟨response, rfl⟩
  | error error => simp [result] at goes

theorem Coherent.of_perm {results' : List ChunkResult} (perm : results.Perm results')
    (coherent : Coherent request results) : Coherent request results' where
  indices result member := coherent.indices result (perm.mem_iff.mpr member)
  identity result member other member' :=
    coherent.identity result (perm.mem_iff.mpr member) other (perm.mem_iff.mpr member')
  complete := coherent.complete.imp_right fun empty result member =>
    empty result (perm.mem_iff.mpr member)

section

variable {config : OutputFanoutConfig} {document : ProviderCapabilities}
  {completions : List (Completion ChunkRun)} {ended : ChunkCourse}

theorem runChunks_fair {nativeCount : U8Range} (checked : config.validate = .ok ())
    (ran : runChunks config request nativeCount completions = some ended) :
    ended.Fair (stops request.parameters.failurePolicy) (batchParallel config request)
      (chunks request.parameters.n nativeCount.max) := by
  apply course_fair _ ran
  have limits := (Outcome.failIf_ok _ _ _).mp checked
  unfold batchParallel
  split
  · omega
  · split <;> omega
  · omega

/-- The chunk that `aggregate` sees first is the one at offset 0. -/
theorem sorted_head {total nativeMax : Nat} {finished : List (ChunkSpec × ChunkRun)}
    (positive : 0 < nativeMax) (all : (finished.map Prod.fst).Perm (chunks total nativeMax))
    {first : ChunkResult} {rest : List ChunkResult}
    (sorted : (finished.map chunkResult).insertionSort (·.offset ≤ ·.offset) = first :: rest) :
    ∃ entry ∈ finished, first = chunkResult entry ∧ entry.1.offset = 0 ∧ 0 < first.count ∧
      ∀ other ∈ finished, other.1.offset = 0 → chunkResult other = first := by
  have present : first ∈ finished.map chunkResult := by
    rw [← List.mem_insertionSort (·.offset ≤ ·.offset), sorted]
    exact List.mem_cons_self ..
  obtain ⟨entry, member, rfl⟩ := List.mem_map.mp present
  have counted := chunks_count positive (all.mem_iff.mp (List.mem_map_of_mem member))
  have wanted : 0 < total := by omega
  obtain ⟨count, larger, starts⟩ : ∃ count rest, chunks total nativeMax = ⟨0, count⟩ :: rest :=
    chunks_head wanted
  have ordered : ((chunks total nativeMax).map ChunkSpec.offset).Pairwise (· < ·) :=
    List.pairwise_map.mpr (chunks_ordered positive)
  have offsets := all.map ChunkSpec.offset
  rw [starts, List.map_cons] at offsets ordered
  have keys : ((finished.map chunkResult).map ChunkResult.offset).Perm
      (0 :: larger.map ChunkSpec.offset) := by
    rw [List.map_map] at offsets ⊢
    exact offsets
  obtain ⟨_, zero, unique⟩ := sorted_first keys ordered sorted
  refine ⟨entry, member, rfl, zero, counted.1, ?_⟩
  intro other among also
  exact unique _ (List.mem_map_of_mem among) also

/-- A batch that stopped says so unless nothing else ran and its own error does not. -/
theorem stopped_dominated {finished : List (ChunkSpec × ChunkRun)} {job : ChunkSpec}
    {run : ChunkRun} {error : BridgeError} {running : List ChunkSpec} {drained : List ChunkRun}
    (bounded : drained.length ≤ running.length) :
    (MayHaveRun (.stopped finished job run error running drained) →
      Dominated (settle request requestId clock (.stopped finished job run error running drained))) ↔
      Dominating request (.stopped finished job run error running drained) := by
  simp only [settle, Dominating]
  rw [dominated_error, reportsUnknown_stopError]
  by_cases alone : finished = [] ∧ running = []
  · obtain ⟨rfl, rfl⟩ := alone
    have none : drained = [] := List.length_eq_zero_iff.mp (Nat.le_zero.mp bounded)
    simp [none, MayHaveRun, Course.delivered]
  · have accompanied : (!running.isEmpty || !finished.isEmpty) = true := by
      cases running with
      | cons _ _ => rfl
      | nil =>
        cases finished with
        | cons _ _ => rfl
        | nil => exact absurd ⟨rfl, rfl⟩ alone
    simp only [accompanied, true_or, implies_true, true_iff]
    by_cases before : finished = []
    · exact .inr (.inl fun beside => alone ⟨before, beside⟩)
    · exact .inl before

theorem completed_dominated {total nativeMax : Nat} {finished : List (ChunkSpec × ChunkRun)}
    (positive : 0 < nativeMax)
    (calm : ∀ entry ∈ finished, stops request.parameters.failurePolicy entry.2 = none)
    (all : (finished.map Prod.fst).Perm (chunks total nativeMax)) :
    (MayHaveRun (.completed finished) →
      Dominated (settle request requestId clock (.completed finished))) ↔
      Dominating request (.completed finished) := by
  simp only [settle, Dominating]
  have perm := List.perm_insertionSort (·.offset ≤ ·.offset) (finished.map chunkResult)
  by_cases served : ∃ result ∈ finished.map chunkResult, result.Succeeded
  · have ran : MayHaveRun (.completed finished) := by
      obtain ⟨_, member, response, succeeded⟩ := served
      obtain ⟨entry, among, rfl⟩ := List.mem_map.mp member
      exact ⟨entry.2, List.mem_map_of_mem among, ChunkRun.mayHaveRun_of_ok succeeded⟩
    have sorted_served : ∃ result ∈ (finished.map chunkResult).insertionSort (·.offset ≤ ·.offset),
        result.Succeeded := by
      obtain ⟨result, member, succeeded⟩ := served
      exact ⟨result, perm.mem_iff.mpr member, succeeded⟩
    have unserved : ¬∀ result ∈ finished.map chunkResult, ¬result.Succeeded := by
      intro nothing
      obtain ⟨result, member, succeeded⟩ := served
      exact nothing result member succeeded
    have quiet : request.parameters.failurePolicy = .failFast →
        ∀ result ∈ (finished.map chunkResult).insertionSort (·.offset ≤ ·.offset),
          result.Succeeded := by
      intro strict result member
      obtain ⟨entry, among, rfl⟩ := List.mem_map.mp (perm.mem_iff.mp member)
      exact stops_none (calm entry among) strict
    rw [aggregate_served sorted_served quiet]
    simp only [ran, served, unserved, true_imp_iff, false_imp_iff, and_true]
    exact ⟨Coherent.of_perm perm, Coherent.of_perm perm.symm⟩
  · have nothing : ∀ result ∈ finished.map chunkResult, ¬result.Succeeded := by
      intro result member succeeded
      exact served ⟨result, member, succeeded⟩
    have happened : MayHaveRun (.completed finished) ↔ ∃ entry ∈ finished, entry.2.MayHaveRun := by
      simp only [MayHaveRun, Course.delivered, List.mem_map]
      constructor
      · rintro ⟨_, ⟨entry, member, rfl⟩, ran⟩
        exact ⟨entry, member, ran⟩
      · rintro ⟨entry, member, ran⟩
        exact ⟨entry.2, ⟨entry, member, rfl⟩, ran⟩
    rw [happened, imp_iff_right nothing]
    simp only [served, false_imp_iff, true_and]
    cases sorted : (finished.map chunkResult).insertionSort (·.offset ≤ ·.offset) with
    | nil =>
      have none : finished = [] := by
        have empty := perm.length_eq
        rw [sorted, List.length_map] at empty
        exact List.length_eq_zero_iff.mp empty.symm
      simp [none]
    | cons first rest =>
      obtain ⟨entry, member, rfl, zero, counted, unique⟩ := sorted_head positive all sorted
      have unsuccessful : ∀ result ∈ chunkResult entry :: rest, ¬result.Succeeded := by
        intro result among
        rw [← sorted] at among
        exact nothing result (perm.mem_iff.mp among)
      cases own : entry.2.result with
      | ok response =>
        exact absurd ⟨response, own⟩ (unsuccessful _ (List.mem_cons_self ..))
      | error error =>
        rw [aggregate_unserved unsuccessful own counted]
        apply imp_congr_right
        intro _
        constructor
        · intro reports other among at_zero error' failed
          have same : other.2.result = entry.2.result :=
            congrArg ChunkResult.result (unique other among at_zero)
          rw [same, own] at failed
          cases failed
          exact reports
        · intro reports
          exact reports entry member zero error own

/-- A fan-out batch reports an uncertain outcome, once a dispatched chunk may have
produced an output, exactly after the dominating courses. -/
theorem settle_dominated (checked : config.validate = .ok ()) (valid : document.validate = .ok ())
    (ran : runChunks config request document.count completions = some ended) :
    (MayHaveRun ended → Dominated (settle request requestId clock ended)) ↔
      Dominating request ended := by
  have fair := runChunks_fair checked ran
  have ranges := ProviderCapabilities.validate_ranges valid
  cases ended with
  | stopped finished job run error running drained =>
    obtain ⟨_, _, _, bounded, _⟩ := fair
    exact stopped_dominated bounded
  | completed finished =>
    obtain ⟨calm, all⟩ := fair
    exact completed_dominated (by omega) calm all

/-- With a completion for each of its chunks the batch answers. -/
theorem executeFanout_answers
    (enough : (chunks request.parameters.n document.count.max).length ≤ completions.length) :
    ∃ answer, executeFanout config request requestId document.count clock completions =
      some answer := by
  have started : (chunks request.parameters.n document.count.max).length =
      (Window.start (batchParallel config request) (chunks request.parameters.n
        document.count.max) : Window ChunkSpec ChunkRun).running.length +
      (Window.start (batchParallel config request) (chunks request.parameters.n
        document.count.max) : Window ChunkSpec ChunkRun).waiting.length := by
    simp only [Window.start, List.length_take, List.length_drop]
    omega
  obtain ⟨ended, ran⟩ : ∃ ended, runChunks config request document.count completions = some ended :=
    course_ends (started ▸ enough)
  exact ⟨_, by rw [executeFanout, ran]; rfl⟩

end

end ImagegenBridge.Fanout
