import ImagegenBridge.Runtime.FanoutOutcomes

/-!
# The outputs of a fan-out batch

Whatever the order of completions, an answered batch has every output once and in
order, and it answers the same up to its timings.
-/

namespace ImagegenBridge.Fanout

open Batch Unordered

variable {request : ImageRequest} {requestId : String} {clock : BatchClock}
  {results : List ChunkResult} {collected : Collected}

/-! ## Indices -/

/-- The outputs a list of sub-responses and failures is about. -/
def outputIndices (data : List GeneratedImage) (failures : List ImageFailure) : List Nat :=
  data.map GeneratedImage.index ++ failures.map ImageFailure.index

def ChunkResult.indices (result : ChunkResult) : List Nat := List.range' result.offset result.count

theorem validSet_perm {response : ImageResponse} {offset count : Nat}
    (valid : validateChunkIndices response offset count = .ok ()) :
    (outputIndices response.data response.failures).Perm (List.range count) := by
  have sorted := not_not.mp ((Outcome.failIf_ok _ _ _).mp valid)
  have perm := List.perm_insertionSort (· ≤ ·) (outputIndices response.data response.failures)
  rw [outputIndices] at perm ⊢
  rw [sorted] at perm
  exact perm.symm

theorem placeOutputs_indices (result : ChunkResult) (response : ImageResponse) :
    outputIndices (placeOutputs result response).data (placeOutputs result response).failures =
      (outputIndices response.data response.failures).map (result.offset + ·) := by
  simp only [outputIndices, placeOutputs, List.map_append, List.map_map, Function.comp_def,
    Nat.add_comm]

theorem chunkFailures_indices (result : ChunkResult) (error : BridgeError) :
    (chunkFailures result error).map ImageFailure.index = result.indices := by
  simp only [chunkFailures, ChunkResult.indices, List.map_map, List.range'_eq_map_range]
  rfl

/-- What the loop has collected is about the outputs of its chunks, each once. -/
theorem collect_indices (ran : collect results = .ok collected) :
    (outputIndices (collected.successful.flatMap ImageResponse.data)
      (collected.failures ++ collected.successful.flatMap ImageResponse.failures)).Perm
      (results.flatMap ChunkResult.indices) := by
  induction results generalizing collected with
  | nil =>
    cases ran
    exact List.Perm.refl _
  | cons result rest ih =>
    rw [collect] at ran
    rw [List.flatMap_cons]
    split at ran
    · rename_i response own
      obtain ⟨_, valid, ran⟩ := Outcome.bind_ok.mp ran
      obtain ⟨later, tail, same⟩ := Outcome.bind_ok.mp ran
      cases same
      have head : (outputIndices (placeOutputs result response).data
          (placeOutputs result response).failures).Perm result.indices := by
        rw [placeOutputs_indices, ChunkResult.indices, List.range'_eq_map_range]
        exact (validSet_perm valid).map _
      apply List.Perm.trans _ (head.append (ih tail))
      rw [List.perm_iff_count]
      intro index
      simp only [outputIndices, List.flatMap_cons, List.map_append, List.count_append]
      omega
    · rename_i error own
      obtain ⟨later, tail, same⟩ := Outcome.bind_ok.mp ran
      cases same
      have head := chunkFailures_indices result error
      apply List.Perm.trans _ ((List.Perm.of_eq head).append (ih tail))
      rw [List.perm_iff_count]
      intro index
      simp only [outputIndices, List.map_append, List.count_append]
      omega

theorem mergeResponses_ok {first : ImageResponse} {rest : List ImageResponse}
    {response : ImageResponse}
    (merged : mergeResponses request requestId clock collected first rest = .ok response) :
    response.data = ((first :: rest).flatMap ImageResponse.data).insertionSort (·.index ≤ ·.index) ∧
    response.failures = (collected.failures ++ (first :: rest).flatMap
      ImageResponse.failures).insertionSort (·.index ≤ ·.index) := by
  rw [mergeResponses] at merged
  obtain ⟨_, _, merged⟩ := Outcome.bind_ok.mp merged
  obtain ⟨_, _, merged⟩ := Outcome.bind_ok.mp merged
  cases merged
  exact ⟨rfl, rfl⟩

/-- An answered batch comes from the merge of its successful chunks. -/
theorem aggregate_ok {response : ImageResponse}
    (answered : aggregate request requestId clock results = .ok response) :
    ∃ collected first rest, collect results = .ok collected ∧ collected.successful = first :: rest ∧
      mergeResponses request requestId clock collected first rest = .ok response := by
  rw [aggregate] at answered
  obtain ⟨collected, ran, answered⟩ := Outcome.bind_ok.mp answered
  split at answered
  · cases answered
  · rename_i first rest successful
    exact ⟨collected, first, rest, ran, successful, answered⟩

/-- Sorting by index a list that has each index once orders it strictly. -/
theorem sorted_strictly {α : Type} {index : α → Nat} {xs : List α} (distinct : (xs.map index).Nodup) :
    ((xs.insertionSort (index · ≤ index ·)).map index).Pairwise (· < ·) := by
  have ordered := List.pairwise_map.mpr (List.pairwise_insertionSort (index · ≤ index ·) xs)
  have same := ((List.perm_insertionSort (index · ≤ index ·) xs).map index).nodup_iff.mpr distinct
  exact (ordered.and same).imp fun step => Nat.lt_of_le_of_ne step.1 step.2

/-- The outputs of an answered batch are those of its chunks, each once and in order. -/
theorem aggregate_indices {response : ImageResponse} {total : Nat}
    (answered : aggregate request requestId clock results = .ok response)
    (covered : results.flatMap ChunkResult.indices = List.range total) :
    (outputIndices response.data response.failures).Perm (List.range total) ∧
    (response.data.map GeneratedImage.index).Pairwise (· < ·) ∧
    (response.failures.map ImageFailure.index).Pairwise (· < ·) := by
  obtain ⟨collected, first, rest, ran, successful, merged⟩ := aggregate_ok answered
  obtain ⟨data, failures⟩ := mergeResponses_ok merged
  have all := collect_indices ran
  rw [covered, successful] at all
  have distinct := all.nodup_iff.mpr List.nodup_range
  rw [outputIndices, List.nodup_append'] at distinct
  obtain ⟨data_once, failures_once, _⟩ := distinct
  rw [data, failures]
  refine ⟨?_, sorted_strictly data_once, sorted_strictly failures_once⟩
  apply List.Perm.trans _ all
  exact ((List.perm_insertionSort _ _).map _).append ((List.perm_insertionSort _ _).map _)

def ChunkResult.spec (result : ChunkResult) : ChunkSpec := ⟨result.offset, result.count⟩

/-- Sorted by offset, the results stand in the order of the chunks. -/
theorem sorted_specs {total nativeMax : Nat} {finished : List (ChunkSpec × ChunkRun)}
    (positive : 0 < nativeMax) (all : (finished.map Prod.fst).Perm (chunks total nativeMax)) :
    ((finished.map chunkResult).insertionSort (·.offset ≤ ·.offset)).map ChunkResult.spec =
      chunks total nativeMax := by
  have steps : (chunks total nativeMax).Pairwise (·.offset < ·.offset) := chunks_ordered positive
  have perm : (((finished.map chunkResult).insertionSort (·.offset ≤ ·.offset)).map
      ChunkResult.spec).Perm (chunks total nativeMax) := by
    apply List.Perm.trans ((List.perm_insertionSort _ _).map _)
    rw [List.map_map]
    exact all
  have distinct : ((chunks total nativeMax).map ChunkSpec.offset).Nodup :=
    List.pairwise_map.mpr (steps.imp Nat.ne_of_lt)
  apply List.Perm.eq_of_pairwise _ _ (steps.imp Nat.le_of_lt) perm
  · intro a b at_a at_b below above
    exact List.inj_on_of_nodup_map distinct (perm.mem_iff.mp at_a) at_b (Nat.le_antisymm below above)
  · exact List.pairwise_map.mpr
      (List.pairwise_insertionSort (fun a b : ChunkResult => a.offset ≤ b.offset) _)

theorem sorted_indices {total nativeMax : Nat} {finished : List (ChunkSpec × ChunkRun)}
    (positive : 0 < nativeMax) (all : (finished.map Prod.fst).Perm (chunks total nativeMax)) :
    ((finished.map chunkResult).insertionSort (·.offset ≤ ·.offset)).flatMap ChunkResult.indices =
      List.range total := by
  rw [← chunks_outputs positive, ← sorted_specs positive all, List.flatMap_map]
  rfl

/-! ## Additions of offsets -/

/-- A forwarded partial image lies in the range of its chunk. -/
theorem mapEvent_range {event : ProviderEvent} {offset count index partialIndex : Nat}
    {b64Json : String}
    (mapped : mapEvent event offset count = some (.partialImage index partialIndex b64Json)) :
    offset ≤ index ∧ index < offset + count := by
  unfold mapEvent at mapped
  split at mapped
  · cases mapped
  · split at mapped
    · cases mapped
      omega
    · cases mapped
  · cases mapped
  · cases mapped

/-- Indices that a chunk's checked sub-response adds its offset to. -/
theorem validSet_bound {response : ImageResponse} {offset count index : Nat}
    (valid : validateChunkIndices response offset count = .ok ())
    (present : index ∈ outputIndices response.data response.failures) : index < count :=
  List.mem_range.mp ((validSet_perm valid).mem_iff.mp present)

/-! ## Order of completions -/

def untimedImage (image : GeneratedImage) : GeneratedImage := { image with generationMs := none }

def untimedFailure (failure : ImageFailure) : ImageFailure := { failure with generationMs := 0 }

/-- A response without what the clock wrote into it. -/
def untimed (response : ImageResponse) : ImageResponse :=
  { response with
    created := 0
    timings := {}
    data := response.data.map untimedImage
    failures := response.failures.map untimedFailure }

def Collected.untimed (collected : Collected) : Collected :=
  ⟨collected.successful.map Fanout.untimed, collected.failures.map untimedFailure⟩

def ChunkResult.untimed (result : ChunkResult) : ChunkResult := { result with elapsedMs := 0 }

theorem placeOutputs_untimed (result : ChunkResult) (response : ImageResponse) :
    untimed (placeOutputs result.untimed response) = untimed (placeOutputs result response) := by
  simp [untimed, placeOutputs, ChunkResult.untimed, untimedImage, Function.comp_def]

theorem chunkFailures_untimed (result : ChunkResult) (error : BridgeError) :
    (chunkFailures result.untimed error).map untimedFailure =
      (chunkFailures result error).map untimedFailure := by
  simp [chunkFailures, ChunkResult.untimed, untimedFailure, Function.comp_def]

theorem collect_untimed (results : List ChunkResult) :
    (collect (results.map ChunkResult.untimed)).map Collected.untimed =
      (collect results).map Collected.untimed := by
  induction results with
  | nil => rfl
  | cons result rest ih =>
    have same : result.untimed.result = result.result := rfl
    rw [List.map_cons, collect, collect, same]
    cases own : result.result with
    | ok response =>
      apply Outcome.map_bind_congr (f := id) rfl
      intro _ _ _
      apply Outcome.map_bind_congr ih
      intro later later' agree
      obtain ⟨successful, failures⟩ := Collected.mk.inj agree
      simp only [Except.map, Collected.untimed, List.map_cons, placeOutputs_untimed, successful,
        failures]
    | error error =>
      apply Outcome.map_bind_congr ih
      intro later later' agree
      obtain ⟨successful, failures⟩ := Collected.mk.inj agree
      simp only [Except.map, Collected.untimed, List.map_append, chunkFailures_untimed, successful,
        failures]

theorem mergeSessions_untimed (responses : List ImageResponse) :
    mergeSessions (responses.map untimed) = mergeSessions responses := by
  cases responses with
  | nil => rfl
  | cons first rest =>
    simp only [mergeSessions, List.map_cons, untimed, List.all_map, Function.comp_def]

theorem flatMap_data_untimed (responses : List ImageResponse) :
    (responses.map untimed).flatMap ImageResponse.data =
      (responses.flatMap ImageResponse.data).map untimedImage := by
  rw [List.flatMap_map, List.map_flatMap]
  rfl

theorem flatMap_failures_untimed (responses : List ImageResponse) :
    (responses.map untimed).flatMap ImageResponse.failures =
      (responses.flatMap ImageResponse.failures).map untimedFailure := by
  rw [List.flatMap_map, List.map_flatMap]
  rfl

/-- Merging reads no timing: it gives the same from sub-responses without them. -/
theorem mergeResponses_untimed (collected : Collected) (first : ImageResponse)
    (rest : List ImageResponse) (clock' : BatchClock) :
    (mergeResponses request requestId clock' collected.untimed (untimed first)
      (rest.map untimed)).map untimed =
      (mergeResponses request requestId clock collected first rest).map untimed := by
  have successful : untimed first :: rest.map untimed = (first :: rest).map untimed := rfl
  have failures : collected.untimed.failures ++ ((first :: rest).map untimed).flatMap
      ImageResponse.failures = (collected.failures ++ (first :: rest).flatMap
        ImageResponse.failures).map untimedFailure := by
    rw [flatMap_failures_untimed, List.map_append]
    rfl
  have sortedFailures : ∀ xs : List ImageFailure,
      (xs.map untimedFailure).insertionSort (·.index ≤ ·.index) =
        (xs.insertionSort (·.index ≤ ·.index)).map untimedFailure := by
    intro xs
    exact (List.map_insertionSort _ _ untimedFailure xs fun _ _ _ _ => Iff.rfl).symm
  have sortedImages : ∀ xs : List GeneratedImage,
      (xs.map untimedImage).insertionSort (·.index ≤ ·.index) =
        (xs.insertionSort (·.index ≤ ·.index)).map untimedImage := by
    intro xs
    exact (List.map_insertionSort _ _ untimedImage xs fun _ _ _ _ => Iff.rfl).symm
  have prompts : ((first :: rest).map untimed).findSome? ImageResponse.revisedPrompt =
      (first :: rest).findSome? ImageResponse.revisedPrompt := by
    rw [List.findSome?_map]
    rfl
  have usages : ((first :: rest).map untimed).filterMap ImageResponse.usage =
      (first :: rest).filterMap ImageResponse.usage := by
    rw [List.filterMap_map]
    rfl
  have warnings : ((first :: rest).map untimed).flatMap ImageResponse.warnings =
      (first :: rest).flatMap ImageResponse.warnings := by
    rw [List.flatMap_map]
    rfl
  rw [mergeResponses, mergeResponses]
  apply Outcome.map_bind_congr (f := id)
  · simp only [List.any_map, Function.comp_def]
    rfl
  intro _ _ _
  simp only [successful, failures, sortedFailures, flatMap_data_untimed, sortedImages,
    mergeSessions_untimed, prompts, usages, warnings, List.isEmpty_map]
  apply Outcome.map_bind_congr (f := id)
  · simp only [ne_eq, List.map_eq_nil_iff]
  intro _ _ _
  simp only [Except.map, untimed, List.map_map, Function.comp_def, untimedImage, untimedFailure]
  rfl

/-- Chunk results that differ in their durations only give the same response up to
its timings. -/
theorem aggregate_untimed {results results' : List ChunkResult} (clock clock' : BatchClock)
    (same : results'.map ChunkResult.untimed = results.map ChunkResult.untimed) :
    (aggregate request requestId clock' results').map untimed =
      (aggregate request requestId clock results).map untimed := by
  have gathered : (collect results').map Collected.untimed =
      (collect results).map Collected.untimed := by
    rw [← collect_untimed results', same, collect_untimed results]
  rw [aggregate, aggregate]
  apply Outcome.map_bind_congr gathered
  intro c' c agree
  obtain ⟨successful, failures⟩ := Collected.mk.inj agree
  cases here : c.successful with
  | nil =>
    rw [here, List.map_nil, List.map_eq_nil_iff] at successful
    simp only [successful]
    cases failed : c.failures with
    | nil =>
      rw [failed, List.map_nil, List.map_eq_nil_iff] at failures
      simp only [failures]
    | cons failure more =>
      rw [failed, List.map_cons] at failures
      obtain ⟨failure', more', there, first, _⟩ := List.map_eq_cons_iff.mp failures
      have error := congrArg ImageFailure.error first
      simp only [untimedFailure] at error
      simp only [there, error]
  | cons first rest =>
    rw [here, List.map_cons] at successful
    obtain ⟨first', rest', there, same_first, same_rest⟩ := List.map_eq_cons_iff.mp successful
    simp only [there]
    rw [← mergeResponses_untimed c' first' rest' clock, same_first, same_rest, agree,
      mergeResponses_untimed c first rest clock]

/-- The results a batch has seen, of the chunk that stopped it too. -/
def observed : ChunkCourse → List (ChunkSpec × ChunkRun)
  | .stopped finished job run _ _ _ => finished ++ [(job, run)]
  | .completed finished => finished

/-- Every chunk the batch has seen ended with its own result. -/
def Yields (ended : ChunkCourse) (own : ChunkSpec → Outcome ImageResponse) : Prop :=
  ∀ entry ∈ observed ended, entry.2.result = own entry.1

/-- The sorted results of a finished batch are those of its chunks in order. -/
theorem sorted_results {total nativeMax : Nat} {finished : List (ChunkSpec × ChunkRun)}
    {own : ChunkSpec → Outcome ImageResponse} (positive : 0 < nativeMax)
    (all : (finished.map Prod.fst).Perm (chunks total nativeMax))
    (yields : Yields (.completed finished) own) :
    ((finished.map chunkResult).insertionSort (·.offset ≤ ·.offset)).map ChunkResult.untimed =
      (chunks total nativeMax).map fun chunk => ⟨chunk.offset, chunk.count, 0, own chunk⟩ := by
  rw [← sorted_specs positive all, List.map_map]
  apply List.map_congr_left
  intro result member
  rw [List.mem_insertionSort] at member
  obtain ⟨entry, among, rfl⟩ := List.mem_map.mp member
  simp only [ChunkResult.untimed, chunkResult, Function.comp_apply, ChunkResult.spec,
    yields entry among]

section

variable {config : OutputFanoutConfig} {nativeCount : U8Range}
  {completions completions' : List (Completion ChunkRun)} {ended ended' : ChunkCourse}

/-- Only a finished batch answers with a response. -/
theorem settle_ok {response : ImageResponse}
    (answered : settle request requestId clock ended = .ok response) :
    ∃ finished, ended = .completed finished := by
  cases ended with
  | stopped finished job run error running drained => cases answered
  | completed finished => exact ⟨finished, rfl⟩

/-- With the results of an answered batch no other order of completions stops. -/
theorem answered_completes {response : ImageResponse} {own : ChunkSpec → Outcome ImageResponse}
    (fair : ended.Fair (stops request.parameters.failurePolicy) (batchParallel config request)
      (chunks request.parameters.n nativeCount.max))
    (fair' : ended'.Fair (stops request.parameters.failurePolicy) (batchParallel config request)
      (chunks request.parameters.n nativeCount.max))
    (yields : Yields ended own) (yields' : Yields ended' own)
    (answered : settle request requestId clock ended = .ok response) :
    ∃ finished', ended' = .completed finished' := by
  obtain ⟨finished, rfl⟩ := settle_ok answered
  cases ended' with
  | completed finished' => exact ⟨finished', rfl⟩
  | stopped finished' job run error running drained =>
    obtain ⟨calm, all⟩ := fair
    obtain ⟨_, stopped, _, _, waiting, all'⟩ := fair'
    have planned : job ∈ chunks request.parameters.n nativeCount.max := by
      apply all'.mem_iff.mp
      simp
    obtain ⟨entry, member, rfl⟩ := List.mem_map.mp (all.mem_iff.mpr planned)
    have theirs : run.result = own entry.1 := by
      apply yields' (entry.1, run)
      simp [observed]
    have same : stops request.parameters.failurePolicy run =
        stops request.parameters.failurePolicy entry.2 := by
      unfold stops
      rw [theirs, yields entry member]
    rw [same, calm entry member] at stopped
    cases stopped

/-- Every answered batch has its outputs once and in order, whatever the order of
completions; no sum of an offset and an index leaves a byte; and every order of
completions that sees the same results answers the same, up to timings. -/
theorem fanout_algebra (checked : config.validate = .ok ()) (native : 1 ≤ nativeCount.max)
    (byte : request.parameters.n ≤ 255)
    (ran : runChunks config request nativeCount completions = some ended) :
    (∀ clock response, executeFanout config request requestId nativeCount clock completions =
        some (.ok response) →
      (outputIndices response.data response.failures).Perm (List.range request.parameters.n) ∧
      (response.data.map GeneratedImage.index).Pairwise (· < ·) ∧
      (response.failures.map ImageFailure.index).Pairwise (· < ·)) ∧
    (∀ chunk ∈ chunks request.parameters.n nativeCount.max,
      chunk.offset + chunk.count ≤ 255 ∧
      (∀ event index partialIndex b64Json, mapEvent event chunk.offset chunk.count =
          some (.partialImage index partialIndex b64Json) →
        chunk.offset ≤ index ∧ index < chunk.offset + chunk.count) ∧
      ∀ response, validateChunkIndices response chunk.offset chunk.count = .ok () →
        ∀ index ∈ outputIndices response.data response.failures, index + chunk.offset ≤ 255) ∧
    ∀ completions' ended' own clock clock' response,
      runChunks config request nativeCount completions' = some ended' → Yields ended own →
      Yields ended' own →
      executeFanout config request requestId nativeCount clock completions = some (.ok response) →
      ∃ response', executeFanout config request requestId nativeCount clock' completions' =
        some (.ok response') ∧ untimed response' = untimed response := by
  have fair := runChunks_fair checked ran
  refine ⟨?_, ?_, ?_⟩
  · intro clock response answered
    rw [executeFanout, ran, Option.map_some, Option.some.injEq] at answered
    obtain ⟨finished, rfl⟩ := settle_ok answered
    obtain ⟨_, all⟩ := fair
    exact aggregate_indices answered (sorted_indices native all)
  · intro chunk planned
    have within := chunks_count native planned
    refine ⟨by omega, ?_, ?_⟩
    · intro event index partialIndex b64Json mapped
      exact mapEvent_range mapped
    · intro response valid index present
      have bound := validSet_bound valid present
      omega
  · intro completions' ended' own clock clock' response ran' yields yields' answered
    have fair' := runChunks_fair checked ran'
    rw [executeFanout, ran, Option.map_some, Option.some.injEq] at answered
    obtain ⟨finished', rfl⟩ := answered_completes fair fair' yields yields' answered
    obtain ⟨finished, rfl⟩ := settle_ok answered
    obtain ⟨_, all⟩ := fair
    obtain ⟨_, all'⟩ := fair'
    have same := (sorted_results native all' yields').trans (sorted_results native all yields).symm
    have agree := @aggregate_untimed request requestId _ _ clock clock' same
    rw [settle] at answered
    rw [answered] at agree
    rw [executeFanout, ran', Option.map_some]
    cases other : settle request requestId clock' (.completed finished') with
    | error e =>
      rw [settle] at other
      rw [other] at agree
      cases agree
    | ok response' =>
      rw [settle] at other
      rw [other] at agree
      exact ⟨response', rfl, Except.ok.inj agree⟩

end

def kiteImage : GeneratedImage where
  index := 0
  payload := .b64Json "aQ=="
  format := .png
  width := 1
  height := 1
  bytes := 1
  sha256 := "5f"
  generationMs := none
  metadataName := none

/-- What a provider of single images answers. -/
def kitePart : ImageResponse where
  id := "kite"
  created := 0
  provider := "codex-app-server"
  model := "gpt-image-2"
  requested := {}
  effective := {}
  normalizations := []
  attempts := []
  data := [kiteImage]
  failures := []
  revisedPrompt := none
  usage := none
  session := none
  timings := {}
  warnings := []

def kites : ImageRequest :=
  { ImageRequest.generate "two kites" with parameters := { n := 2, failurePolicy := .bestEffort } }

/-- The second chunk ends first, and fails. -/
def kiteEnds : List (Completion ChunkRun) :=
  [⟨1, 3, .executed (.error (.new .upstream "no image"))⟩, ⟨0, 8, .executed (.ok kitePart)⟩]

theorem kites_in_order : ∃ response,
    executeFanout ⟨2, 2⟩ kites "kites" ⟨1, 1⟩ ⟨0, 0, 0⟩ kiteEnds = some (.ok response) ∧
      (outputIndices response.data response.failures).Perm (List.range 2) := by
  have ran : runChunks ⟨2, 2⟩ kites ⟨1, 1⟩ kiteEnds = some _ := rfl
  have batch := @fanout_algebra kites "kites" ⟨2, 2⟩ ⟨1, 1⟩ kiteEnds _ rfl (by decide) (by decide) ran
  exact ⟨_, rfl, (batch.1 ⟨0, 0, 0⟩ _ rfl).1⟩

/-! ## Counts of the sub-requests -/

section

variable {config : OutputFanoutConfig} {document effective : ProviderCapabilities}
  {completions : List (Completion ChunkRun)} {ended : ChunkCourse}

/-- The effective document extends the maximum only. -/
theorem effectiveCapabilities_min
    (widened : effectiveCapabilities config document = .ok effective) :
    effective.count.min = document.count.min := by
  rw [effectiveCapabilities] at widened
  obtain ⟨_, _, widened⟩ := Outcome.bind_ok.mp widened
  split at widened
  · cases widened
    rfl
  · obtain ⟨_, _, same⟩ := Outcome.bind_ok.mp widened
    cases same
    rfl

theorem started_planned (fair : ended.Fair (stops request.parameters.failurePolicy)
    (batchParallel config request) (chunks request.parameters.n document.count.max))
    {chunk : ChunkSpec} (member : chunk ∈ ended.started) :
    chunk ∈ chunks request.parameters.n document.count.max := by
  cases ended with
  | stopped finished job run error running drained =>
    obtain ⟨_, _, _, _, waiting, all⟩ := fair
    exact all.mem_iff.mp (List.mem_append_left waiting member)
  | completed finished => exact fair.2.mem_iff.mp member

/-- Some course starts every chunk. -/
theorem all_started (checked : config.validate = .ok ()) :
    ∃ completions ended, runChunks config request document.count completions = some ended ∧
      ∀ chunk ∈ chunks request.parameters.n document.count.max, chunk ∈ ended.started := by
  let served : Completion ChunkRun := ⟨0, 0, .executed (.ok kitePart)⟩
  let planned := chunks request.parameters.n document.count.max
  have answered : ∃ answer, executeFanout config request "" document.count ⟨0, 0, 0⟩
      (List.replicate planned.length served) = some answer :=
    executeFanout_answers (by rw [List.length_replicate])
  obtain ⟨_, answered⟩ := answered
  obtain ⟨ended, ran, _⟩ := Option.map_eq_some_iff.mp answered
  have quiet : ∀ next ∈ List.replicate planned.length served,
      stops request.parameters.failurePolicy next.result = none := by
    intro next member
    rw [List.eq_of_mem_replicate member]
    unfold stops
    cases request.parameters.failurePolicy <;> rfl
  obtain ⟨finished, rfl⟩ := course_quiet quiet ran
  refine ⟨_, _, ran, ?_⟩
  intro chunk member
  exact (runChunks_fair checked ran).2.mem_iff.mpr member

/-- Every sub-request has a count the inner provider takes exactly when the remainder
of the split is none or reaches its minimum. -/
theorem subrequest_counts_iff (valid : document.validate = .ok ())
    (checked : config.validate = .ok ())
    (widened : effectiveCapabilities config document = .ok effective)
    (admitted : effective.count.contains request.parameters.n = true) :
    (∀ completions ended, runChunks config request document.count completions = some ended →
      ∀ sub ∈ sentRequests document request ended,
        document.count.contains sub.parameters.n = true) ↔
      request.parameters.n % document.count.max = 0 ∨
        document.count.min ≤ request.parameters.n % document.count.max := by
  obtain ⟨minimum, ordered, _⟩ := ProviderCapabilities.validate_ranges valid
  have positive : 0 < document.count.max := by omega
  have least := effectiveCapabilities_min widened
  simp only [U8Range.contains, Bool.and_eq_true, decide_eq_true_eq] at admitted ⊢
  by_cases single : request.parameters.n ≤ document.count.max
  · simp only [sentRequests, if_pos single, List.mem_singleton, forall_eq]
    apply iff_of_true
    · intro _ _ _
      omega
    · obtain exact_count | fewer := Nat.eq_or_lt_of_le single
      · rw [exact_count]
        exact .inl (Nat.mod_self _)
      · rw [Nat.mod_eq_of_lt fewer]
        omega
  · rw [← chunks_minimum positive ordered]
    simp only [sentRequests, if_neg single, List.forall_mem_map, chunkRequest]
    constructor
    · intro taken chunk member
      obtain ⟨completions, ended, ran, all⟩ : ∃ completions ended,
          runChunks config request document.count completions = some ended ∧ _ :=
        all_started checked
      exact (taken completions ended ran chunk (all chunk member)).1
    · intro reached completions ended ran chunk member
      have planned := started_planned (runChunks_fair checked ran) member
      exact ⟨reached chunk planned, (chunks_count positive planned).2.1⟩

end

/-- A provider of pairs of images. -/
def pairs : ProviderCapabilities where
  provider := "pairs"
  model := none
  generation := true
  edits := false
  count := ⟨2, 2⟩
  batching := { mode := .native, nativeCount := ⟨2, 2⟩, maxParallelOutputs := 2 }
  sizes := { auto := true }
  aspectRatio := .unsupported
  resolution := .unsupported
  qualities := [.auto]
  outputFormats := [.png]
  backgrounds := [.auto]
  transparentBackground := .unsupported
  moderation := [.auto]
  negativePrompt := .unsupported
  revisedPrompt := .unsupported
  userAttribution := .unsupported
  inputFidelities := []
  actions := [.auto]
  referenceImages := ⟨.unsupported, 0, 0, 0⟩
  editImages := ⟨.unsupported, 0, 0, 0⟩
  masks := ⟨.unsupported, 0, 0, 0⟩
  partialImages := ⟨0, 0⟩
  persistentSessions := false
  explicitThreads := false

def outputs (n : Nat) : ImageRequest :=
  { ImageRequest.generate "kites" with parameters := { n } }

theorem four_outputs_in_pairs : ∃ completions ended,
    runChunks ⟨4, 2⟩ (outputs 4) pairs.count completions = some ended ∧
      ∀ sub ∈ sentRequests pairs (outputs 4) ended, pairs.count.contains sub.parameters.n = true := by
  have ran : runChunks ⟨4, 2⟩ (outputs 4) pairs.count
      [⟨0, 0, .executed (.ok kitePart)⟩, ⟨0, 0, .executed (.ok kitePart)⟩] = some _ := rfl
  have checked : (OutputFanoutConfig.mk 4 2).validate = .ok () := rfl
  exact ⟨_, _, ran, (subrequest_counts_iff rfl checked rfl rfl).mpr (.inl rfl) _ _ ran⟩

/-- The third of three outputs is asked from a provider of pairs on its own. -/
theorem third_output_alone :
    pairs.validate = .ok () ∧ (OutputFanoutConfig.mk 4 2).validate = .ok () ∧
    (∃ effective, effectiveCapabilities ⟨4, 2⟩ pairs = .ok effective ∧
      effective.count.contains (outputs 3).parameters.n = true) ∧
    ∃ completions ended, runChunks ⟨4, 2⟩ (outputs 3) pairs.count completions = some ended ∧
      ∃ sub ∈ sentRequests pairs (outputs 3) ended, pairs.count.contains sub.parameters.n = false := by
  refine ⟨rfl, rfl, ⟨_, rfl, rfl⟩, ?_⟩
  refine ⟨[⟨0, 0, .executed (.ok kitePart)⟩, ⟨0, 0, .executed (.ok kitePart)⟩], _, rfl, ?_⟩
  exact ⟨chunkRequest (outputs 3) ⟨2, 1⟩, by decide, rfl⟩

end ImagegenBridge.Fanout
