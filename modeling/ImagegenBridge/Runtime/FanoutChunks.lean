import ImagegenBridge.Core.Capabilities

/-!
# Output fan-out: limits, effective capabilities and chunks

The parts of `crates/runtime/src/fanout/mod.rs` that decide what a batch is
split into, before any sub-request runs.
-/

namespace ImagegenBridge.Fanout

/-- Bounded output fan-out policy shared by provider adapters. -/
structure OutputFanoutConfig where
  maxOutputs : Nat
  maxParallelOutputs : Nat
  deriving DecidableEq, Repr

def OutputFanoutConfig.validate (config : OutputFanoutConfig) : Outcome Unit :=
  Outcome.failIf
    (config.maxOutputs = 0 ∨ config.maxParallelOutputs = 0
      ∨ config.maxParallelOutputs > config.maxOutputs)
    (BridgeError.new .configuration "output fan-out limits are invalid")

/-- The document the decorated provider advertises. -/
def effectiveCapabilities (config : OutputFanoutConfig) (c : ProviderCapabilities) :
    Outcome ProviderCapabilities := do
  c.validate
  if config.maxOutputs ≤ c.count.max then .ok c
  else
    let widened := { c with
      count := { c.count with max := config.maxOutputs }
      batching := { mode := .fanOut, nativeCount := c.count,
                    maxParallelOutputs := config.maxParallelOutputs } }
    widened.validate
    .ok widened

structure ChunkSpec where
  offset : Nat
  count : Nat
  deriving DecidableEq, Repr

/-- The chunks from one offset on. Each holds at least one output when the native
maximum is positive, so a fuel of `total` never runs out. -/
def chunksFrom (total nativeMax : Nat) : Nat → Nat → List ChunkSpec
  | 0, _ => []
  | fuel + 1, offset =>
    if offset < total then
      let count := min nativeMax (total - offset)
      ⟨offset, count⟩ :: chunksFrom total nativeMax fuel (offset + count)
    else []

def chunks (total nativeMax : Nat) : List ChunkSpec := chunksFrom total nativeMax total 0

theorem chunksFrom_count {total nativeMax fuel offset : Nat} {chunk : ChunkSpec}
    (positive : 0 < nativeMax) (h : chunk ∈ chunksFrom total nativeMax fuel offset) :
    0 < chunk.count ∧ chunk.count ≤ nativeMax ∧ chunk.offset + chunk.count ≤ total := by
  induction fuel generalizing offset with
  | zero => simp [chunksFrom] at h
  | succ fuel ih =>
    rw [chunksFrom] at h
    split at h
    · obtain rfl | later := List.mem_cons.mp h
      · refine ⟨?_, ?_, ?_⟩ <;> simp only <;> omega
      · exact ih later
    · cases h

/-- Every chunk asks for at least one output and for no more than the inner provider allows. -/
theorem chunks_count {total nativeMax : Nat} {chunk : ChunkSpec} (positive : 0 < nativeMax)
    (h : chunk ∈ chunks total nativeMax) :
    0 < chunk.count ∧ chunk.count ≤ nativeMax ∧ chunk.offset + chunk.count ≤ total :=
  chunksFrom_count positive h

theorem chunksFrom_outputs {total nativeMax fuel offset : Nat} (positive : 0 < nativeMax)
    (enough : total ≤ offset + fuel) :
    (chunksFrom total nativeMax fuel offset).flatMap (fun chunk => List.range' chunk.offset chunk.count)
      = List.range' offset (total - offset) := by
  induction fuel generalizing offset with
  | zero =>
    have done : total - offset = 0 := by omega
    rw [chunksFrom, done]
    rfl
  | succ fuel ih =>
    rw [chunksFrom]
    split
    · rw [List.flatMap_cons, ih (by omega), List.range'_append_1]
      congr 1
      simp only
      omega
    · have done : total - offset = 0 := by omega
      rw [done]
      rfl

/-- The chunks cover the outputs of the batch, each once and in order. -/
theorem chunks_outputs {total nativeMax : Nat} (positive : 0 < nativeMax) :
    (chunks total nativeMax).flatMap (fun chunk => List.range' chunk.offset chunk.count) =
      List.range total := by
  rw [chunks, chunksFrom_outputs positive (by omega), Nat.sub_zero, List.range_eq_range']

theorem chunksFrom_offset {total nativeMax fuel offset : Nat} {chunk : ChunkSpec}
    (h : chunk ∈ chunksFrom total nativeMax fuel offset) : offset ≤ chunk.offset := by
  induction fuel generalizing offset with
  | zero => simp [chunksFrom] at h
  | succ fuel ih =>
    rw [chunksFrom] at h
    split at h
    · obtain rfl | later := List.mem_cons.mp h
      · exact Nat.le_refl _
      · have beyond := ih later
        omega
    · cases h

/-- The chunks stand in order, each beyond the one before. -/
theorem chunksFrom_ordered {total nativeMax fuel offset : Nat} (positive : 0 < nativeMax) :
    (chunksFrom total nativeMax fuel offset).Pairwise (·.offset < ·.offset) := by
  induction fuel generalizing offset with
  | zero => exact List.Pairwise.nil
  | succ fuel ih =>
    rw [chunksFrom]
    split
    · apply List.Pairwise.cons _ ih
      intro later member
      have beyond := chunksFrom_offset member
      simp only at beyond ⊢
      omega
    · exact List.Pairwise.nil

theorem chunks_ordered {total nativeMax : Nat} (positive : 0 < nativeMax) :
    (chunks total nativeMax).Pairwise (·.offset < ·.offset) :=
  chunksFrom_ordered positive

/-- A chunk is full or holds the remainder. -/
theorem chunksFrom_full {total nativeMax fuel offset : Nat} {chunk : ChunkSpec}
    (h : chunk ∈ chunksFrom total nativeMax fuel offset) :
    chunk.count = nativeMax ∨
      chunk.count = (total - offset) % nativeMax ∧ (total - offset) % nativeMax ≠ 0 := by
  induction fuel generalizing offset with
  | zero => simp [chunksFrom] at h
  | succ fuel ih =>
    rw [chunksFrom] at h
    split at h
    · by_cases whole : nativeMax ≤ total - offset
      · rw [Nat.min_eq_left whole] at h
        obtain rfl | later := List.mem_cons.mp h
        · exact .inl rfl
        · rw [Nat.mod_eq_sub_mod whole, Nat.sub_sub]
          exact ih later
      · have small : total - offset < nativeMax := by omega
        rw [Nat.min_eq_right (by omega)] at h
        obtain rfl | later := List.mem_cons.mp h
        · rw [Nat.mod_eq_of_lt small]
          exact .inr ⟨rfl, by omega⟩
        · have beyond : ¬offset + (total - offset) < total := by omega
          cases fuel with
          | zero => simp [chunksFrom] at later
          | succ fuel => simp [chunksFrom, beyond] at later
    · cases h

/-- A remainder is a chunk of its own. -/
theorem chunksFrom_remainder {total nativeMax fuel offset : Nat} (positive : 0 < nativeMax)
    (enough : total ≤ offset + fuel) (rest : (total - offset) % nativeMax ≠ 0) :
    ∃ chunk ∈ chunksFrom total nativeMax fuel offset,
      chunk.count = (total - offset) % nativeMax := by
  induction fuel generalizing offset with
  | zero =>
    have done : total - offset = 0 := by omega
    simp [done] at rest
  | succ fuel ih =>
    have within : offset < total := by
      by_contra beyond
      have done : total - offset = 0 := by omega
      simp [done] at rest
    rw [chunksFrom, if_pos within]
    by_cases whole : nativeMax ≤ total - offset
    · rw [Nat.min_eq_left whole]
      rw [Nat.mod_eq_sub_mod whole, Nat.sub_sub] at rest ⊢
      obtain ⟨chunk, member, count⟩ := ih (by omega) rest
      exact ⟨chunk, List.mem_cons_of_mem _ member, count⟩
    · refine ⟨_, List.mem_cons_self .., ?_⟩
      rw [Nat.mod_eq_of_lt (by omega)]
      exact Nat.min_eq_right (by omega)

/-- Every chunk reaches a minimum exactly when the remainder does. -/
theorem chunks_minimum {total nativeMax minimum : Nat} (positive : 0 < nativeMax)
    (ordered : minimum ≤ nativeMax) : (∀ chunk ∈ chunks total nativeMax, minimum ≤ chunk.count) ↔
      total % nativeMax = 0 ∨ minimum ≤ total % nativeMax := by
  constructor
  · intro reached
    by_cases rest : total % nativeMax = 0
    · exact .inl rest
    · have fuel : total ≤ 0 + total := Nat.le_of_eq (Nat.zero_add total).symm
      obtain ⟨chunk, member, count⟩ := chunksFrom_remainder positive fuel rest
      have least := reached chunk member
      rw [count, Nat.sub_zero] at least
      exact .inr least
  · intro enough chunk member
    obtain full | ⟨remainder, nonzero⟩ := chunksFrom_full member
    · omega
    · rw [Nat.sub_zero] at remainder nonzero
      omega

/-- Any batch starts at offset 0. -/
theorem chunks_head {total nativeMax : Nat} (wanted : 0 < total) :
    ∃ count rest, chunks total nativeMax = ⟨0, count⟩ :: rest := by
  obtain ⟨fuel, rfl⟩ : ∃ fuel, total = fuel + 1 := ⟨total - 1, by omega⟩
  rw [chunks, chunksFrom, if_pos wanted]
  exact ⟨_, _, rfl⟩

/-- The request of one chunk. -/
def chunkRequest (request : ImageRequest) (chunk : ChunkSpec) : ImageRequest :=
  { request with parameters := { request.parameters with n := chunk.count } }

end ImagegenBridge.Fanout
