import Mathlib.Data.String.Basic
import ImagegenBridge.Artifacts.RetentionSteps

/-!
# What retention removes

A pass removes only files of records that were valid when it began and that its policy
condemns. Without a fault, and when its scan saw every entry, only records are left that
the policy keeps.
-/

namespace ImagegenBridge.ArtifactStore

open Text Inspect Materialize Files Program

variable {store : Store} {tree : Tree} {s t : Session} {record : OwnershipRecord}

/-! ## The choice -/

/-- The candidates that a policy condemns, by their indices from one on. -/
def condemned (policy : RetentionPolicy) (cutoff : Nat) : Nat → List OwnedCandidate → List OwnedCandidate
  | _, [] => []
  | index, candidate :: rest =>
    if expired cutoff candidate || exceedsCount policy index then
      candidate :: condemned policy cutoff (index + 1) rest
    else condemned policy cutoff (index + 1) rest

theorem mem_condemned {policy : RetentionPolicy} {cutoff index : Nat} {candidate : OwnedCandidate}
    {candidates : List OwnedCandidate} : candidate ∈ condemned policy cutoff index candidates ↔
      ∃ before after, candidates = before ++ candidate :: after ∧
        (expired cutoff candidate || exceedsCount policy (index + before.length)) = true := by
  induction candidates generalizing index with
  | nil => simp [condemned]
  | cons first rest ih =>
    have later : candidate ∈ condemned policy cutoff (index + 1) rest ↔
        ∃ before after, rest = before ++ candidate :: after ∧
          (expired cutoff candidate || exceedsCount policy (index + (first :: before).length)) = true := by
      rw [ih]
      simp only [List.length_cons, Nat.add_assoc, Nat.add_comm 1]
    have whole : (∃ before after, first :: rest = before ++ candidate :: after ∧
        (expired cutoff candidate || exceedsCount policy (index + before.length)) = true) ↔
        (candidate = first ∧ (expired cutoff first || exceedsCount policy index) = true) ∨
          candidate ∈ condemned policy cutoff (index + 1) rest := by
      rw [later]
      constructor
      · rintro ⟨before, after, split, bad⟩
        cases before with
        | nil =>
          cases split
          exact .inl ⟨rfl, bad⟩
        | cons head before =>
          cases split
          exact .inr ⟨before, after, rfl, bad⟩
      · rintro (⟨rfl, bad⟩ | ⟨before, after, rfl, bad⟩)
        · exact ⟨[], rest, rfl, bad⟩
        · exact ⟨first :: before, after, rfl, bad⟩
    rw [whole, condemned]
    split_ifs with bad
    · simp [bad]
    · simp [bad]

theorem keeps_removeCondemned {touched : Path → Prop} {mayFail : Prop} {policy : RetentionPolicy}
    {cutoff : Nat} (report : CleanupReport) (index : Nat) (candidates : List OwnedCandidate)
    (known : ∀ candidate ∈ condemned policy cutoff index candidates, ∃ record,
      candidate = owned (markerPath record.id) record ∧ ∀ path ∈ recordFiles record, touched path) :
    (removeCondemned store policy cutoff report index candidates).Keeps
      (contract (removing touched mayFail)) s fun result t =>
        result.scanLimitReached = report.scanLimitReached ∧ (¬mayFail →
          ∀ record, owned (markerPath record.id) record ∈ condemned policy cutoff index candidates →
            ¬IsValid store t.tree record) := by
  induction candidates generalizing s report index with
  | nil =>
    refine ⟨rfl, ?_⟩
    intro _ record among
    cases among
  | cons candidate rest ih =>
    unfold removeCondemned
    rw [condemned] at known ⊢
    split_ifs at known ⊢ with bad
    · obtain ⟨record, rfl, files⟩ := known candidate List.mem_cons_self
      have others := fun other among => known other (List.mem_cons_of_mem _ among)
      have onward (u : Session) (report : CleanupReport) (gone : ¬mayFail → ¬IsValid store u.tree record) :
          (removeCondemned store policy cutoff report (index + 1) rest).Keeps
            (contract (removing touched mayFail)) u fun result t =>
              result.scanLimitReached = report.scanLimitReached ∧ (¬mayFail → ∀ found,
                owned (markerPath found.id) found ∈ owned (markerPath record.id) record ::
                  condemned policy cutoff (index + 1) rest → ¬IsValid store t.tree found) := by
        apply (keeps_pruned (fun _ _ allowed => allowed) (ih report (index + 1) others)).mono
        rintro _ t ⟨⟨limit, invalid⟩, pruned⟩
        refine ⟨limit, ?_⟩
        intro calm found among
        rcases List.mem_cons.mp among with same | later
        · have equal : found = record := congrArg OwnedCandidate.record same
          rw [equal]
          exact fun valid => gone calm (valid_pruned pruned valid)
        · exact invalid calm found later
      rw [keeps_bind]
      apply (finds_iff.mp (finds_removeVerified files)).mono
      intro result u gone
      cases result with
      | none => exact onward u _ gone
      | some done => exact onward u _ gone
    · exact ih report (index + 1) known

/-! ## The order -/

def Newer (record other : OwnershipRecord) : Prop :=
  other.createdAt.toNat < record.createdAt.toNat ∨
    (other.createdAt = record.createdAt ∧ other.id < record.id)

theorem newerFirst_iff {left right : OwnedCandidate} : newerFirst left right = true ↔
    right.record.createdAt.toNat < left.record.createdAt.toNat ∨
      (right.record.createdAt = left.record.createdAt ∧ right.record.id ≤ left.record.id) := by
  simp [newerFirst, UInt64.lt_iff_toNat_lt]

theorem newerFirst_trans {first second third : OwnedCandidate}
    (before : newerFirst first second = true) (after : newerFirst second third = true) :
    newerFirst first third = true := by
  rw [newerFirst_iff] at before after ⊢
  rcases before with later | ⟨same, order⟩
  · left
    rcases after with earlier | ⟨equal, _⟩
    · exact earlier.trans later
    · rw [equal]
      exact later
  · rcases after with earlier | ⟨equal, again⟩
    · left
      rw [← same]
      exact earlier
    · exact .inr ⟨equal.trans same, again.trans order⟩

theorem newerFirst_total (left right : OwnedCandidate) :
    (newerFirst left right || newerFirst right left) = true := by
  rw [Bool.or_eq_true, newerFirst_iff, newerFirst_iff]
  rcases lt_trichotomy right.record.createdAt.toNat left.record.createdAt.toNat with less | same | more
  · exact .inl (.inl less)
  · have equal := UInt64.toNat_inj.mp same
    rcases le_total right.record.id left.record.id with order | order
    · exact .inl (.inr ⟨equal, order⟩)
    · exact .inr (.inr ⟨equal.symm, order⟩)
  · exact .inr (.inl more)

/-- What stands before a candidate in the order of removal is newer. -/
theorem newer_before {candidates before after : List OwnedCandidate} {candidate other : OwnedCandidate}
    (distinct : (candidates.map fun candidate => candidate.record.id).Nodup)
    (split : candidates.mergeSort newerFirst = before ++ candidate :: after) (among : other ∈ before) :
    Newer other.record candidate.record := by
  have sorted : (candidates.mergeSort newerFirst).Pairwise fun left right =>
      newerFirst left right = true := by
    apply List.pairwise_mergeSort
    · intro _ _ _
      exact newerFirst_trans
    · exact newerFirst_total
  have apart : ((candidates.mergeSort newerFirst).map fun candidate => candidate.record.id).Nodup :=
    ((List.mergeSort_perm candidates newerFirst).map _).nodup_iff.mpr distinct
  rw [split] at sorted apart
  have ordered := (List.pairwise_append.mp sorted).2.2 other among candidate List.mem_cons_self
  have different : other.record.id ≠ candidate.record.id := by
    rw [List.map_append, List.map_cons] at apart
    exact (List.nodup_append.mp apart).2.2 _ (List.mem_map_of_mem among) _ List.mem_cons_self
  rcases newerFirst_iff.mp ordered with later | ⟨same, order⟩
  · exact .inl later
  · exact .inr ⟨same, lt_of_le_of_ne order different.symm⟩

/-! ## Retention -/

/-- A record that was valid, and that is too old or comes after as many newer valid ones
as may be kept. -/
structure Condemned (store : Store) (tree : Tree) (policy : RetentionPolicy) (cutoff : Nat)
    (record : OwnershipRecord) : Prop where
  valid : IsValid store tree record
  reason : record.createdAt.toNat ≤ cutoff ∨ ∃ (maximum : Nat) (newer : List OwnershipRecord),
    policy.maxArtifacts = some maximum ∧ newer.Nodup ∧ newer.length = maximum ∧
    ∀ other ∈ newer, Newer other record ∧ IsValid store tree other

/-- The oldest time that is kept. -/
def cutoffAt (policy : RetentionPolicy) (now : UInt64) : Nat := now.toNat - policy.maxAge

/-- A file of a condemned record. -/
def CondemnedFile (store : Store) (tree : Tree) (policy : RetentionPolicy) (now : Option UInt64)
    (path : Path) : Prop :=
  ∃ time record, now = some time ∧ Condemned store tree policy (cutoffAt policy time) record ∧
    path ∈ recordFiles record

/-- What a policy keeps: no expired record, and not too many. -/
structure Retained (store : Store) (policy : RetentionPolicy) (cutoff : Nat) (tree : Tree) : Prop where
  unexpired : ∀ record, IsValid store tree record → cutoff < record.createdAt.toNat
  few : ∀ maximum, policy.maxArtifacts = some maximum → ∀ records : List OwnershipRecord,
    records.Nodup → (∀ record ∈ records, IsValid store tree record) → records.length ≤ maximum

section Choice

variable {policy : RetentionPolicy} {cutoff : Nat} {candidates : List OwnedCandidate}

theorem exceedsCount_iff {index : Nat} : exceedsCount policy index = true ↔
    ∃ maximum, policy.maxArtifacts = some maximum ∧ maximum ≤ index := by
  unfold exceedsCount
  cases policy.maxArtifacts <;> simp

/-- The records of candidates from the scan. -/
theorem Scanned.nodup {part : List OwnedCandidate} (scanned : Scanned store tree s candidates)
    (sub : part.Sublist (candidates.mergeSort newerFirst)) :
    (part.map OwnedCandidate.record).Nodup := by
  have apart : ((candidates.mergeSort newerFirst).map fun candidate => candidate.record.id).Nodup :=
    ((List.mergeSort_perm candidates newerFirst).map _).nodup_iff.mpr scanned.distinct
  have inside := (sub.map fun candidate => candidate.record.id).nodup apart
  have whole : part.map (fun candidate => candidate.record.id) =
      (part.map OwnedCandidate.record).map OwnershipRecord.id := by
    rw [List.map_map]
    rfl
  rw [whole] at inside
  exact inside.of_map

/-- What is chosen for removal is condemned. -/
theorem Scanned.justified (scanned : Scanned store tree s candidates) {candidate : OwnedCandidate}
    (among : candidate ∈ condemned policy cutoff 0 (candidates.mergeSort newerFirst)) :
    ∃ record, candidate = owned (markerPath record.id) record ∧
      Condemned store tree policy cutoff record := by
  obtain ⟨before, after, split, bad⟩ := mem_condemned.mp among
  have inside (found : OwnedCandidate) (among : found ∈ before ++ candidate :: after) :
      found ∈ candidates := by
    rw [← split] at among
    exact (List.mergeSort_perm candidates newerFirst).mem_iff.mp among
  obtain ⟨record, rfl, _, valid⟩ := scanned.sound candidate (inside candidate (by simp))
  refine ⟨record, rfl, valid, ?_⟩
  rw [Bool.or_eq_true, Nat.zero_add] at bad
  rcases bad with old | many
  · left
    exact of_decide_eq_true old
  · right
    obtain ⟨maximum, kept, enough⟩ := exceedsCount_iff.mp many
    have sub : (before.take maximum).Sublist (candidates.mergeSort newerFirst) := by
      rw [split]
      exact (List.take_sublist _ _).trans (List.sublist_append_left _ _)
    refine ⟨maximum, (before.take maximum).map OwnedCandidate.record, kept, scanned.nodup sub, ?_, ?_⟩
    · rw [List.length_map, List.length_take]
      omega
    · intro other found
      obtain ⟨chosen, early, rfl⟩ := List.mem_map.mp found
      have earlier := List.mem_of_mem_take early
      obtain ⟨source, same, _, known⟩ := scanned.sound chosen (inside chosen (by simp [earlier]))
      refine ⟨newer_before scanned.distinct split earlier, ?_⟩
      rw [same]
      exact known

theorem Scanned.reversed (scanned : Scanned store tree s candidates) :
    Scanned store tree s candidates.reverse where
  same := scanned.same
  opened := scanned.opened
  sound candidate among := scanned.sound candidate (List.mem_reverse.mp among)
  distinct := by
    rw [List.map_reverse, List.nodup_reverse]
    exact scanned.distinct

/-- What is not chosen is what the policy keeps. -/
theorem retained_rest {after : Tree}
    (there : ∀ record, IsValid store after record → owned (markerPath record.id) record ∈ candidates)
    (gone : ∀ record, owned (markerPath record.id) record ∈
      condemned policy cutoff 0 (candidates.mergeSort newerFirst) →
        ¬IsValid store after record) : Retained store policy cutoff after := by
  have place (record : OwnershipRecord) (valid : IsValid store after record) :
      ∃ before later, candidates.mergeSort newerFirst =
        before ++ owned (markerPath record.id) record :: later ∧
          ¬(expired cutoff (owned (markerPath record.id) record) ||
            exceedsCount policy before.length) = true := by
    have among := (List.mergeSort_perm candidates newerFirst).mem_iff.mpr (there record valid)
    obtain ⟨before, later, split⟩ := List.append_of_mem among
    refine ⟨before, later, split, ?_⟩
    intro bad
    apply gone record _ valid
    apply mem_condemned.mpr
    exact ⟨before, later, split, by rwa [Nat.zero_add]⟩
  constructor
  · intro record valid
    obtain ⟨_, _, _, fine⟩ := place record valid
    rw [Bool.or_eq_true, not_or] at fine
    have young : ¬record.createdAt.toNat ≤ cutoff := fun old => fine.1 (decide_eq_true old)
    omega
  · intro maximum kept records distinct valid
    have among (record : OwnershipRecord) (inside : record ∈ records) :
        record ∈ ((candidates.mergeSort newerFirst).take maximum).map OwnedCandidate.record := by
      obtain ⟨before, later, split, fine⟩ := place record (valid record inside)
      rw [Bool.or_eq_true, not_or] at fine
      have few : before.length < maximum := by
        by_contra many
        exact fine.2 (exceedsCount_iff.mpr ⟨maximum, kept, by omega⟩)
      rw [split, List.take_append]
      apply List.mem_map.mpr
      refine ⟨owned (markerPath record.id) record, List.mem_append_right _ ?_, rfl⟩
      have more : maximum - before.length = (maximum - before.length - 1) + 1 := by omega
      rw [more, List.take_succ_cons]
      exact List.mem_cons_self
    have fits := (List.subperm_of_subset distinct among).length_le
    rw [List.length_map, List.length_take] at fits
    omega

end Choice

/-! ## The pass -/

theorem tries_cleanup {mayFail : Prop} (policy : RetentionPolicy) (now : Option UInt64) :
    Tries (contract (removing (CondemnedFile store tree policy now) mayFail))
      (cleanup store policy now) (.at tree)
      (fun report t => ¬mayFail → report.scanLimitReached = false →
        ∃ time, now = some time ∧ Retained store policy (cutoffAt policy time) t.tree)
      fun _ _ => True := by
  have allowed (u : Session) : (removing (CondemnedFile store tree policy now) mayFail).allow u
      (.act (.openDirectory ownershipRoot)) := trivial
  unfold cleanup
  rw [tries_bind]
  apply tries_refuse
  · intro _
    rw [tries_bind]
    apply (reads_orRaise (reads_stat ownershipRoot)).keeps removing_reading
    · cases checkOwnershipRoot (statOf (Session.at tree).tree ownershipRoot) with
      | error e => trivial
      | ok done =>
        dsimp only
        rw [tries_bind]
        cases now with
        | none => trivial
        | some time =>
          simp only [unixTimestamp, tries_pure]
          rw [tries_bind]
          apply tries_finished (allowed _)
          · intro _
            rw [tries_bind, tries_lift]
            have start : Scanned store tree (acted (.at tree) (.openDirectory ownershipRoot)) [] :=
              ⟨rfl, rfl, fun _ among => absurd among List.not_mem_nil, List.nodup_nil⟩
            have unlisted : ¬mayFail → Whole store tree
                (acted (.at tree) (.openDirectory ownershipRoot)) [] :=
              fun _ _ _ listed => absurd listed List.not_mem_nil
            apply (keeps_scanRecords policy.maxScanEntries .default [] start unlisted).mono
            rintro ⟨report, candidates⟩ t ⟨scanned, complete⟩
            dsimp only
            rw [tries_lift]
            apply (keeps_pruned (fun _ _ allowed => allowed)
              (keeps_removeCondemned report 0 (candidates.reverse.mergeSort newerFirst) ?_)).mono
            · rintro result u ⟨⟨limit, gone⟩, pruned⟩ calm unlimited
              obtain ⟨listed, whole⟩ := complete (limit.symm.trans unlimited)
              rw [scanned.same] at pruned
              refine ⟨time, rfl, retained_rest ?_ (gone calm)⟩
              intro record valid
              have before := valid_pruned pruned valid
              have marker : tree (markerPath record.id) ≠ none := by
                obtain ⟨marker, bytes, found⟩ := before
                rw [found.recorded.marker]
                exact Option.some_ne_none _
              exact List.mem_reverse.mpr (whole calm record before (listed _ marker))
            · intro candidate among
              obtain ⟨record, same, condemned⟩ := scanned.reversed.justified among
              exact ⟨record, same, fun path inside => ⟨time, record, rfl, condemned, inside⟩⟩
          · intro _ _ _
            trivial
          · intro _ _
            trivial
    · intro _ _ _
      trivial
  · intro _ _
    trivial

end ImagegenBridge.ArtifactStore
