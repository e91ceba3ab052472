import Mathlib.Data.List.Perm.Basic
import Mathlib.Data.List.Sort

/-!
# Bounded unordered completion

Jobs start in order, at most a fixed number at a time. The environment chooses
which running job completes next and with what result, and a result may stop the
course while other jobs still run.
-/

namespace Unordered

variable {J R E : Type}

/-- One completion: which of the running jobs, and its result. -/
structure Completion (R : Type) where
  position : Nat
  result : R

structure Window (J R : Type) where
  waiting : List J
  running : List J
  finished : List (J × R)

namespace Window

/-- The first jobs started, the others waiting. -/
def start (parallel : Nat) (jobs : List J) : Window J R :=
  ⟨jobs.drop parallel, jobs.take parallel, []⟩

def refill (w : Window J R) : Window J R :=
  match w.waiting with
  | [] => w
  | next :: waiting => { w with waiting, running := w.running ++ [next] }

/-- The job a completion names and the jobs that still run beside it. Any position
names one of the running jobs. -/
def pick (w : Window J R) (position : Nat) : Option (J × List J) :=
  (w.running[position % w.running.length]?).map fun job =>
    (job, w.running.eraseIdx (position % w.running.length))

/-- Puts a completed job among the finished ones and starts the next. -/
def advance (w : Window J R) (job : J) (others : List J) (result : R) : Window J R :=
  refill { w with running := others, finished := w.finished ++ [(job, result)] }

/-- Every job the window knows of. -/
def jobs (w : Window J R) : List J := w.finished.map Prod.fst ++ w.running ++ w.waiting

end Window

/-- How a course ends. -/
inductive Course (J R E : Type) where
  /-- The result of `job` stopped it, with some jobs still running; of those the
  drained ones still delivered a result. -/
  | stopped (finished : List (J × R)) (job : J) (result : R) (error : E)
      (running : List J) (drained : List R)
  | completed (finished : List (J × R))

/-- Every result delivered in the course. -/
def Course.delivered : Course J R E → List R
  | .stopped finished _ result _ _ drained => finished.map Prod.snd ++ result :: drained
  | .completed finished => finished.map Prod.snd

/-- Every job the course started. -/
def Course.started : Course J R E → List J
  | .stopped finished job _ _ running _ => finished.map Prod.fst ++ job :: running
  | .completed finished => finished.map Prod.fst

/-- The course under one schedule of completions, or nothing when the schedule
ends while jobs run. -/
def course (stops : R → Option E) : List (Completion R) → Window J R → Option (Course J R E)
  | [], w => if w.running.isEmpty then some (.completed w.finished) else none
  | next :: later, w =>
    match w.pick next.position with
    | none => some (.completed w.finished)
    | some (job, others) =>
      match stops next.result with
      | some error => some (.stopped w.finished job next.result error others
          ((later.map Completion.result).take others.length))
      | none => course stops later (w.advance job others next.result)

variable {w : Window J R}

theorem pick_none {position : Nat} (h : w.pick position = none) : w.running = [] := by
  rw [Window.pick, Option.map_eq_none_iff, List.getElem?_eq_none_iff] at h
  by_contra nonempty
  have positive : 0 < w.running.length := List.length_pos_iff.mpr nonempty
  have within := Nat.mod_lt position positive
  omega

/-- A completion takes one running job out of the window. -/
theorem pick_perm {position : Nat} {job : J} {others : List J}
    (h : w.pick position = some (job, others)) : w.running.Perm (job :: others) := by
  rw [Window.pick, Option.map_eq_some_iff] at h
  obtain ⟨found, present, same⟩ := h
  cases same
  obtain ⟨within, value⟩ := List.getElem?_eq_some_iff.mp present
  have whole := List.getElem_cons_eraseIdx_perm within
  rw [value] at whole
  exact whole.symm

/-- A window that is used as far as it can be: jobs wait only while others run. -/
structure Window.Busy (w : Window J R) (parallel : Nat) : Prop where
  bounded : w.running.length ≤ parallel
  drained : w.running = [] → w.waiting = []

theorem start_busy {parallel : Nat} (positive : 0 < parallel) (jobs : List J) :
    (Window.start parallel jobs : Window J R).Busy parallel where
  bounded := by
    simp only [Window.start, List.length_take]
    exact Nat.min_le_left ..
  drained := by
    intro empty
    simp only [Window.start, List.take_eq_nil_iff] at empty
    have none : jobs = [] := by
      obtain zero | empty := empty
      · omega
      · exact empty
    simp [Window.start, none]

theorem start_jobs (parallel : Nat) (jobs : List J) :
    (Window.start parallel jobs : Window J R).jobs = jobs := by
  simp [Window.start, Window.jobs]

/-- Advancing keeps the window busy and loses no job. -/
theorem advance_keeps {parallel position : Nat} {job : J} {others : List J} (result : R)
    (busy : w.Busy parallel) (picked : w.pick position = some (job, others)) :
    (w.advance job others result).Busy parallel ∧ (w.advance job others result).jobs.Perm w.jobs := by
  have taken := pick_perm picked
  have shorter := taken.length_eq
  have bounded := busy.bounded
  rw [List.length_cons] at shorter
  have finished : (w.finished.map Prod.fst ++ w.running).Perm
      ((w.finished ++ [(job, result)]).map Prod.fst ++ others) := by
    rw [List.map_append, List.append_assoc]
    exact taken.append_left _
  cases waiting : w.waiting with
  | nil =>
    have state : w.advance job others result =
        ⟨[], others, w.finished ++ [(job, result)]⟩ := by
      simp only [Window.advance, Window.refill, waiting]
    rw [state]
    refine ⟨⟨?_, fun _ => rfl⟩, ?_⟩
    · simp only
      omega
    · simp only [Window.jobs, waiting]
      exact (finished.append_right []).symm
  | cons next rest =>
    have state : w.advance job others result =
        ⟨rest, others ++ [next], w.finished ++ [(job, result)]⟩ := by
      simp only [Window.advance, Window.refill, waiting]
    rw [state]
    refine ⟨⟨?_, ?_⟩, ?_⟩
    · simp only [List.length_append, List.length_cons, List.length_nil]
      omega
    · simp
    · simp only [Window.jobs, waiting]
      have moved := (finished.append_right (next :: rest)).symm
      simpa [List.append_assoc] using moved

/-- What every course satisfies: results before the stop did not stop it, no job is
lost or run twice, and the limit holds at the end. -/
def Course.Fair (stops : R → Option E) (parallel : Nat) (jobs : List J) : Course J R E → Prop
  | .stopped finished job result error running drained =>
    (∀ entry ∈ finished, stops entry.2 = none) ∧ stops result = some error ∧
    running.length < parallel ∧ drained.length ≤ running.length ∧
    ∃ waiting, (finished.map Prod.fst ++ job :: running ++ waiting).Perm jobs
  | .completed finished =>
    (∀ entry ∈ finished, stops entry.2 = none) ∧ (finished.map Prod.fst).Perm jobs

theorem course_fair_from {stops : R → Option E} {parallel : Nat} {jobs : List J}
    {schedule : List (Completion R)} {result : Course J R E} (busy : w.Busy parallel)
    (all : w.jobs.Perm jobs) (calm : ∀ entry ∈ w.finished, stops entry.2 = none)
    (ran : course stops schedule w = some result) : result.Fair stops parallel jobs := by
  induction schedule generalizing w with
  | nil =>
    rw [course] at ran
    split at ran
    · rename_i empty
      cases ran
      have idle : w.running = [] := List.isEmpty_iff.mp empty
      have ended := busy.drained idle
      refine ⟨calm, ?_⟩
      rw [Window.jobs, idle, ended, List.append_nil, List.append_nil] at all
      exact all
    · cases ran
  | cons next later ih =>
    rw [course] at ran
    split at ran
    · rename_i nothing
      cases ran
      have idle := pick_none nothing
      have ended := busy.drained idle
      refine ⟨calm, ?_⟩
      rw [Window.jobs, idle, ended, List.append_nil, List.append_nil] at all
      exact all
    · rename_i job others picked
      have taken := pick_perm picked
      split at ran
      · rename_i error stopped
        cases ran
        have shorter := taken.length_eq
        have bounded := busy.bounded
        rw [List.length_cons] at shorter
        refine ⟨calm, stopped, by omega, ?_, w.waiting, ?_⟩
        · rw [List.length_take]
          exact Nat.min_le_left ..
        · exact ((taken.append_left _).append_right _).symm.trans all
      · rename_i goes
        obtain ⟨stillBusy, same⟩ := advance_keeps next.result busy picked
        apply ih stillBusy (same.trans all) _ ran
        intro entry member
        have among : entry ∈ w.finished ++ [(job, next.result)] := by
          unfold Window.advance Window.refill at member
          split at member <;> exact member
        obtain before | last := List.mem_append.mp among
        · exact calm entry before
        · cases List.mem_singleton.mp last
          exact goes

theorem course_fair {stops : R → Option E} {parallel : Nat} {jobs : List J}
    {schedule : List (Completion R)} {result : Course J R E} (positive : 0 < parallel)
    (ran : course stops schedule (.start parallel jobs) = some result) :
    result.Fair stops parallel jobs := by
  apply course_fair_from (start_busy positive jobs) _ _ ran
  · rw [start_jobs]
  · intro entry member
    cases member

/-- A course none of whose results stops it runs to its end. -/
theorem course_quiet {stops : R → Option E} {schedule : List (Completion R)} {result : Course J R E}
    (quiet : ∀ next ∈ schedule, stops next.result = none)
    (ran : course stops schedule w = some result) : ∃ finished, result = .completed finished := by
  induction schedule generalizing w with
  | nil =>
    rw [course] at ran
    split at ran
    · cases ran
      exact ⟨_, rfl⟩
    · cases ran
  | cons next later ih =>
    rw [course, quiet next (List.mem_cons_self ..)] at ran
    split at ran
    · cases ran
      exact ⟨_, rfl⟩
    · exact ih (fun entry member => quiet entry (List.mem_cons_of_mem _ member)) ran

/-- A schedule with one completion for every job is long enough. -/
theorem course_ends {stops : R → Option E} {schedule : List (Completion R)}
    (enough : w.running.length + w.waiting.length ≤ schedule.length) :
    ∃ result, course stops schedule w = some result := by
  induction schedule generalizing w with
  | nil =>
    rw [List.length_nil] at enough
    have idle : w.running = [] := List.length_eq_zero_iff.mp (by omega)
    exact ⟨_, by rw [course, idle]; rfl⟩
  | cons next later ih =>
    rw [course]
    split
    · exact ⟨_, rfl⟩
    · rename_i job others picked
      split
      · exact ⟨_, rfl⟩
      · apply ih
        have shorter := (pick_perm picked).length_eq
        rw [List.length_cons] at shorter enough
        cases waiting : w.waiting with
        | nil =>
          simp only [waiting, List.length_nil] at enough
          simp only [Window.advance, Window.refill, waiting, List.length_nil]
          omega
        | cons following rest =>
          simp only [waiting, List.length_cons] at enough
          simp only [Window.advance, Window.refill, waiting, List.length_append, List.length_cons,
            List.length_nil]
          omega

/-- Sorting by distinct keys puts the entry with the least key first. -/
theorem sorted_first {T : Type} {key : T → Nat} {entries : List T} {least : Nat}
    {larger : List Nat} (keys : (entries.map key).Perm (least :: larger))
    (ordered : (least :: larger).Pairwise (· < ·)) {first : T} {rest : List T}
    (sorted : entries.insertionSort (key · ≤ key ·) = first :: rest) :
    first ∈ entries ∧ key first = least ∧ ∀ other ∈ entries, key other = least → other = first := by
  have perm := List.perm_insertionSort (key · ≤ key ·) entries
  rw [sorted] at perm
  have member : first ∈ entries := perm.mem_iff.mp (List.mem_cons_self ..)
  have among : key first ∈ least :: larger := keys.mem_iff.mp (List.mem_map_of_mem member)
  obtain ⟨origin, present, is_least⟩ := List.mem_map.mp (keys.mem_iff.mpr (List.mem_cons_self ..))
  have below : key first ≤ key origin := by
    have steps := List.pairwise_insertionSort (key · ≤ key ·) entries
    rw [sorted] at steps
    obtain rfl | later := List.mem_cons.mp (perm.mem_iff.mpr present)
    · exact Nat.le_refl _
    · exact (List.pairwise_cons.mp steps).1 _ later
  have exact_key : key first = least := by
    obtain same | beyond := List.mem_cons.mp among
    · exact same
    · have greater := (List.pairwise_cons.mp ordered).1 _ beyond
      omega
  have distinct : (entries.map key).Nodup := keys.nodup_iff.mpr (ordered.imp Nat.ne_of_lt)
  refine ⟨member, exact_key, ?_⟩
  intro other at_other also
  exact List.inj_on_of_nodup_map distinct at_other member (also.trans exact_key.symm)

end Unordered
