import RouteTable.Pass.Workers
import RouteTable.Proofs.Traversal
import Mathlib.Algebra.GroupWithZero.Nat
import Mathlib.Data.List.Perm.Basic

/-!
A pool of workers gives what a single worker gives, under every schedule. One invariant links the
counter, the flag, the files that workers hold and the results they have: the claimed indices are
those below the counter, each held once, every result is that of its file, and a raised flag stands
for a failure among the results. When all workers have stopped, the results are those of a prefix of
the files, and a prefix that is not the whole list has a failure in it.
-/

namespace RouteTable

variable {φ ε β : Type} {analysis : φ → Except ε β} {files : List φ}

namespace Worker

/-- The index of the file that a worker is busy with. -/
def held (worker : Worker φ ε β) : List Nat :=
  match worker.stage with
  | .analyzing index _ => [index]
  | .failing index _ => [index]
  | _ => []

/-- The indices that a worker has claimed, apart from claims past the end of the files. -/
def claims (worker : Worker φ ε β) : List Nat :=
  worker.results.map Prod.fst ++ worker.held

def analyzed (worker : Worker φ ε β) : List Nat :=
  worker.results.map Prod.fst ++
    match worker.stage with
    | .failing index _ => [index]
    | _ => []

/-- How many steps a worker still takes if it claims no other file. -/
def work (worker : Worker φ ε β) : Nat :=
  match worker.stage with
  | .looking => 2
  | .claiming => 1
  | .analyzing _ _ => 4
  | .failing _ _ => 3
  | .stopped => 0

/-- All that a step of a worker can do, to the shared board and to the worker. -/
inductive Moves (analysis : φ → Except ε β) (files : List φ) :
    WorkBoard → Worker φ ε β → WorkBoard → Worker φ ε β → Prop where
  | enter {next : Nat} {results : List (Nat × Except ε β)} :
      Moves analysis files ⟨next, false⟩ ⟨.looking, results⟩ ⟨next, false⟩ ⟨.claiming, results⟩
  | leave {next : Nat} {results : List (Nat × Except ε β)} :
      Moves analysis files ⟨next, true⟩ ⟨.looking, results⟩ ⟨next, true⟩ ⟨.stopped, results⟩
  | claim {next : Nat} {failed : Bool} {results : List (Nat × Except ε β)} {file : φ}
      (hfile : files[next]? = some file) :
      Moves analysis files ⟨next, failed⟩ ⟨.claiming, results⟩
        ⟨next + 1, failed⟩ ⟨.analyzing next file, results⟩
  | exhaust {next : Nat} {failed : Bool} {results : List (Nat × Except ε β)}
      (hend : files[next]? = none) :
      Moves analysis files ⟨next, failed⟩ ⟨.claiming, results⟩
        ⟨next + 1, failed⟩ ⟨.stopped, results⟩
  | succeed {board : WorkBoard} {results : List (Nat × Except ε β)} {index : Nat} {file : φ}
      {value : β} (hvalue : analysis file = .ok value) :
      Moves analysis files board ⟨.analyzing index file, results⟩
        board ⟨.looking, results ++ [(index, .ok value)]⟩
  | fail {board : WorkBoard} {results : List (Nat × Except ε β)} {index : Nat} {file : φ}
      {e : ε} (herror : analysis file = .error e) :
      Moves analysis files board ⟨.analyzing index file, results⟩
        board ⟨.failing index e, results⟩
  | tell {next : Nat} {failed : Bool} {results : List (Nat × Except ε β)} {index : Nat} {e : ε} :
      Moves analysis files ⟨next, failed⟩ ⟨.failing index e, results⟩
        ⟨next, true⟩ ⟨.looking, results ++ [(index, .error e)]⟩

theorem moves_of_step {board board' : WorkBoard} {worker worker' : Worker φ ε β}
    (h : worker.step analysis files board = some (board', worker')) :
    Moves analysis files board worker board' worker' := by
  obtain ⟨stage, results⟩ := worker
  obtain ⟨next, failed⟩ := board
  cases stage with
  | looking =>
    cases failed with
    | false => cases h; exact .enter
    | true => cases h; exact .leave
  | claiming =>
    cases hfile : files[next]? with
    | none =>
      simp only [step, hfile] at h
      cases h
      exact .exhaust hfile
    | some file =>
      simp only [step, hfile] at h
      cases h
      exact .claim hfile
  | analyzing index file =>
    cases hresult : analysis file with
    | ok value =>
      simp only [step, hresult] at h
      cases h
      exact .succeed hresult
    | error e =>
      simp only [step, hresult] at h
      cases h
      exact .fail hresult
  | failing index e => cases h; exact .tell
  | stopped => cases h

/-- Only a worker that has stopped is without a step. -/
theorem step_of_not_stopped (board : WorkBoard) {worker : Worker φ ε β}
    (h : worker.isStopped = false) :
    ∃ board' worker', worker.step analysis files board = some (board', worker') := by
  obtain ⟨stage, results⟩ := worker
  cases stage with
  | looking => exact ⟨_, _, rfl⟩
  | claiming => exact ⟨_, _, rfl⟩
  | analyzing index file =>
    cases hresult : analysis file with
    | ok value => exact ⟨_, _, by simp only [step, hresult]; rfl⟩
    | error e => exact ⟨_, _, by simp only [step, hresult]; rfl⟩
  | failing index e => exact ⟨_, _, rfl⟩
  | stopped => cases h

/-- What a worker knows is true: its results are those of its files, it holds a file of the list,
and it has stopped for a reason. -/
structure Sound (analysis : φ → Except ε β) (files : List φ) (board : WorkBoard)
    (worker : Worker φ ε β) : Prop where
  results : ∀ index result, (index, result) ∈ worker.results →
    ∃ file, files[index]? = some file ∧ result = analysis file
  analyzing : ∀ index file, worker.stage = .analyzing index file → files[index]? = some file
  failing : ∀ index e, worker.stage = .failing index e →
    ∃ file, files[index]? = some file ∧ analysis file = .error e
  stopped : worker.stage = .stopped → board.failed = true ∨ files.length ≤ board.next

theorem start_sound (board : WorkBoard) :
    (start : Worker φ ε β).Sound analysis files board where
  results := by simp [start]
  analyzing := by simp [start]
  failing := by simp [start]
  stopped := by simp [start]

/-- The counter never goes back and the flag is never taken down. -/
theorem Moves.board_mono {board board' : WorkBoard} {worker worker' : Worker φ ε β}
    (h : Moves analysis files board worker board' worker') :
    board.next ≤ board'.next ∧ (board.failed = true → board'.failed = true) := by
  cases h <;> simp

/-- What one worker knows stays true when another takes a step. -/
theorem Sound.mono {board board' : WorkBoard} {worker : Worker φ ε β}
    (h : worker.Sound analysis files board)
    (hmono : board.next ≤ board'.next ∧ (board.failed = true → board'.failed = true)) :
    worker.Sound analysis files board' where
  results := h.results
  analyzing := h.analyzing
  failing := h.failing
  stopped := fun hstopped => by
    rcases h.stopped hstopped with hfailed | hend
    · exact Or.inl (hmono.2 hfailed)
    · exact Or.inr (Nat.le_trans hend hmono.1)

/-- A step keeps what the worker that takes it knows. -/
theorem Moves.sound {board board' : WorkBoard} {worker worker' : Worker φ ε β}
    (h : Moves analysis files board worker board' worker')
    (hsound : worker.Sound analysis files board) : worker'.Sound analysis files board' := by
  cases h with
  | enter => exact ⟨hsound.results, by simp, by simp, by simp⟩
  | leave => exact ⟨hsound.results, by simp, by simp, by simp⟩
  | claim hfile =>
    refine ⟨hsound.results, ?_, by simp, by simp⟩
    intro index file hstage
    cases hstage
    exact hfile
  | exhaust hend =>
    refine ⟨hsound.results, by simp, by simp, ?_⟩
    intro _
    have hlen := List.getElem?_eq_none_iff.1 hend
    exact Or.inr (Nat.le_succ_of_le hlen)
  | @succeed _ results index file value hvalue =>
    refine ⟨?_, by simp, by simp, by simp⟩
    intro i result hmem
    rcases List.mem_append.1 hmem with hold | hnew
    · exact hsound.results i result hold
    · cases List.mem_singleton.1 hnew
      exact ⟨file, hsound.analyzing index file rfl, hvalue.symm⟩
  | @fail _ results index file e herror =>
    refine ⟨hsound.results, by simp, ?_, by simp⟩
    intro i e' hstage
    cases hstage
    exact ⟨file, hsound.analyzing index file rfl, herror⟩
  | @tell _ _ results index e =>
    refine ⟨?_, by simp, by simp, by simp⟩
    intro i result hmem
    rcases List.mem_append.1 hmem with hold | hnew
    · exact hsound.results i result hold
    · cases List.mem_singleton.1 hnew
      obtain ⟨file, hfile, herror⟩ := hsound.failing index e rfl
      exact ⟨file, hfile, herror.symm⟩

/-- A step claims the index that the counter shows, or none. -/
theorem Moves.claims {board board' : WorkBoard} {worker worker' : Worker φ ε β}
    (h : Moves analysis files board worker board' worker') :
    (worker'.claims = worker.claims ∧
        min board'.next files.length = min board.next files.length) ∨
      (worker'.claims = worker.claims ++ [board.next] ∧ board.next < files.length ∧
        board'.next = board.next + 1) := by
  cases h with
  | claim hfile =>
    right
    exact ⟨by simp [Worker.claims, held], (List.getElem?_eq_some_iff.1 hfile).1, rfl⟩
  | exhaust hend =>
    left
    have hlen := List.getElem?_eq_none_iff.1 hend
    exact ⟨rfl, by simp only; omega⟩
  | enter => exact Or.inl ⟨rfl, rfl⟩
  | leave => exact Or.inl ⟨rfl, rfl⟩
  | succeed => exact Or.inl ⟨by simp [Worker.claims, held], rfl⟩
  | fail => exact Or.inl ⟨rfl, rfl⟩
  | tell => exact Or.inl ⟨by simp [Worker.claims, held], rfl⟩

/-- Every step brings the end of the work nearer, a claim by using up a file. -/
theorem Moves.work_lt {board board' : WorkBoard} {worker worker' : Worker φ ε β}
    (h : Moves analysis files board worker board' worker') :
    worker'.work + 5 * (files.length - board'.next) <
      worker.work + 5 * (files.length - board.next) := by
  cases h with
  | claim hfile =>
    have hlt := (List.getElem?_eq_some_iff.1 hfile).1
    simp only [work]
    omega
  | _ => simp only [work]; omega

/-- A step that raises the flag puts a failure among the worker's results, and no step takes a
result away. -/
theorem Moves.failed {board board' : WorkBoard} {worker worker' : Worker φ ε β}
    (h : Moves analysis files board worker board' worker') :
    (∀ entry ∈ worker.results, entry ∈ worker'.results) ∧
      (board'.failed = true → board.failed = true ∨
        ∃ index e, (index, Except.error e) ∈ worker'.results) := by
  cases h with
  | @tell _ _ results index e => exact ⟨by simp +contextual, fun _ => Or.inr ⟨index, e, by simp⟩⟩
  | succeed => exact ⟨by simp +contextual, Or.inl⟩
  | _ => exact ⟨fun _ h => h, Or.inl⟩

theorem stage_of_isStopped {worker : Worker φ ε β} (h : worker.isStopped = true) :
    worker.stage = .stopped := by
  obtain ⟨stage, results⟩ := worker
  cases stage with
  | stopped => rfl
  | _ => cases h

end Worker

namespace WorkerPool

/-- The indices that a pool has claimed, apart from claims past the end of the files. -/
def claims (pool : WorkerPool φ ε β) : List Nat :=
  pool.workers.flatMap Worker.claims

def analyzed (pool : WorkerPool φ ε β) : List Nat :=
  pool.workers.flatMap Worker.analyzed

/-- A bound on the steps that a pool still takes. -/
def work (files : List φ) (pool : WorkerPool φ ε β) : Nat :=
  (pool.workers.map Worker.work).sum + 5 * (files.length - pool.board.next)

/-- A step of a pool is a step of one of its workers, and leaves the others as they are. -/
theorem moves_of_step {pool pool' : WorkerPool φ ε β} {turn : Nat}
    (h : pool.step analysis files turn = some pool') :
    ∃ front worker worker' back, pool.workers = front ++ worker :: back ∧
      pool'.workers = front ++ worker' :: back ∧
      Worker.Moves analysis files pool.board worker pool'.board worker' := by
  unfold step at h
  obtain ⟨worker, hworker, h⟩ := Option.bind_eq_some_iff.1 h
  obtain ⟨⟨board', worker'⟩, hstep, h⟩ := Option.bind_eq_some_iff.1 h
  cases h
  obtain ⟨hturn, rfl⟩ := List.getElem?_eq_some_iff.1 hworker
  refine ⟨pool.workers.take turn, _, worker', pool.workers.drop (turn + 1), ?_, ?_,
    Worker.moves_of_step hstep⟩
  · simp
  · exact List.set_eq_take_append_cons_drop.trans (if_pos hturn)

/-- The invariant of a pool. -/
structure Sound (analysis : φ → Except ε β) (files : List φ) (pool : WorkerPool φ ε β) : Prop where
  manned : pool.workers ≠ []
  claims : pool.claims.Perm (List.range (min pool.board.next files.length))
  workers : ∀ worker ∈ pool.workers, worker.Sound analysis files pool.board
  failed : pool.board.failed = true →
    ∃ worker ∈ pool.workers, ∃ index e, (index, Except.error e) ∈ worker.results

theorem start_sound (workers : WorkerCount) : (start workers).Sound analysis files where
  manned := by simpa [start] using Nat.ne_of_gt workers.property
  claims := by simp [claims, start, Worker.claims, Worker.held, Worker.start]
  workers := by
    intro worker hworker
    rw [List.eq_of_mem_replicate hworker]
    exact Worker.start_sound _
  failed := by simp [start]

theorem step_sound {pool pool' : WorkerPool φ ε β} {turn : Nat}
    (h : pool.step analysis files turn = some pool') (hsound : pool.Sound analysis files) :
    pool'.Sound analysis files := by
  obtain ⟨front, worker, worker', back, hbefore, hafter, hmoves⟩ := moves_of_step h
  have hmem : worker ∈ pool.workers := by simp [hbefore]
  refine ⟨by simp [hafter], ?_, ?_, ?_⟩
  · have hperm := hsound.claims
    rw [WorkerPool.claims, hbefore, List.flatMap_append, List.flatMap_cons] at hperm
    rw [WorkerPool.claims, hafter, List.flatMap_append, List.flatMap_cons]
    rcases hmoves.claims with ⟨hsame, hmin⟩ | ⟨hnew, hlt, hnext⟩
    · rw [hsame, hmin]
      exact hperm
    · -- The new claim stands behind the worker's old ones; in the range it is the last index.
      have hmin : min pool'.board.next files.length = min pool.board.next files.length + 1 := by
        omega
      have hlast : min pool.board.next files.length = pool.board.next := by omega
      rw [hnew, hmin, List.range_succ, hlast]
      rw [hlast] at hperm
      refine List.Perm.trans ?_ (hperm.append_right [pool.board.next])
      simp only [List.append_assoc]
      have hmoved (claims : List Nat) :
          ([pool.board.next] ++ claims).Perm (claims ++ [pool.board.next]) :=
        List.perm_append_comm
      exact ((hmoved _).append_left _).append_left _
  · intro other hother
    rw [hafter] at hother
    by_cases hsame : other = worker'
    · rw [hsame]
      exact hmoves.sound (hsound.workers worker hmem)
    · have hold : other ∈ pool.workers := by
        rw [hbefore]
        simp only [List.mem_append, List.mem_cons] at hother ⊢
        tauto
      exact (hsound.workers other hold).mono hmoves.board_mono
  · intro hfailed
    have hkept := hmoves.failed.1
    have hold : pool.board.failed = true →
        ∃ other ∈ pool'.workers, ∃ index e, (index, Except.error e) ∈ other.results := by
      intro hfailed
      obtain ⟨other, hother, index, e, hentry⟩ := hsound.failed hfailed
      rw [hbefore] at hother
      rcases List.mem_append.1 hother with hfront | hrest
      · exact ⟨other, by simp [hafter, hfront], index, e, hentry⟩
      · rcases List.mem_cons.1 hrest with rfl | hback
        · exact ⟨worker', by simp [hafter], index, e, hkept _ hentry⟩
        · exact ⟨other, by simp [hafter, hback], index, e, hentry⟩
    rcases hmoves.failed.2 hfailed with hbefore' | ⟨index, e, hentry⟩
    · exact hold hbefore'
    · exact ⟨worker', by simp [hafter], index, e, hentry⟩

theorem step_work_lt {pool pool' : WorkerPool φ ε β} {turn : Nat}
    (h : pool.step analysis files turn = some pool') : pool'.work files < pool.work files := by
  obtain ⟨front, worker, worker', back, hbefore, hafter, hmoves⟩ := moves_of_step h
  have hlt := hmoves.work_lt
  simp only [work, hbefore, hafter, List.map_append, List.map_cons, List.sum_append, List.sum_cons]
  omega

/-- Unless all workers have stopped, some worker can take a step. -/
theorem step_of_not_stopped {pool : WorkerPool φ ε β} (h : pool.isStopped = false) :
    ∃ turn pool', pool.step analysis files turn = some pool' := by
  obtain ⟨worker, hworker, hrunning⟩ : ∃ worker ∈ pool.workers, worker.isStopped = false := by
    simpa [isStopped] using h
  obtain ⟨turn, hturn, rfl⟩ := List.mem_iff_getElem.1 hworker
  obtain ⟨board', worker', hstep⟩ : ∃ board' worker',
      (pool.workers[turn]).step analysis files pool.board = some (board', worker') :=
    Worker.step_of_not_stopped pool.board hrunning
  exact ⟨turn, ⟨board', pool.workers.set turn worker'⟩, by
    simp [step, List.getElem?_eq_getElem hturn, hstep]⟩

/-- A run keeps the invariant, and takes no more steps than the pool had work. -/
theorem run_sound {pool pool' : WorkerPool φ ε β} {schedule : List Nat}
    (h : pool.run analysis files schedule = some pool') (hsound : pool.Sound analysis files) :
    pool'.Sound analysis files ∧ schedule.length + pool'.work files ≤ pool.work files := by
  induction schedule generalizing pool with
  | nil =>
    cases h
    exact ⟨hsound, by simp⟩
  | cons turn rest ih =>
    obtain ⟨middle, hstep, hrest⟩ := Option.bind_eq_some_iff.1 h
    have hmiddle := ih hrest (step_sound hstep hsound)
    have hwork := step_work_lt hstep
    refine ⟨hmiddle.1, ?_⟩
    rw [List.length_cons]
    omega

/-- Every run can go on until all workers have stopped. -/
theorem exists_run_stopped (pool : WorkerPool φ ε β) :
    ∃ schedule last, pool.run analysis files schedule = some last ∧ last.isStopped = true := by
  induction hwork : pool.work files using Nat.strongRecOn generalizing pool with
  | ind n ih =>
    cases hstopped : pool.isStopped with
    | true => exact ⟨[], pool, rfl, hstopped⟩
    | false =>
      obtain ⟨turn, next, hstep⟩ : ∃ turn next, pool.step analysis files turn = some next :=
        step_of_not_stopped hstopped
      obtain ⟨schedule, last, hrun, hlast⟩ :=
        ih (next.work files) (hwork ▸ step_work_lt hstep) next rfl
      exact ⟨turn :: schedule, last, Option.bind_eq_some_iff.2 ⟨next, hstep, hrun⟩, hlast⟩

theorem mem_results {pool : WorkerPool φ ε β} {entry : Nat × Except ε β} :
    entry ∈ pool.results ↔ ∃ worker ∈ pool.workers, entry ∈ worker.results := by
  simp [results]

/-- Workers that have stopped hold no file, so all that was claimed has a result. -/
theorem claims_of_isStopped {pool : WorkerPool φ ε β} (h : pool.isStopped = true) :
    pool.claims = (pool.workers.flatMap Worker.results).map Prod.fst := by
  rw [claims, List.map_flatMap]
  apply List.flatMap_congr
  intro worker hworker
  have hstopped := Worker.stage_of_isStopped (List.all_eq_true.1 h worker hworker)
  simp [Worker.claims, Worker.held, hstopped]

/-- The results of a pool that has stopped are those of the claimed files, in their order. -/
theorem results_of_isStopped {pool : WorkerPool φ ε β} (hsound : pool.Sound analysis files)
    (hstopped : pool.isStopped = true) :
    pool.results.map Prod.snd =
      (files.take (min pool.board.next files.length)).map analysis := by
  have hindices : pool.results.map Prod.fst =
      List.range (min pool.board.next files.length) := by
    have hordered : (pool.results.map Prod.fst).Pairwise (· ≤ ·) := by
      rw [List.pairwise_map]
      refine (List.pairwise_mergeSort ?_ ?_ _).imp (fun h => of_decide_eq_true h)
      · simp only [decide_eq_true_eq]
        exact fun _ _ _ => Nat.le_trans
      · simp only [Bool.or_eq_true, decide_eq_true_eq]
        exact fun _ _ => Nat.le_total _ _
    have hperm : (pool.results.map Prod.fst).Perm
        (List.range (min pool.board.next files.length)) := by
      refine ((List.mergeSort_perm _ _).map Prod.fst).trans ?_
      rw [← claims_of_isStopped hstopped]
      exact hsound.claims
    exact List.Perm.eq_of_pairwise (fun _ _ _ _ => Nat.le_antisymm)
      hordered List.pairwise_le_range hperm
  have hlength : pool.results.length = min pool.board.next files.length := by
    simpa using congrArg List.length hindices
  apply List.ext_getElem
  · simp [hlength]
  intro i hleft hright
  have hi : i < pool.results.length := by simpa using hleft
  have hindex : (pool.results[i]).1 = i := by
    have h := List.getElem_of_eq hindices (i := i) (by simpa using hi)
    simpa using h
  obtain ⟨worker, hworker, hentry⟩ := mem_results.1 (List.getElem_mem hi)
  obtain ⟨file, hfile, hresult⟩ :=
    (hsound.workers worker hworker).results (pool.results[i]).1 (pool.results[i]).2 hentry
  rw [hindex] at hfile
  obtain ⟨hbound, rfl⟩ := List.getElem?_eq_some_iff.1 hfile
  simpa using hresult

/-- **Main lemma.** A pool that has stopped has the outcome of a single worker. -/
theorem outcome_of_isStopped {pool : WorkerPool φ ε β} (hsound : pool.Sound analysis files)
    (hstopped : pool.isStopped = true) : pool.outcome = files.mapM analysis := by
  have houtcome : pool.outcome =
      (files.take (min pool.board.next files.length)).mapM analysis := by
    have h := congrArg (List.mapM id) (results_of_isStopped hsound hstopped)
    rw [List.mapM_map, List.mapM_map] at h
    exact h
  have hall : pool.board.failed = true ∨ files.length ≤ pool.board.next := by
    obtain ⟨worker, hworker⟩ := List.exists_mem_of_ne_nil _ hsound.manned
    exact (hsound.workers worker hworker).stopped
      (Worker.stage_of_isStopped (List.all_eq_true.1 hstopped worker hworker))
  rw [houtcome]
  rcases hall with hfailed | hend
  · obtain ⟨worker, hworker, index, e, hentry⟩ := hsound.failed hfailed
    obtain ⟨file, hfile, herror⟩ := (hsound.workers worker hworker).results index _ hentry
    have hclaimed : index < min pool.board.next files.length := by
      rw [← List.mem_range, ← hsound.claims.mem_iff, claims_of_isStopped hstopped]
      exact List.mem_map.2 ⟨_, List.mem_flatMap.2 ⟨worker, hworker, hentry⟩, rfl⟩
    have hmem : file ∈ files.take (min pool.board.next files.length) := by
      obtain ⟨hbound, rfl⟩ := List.getElem?_eq_some_iff.1 hfile
      exact List.mem_take_iff_getElem.2 ⟨index, by omega, rfl⟩
    obtain ⟨e', he'⟩ := exists_mapM_error hmem ⟨e, herror.symm⟩
    -- The failure is in the prefix, so what comes after it does not count.
    have hwhole : (files.take (min pool.board.next files.length) ++
        files.drop (min pool.board.next files.length)).mapM analysis = .error e' := by
      rw [List.mapM_append, he']
      rfl
    rw [List.take_append_drop] at hwhole
    rw [he', hwhole]
  · rw [Nat.min_eq_right hend, List.take_length]

end WorkerPool

/-- However many workers there are, and under any schedule, they have the outcome of one. -/
theorem analyzed_iff_mapM {workers : WorkerCount} {outcome : Except ε (List β)} :
    Analyzed analysis files workers outcome ↔ outcome = files.mapM analysis := by
  have hsound {schedule : List Nat} {pool : WorkerPool φ ε β}
      (h : (WorkerPool.start workers).run analysis files schedule = some pool) :
      pool.Sound analysis files :=
    (WorkerPool.run_sound h (WorkerPool.start_sound workers)).1
  constructor
  · intro h
    cases h with
    | alone _ => rfl
    | pooled _ hrun hstopped => exact WorkerPool.outcome_of_isStopped (hsound hrun) hstopped
  · rintro rfl
    by_cases hone : workers.val = 1
    · exact .alone hone
    · obtain ⟨schedule, last, hrun, hstopped⟩ : ∃ schedule last,
          (WorkerPool.start workers).run analysis files schedule = some last ∧
            last.isStopped = true :=
        WorkerPool.exists_run_stopped (WorkerPool.start workers)
      rw [← WorkerPool.outcome_of_isStopped (hsound hrun) hstopped]
      exact .pooled hone hrun hstopped

/-- When every element can be analyzed, the outcome has a value for each. -/
theorem mapM_of_map_ok {values : List φ} {results : List β}
    (h : values.map analysis = results.map Except.ok) :
    values.mapM analysis = .ok results := by
  induction values generalizing results with
  | nil =>
    cases List.map_eq_nil_iff.1 h.symm
    rfl
  | cons first rest ih =>
    obtain ⟨result, others, rfl, hfirst, hrest⟩ := List.map_eq_cons_iff.1 h.symm
    rw [List.mapM_cons, ← hfirst, ih hrest.symm]
    rfl

/-- Otherwise the outcome is the error of the first that cannot be. -/
theorem mapM_of_first_error {front back : List φ} {value : φ} {e : ε}
    (hfront : ∀ earlier ∈ front, ∃ result, analysis earlier = .ok result)
    (herror : analysis value = .error e) :
    (front ++ value :: back).mapM analysis = .error e := by
  induction front with
  | nil =>
    rw [List.nil_append, List.mapM_cons, herror]
    rfl
  | cons first rest ih =>
    obtain ⟨result, hresult⟩ := hfront first List.mem_cons_self
    have hrest := ih fun earlier hmem => hfront earlier (List.mem_cons_of_mem _ hmem)
    rw [List.cons_append, List.mapM_cons, hresult, hrest]
    rfl

/-- The outcome of a pass over all files, apart from what it reports. -/
theorem outcome_bindingsOfAll (scanner : Scanner) (fs : FileSystem) (files : List RouteModule) :
    (bindingsOfAll scanner fs files).outcome =
      files.mapM fun file => (bindingsOf scanner fs file).outcome := by
  induction files with
  | nil => rfl
  | cons file rest ih =>
    rw [List.mapM_cons, ← ih, bindingsOfAll]
    cases hfirst : bindingsOf scanner fs file with
    | mk reports outcome =>
      cases outcome with
      | error e => rfl
      | ok bindings =>
        rw [Reporting.bind_ok]
        cases hrest : bindingsOfAll scanner fs rest with
        | mk reports' outcome' =>
          cases outcome' with
          | error e => rfl
          | ok others => rfl

theorem WorkerPool.analyzed_sublist_claims (pool : WorkerPool φ ε β) :
    pool.analyzed.Sublist pool.claims := by
  unfold analyzed claims
  induction pool.workers with
  | nil => exact List.Sublist.slnil
  | cons worker rest ih =>
    refine List.Sublist.append ?_ ih
    obtain ⟨stage, results⟩ := worker
    cases stage with
    | failing index e => exact List.Sublist.refl _
    | _ => exact (List.Sublist.refl _).append (List.nil_sublist _)

/-- Any number of workers, under any schedule, has exactly the outcome of one worker: the exports of
all files in their order, or the error of the first file that cannot be analyzed. A schedule is of
bounded length, no pool gets stuck before all of its workers have stopped, the indices claimed so
far are always those of a prefix of the files, each claimed once, and no file is analyzed twice. -/
theorem analyzed_iff_bindingsOfAll (scanner : Scanner) (fs : FileSystem)
    (files : List RouteModule) (workers : WorkerCount) :
    let analysis := fun file => (bindingsOf scanner fs file).outcome
    let alone := (bindingsOfAll scanner fs files).outcome
    (∀ outcome, Analyzed analysis files workers outcome ↔ outcome = alone) ∧
    (∀ exports, files.map analysis = exports.map Except.ok → alone = .ok exports) ∧
    (∀ front file back e, files = front ++ file :: back →
      (∀ earlier ∈ front, ∃ bindings, analysis earlier = .ok bindings) →
      analysis file = .error e → alone = .error e) ∧
    ∀ schedule pool, (WorkerPool.start workers).run analysis files schedule = some pool →
      pool.claims.Perm (List.range (min pool.board.next files.length)) ∧
      pool.analyzed.Nodup ∧
      schedule.length ≤ 2 * workers + 5 * files.length ∧
      (pool.isStopped = true → pool.outcome = alone) ∧
      (pool.isStopped = false → ∃ turn later, pool.step analysis files turn = some later) := by
  intro analysis alone
  have halone : alone = files.mapM analysis := outcome_bindingsOfAll scanner fs files
  have hrun : ∀ schedule pool,
      (WorkerPool.start workers).run analysis files schedule = some pool →
        pool.Sound analysis files ∧
          schedule.length + pool.work files ≤ 2 * workers + 5 * files.length := by
    intro schedule pool h
    have hsound := WorkerPool.run_sound h (WorkerPool.start_sound workers)
    refine ⟨hsound.1, Nat.le_trans hsound.2 (Nat.le_of_eq ?_)⟩
    simp [WorkerPool.work, WorkerPool.start, Worker.start, Worker.work, Nat.mul_comm]
  refine ⟨?_, ?_, ?_, ?_⟩
  · intro outcome
    rw [halone]
    exact analyzed_iff_mapM
  · intro exports h
    rw [halone]
    exact mapM_of_map_ok h
  · intro front file back e hfiles hfront herror
    rw [halone, hfiles]
    exact mapM_of_first_error hfront herror
  · intro schedule pool h
    obtain ⟨hsound, hwork⟩ := hrun schedule pool h
    refine ⟨hsound.claims, ?_, by omega, ?_, WorkerPool.step_of_not_stopped⟩
    · exact (hsound.claims.nodup_iff.2 List.nodup_range).sublist pool.analyzed_sublist_claims
    · intro hstopped
      rw [halone]
      exact WorkerPool.outcome_of_isStopped hsound hstopped

end RouteTable
