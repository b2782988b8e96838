import RouteTable.Pass.Generation

/-!
A pool of workers that go through a list of files side by side. They claim files in the order of the
list from a counter that all of them share, and stop claiming when any of them has raised a flag
that says a file could not be analyzed. A schedule tells which worker takes the next step. In one
step a worker reads or writes the counter, reads or writes the flag, or analyzes one file.
-/

namespace RouteTable

variable {φ ε β : Type}

/-- What the workers of a pool share: the index of the next file to claim, and whether the analysis
of any file has failed. -/
structure WorkBoard where
  next : Nat
  failed : Bool
deriving DecidableEq

inductive WorkerStage (φ ε : Type) where
  /-- Looks whether any worker has failed. -/
  | looking
  /-- Claims the next file. -/
  | claiming
  /-- Analyzes the file that it has claimed. -/
  | analyzing (index : Nat) (file : φ)
  /-- Tells the others that its file could not be analyzed. -/
  | failing (index : Nat) (error : ε)
  | stopped

/-- A worker with what it has made of its files so far, each under the file's index. -/
structure Worker (φ ε β : Type) where
  stage : WorkerStage φ ε
  results : List (Nat × Except ε β)

namespace Worker

def start : Worker φ ε β := ⟨.looking, []⟩

def isStopped (worker : Worker φ ε β) : Bool :=
  match worker.stage with
  | .stopped => true
  | _ => false

/-- One step of a worker. A worker that has stopped takes none. -/
def step (analysis : φ → Except ε β) (files : List φ) (board : WorkBoard)
    (worker : Worker φ ε β) : Option (WorkBoard × Worker φ ε β) :=
  match worker.stage with
  | .looking => some (board, ⟨if board.failed then .stopped else .claiming, worker.results⟩)
  | .claiming =>
    let claimed := match files[board.next]? with
      | some file => .analyzing board.next file
      | none => .stopped
    some (⟨board.next + 1, board.failed⟩, ⟨claimed, worker.results⟩)
  | .analyzing index file =>
    match analysis file with
    | .ok value => some (board, ⟨.looking, worker.results ++ [(index, .ok value)]⟩)
    | .error e => some (board, ⟨.failing index e, worker.results⟩)
  | .failing index e =>
    some (⟨board.next, true⟩, ⟨.looking, worker.results ++ [(index, .error e)]⟩)
  | .stopped => none

end Worker

structure WorkerPool (φ ε β : Type) where
  board : WorkBoard
  workers : List (Worker φ ε β)

namespace WorkerPool

/-- A pool of so many workers before any of them has taken a step. -/
def start (workers : Nat) : WorkerPool φ ε β :=
  ⟨⟨0, false⟩, List.replicate workers .start⟩

/-- One step of the worker at a place in the pool. -/
def step (analysis : φ → Except ε β) (files : List φ) (pool : WorkerPool φ ε β) (turn : Nat) :
    Option (WorkerPool φ ε β) := do
  let worker ← pool.workers[turn]?
  let (board, worker) ← worker.step analysis files pool.board
  pure ⟨board, pool.workers.set turn worker⟩

/-- The steps of a schedule, one after another. -/
def run (analysis : φ → Except ε β) (files : List φ) (pool : WorkerPool φ ε β)
    (schedule : List Nat) : Option (WorkerPool φ ε β) :=
  schedule.foldlM (step analysis files) pool

def isStopped (pool : WorkerPool φ ε β) : Bool :=
  pool.workers.all Worker.isStopped

/-- The results of all workers, in the order of the files. -/
def results (pool : WorkerPool φ ε β) : List (Nat × Except ε β) :=
  (pool.workers.flatMap Worker.results).mergeSort fun a b => a.1 ≤ b.1

/-- What the pool has made of the files: a value for each, or the first error among its results. -/
def outcome (pool : WorkerPool φ ε β) : Except ε (List β) :=
  pool.results.mapM Prod.snd

end WorkerPool

/-- The outcomes that so many workers can have on some files. A single worker goes through the files
itself, up to the first that cannot be analyzed; more of them make a pool and work under any
schedule until all of them have stopped. -/
inductive Analyzed (analysis : φ → Except ε β) (files : List φ) :
    WorkerCount → Except ε (List β) → Prop where
  | alone {workers : WorkerCount} (hone : workers.val = 1) :
      Analyzed analysis files workers (files.mapM analysis)
  | pooled {workers : WorkerCount} {schedule : List Nat} {pool : WorkerPool φ ε β}
      (hmany : workers.val ≠ 1)
      (hrun : (WorkerPool.start workers).run analysis files schedule = some pool)
      (hstopped : pool.isStopped = true) :
      Analyzed analysis files workers pool.outcome

end RouteTable
