import Finality.Store.Basic

/-!
# Batch scripts

A batch object can be used in any order: writes can be tried before its block is entered
and after it is left, the block can be entered a second time, inside it or later, and it
can end by an error. A script says what is done, and running it tells what came of it.
-/

namespace Finality

/-- What is done inside the block of a batch. -/
inductive BatchStep where
  /-- Write to the batch. -/
  | write (change : Write)
  /-- Read from the store. -/
  | read (key : Bytes)
  /-- Enter the block once more. -/
  | enter
  /-- Leave the block by an error with a text. -/
  | fail (text : String)

/-- What a step has to tell. -/
inductive BatchNote where
  /-- What a read gave. -/
  | read (outcome : Outcome (Option Bytes))
  /-- The batch refused a step. -/
  | refused (failure : Store.BatchFailure)
  /-- The block was left by an error with a text. -/
  | failed (text : String)

/-- What is done with a batch. -/
structure BatchScript where
  /-- The writes before the block is entered. -/
  before : List Write
  /-- What is done inside the block. -/
  block : List BatchStep
  /-- The writes after the block is left. -/
  after : List Write
  /-- The writes of a second block, if there is one. -/
  again : Option (List Write)

/-- A store and a batch on it, with what was told so far, the last first. -/
structure BatchRun where
  store : Store
  batch : Store.Batch
  notes : List BatchNote

namespace BatchRun

/-- A run that has something more to tell. -/
def tell (run : BatchRun) (note : BatchNote) : BatchRun := { run with notes := note :: run.notes }

/-- A run after a write to the batch. -/
def write (run : BatchRun) (change : Write) : BatchRun :=
  match run.store.write run.batch change with
  | .ok (store, batch) => { run with store, batch }
  | .error failure => run.tell (.refused failure)

/-- A run after its block is left. -/
def leave (run : BatchRun) (clean : Bool) : BatchRun :=
  let (store, batch) := run.store.leave run.batch clean
  { run with store, batch }

/-- A run after the steps inside its block, up to an error that leaves it. -/
def steps (run : BatchRun) : List BatchStep → BatchRun
  | [] => run.leave true
  | .write change :: rest => (run.write change).steps rest
  | .read key :: rest => (run.tell (.read (run.store.get? key))).steps rest
  | .enter :: rest =>
    match run.store.enter run.batch with
    | .ok batch => ({ run with batch } : BatchRun).steps rest
    | .error failure => (run.tell (.refused failure)).steps rest
  | .fail text :: _ => (run.leave false).tell (.failed text)

/-- A run after a second block. -/
def again (run : BatchRun) (changes : List Write) : BatchRun :=
  match run.store.enter run.batch with
  | .ok batch => (changes.foldl write { run with batch }).leave true
  | .error failure => run.tell (.refused failure)

end BatchRun

/-- The store after a script, and what was told. Nothing is told of a block that cannot be
entered. -/
def Store.runScript (store : Store) (script : BatchScript) :
    Store × Except Store.BatchFailure (List BatchNote) :=
  let run := script.before.foldl BatchRun.write ⟨store, store.batch, []⟩
  match run.store.enter run.batch with
  | .error failure => (run.store, .error failure)
  | .ok batch =>
    let run := script.after.foldl BatchRun.write
      (({ run with batch } : BatchRun).steps script.block)
    let run := match script.again with
      | none => run
      | some changes => run.again changes
    (run.store, .ok run.notes.reverse)

end Finality
