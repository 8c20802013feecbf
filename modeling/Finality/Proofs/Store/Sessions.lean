import Mathlib.Logic.Function.Basic
import Finality.Proofs.Store.Scans

/-!
# Both backends are one map

A session is a store with the batches that were made on it. Its actions are the reads and
writes of the store, writes to a batch outside its block, and whole blocks. In a block any
batch is written to and the open one is entered again, but the store itself is left alone.
A block ends cleanly or by an error, and its batch may be used and entered again later.

`KeyMap.Performs` says what each action answers and leaves on a plain map from keys to
values. Every session of a new store follows it, whatever the backend
(`Session.follows_run`). A map leaves one answer and one content at every moment
(`KeyMap.Follows.unique`), so no session tells the backends apart (`backends_agree`).
-/

namespace Finality

/-! ## Sessions -/

/-- What is done inside the block of a batch. -/
inductive BlockStep where
  /-- Write to a batch, the open one or another. -/
  | write (batch : Nat) (change : Write)
  /-- Enter the open batch again. -/
  | enter

/-- What is done with a store and the batches on it. -/
inductive StoreAction where
  | change (change : Write)
  | get (key : Bytes)
  | has (key : Bytes)
  | scan (stem : Bytes)
  /-- Write to a batch outside its block. -/
  | write (batch : Nat) (change : Write)
  /-- Enter a batch, take steps and leave it, cleanly or by an error. -/
  | block (batch : Nat) (steps : List BlockStep) (clean : Bool)

/-- What an action tells. -/
inductive StoreAnswer where
  | changed (outcome : Outcome Unit)
  | value (outcome : Outcome (Option Bytes))
  | present (outcome : Outcome Bool)
  | entries (outcome : Outcome (List (Bytes × Bytes)))
  | written (outcome : Except Store.BatchFailure Unit)
  /-- The block could not be entered, or it was and its steps told this. -/
  | block (outcome : Except Store.BatchFailure (List (Except Store.BatchFailure Unit)))

/-- A store and the batches on it. -/
structure Session where
  store : Store
  batches : Nat → Store.Batch

namespace Session

/-- A store with new batches. -/
def start (store : Store) : Session := ⟨store, fun _ => store.batch⟩

def write (session : Session) (batch : Nat) (change : Write) :
    Except Store.BatchFailure Unit × Session :=
  match session.store.write (session.batches batch) change with
  | .ok (store, written) => (.ok (), ⟨store, Function.update session.batches batch written⟩)
  | .error failure => (.error failure, session)

def enter (session : Session) (batch : Nat) : Except Store.BatchFailure Unit × Session :=
  match session.store.enter (session.batches batch) with
  | .ok entered => (.ok (), ⟨session.store, Function.update session.batches batch entered⟩)
  | .error failure => (.error failure, session)

def leave (session : Session) (batch : Nat) (clean : Bool) : Session :=
  let (store, left) := session.store.leave (session.batches batch) clean
  ⟨store, Function.update session.batches batch left⟩

/-- Take a step inside the block of a batch. -/
def step (session : Session) (batch : Nat) : BlockStep → Except Store.BatchFailure Unit × Session
  | .write other change => session.write other change
  | .enter => session.enter batch

/-- Take steps inside the block of a batch, one after the other. -/
def steps (session : Session) (batch : Nat) :
    List BlockStep → List (Except Store.BatchFailure Unit) × Session
  | [] => ([], session)
  | step :: rest =>
    let (answer, next) := session.step batch step
    let (answers, last) := next.steps batch rest
    (answer :: answers, last)

def act (session : Session) : StoreAction → StoreAnswer × Session
  | .change change =>
    match session.store.apply change with
    | .ok store => (.changed (.ok ()), { session with store })
    | .error failure => (.changed (.error failure), session)
  | .get key => (.value (session.store.get? key), session)
  | .has key => (.present ((session.store.get? key).map Option.isSome), session)
  | .scan stem => (.entries (session.store.scan stem), session)
  | .write batch change =>
    let (answer, next) := session.write batch change
    (.written answer, next)
  | .block batch steps clean =>
    match session.enter batch with
    | (.error failure, next) => (.block (.error failure), next)
    | (.ok (), inside) =>
      let (answers, last) := inside.steps batch steps
      (.block (.ok answers), last.leave batch clean)

/-- What actions tell, one after the other, and the content of the store after each. -/
def run (session : Session) : List StoreAction → List (StoreAnswer × Option Records)
  | [] => []
  | action :: rest =>
    let (answer, next) := session.act action
    (answer, next.store.content?) :: next.run rest

end Session

/-! ## The map that a session stands for -/

namespace BlockStep

/-- What a step tells in the block of a batch. -/
def answer (batch : Nat) : BlockStep → Except Store.BatchFailure Unit
  | write other _ => if other = batch then .ok () else .error (.fault .notEntered)
  | enter => .error (.fault .entered)

/-- The change that a step adds to the block of a batch. -/
def change? (batch : Nat) : BlockStep → Option Write
  | write other change => if other = batch then some change else none
  | enter => none

end BlockStep

/-- A map from keys to values. -/
abbrev KeyMap := Bytes → Option Bytes

namespace KeyMap

/-- The map after a change. -/
def apply (map : KeyMap) (change : Write) : KeyMap :=
  Function.update map change.key change.value?

/-- What an action tells about a map, and the map after it. -/
inductive Performs (map : KeyMap) : StoreAction → StoreAnswer → KeyMap → Prop where
  | change (change : Write) : Performs map (.change change) (.changed (.ok ())) (map.apply change)
  | get (key : Bytes) : Performs map (.get key) (.value (.ok (map key))) map
  | has (key : Bytes) : Performs map (.has key) (.present (.ok (map key).isSome)) map
  | scan (stem : Bytes) (entries : List (Bytes × Bytes)) (ascending : Ascending entries)
      (exact : ∀ key value, (key, value) ∈ entries ↔ stem <+: key ∧ map key = some value) :
      Performs map (.scan stem) (.entries (.ok entries)) map
  | write (batch : Nat) (change : Write) :
      Performs map (.write batch change) (.written (.error (.fault .notEntered))) map
  | clean (batch : Nat) (steps : List BlockStep) :
      Performs map (.block batch steps true) (.block (.ok (steps.map (BlockStep.answer batch))))
        ((steps.filterMap (BlockStep.change? batch)).foldl apply map)
  | failed (batch : Nat) (steps : List BlockStep) :
      Performs map (.block batch steps false) (.block (.ok (steps.map (BlockStep.answer batch))))
        map

/-- The moments of a session, each an answer and the content after it, are those of a map. -/
inductive Follows : KeyMap → List StoreAction → List (StoreAnswer × Option Records) → Prop where
  | nil (map : KeyMap) : Follows map [] []
  | cons {map next : KeyMap} {action : StoreAction} {rest : List StoreAction}
      {answer : StoreAnswer} {records : Records} {moments : List (StoreAnswer × Option Records)}
      (performs : map.Performs action answer next)
      (content : ∀ key, records.get? key = next key) (remaining : Follows next rest moments) :
      Follows map (action :: rest) ((answer, some records) :: moments)

/-- A map determines what an action tells and leaves. -/
theorem Performs.unique {map next other : KeyMap} {action : StoreAction}
    {answer reply : StoreAnswer} (performs : map.Performs action answer next)
    (again : map.Performs action reply other) : answer = reply ∧ next = other := by
  cases performs with
  | scan stem entries ascending exact =>
      cases again with
      | scan _ found foundAscends foundExact =>
          have same : entries = found := by
            apply Entries.ext_mem ascending foundAscends
            intro entry
            rcases entry with ⟨key, value⟩
            rw [exact, foundExact]
          subst same
          exact ⟨rfl, rfl⟩
  | change | get | has | write | clean | failed =>
      cases again
      exact ⟨rfl, rfl⟩

/-- A map determines the moments of a session. -/
theorem Follows.unique {map : KeyMap} {actions : List StoreAction}
    {left right : List (StoreAnswer × Option Records)} (leftFollows : map.Follows actions left)
    (rightFollows : map.Follows actions right) : left = right := by
  induction leftFollows generalizing right with
  | nil =>
      cases rightFollows
      rfl
  | cons performs content remaining ih =>
      cases rightFollows with
      | cons performsToo contentToo remainingToo =>
          rcases performs.unique performsToo with ⟨rfl, rfl⟩
          have same := Records.ext_get? fun key => (content key).trans (contentToo key).symm
          rw [same, ih remainingToo]

theorem get?_apply (records : Records) (change : Write) :
    (records.apply change).get? = apply records.get? change := by
  funext key
  rw [Records.get?_apply, apply, Function.update_apply]
  simp only [eq_comm]

theorem get?_applyAll (records : Records) (writes : List Write) :
    (records.applyAll writes).get? = writes.foldl apply records.get? := by
  induction writes generalizing records with
  | nil => rfl
  | cons change writes ih =>
      rw [List.foldl_cons, ← get?_apply, ← ih]
      rfl

end KeyMap

/-! ## Blocks -/

namespace Store

variable {store : Store} {records : Records}

theorem write_batch (store : Store) (change : Write) :
    store.write store.batch change = .error (.fault .notEntered) := by
  cases store with
  | memory memory => rfl
  | table kind table => rfl
  | closed kind table => rfl

theorem batch_during (store : Store) (writes : List Write) :
    (store.during writes).1.batch = store.batch := by
  cases store with
  | memory memory => rfl
  | table kind table => rfl
  | closed kind table => rfl

theorem enter_during (opened : store.content? = some records) (writes : List Write) :
    (store.during writes).1.enter (store.during writes).2 = .error (.fault .entered) := by
  cases store with
  | memory memory => rfl
  | table kind table => rfl
  | closed kind table => cases opened

end Store

namespace Session

variable {store : Store} {records : Records}

/-- A session with the block of one batch open, after writes in it. -/
def inside (store : Store) (batch : Nat) (writes : List Write) : Session :=
  ⟨(store.during writes).1,
    Function.update (fun _ => store.batch) batch (store.during writes).2⟩

theorem write_start (store : Store) (batch : Nat) (change : Write) :
    (start store).write batch change = (.error (.fault .notEntered), start store) := by
  simp only [write, start, Store.write_batch]

theorem enter_start (opened : store.content? = some records) (batch : Nat) :
    (start store).enter batch = (.ok (), inside store batch []) := by
  simp only [enter, start, Store.enter_batch opened, inside, Store.during_nil]

/-- A step in a block tells what it should and adds its change to the block. -/
theorem step_inside (opened : store.content? = some records) (batch : Nat)
    (writes : List Write) (step : BlockStep) :
    (inside store batch writes).step batch step =
      (step.answer batch, inside store batch (writes ++ (step.change? batch).toList)) := by
  cases step with
  | enter =>
      simp only [Session.step, enter, inside, Function.update_self, Store.enter_during opened,
        BlockStep.answer, BlockStep.change?, Option.toList_none, List.append_nil]
  | write other change =>
      by_cases same : other = batch
      · subst same
        simp only [Session.step, write, inside, Function.update_self,
          Store.write_during opened, Function.update_idem, BlockStep.answer, BlockStep.change?,
          ↓reduceIte, Option.toList_some]
      · have refused := Store.write_batch (store.during writes).1 change
        rw [Store.batch_during] at refused
        simp only [Session.step, write, inside, Function.update_of_ne same, refused,
          BlockStep.answer, BlockStep.change?, if_neg same, Option.toList_none,
          List.append_nil]

theorem steps_inside (opened : store.content? = some records) (batch : Nat)
    (writes : List Write) (steps : List BlockStep) :
    (inside store batch writes).steps batch steps =
      (steps.map (BlockStep.answer batch),
        inside store batch (writes ++ steps.filterMap (BlockStep.change? batch))) := by
  induction steps generalizing writes with
  | nil => simp [Session.steps]
  | cons step rest ih =>
      simp only [Session.steps, step_inside opened, ih, List.map_cons, List.filterMap_cons]
      cases step.change? batch with
      | none => simp
      | some change => simp

/-- After its block every batch is as new. -/
theorem leave_inside (opened : store.content? = some records) (batch : Nat)
    (writes : List Write) (clean : Bool) :
    ∃ next, (inside store batch writes).leave batch clean = start next ∧
      next.content? = some (if clean then records.applyAll writes else records) := by
  rcases Store.leave_during opened writes clean with ⟨next, left, sameBatch, nextContent⟩
  refine ⟨next, ?_, nextContent⟩
  simp only [leave, inside, Function.update_self, left, Function.update_idem,
    Function.update_eq_self, start, sameBatch]

/-! ## Runs -/

/-- An action of a session whose blocks are all closed tells and leaves what it does on the map
that the store stands for, and closes its own block. -/
theorem act_start (opened : store.content? = some records) (action : StoreAction) :
    ∃ answer next after, (start store).act action = (answer, start next) ∧
      next.content? = some after ∧
      KeyMap.Performs records.get? action answer after.get? := by
  cases action with
  | change change =>
      rcases Store.apply_ok opened change with ⟨next, applied, sameBatch, nextContent⟩
      refine ⟨.changed (.ok ()), next, _, ?_, nextContent, ?_⟩
      · simp only [act, start, applied, sameBatch]
      · rw [KeyMap.get?_apply]
        apply KeyMap.Performs.change
  | get key =>
      refine ⟨_, store, records, rfl, opened, ?_⟩
      simp only [start, Store.get?_eq opened]
      apply KeyMap.Performs.get
  | has key =>
      refine ⟨_, store, records, rfl, opened, ?_⟩
      simp only [start, Store.get?_eq opened]
      apply KeyMap.Performs.has
  | scan stem =>
      refine ⟨_, store, records, rfl, opened, ?_⟩
      simp only [start, Store.scan_eq opened]
      apply KeyMap.Performs.scan stem _ (records.ascending_scan stem)
      intro key value
      rw [Records.mem_scan, and_comm]
  | write batch change =>
      refine ⟨_, store, records, ?_, opened, KeyMap.Performs.write batch change⟩
      simp only [act, write_start]
  | block batch steps clean =>
      rcases leave_inside opened batch (steps.filterMap (BlockStep.change? batch)) clean with
        ⟨next, left, nextContent⟩
      refine ⟨.block (.ok (steps.map (BlockStep.answer batch))), next, _, ?_, nextContent, ?_⟩
      · simp only [act, enter_start opened, steps_inside opened, List.nil_append, left]
      · cases clean with
        | false => apply KeyMap.Performs.failed
        | true =>
            rw [if_pos rfl, KeyMap.get?_applyAll]
            apply KeyMap.Performs.clean

/-- A session follows the map that its store stands for. -/
theorem follows_run (opened : store.content? = some records) (actions : List StoreAction) :
    KeyMap.Follows records.get? actions ((start store).run actions) := by
  induction actions generalizing store records with
  | nil => apply KeyMap.Follows.nil
  | cons action rest ih =>
      rcases act_start opened action with ⟨answer, next, after, acted, nextContent, performs⟩
      simp only [run, acted]
      have content : (start next).store.content? = some after := nextContent
      rw [content]
      apply KeyMap.Follows.cons performs
      · intro key
        rfl
      · exact ih nextContent

end Session

/-- New stores are one map, whatever their kind: a session of any reads, writes and blocks of
batches has at every moment the answer and the content of a plain map that starts empty, so
it is the same session on every backend. -/
theorem backends_agree (left right : StoreKind) (actions : List StoreAction) :
    KeyMap.Follows (fun _ => none) actions ((Session.start (.create left)).run actions) ∧
      (Session.start (.create left)).run actions =
        (Session.start (.create right)).run actions := by
  have follows : ∀ kind, KeyMap.Follows (fun _ => none) actions
      ((Session.start (.create kind)).run actions) := by
    intro kind
    exact Session.follows_run (Store.content?_create kind) actions
  constructor
  · exact follows left
  · exact (follows left).unique (follows right)

end Finality
