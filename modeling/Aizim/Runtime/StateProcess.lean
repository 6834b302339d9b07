import Mathlib.Logic.Function.Basic
import Mathlib.Logic.Function.Iterate
import Aizim.Framework.Transition

/-!
# Ownership of the state process

Processes of one run directory take turns in owning its state.  A process that wants the ownership
runs `acquire_state_process`: it reads the record of the owner, `state.pid`, removes it if the
process it names is dead, and creates its own with `O_EXCL`.  The owner starts the state service,
which binds `state.sock`, stops it, and closes the ownership, which removes the record.

The steps here are the calls of the file system and of `kill`, so that those of different processes
come in any order and a process can die between any two of them.

Whether a process ever has the ownership to itself depends on the calls that come between its
checks.  `state_process_ownership` is what holds of the runs in which no process dies between
creating its record and writing it, or between removing a stale record and creating its own while
a socket is left; in which a record that is removed is the one that was checked; and in which an
owner that closes leaves no socket.
-/

namespace Aizim.Runtime

/-! ## Files -/

/-- `FileIdentity`, within one device. -/
structure FileIdentity where
  inode : ℕ
  changeTime : ℕ
  deriving DecidableEq

/-- A file that was created as a record: the pid in it, if one has been written, the time of its
last change and the process that created it. -/
structure PidFile where
  content : Option ℕ
  changeTime : ℕ
  creator : ℕ

/-! ## Processes -/

/-- What `_remove_owned` is called for: the identity and the pid of the record, and whether the
owner closes. -/
structure Removal where
  identity : FileIdentity
  pid : ℕ
  closing : Bool
  deriving DecidableEq

/-- What `_read_pid` is called for. -/
inductive Purpose
  | acquire
  | remove (removal : Removal)
  deriving DecidableEq

/-- Which call a process makes next. -/
inductive Phase
  | unborn
  | acquiring
  | opening (purpose : Purpose)
  | statting (purpose : Purpose) (inode : ℕ)
  | reading (purpose : Purpose) (identity : FileIdentity)
  | probing (identity : FileIdentity) (pid : ℕ)
  | confirming (identity : FileIdentity) (pid : ℕ)
  | comparing (removal : Removal)
  | rechecking (removal : Removal)
  | unlinking (removal : Removal)
  | lookingSocket (checkedDeadPid : Bool)
  | creating (checkedDeadPid : Bool)
  | created (inode : ℕ)
  | changedMode (inode : ℕ)
  | written (inode : ℕ)
  | holding (identity : FileIdentity)
  | serving (identity : FileIdentity)
  | ended
  deriving DecidableEq

/-- The run directory and its processes, by their pids: the inode that `state.pid` leads to, the
files that were created there, the process that bound `state.sock`, and the time. -/
structure RunDirectory where
  record : Option ℕ
  files : ℕ → PidFile
  socket : Option ℕ
  clock : ℕ
  phase : ℕ → Phase

namespace RunDirectory

/-- A new run directory, before any process. -/
def empty : RunDirectory := ⟨none, fun _ => ⟨none, 0, 0⟩, none, 1, fun _ => .unborn⟩

/-- `_identity` of the record. -/
def identity (w : RunDirectory) : Option FileIdentity :=
  w.record.map fun i => ⟨i, (w.files i).changeTime⟩

/-- `_alive` -/
def alive (w : RunDirectory) (pid : ℕ) : Bool :=
  match w.phase pid with
  | .unborn | .ended => false
  | _ => true

/-- The process goes on with another call. -/
def goto (w : RunDirectory) (p : ℕ) (next : Phase) : RunDirectory :=
  { w with phase := Function.update w.phase p next }

/-- A change of a file. -/
def write (w : RunDirectory) (i : ℕ) (content : Option ℕ) : RunDirectory :=
  { w with
    files := Function.update w.files i ⟨content, w.clock, (w.files i).creator⟩
    clock := w.clock + 1 }

/-- A new file at the path of the record. -/
def create (w : RunDirectory) (p : ℕ) : RunDirectory :=
  { w with
    record := some w.clock
    files := Function.update w.files w.clock ⟨none, w.clock, p⟩
    clock := w.clock + 1 }

end RunDirectory

/-! ## Steps -/

/-- After `_remove_owned`. -/
def Removal.done (r : Removal) : Phase :=
  if r.closing then .ended else .lookingSocket true

/-- After a `_read_pid` that raised: `_remove_owned` returns, `acquire_state_process` raises. -/
def Purpose.failed : Purpose → Phase
  | acquire => .ended
  | remove r => r.done

/-- After a `_read_pid`. -/
def Purpose.got (identity : FileIdentity) (pid : ℕ) : Purpose → Phase
  | acquire => .probing identity pid
  | remove r => if pid ≠ r.pid ∨ identity ≠ r.identity then r.done else .rechecking r

/-- The next call of a process. -/
def RunDirectory.step (w : RunDirectory) (p : ℕ) : RunDirectory :=
  match w.phase p with
  | .acquiring =>
    if w.identity = none then w.goto p (.lookingSocket false) else w.goto p (.opening .acquire)
  | .opening purpose =>
    match w.record with
    | none => w.goto p purpose.failed
    | some i => w.goto p (.statting purpose i)
  | .statting purpose i =>
    -- a file that was unlinked since has no link any more
    if w.record = some i then w.goto p (.reading purpose ⟨i, (w.files i).changeTime⟩)
    else w.goto p purpose.failed
  | .reading purpose identity =>
    match (w.files identity.inode).content with
    | none => w.goto p purpose.failed
    | some pid =>
      if pid ≤ 0 then w.goto p purpose.failed else w.goto p (purpose.got identity pid)
  | .probing identity pid =>
    if w.alive pid then w.goto p .ended else w.goto p (.confirming identity pid)
  | .confirming identity pid =>
    if w.identity ≠ some identity then w.goto p .ended
    else w.goto p (.comparing ⟨identity, pid, false⟩)
  | .comparing r =>
    if w.identity ≠ some r.identity then w.goto p r.done else w.goto p (.opening (.remove r))
  | .rechecking r =>
    if w.identity = some r.identity then w.goto p (.unlinking r) else w.goto p r.done
  | .unlinking r =>
    -- a record that is gone makes `unlink` raise
    if w.record = none then w.goto p .ended else { w with record := none }.goto p r.done
  | .lookingSocket checked =>
    if w.socket ≠ none ∧ checked = false then w.goto p .ended else w.goto p (.creating checked)
  | .creating _ =>
    if w.record = none then (w.create p).goto p (.created w.clock) else w.goto p .ended
  | .created i => (w.write i none).goto p (.changedMode i)
  | .changedMode i => (w.write i (some p)).goto p (.written i)
  | .written i => w.goto p (.holding ⟨i, (w.files i).changeTime⟩)
  | .unborn | .holding _ | .serving _ | .ended => w

/-- What happens: a process starts, makes its next call, starts or stops the state service, closes
its ownership, or dies. -/
inductive ProcessAction
  | start (p : ℕ)
  | step (p : ℕ)
  | serve (p : ℕ)
  | stop (p : ℕ)
  | close (p : ℕ)
  | crash (p : ℕ)

/-- The process of an action. -/
def ProcessAction.process : ProcessAction → ℕ
  | start p | step p | serve p | stop p | close p | crash p => p

/-- One action.  Pids are positive and not used twice.  The state service takes a socket over
unless the process that bound it still listens. -/
def RunDirectory.exec (w : RunDirectory) : ProcessAction → RunDirectory
  | .start p =>
    match w.phase p with
    | .unborn => if p ≤ 0 then w else w.goto p .acquiring
    | _ => w
  | .step p => w.step p
  | .serve p =>
    match w.phase p with
    | .holding identity =>
      if w.socket.any w.alive then w else { w with socket := some p }.goto p (.serving identity)
    | _ => w
  | .stop p =>
    match w.phase p with
    | .serving identity =>
      { w with socket := if w.socket = some p then none else w.socket }.goto p (.holding identity)
    | _ => w
  | .close p =>
    match w.phase p with
    | .holding identity => w.goto p (.comparing ⟨identity, p, true⟩)
    | _ => w
  | .crash p =>
    match w.phase p with
    | .unborn => w
    | _ => w.goto p .ended

/-- The processes of a run directory. -/
def runDirectory : TransitionSystem RunDirectory ProcessAction :=
  .ofFunction .empty RunDirectory.exec

/-! ## Ownership -/

/-- The process has the ownership, with the identity of its record. -/
def RunDirectory.Holds (w : RunDirectory) (p : ℕ) (identity : FileIdentity) : Prop :=
  w.phase p = .holding identity ∨ w.phase p = .serving identity

/-- At most one process has the ownership, and the record is the one it created and names it. -/
structure RunDirectory.Owned (w : RunDirectory) : Prop where
  exclusive : ∀ p q i j, w.Holds p i → w.Holds q j → p = q
  named : ∀ p identity, w.Holds p identity → w.identity = some identity ∧
    (w.files identity.inode).content = some p

/-- The action leaves the record of an owner that is another process. -/
def RunDirectory.Keeps (w : RunDirectory) (a : ProcessAction) : Prop :=
  ∀ p identity, w.Holds p identity → a.process ≠ p → (w.exec a).identity = some identity

/-- All processes have exited or died. -/
def RunDirectory.Over (w : RunDirectory) : Prop :=
  ∀ p, w.phase p = .unborn ∨ w.phase p = .ended

/-- A process makes a number of calls, and the others none. -/
def RunDirectory.alone (w : RunDirectory) (p n : ℕ) : RunDirectory :=
  (fun w => w.exec (.step p))^[n] w

/-- The process gets the ownership if it goes on alone. -/
def RunDirectory.Completes (w : RunDirectory) (p : ℕ) : Prop :=
  ∃ n identity, (w.alone p n).Holds p identity

/-- A process that runs `acquire_state_process` alone gets the ownership. -/
def RunDirectory.Acquires (w : RunDirectory) (p : ℕ) : Prop :=
  (w.exec (.start p)).Completes p

/-- The next process gets the ownership, once all others are over. -/
def RunDirectory.Recoverable (w : RunDirectory) : Prop :=
  w.Over → ∀ p, 0 < p → w.phase p = .unborn → w.Acquires p

end Aizim.Runtime
