import Storage.Context

/-!
# The backend behind the drivers

The SQL and Redis drivers are external collaborators: the repository only opens
transactions and pipelines on them, sends commands, and finishes what it opened.  The
backend is modelled by what it has done, not by what its data means: a global log of the
commands each server executed, in order, and a table of the handles (SQL transactions and
Redis pipelines) opened on it.  Whatever state a server keeps is a function of its part of
the log, so two runs that leave the same log leave every server in the same state.

A statement sent through a SQL transaction waits in the transaction until `Commit` hands it
to the server and is dropped by `Rollback`; a Redis pipeline queues commands until `Exec`.
Answers to commands and to the calls that open or finish a handle are the driver's choice:
replies come from an oracle, and the answers to the next `BeginTxx`, `Commit`, `Rollback` and
`Exec` calls are a list in the world, so a statement over every world is a statement over every
behaviour of the driver, its failures included.
-/

namespace Storage

/-- The kind of a backend handle: a `*sqlx.Tx`, or a `redis.Pipeliner` made by `Pipeline()` or
by `TxPipeline()` (MULTI/EXEC). -/
inductive HandleKind where
  | sqlTx
  | pipeline
  | txPipeline
  deriving DecidableEq, Repr

/-- Lifecycle of a handle; only SQL transactions ever leave `active`. -/
inductive TxStatus where
  | active
  | committed
  | rolledBack
  deriving DecidableEq, Repr

/-- The go-redis accessor a call ends with; the driver's answer is what it returns. -/
inductive Conv where
  | result
  | int
  | bytes
  | bool
  deriving DecidableEq, Repr

/-- A driver call: the sqlx or go-redis method, its arguments and its accessor. -/
structure Cmd where
  name : String
  args : List Value
  conv : Conv := .result
  deriving DecidableEq, Repr

/-- A transaction or pipeline opened on the connection `conn`, with the commands sent through
it that no server has executed yet. -/
structure Handle where
  kind : HandleKind
  conn : Nat
  pending : List Cmd
  status : TxStatus
  deriving DecidableEq, Repr

/-- Where a command is sent: a connection (pool or client), or an open handle. -/
inductive Target where
  | conn (c : Nat)
  | handle (h : Nat)
  deriving DecidableEq, Repr

/-- The backends the drivers talk to: the handles in opening order (a handle is its index),
every command a server executed with the server, oldest first, and the driver's answers to the
next calls that open or finish a transaction or pipeline; `none` (or none left) accepts. -/
structure World where
  handles : List Handle
  log : List (Nat × Cmd)
  refusals : List (Option Err)
  deriving DecidableEq, Repr

/-- A driver's reply: the value and the error of the call's accessor. -/
abbrev Reply := Value × Option Err

namespace World

/-- The handle `h` is an active transaction or pipeline. -/
def IsActive (w : World) (h : Nat) : Prop :=
  ∃ x, w.handles[h]? = some x ∧ x.status = .active

/-- Replace the handle `h`. -/
def setHandle (w : World) (h : Nat) (x : Handle) : World :=
  { w with handles := w.handles.set h x }

/-- `BeginTxx` on the pool `conn`: refused if the driver's next answer is an error,
otherwise a fresh active transaction. -/
def beginTxx (w : World) (conn : Nat) : Except Err Nat × World :=
  match w.refusals with
  | some e :: rest => (.error e, { w with refusals := rest })
  | _ => (.ok w.handles.length,
      { w with handles := w.handles ++ [⟨.sqlTx, conn, [], .active⟩],
               refusals := w.refusals.tail })

/-- `Pipeline()` / `TxPipeline()` on the client `conn`: a fresh client-side queue. -/
def pipeline (w : World) (conn : Nat) (kind : HandleKind) : Nat × World :=
  (w.handles.length, { w with handles := w.handles ++ [⟨kind, conn, [], .active⟩] })

/-- The server `conn` executes `cmd`. -/
def execute (w : World) (conn : Nat) (cmd : Cmd) : World :=
  { w with log := w.log ++ [(conn, cmd)] }

/-- A command sent to a target: a connection executes it at once, an active handle
queues it, a finished one rejects it. -/
def send (w : World) : Target → Cmd → World
  | .conn c, cmd => w.execute c cmd
  | .handle h, cmd =>
    match w.handles[h]? with
    | some x => if x.status = .active then w.setHandle h { x with pending := x.pending ++ [cmd] }
      else w
    | none => w

/-- The driver's answer to the next call that opens or finishes a handle. -/
def answer (w : World) : Option Err := w.refusals.head?.join

/-- The world once the driver has given that answer. -/
def answered (w : World) : World := { w with refusals := w.refusals.tail }

/-- A call that finishes the handle `h` by asking the driver: accepted, the handle becomes
`ok` and the servers execute `out`; refused with `e`, it becomes `ko`, no server executes
anything, and the call returns `e`. -/
def finishWith (w : World) (h : Nat) (ok ko : Handle) (out : List (Nat × Cmd)) :
    Option Err × World :=
  match w.answer with
  | none => (none, { w.answered with handles := w.handles.set h ok, log := w.log ++ out })
  | some e => (some e, w.answered.setHandle h ko)

/-- `tx.Commit()`: `sql.ErrTxDone` without a driver call once the transaction is over;
otherwise the server executes what the transaction holds, atomically, unless the driver
refuses, and either way `database/sql` closes the transaction. -/
def commit (w : World) (h : Nat) : Option Err × World :=
  match w.handles[h]? with
  | some x =>
    if x.status = .active then
      w.finishWith h { x with status := .committed }
        { x with pending := [], status := .rolledBack } (x.pending.map (x.conn, ·))
    else (some .txDone, w)
  | none => (some .txDone, w)

/-- `tx.Rollback()`: what the transaction holds is dropped, whatever the driver answers. -/
def rollback (w : World) (h : Nat) : Option Err × World :=
  match w.handles[h]? with
  | some x =>
    if x.status = .active then
      w.finishWith h { x with pending := [], status := .rolledBack }
        { x with pending := [], status := .rolledBack } []
    else (some .txDone, w)
  | none => (some .txDone, w)

/-- `pipeliner.Exec(ctx)`: the server executes the queue unless the driver refuses, and the
queue is emptied either way. -/
def exec (w : World) (h : Nat) : Option Err × World :=
  match w.handles[h]? with
  | some x => w.finishWith h { x with pending := [] } { x with pending := [] }
      (x.pending.map (x.conn, ·))
  | none => (none, w)

/-- `pipeliner.Discard()`: the queue is emptied. -/
def discard (w : World) (h : Nat) : World :=
  match w.handles[h]? with
  | some x => w.setHandle h { x with pending := [] }
  | none => w

@[simp] theorem answered_handles (w : World) : w.answered.handles = w.handles := rfl

@[simp] theorem answered_log (w : World) : w.answered.log = w.log := rfl

@[simp] theorem answered_refusals (w : World) : w.answered.refusals = w.refusals.tail := rfl

/-- `BeginTxx` in terms of the driver's answer. -/
theorem beginTxx_eq (w : World) (conn : Nat) : w.beginTxx conn =
    match w.answer with
    | some e => (.error e, w.answered)
    | none => (.ok w.handles.length,
        { w.answered with handles := w.handles ++ [⟨.sqlTx, conn, [], .active⟩] }) := by
  obtain ⟨hs, lg, _ | ⟨_ | e, rs⟩⟩ := w <;> rfl

theorem finishWith_accepted {w : World} (hr : w.answer = none) (h : Nat) (ok ko : Handle)
    (out : List (Nat × Cmd)) : w.finishWith h ok ko out =
      (none, { w.answered with handles := w.handles.set h ok, log := w.log ++ out }) := by
  simp [finishWith, hr]

theorem finishWith_refused {w : World} {e : Err} (hr : w.answer = some e) (h : Nat)
    (ok ko : Handle) (out : List (Nat × Cmd)) :
    w.finishWith h ok ko out = (some e, w.answered.setHandle h ko) := by
  simp [finishWith, hr]

theorem commit_of_active {w : World} {h : Nat} {x : Handle} (hx : w.handles[h]? = some x)
    (ha : x.status = .active) :
    w.commit h = w.finishWith h { x with status := .committed }
      { x with pending := [], status := .rolledBack } (x.pending.map (x.conn, ·)) := by
  simp [commit, hx, ha]

theorem rollback_of_active {w : World} {h : Nat} {x : Handle} (hx : w.handles[h]? = some x)
    (ha : x.status = .active) :
    w.rollback h = w.finishWith h { x with pending := [], status := .rolledBack }
      { x with pending := [], status := .rolledBack } [] := by
  simp [rollback, hx, ha]

theorem exec_of_some {w : World} {h : Nat} {x : Handle} (hx : w.handles[h]? = some x) :
    w.exec h = w.finishWith h { x with pending := [] } { x with pending := [] }
      (x.pending.map (x.conn, ·)) := by
  simp [exec, hx]

theorem commit_of_not_active {w : World} {h : Nat} (ha : ¬ w.IsActive h) :
    w.commit h = (some .txDone, w) := by
  unfold commit
  split
  · rename_i x hx
    exact if_neg fun hs => ha ⟨x, hx, hs⟩
  · rfl

theorem rollback_of_not_active {w : World} {h : Nat} (ha : ¬ w.IsActive h) :
    w.rollback h = (some .txDone, w) := by
  unfold rollback
  split
  · rename_i x hx
    exact if_neg fun hs => ha ⟨x, hx, hs⟩
  · rfl

@[simp] theorem execute_log (w : World) (c : Nat) (cmd : Cmd) :
    (w.execute c cmd).log = w.log ++ [(c, cmd)] := rfl

@[simp] theorem execute_handles (w : World) (c : Nat) (cmd : Cmd) :
    (w.execute c cmd).handles = w.handles := rfl

@[simp] theorem setHandle_log (w : World) (h : Nat) (x : Handle) :
    (w.setHandle h x).log = w.log := rfl

@[simp] theorem discard_log (w : World) (h : Nat) : (w.discard h).log = w.log := by
  simp only [discard]
  split <;> rfl

@[simp] theorem discard_refusals (w : World) (h : Nat) : (w.discard h).refusals = w.refusals := by
  simp only [discard]
  split <;> rfl

@[simp] theorem send_conn (w : World) (c : Nat) (cmd : Cmd) :
    w.send (.conn c) cmd = w.execute c cmd := rfl

@[simp] theorem send_refusals (w : World) (t : Target) (cmd : Cmd) :
    (w.send t cmd).refusals = w.refusals := by
  cases t with
  | conn c => rfl
  | handle h =>
    simp only [send]
    split
    · split <;> rfl
    · rfl

/-- A command sent through a handle never reaches a server's log. -/
@[simp] theorem send_handle_log (w : World) (h : Nat) (cmd : Cmd) :
    (w.send (.handle h) cmd).log = w.log := by
  simp only [send]
  split
  · split <;> rfl
  · rfl

end World

/-- A client method's one interaction with a driver: it answers without calling the driver,
sends one command to a target and computes its answer from the reply, or opens a pipeline. -/
inductive Call (α : Type) where
  | ret (a : α)
  | send (target : Target) (cmd : Cmd) (k : Reply → α)
  | pipeline (conn : Nat) (kind : HandleKind) (k : Nat → α)

namespace Call

/-- Post-processing of a call's answer (a deferred `errorx.Wrap`, a result conversion). -/
def map (f : α → β) : Call α → Call β
  | .ret a => .ret (f a)
  | .send t cmd k => .send t cmd (f ∘ k)
  | .pipeline c kind k => .pipeline c kind (f ∘ k)

@[simp] theorem map_ret (f : α → β) (a : α) : (Call.ret a).map f = .ret (f a) := rfl

@[simp] theorem map_send (f : α → β) (t : Target) (cmd : Cmd) (k : Reply → α) :
    (Call.send t cmd k).map f = .send t cmd (f ∘ k) := rfl

/-- Running a call: `reply` is the driver's answer to a command in a given world. -/
def run (reply : Target → Cmd → World → Reply) : Call α → World → α × World
  | .ret a, w => (a, w)
  | .send t cmd k, w => (k (reply t cmd w), w.send t cmd)
  | .pipeline c kind k, w => ((w.pipeline c kind).1 |> k, (w.pipeline c kind).2)

/-- `if err := check; err != nil { return onErr(err) }`, then `rest`. -/
def guard (check : Option Err) (onErr : Err → α) (rest : Call α) : Call α :=
  match check with
  | some e => .ret (onErr e)
  | none => rest

@[simp] theorem guard_none (onErr : Err → α) (rest : Call α) :
    guard none onErr rest = rest := rfl

@[simp] theorem guard_some (e : Err) (onErr : Err → α) (rest : Call α) :
    guard (some e) onErr rest = .ret (onErr e) := rfl

/-- The command a call sends, if it sends one. -/
def sent : Call α → Option (Target × Cmd)
  | .send t cmd _ => some (t, cmd)
  | _ => none

@[simp] theorem sent_map (f : α → β) (c : Call α) : (c.map f).sent = c.sent := by
  cases c <;> rfl

end Call

end Storage
