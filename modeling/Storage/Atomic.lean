import Storage.RoundTrip

/-!
# Transaction helpers of the `sql` package

`sql.Transaction(conn, actions)` runs `actions` in a fresh transaction, committing if they
return nil and rolling back otherwise; `sql.Atomic(ctx, conn, fn)` does the same for code
that takes a context, unless the context already carries a transaction; and
`sqlTransactor.TryCommit(ctx, &err)` finishes the ambient transaction by the caller's error.

Caller-supplied code returns nil, returns an error, or panics, and may use the backend; the
driver may refuse `Beginx` and `Commit`.  `Transaction` is a round trip over those answers
(`transaction_round_trip`), and an `Atomic` inside another joins the outer one
(`atomic_nested`).
-/

namespace Storage

/-- How caller-supplied code ends. -/
inductive Outcome where
  | ok
  | err (e : Err)
  | panic (code : Nat)
  deriving DecidableEq, Repr

/-- Code that returns the error `r`, nil when `none`. -/
def Outcome.ofErr : Option Err → Outcome
  | none => .ok
  | some e => .err e

namespace Errorx

/-- `errorx.Try(fn)` (external package): `fn`'s error, a panic recovered as an error. -/
def tryCall : Outcome → Option Err
  | .ok => none
  | .err e => some e
  | .panic code => some (.panicked code)

@[simp] theorem tryCall_ofErr (r : Option Err) : tryCall (Outcome.ofErr r) = r := by
  cases r <;> rfl

end Errorx

namespace Sql

/-- The deferred closure of `Atomic`: roll back if the local `err` is set, else commit. -/
def atomicDefer (err : Option Err) (tx : Nat) (w : World) : World :=
  if err.isSome then (w.rollback tx).2 else (w.commit tx).2

/-- `sql.Atomic(ctx, conn, fn)`.  The deferred closure reads the local `err`, which only
`conn.Beginx()` assigns: it is nil whenever the closure runs. -/
def atomic (ctx : Context) (conn : Nat) (fn : Context → World → Outcome × World)
    (w : World) : Option Err × World :=
  match getTx ctx with
  | some _ => ((fn ctx w).1 |> Errorx.tryCall, (fn ctx w).2)
  | none =>
    match w.beginTxx conn with
    | (.error e, w') => (some e, w')
    | (.ok tx, w') =>
      let err : Option Err := none
      let r := fn (ctx.withValue transactionKey (.sqlTx tx)) w'
      (Errorx.tryCall r.1, atomicDefer err tx r.2)

/-- `sql.Transaction(conn, actions)`: a panic of `actions` propagates after the deferred
rollback. -/
def transaction (conn : Nat) (actions : Nat → World → Outcome × World) (w : World) :
    Outcome × World :=
  match w.beginTxx conn with
  | (.error e, w') => (.err e, w')
  | (.ok tx, w') =>
    match actions tx w' with
    | (.ok, w'') =>
      let r := w''.commit tx
      ((r.1.map Outcome.err).getD .ok, (r.2.rollback tx).2)
    | (o, w'') => (o, (w''.rollback tx).2)

/-- `sqlTransactor.TryCommit(ctx, err)`: `err` is the `*error` pointer, `none` when nil. -/
def tryCommit (ctx : Context) (err : Option (Option Err)) (w : World) : World :=
  if err.isSome then (rollbackCtx ctx w).2 else (commitCtx ctx w).2

/-! ## What the helpers finish -/

/-- With an ambient transaction, `Atomic` runs `fn` on the caller's context and neither opens,
commits nor rolls back a transaction. -/
theorem atomic_of_ambient {ctx : Context} {tx : Nat} (h : getTx ctx = some tx) (conn : Nat)
    (fn : Context → World → Outcome × World) (w : World) :
    atomic ctx conn fn w = (Errorx.tryCall (fn ctx w).1, (fn ctx w).2) := by
  simp [atomic, h]

/-- An `Atomic` inside another joins the outer transaction:
`Atomic(ctx, conn, func(ctx) error { return Atomic(ctx, conn, fn) })` does what
`Atomic(ctx, conn, fn)` does, on every context, world and `fn`. -/
theorem atomic_nested (ctx : Context) (conn : Nat) (fn : Context → World → Outcome × World)
    (w : World) :
    atomic ctx conn (fun ctx' w' => (Outcome.ofErr (atomic ctx' conn fn w').1,
        (atomic ctx' conn fn w').2)) w = atomic ctx conn fn w := by
  cases hctx : getTx ctx with
  | some tx => simp [atomic_of_ambient hctx]
  | none =>
    simp only [atomic, hctx]
    split
    · rfl
    · rename_i tx w' _
      have htx : getTx (ctx.withValue transactionKey (.sqlTx tx)) = some tx :=
        TxKind.getTx_setTx .sql ctx tx
      simp [htx]

/-- Through a handle just opened, statements queue in order. -/
theorem queueOn_last (hs : List Handle) (x : Handle) (ha : x.status = .active) (lg : List (Nat × Cmd))
    (rs : List (Option Err)) (cmds : List Cmd) :
    queueOn hs.length cmds ⟨hs ++ [x], lg, rs⟩ =
      ⟨hs ++ [{ x with pending := x.pending ++ cmds }], lg, rs⟩ := by
  rw [queueOn_active hs.length cmds (by simp) ha]
  simp [World.setHandle]

/-- `Transaction(conn, actions)` with `actions` running the statements `cmds` through the
transaction it is given and ending with `o`.  It returns nil exactly when the driver grants
`Beginx`, `actions` returns nil and the driver accepts the commit, and then the server runs the
statements, in order, on `conn`; otherwise none of them runs.  A failure of `actions` is what
`Transaction` returns, never the deferred rollback's answer, and the transaction it opened is
over whatever happened. -/
theorem transaction_round_trip (conn : Nat) (cmds : List Cmd) (o : Outcome) (w : World) :
    ((transaction conn (fun tx w => (o, queueOn tx cmds w)) w).1 = .ok ↔
        w.answer = none ∧ o = .ok ∧ w.answered.answer = none) ∧
      (transaction conn (fun tx w => (o, queueOn tx cmds w)) w).2.log =
        w.log ++ (if w.answer = none ∧ o = .ok ∧ w.answered.answer = none then
          cmds.map (conn, ·) else []) ∧
      (w.answer = none → o ≠ .ok → (transaction conn (fun tx w => (o, queueOn tx cmds w)) w).1 = o) ∧
      ¬ (transaction conn (fun tx w => (o, queueOn tx cmds w)) w).2.IsActive w.handles.length := by
  obtain ⟨hs, lg, rs⟩ := w
  rcases rs with _ | ⟨_ | e, _ | ⟨_ | e', rs⟩⟩ <;> cases o <;>
    simp [transaction, World.beginTxx, queueOn_last, World.commit, World.rollback,
      World.finishWith, World.answer, World.answered, World.IsActive, World.setHandle]

/-- `Atomic` without an ambient transaction opens one, runs `fn` on a context whose `GetTx`
returns it, returns `fn`'s outcome, and then commits, whatever that outcome was: the deferred
closure tests a local `err` that nothing assigns.  `TryCommit(ctx, &err)` tests the pointer,
which is never nil, so it always rolls back. -/
theorem atomic_commits_failed_work :
    (∀ (ctx : Context) (conn : Nat) (fn : Context → World → Outcome × World) (w w₁ : World)
        (tx : Nat), getTx ctx = none → w.beginTxx conn = (.ok tx, w₁) →
      atomic ctx conn fn w =
        (Errorx.tryCall (fn (setTx ctx tx) w₁).1, ((fn (setTx ctx tx) w₁).2.commit tx).2)) ∧
      ∀ (ctx : Context) (err : Option Err) (w : World),
        tryCommit ctx (some err) w = (rollbackCtx ctx w).2 := by
  refine ⟨fun ctx conn fn w w₁ tx hctx hb => ?_, fun _ _ _ => rfl⟩
  simp [atomic, hctx, hb, atomicDefer]
  exact ⟨rfl, rfl⟩

/-- `fn` runs a statement in the transaction and fails: `Atomic` returns its error and commits
the statement.  `TryCommit(ctx, &err)` with `err == nil` rolls the transaction back. -/
theorem atomic_commits_after_error :
    atomic .background 0
        (fun ctx w => (.err (.user 1), w.send (route ctx 0) ⟨"Exec", [], .result⟩))
        ⟨[], [], []⟩ =
      (some (.user 1), ⟨[⟨.sqlTx, 0, [⟨"Exec", [], .result⟩], .committed⟩],
        [(0, ⟨"Exec", [], .result⟩)], []⟩) ∧
    (tryCommit (setTx .background 0) (some none) ⟨[⟨.sqlTx, 0, [], .active⟩], [], []⟩).handles =
      [⟨.sqlTx, 0, [], .rolledBack⟩] :=
  ⟨rfl, rfl⟩

end Sql

end Storage
