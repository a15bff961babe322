import Storage.SqlClient
import Storage.RedisMethod

/-!
# Transactors

A transactor opens a transaction and finishes the one a context carries.  `sql.NewTransactor`
opens a `*sqlx.Tx` through its provider (a pool, or a shard set that selects one),
`redis.NewTransactor` a MULTI/EXEC pipeline through a Redis client, and `storage.NewTransactor`
combines any list of transactors, composites included.  The three form one tree.

`BeginCtx` stores each new transaction in the context (`SetTx`); `CommitCtx`/`RollbackCtx`
finish whatever the context carries for the transactor's kind, and do nothing when it carries
none.  A composite begins its children one after the other and finishes them through an
errgroup fan-out, each goroutine running one child's operation.
-/

namespace Storage

/-- `sql.TransactorConnectionProvider` as the repository implements it: a `*sqlx.DB` pool, or
a shard set (`*Connections`), which begins on the shard its selector picks. -/
inductive SqlProvider where
  | db (conn : Nat)
  | connections (c : Sql.Connections)

/-- `provider.BeginTxx(ctx, opts)`. -/
def SqlProvider.beginTxx : SqlProvider → Context → World → Except Err Nat × World
  | .db conn, _, w => w.beginTxx conn
  | .connections c, ctx, w => c.beginTxx ctx w

/-- A transactor of the repository: `sql.NewTransactor(provider)`,
`redis.NewTransactor(provider)`, or `storage.NewTransactor(transactors...)`. -/
inductive Transactor where
  | sql (provider : SqlProvider)
  | redis (provider : Redis.Client)
  | composite (transactors : List Transactor)

/-- A transaction returned by `Begin`: `sqlTransaction{tx, parentCtx}`,
`redisTransaction{tx, parentCtx}`, or `transaction{transactions}`. -/
inductive Transaction where
  | sql (tx : Nat) (parentCtx : Context)
  | redis (tx : Nat) (parentCtx : Context)
  | composite (transactions : List Transaction)

/-- What one goroutine of a composite's fan-out runs: a child's operation. -/
inductive Invocation where
  | commitCtx (t : Transactor) (ctx : Context)
  | rollbackCtx (t : Transactor) (ctx : Context)
  | commit (tx : Transaction) (ctx : Context)
  | rollback (tx : Transaction) (ctx : Context)

/-- How an operation finishes transactions: a leaf makes one driver call, a composite fans
out over its children. -/
inductive Finish where
  | call (act : World → Option Err × World)
  | fanOut (g : ErrGroup.Group Invocation)

/-- `ErrTransactorBegin.SetError(err)`. -/
def errTransactorBegin (e : Err) : Err := .setError (.named "transactor.begin") e

/-- `ErrTransactorCommit.SetError(err)`. -/
def errTransactorCommit (e : Err) : Err := .setError (.named "transactor.commit") e

/-- `ErrTransactorRollback.SetError(err)`. -/
def errTransactorRollback (e : Err) : Err := .setError (.named "transactor.rollback") e

/-- `TxPipeline` sends no command, so running it never asks the driver for a reply. -/
def noReply : Target → Cmd → World → Reply := fun _ _ _ => (.nil, none)

namespace Sql

/-- `sqlTransactor.CommitCtx`. -/
def commitCtx (ctx : Context) (w : World) : Option Err × World :=
  match getTx ctx with
  | none => (none, w)
  | some tx =>
    match w.commit tx with
    | (some e, w') => (some (errTransactorCommit e), w')
    | (none, w') => (none, w')

/-- `sqlTransactor.RollbackCtx`. -/
def rollbackCtx (ctx : Context) (w : World) : Option Err × World :=
  match getTx ctx with
  | none => (none, w)
  | some tx =>
    match w.rollback tx with
    | (some e, w') => (some (errTransactorRollback e), w')
    | (none, w') => (none, w')

end Sql

namespace Redis

/-- `redisTransactor.CommitCtx`: `Exec` the pipeline the context carries. -/
def commitCtx (ctx : Context) (w : World) : Option Err × World :=
  match getTx ctx with
  | none => (none, w)
  | some tx => w.exec tx

/-- `redisTransactor.RollbackCtx`: `Discard` it. -/
def rollbackCtx (ctx : Context) (w : World) : Option Err × World :=
  match getTx ctx with
  | none => (none, w)
  | some tx => (none, w.discard tx)

end Redis

namespace Transactor

/-- `Key()`: the package's transaction key, or the children's keys joined by commas. -/
def key : Transactor → String
  | .sql _ => TxKind.sql.transactionKey
  | .redis _ => TxKind.redis.transactionKey
  | .composite ts => ",".intercalate (keys ts)
where
  /-- The children's keys in order. -/
  keys : List Transactor → List String
    | [] => []
    | t :: ts => t.key :: keys ts

/-- `IsTx(ctx)`: false on a nil context; for a composite, whether some child's is true. -/
def isTx : Transactor → Option Context → Bool
  | .sql _, ctx => match ctx with
    | none => false
    | some ctx => (Sql.getTx ctx).isSome
  | .redis _, ctx => match ctx with
    | none => false
    | some ctx => (Redis.getTx ctx).isSome
  | .composite ts, ctx => anyTx ts ctx
where
  /-- The loop of the composite `IsTx`. -/
  anyTx : List Transactor → Option Context → Bool
    | [], _ => false
    | t :: ts, ctx => t.isTx ctx || anyTx ts ctx

/-- `Begin(ctx)`. -/
def begin : Transactor → Context → World → Except Err Transaction × World
  | .sql p, ctx, w =>
    match p.beginTxx ctx w with
    | (.error e, w') => (.error (errTransactorBegin e), w')
    | (.ok tx, w') => (.ok (.sql tx ctx), w')
  | .redis p, ctx, w =>
    match (p.txPipeline ctx).run noReply w with
    | (.error e, w') => (.error e, w')
    | (.ok tx, w') => (.ok (.redis tx ctx), w')
  | .composite ts, ctx, w =>
    match beginAll ts ctx w with
    | (.error e, w') => (.error e, w')
    | (.ok txs, w') => (.ok (.composite txs), w')
where
  /-- The loop of the composite `Begin`: every child begins on the original context. -/
  beginAll : List Transactor → Context → World → Except Err (List Transaction) × World
    | [], _, w => (.ok [], w)
    | t :: ts, ctx, w =>
      match t.begin ctx w with
      | (.error e, w') => (.error e, w')
      | (.ok tx, w') =>
        match beginAll ts ctx w' with
        | (.error e, w'') => (.error e, w'')
        | (.ok txs, w'') => (.ok (tx :: txs), w'')

/-- `BeginCtx(ctx)`; an error comes with a nil context. -/
def beginCtx : Transactor → Context → World → Except Err Context × World
  | .sql p, ctx, w =>
    match p.beginTxx ctx w with
    | (.error e, w') => (.error (errTransactorBegin e), w')
    | (.ok tx, w') => (.ok (Sql.setTx ctx tx), w')
  | .redis p, ctx, w =>
    match (p.txPipeline ctx).run noReply w with
    | (.error e, w') => (.error e, w')
    | (.ok tx, w') => (.ok (Redis.setTx ctx tx), w')
  | .composite ts, ctx, w => beginCtxAll ts ctx w
where
  /-- The loop of the composite `BeginCtx`: each child begins on the context the previous
  one returned. -/
  beginCtxAll : List Transactor → Context → World → Except Err Context × World
    | [], ctx, w => (.ok ctx, w)
    | t :: ts, ctx, w =>
      match t.beginCtx ctx w with
      | (.error e, w') => (.error e, w')
      | (.ok ctx', w') => beginCtxAll ts ctx' w'

/-- `CommitCtx(ctx)`. -/
def commitCtx : Transactor → Context → Finish
  | .sql _, ctx => .call (Sql.commitCtx ctx)
  | .redis _, ctx => .call (Redis.commitCtx ctx)
  | .composite ts, ctx => .fanOut (ErrGroup.start (ts.map (.commitCtx · ctx)) none)

/-- `RollbackCtx(ctx)`. -/
def rollbackCtx : Transactor → Context → Finish
  | .sql _, ctx => .call (Sql.rollbackCtx ctx)
  | .redis _, ctx => .call (Redis.rollbackCtx ctx)
  | .composite ts, ctx => .fanOut (ErrGroup.start (ts.map (.rollbackCtx · ctx)) none)

/-- The kinds of the sql and redis transactors of the tree, in order. -/
def kinds : Transactor → List TxKind
  | .sql _ => [.sql]
  | .redis _ => [.redis]
  | .composite ts => kindsAll ts
where
  /-- The kinds of a list of trees. -/
  kindsAll : List Transactor → List TxKind
    | [] => []
    | t :: ts => t.kinds ++ kindsAll ts

end Transactor

namespace Transaction

/-- `Context()`: the parent context with the transaction stored; nil for a composite. -/
def context : Transaction → Option Context
  | .sql tx parentCtx => some (Sql.setTx parentCtx tx)
  | .redis tx parentCtx => some (Redis.setTx parentCtx tx)
  | .composite _ => none

/-- `Commit(ctx)`. -/
def commit : Transaction → Context → Finish
  | .sql tx _, _ => .call (·.commit tx)
  | .redis tx _, _ => .call (·.exec tx)
  | .composite txs, ctx => .fanOut (ErrGroup.start (txs.map (.commit · ctx)) none)

/-- `Rollback(ctx)`. -/
def rollback : Transaction → Context → Finish
  | .sql tx _, _ => .call (·.rollback tx)
  | .redis tx _, _ => .call fun w => (none, w.discard tx)
  | .composite txs, ctx => .fanOut (ErrGroup.start (txs.map (.rollback · ctx)) none)

end Transaction

end Storage
