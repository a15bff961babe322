import Storage.Routing

/-!
# Round trips through a transaction

A transaction opened by `sql.NewTransactor(p).BeginCtx(ctx)` holds every statement a client
over the same pool or shard set runs under the returned context: nothing reaches a server until
`CommitCtx`, which runs them all, in order, on the transaction's pool if the driver accepts the
commit and none of them if it refuses, and `RollbackCtx` drops them (`sql_round_trip`).  The induction is over the statements, with the open handle and the
untouched log as invariant (`runOps_queue`).

The Redis clients send every command to a client connection (`Client.call_never_uses_pipeline`),
so under the context `redis.NewTransactor(p).BeginCtx(ctx)` returns a write runs at once and the
pipeline's `Discard` has nothing to drop (`redis_rollback_keeps_write`).  The Redis transactor
itself keeps the round trip for the commands a caller queues on the pipeline `GetTx` returns
(`redis_pipeline_round_trip`); unlike a SQL transaction, the pipeline stays open after
`CommitCtx` and `RollbackCtx`, whatever the driver answered, and a later `CommitCtx` runs what was
queued since.
-/

namespace Storage

namespace World

@[simp] theorem setHandle_handles (w : World) (h : Nat) (x : Handle) :
    (w.setHandle h x).handles = w.handles.set h x := rfl

/-- Sending through an open handle queues the command on it. -/
theorem send_handle_of_active {w : World} {h : Nat} {x : Handle} (hx : w.handles[h]? = some x)
    (ha : x.status = .active) (cmd : Cmd) :
    w.send (.handle h) cmd = w.setHandle h { x with pending := x.pending ++ [cmd] } := by
  simp [send, hx, ha]

/-- A granted `BeginTxx` on `conn`: the next handle, an empty open transaction on `conn`. -/
theorem beginTxx_ok {w w' : World} {conn tx : Nat} (h : w.beginTxx conn = (.ok tx, w')) :
    tx = w.handles.length ∧ w'.handles[tx]? = some ⟨.sqlTx, conn, [], .active⟩ ∧
      w'.log = w.log := by
  unfold beginTxx at h
  split at h
  · cases h
  · cases h
    simp

end World

/-- Commands issued one after the other through the transaction handle `tx`, as a caller runs
them on the `*sqlx.Tx` that `Transaction` passes to its actions or queues them on the
`redis.Pipeliner` that `GetTx` returns. -/
def queueOn (tx : Nat) (cmds : List Cmd) (w : World) : World :=
  cmds.foldl (fun w cmd => w.send (.handle tx) cmd) w

/-- On an open handle the commands join its queue, in order, and nothing else changes. -/
theorem queueOn_active (tx : Nat) : ∀ (cmds : List Cmd) {w : World} {x : Handle},
    w.handles[tx]? = some x → x.status = .active →
      queueOn tx cmds w = w.setHandle tx { x with pending := x.pending ++ cmds }
  | [], w, x, hx, _ => by
    have hset : w.handles.set tx x = w.handles := List.ext_getElem? fun j => by
      by_cases hj : tx = j
      · subst hj
        simp [List.getElem?_set_self (List.getElem?_eq_some_iff.1 hx).1, hx]
      · simp [List.getElem?_set_ne hj]
    simp [queueOn, World.setHandle, hset]
  | cmd :: cmds, w, x, hx, ha => by
    have hlt : tx < w.handles.length := (List.getElem?_eq_some_iff.1 hx).1
    rw [queueOn, List.foldl_cons, World.send_handle_of_active hx ha, ← queueOn,
      queueOn_active tx cmds (x := { x with pending := x.pending ++ [cmd] }) (by simp [hlt]) ha]
    simp [World.setHandle]

namespace Sql

/-- The statements `ops` issued one after the other through `db` under `ctx`, the driver
answering as `reply` says. -/
def runOps (errType : String) (db : DB) (ctx : Context) (reply : Target → Cmd → World → Reply) :
    List Op → World → World
  | [], w => w
  | op :: ops, w => runOps errType db ctx reply ops ((db.call errType ctx op).run reply w).2

/-- A statement method of a client that designates `conn`. -/
theorem DB.call_of_designated {db : DB} {ctx : Context} {conn : Nat}
    (h : db.designated ctx = some conn) (errType : String) (op : Op) :
    db.call errType ctx op = .send (route ctx conn) op.cmd (finish errType op) := by
  cases db with
  | single c => cases h; rfl
  | shard c =>
    simp only [DB.designated] at h
    simp only [DB.call, ClientShard.call]
    split <;> simp_all

/-- Statements that all go through the open handle `tx` queue there, in order, and no server
runs any of them. -/
theorem runOps_queue (errType : String) {db : DB} {ctx : Context} {tx : Nat}
    (reply : Target → Cmd → World → Reply)
    (hroute : ∀ op, db.call errType ctx op = .send (.handle tx) op.cmd (finish errType op)) :
    ∀ (ops : List Op) {w : World} {x : Handle}, w.handles[tx]? = some x → x.status = .active →
      (runOps errType db ctx reply ops w).handles[tx]? =
          some { x with pending := x.pending ++ ops.map Op.cmd } ∧
        (runOps errType db ctx reply ops w).log = w.log ∧
        (runOps errType db ctx reply ops w).refusals = w.refusals
  | [], w, x, hx, _ => by simpa [runOps] using hx
  | op :: ops, w, x, hx, ha => by
    have hlt : tx < w.handles.length := (List.getElem?_eq_some_iff.1 hx).1
    have hx' : (w.send (.handle tx) op.cmd).handles[tx]? =
        some { x with pending := x.pending ++ [op.cmd] } := by
      simp [World.send_handle_of_active hx ha, hlt]
    simpa [runOps, hroute, Call.run] using runOps_queue errType reply hroute ops hx' ha

/-- The same pool, or the same shard set with a selector whose choice does not depend on the
context. -/
def SameBackend : SqlProvider → DB → Prop
  | .db conn, .single c => c.conn = conn
  | .connections cs, .shard c =>
    c.connections = cs ∧ ∀ ctx₁ ctx₂, cs.selector ctx₁ cs.connections = cs.selector ctx₂ cs.connections
  | _, _ => False

/-- A transaction the provider opens is on the pool the client designates, on every context. -/
theorem SameBackend.beginTxx_ok {p : SqlProvider} {db : DB} (hs : SameBackend p db)
    {ctx : Context} {w w' : World} {tx : Nat} (h : p.beginTxx ctx w = (.ok tx, w'))
    (ctx' : Context) : ∃ conn, w.beginTxx conn = (.ok tx, w') ∧ db.designated ctx' = some conn := by
  cases p with
  | db conn =>
    cases db with
    | single c => exact ⟨conn, h, by simp [DB.designated, show c.conn = conn from hs]⟩
    | shard c => cases hs
  | connections cs =>
    cases db with
    | single c => cases hs
    | shard c =>
      obtain ⟨rfl, hsel⟩ := hs
      simp only [SqlProvider.beginTxx, Connections.beginTxx] at h
      split at h
      · cases h
      · rename_i raw hraw
        refine ⟨raw.conn, h, ?_⟩
        rw [Connections.get_eq_ok] at hraw
        simp [DB.designated, Connections.get, hsel ctx' ctx, hraw]

/-- A transaction opened by `sql.NewTransactor(p).BeginCtx(ctx)`, and any statements run through
a client over the same pool or shard set under the returned context: no server runs them before
the commit.  `CommitCtx` takes the driver's next answer: accepted, it returns nil and the server
runs them all, in order, on the pool the client designates; refused with `e`, it returns
`ErrTransactorCommit` wrapping `e` and no server runs any of them.  `RollbackCtx` returns
`ErrTransactorRollback` wrapping the driver's refusal, if any, and no server runs any of them. -/
theorem sql_round_trip (errType : String) {p : SqlProvider} {db : DB} (hs : SameBackend p db)
    (ctx ctx' : Context) (w₀ w₁ : World) (hb : (Transactor.sql p).beginCtx ctx w₀ = (.ok ctx', w₁))
    (reply : Target → Cmd → World → Reply) (ops : List Op) :
    (runOps errType db ctx' reply ops w₁).log = w₀.log ∧
      (∃ conn, db.designated ctx' = some conn ∧
        (commitCtx ctx' (runOps errType db ctx' reply ops w₁)).1 =
          w₁.answer.map errTransactorCommit ∧
        (commitCtx ctx' (runOps errType db ctx' reply ops w₁)).2.log =
          w₀.log ++ if w₁.answer = none then ops.map fun op => (conn, op.cmd) else []) ∧
      (rollbackCtx ctx' (runOps errType db ctx' reply ops w₁)).1 =
        w₁.answer.map errTransactorRollback ∧
      (rollbackCtx ctx' (runOps errType db ctx' reply ops w₁)).2.log = w₀.log := by
  simp only [Transactor.beginCtx] at hb
  split at hb
  · cases hb
  rename_i tx w' hp
  obtain ⟨rfl, rfl⟩ : Sql.setTx ctx tx = ctx' ∧ w' = w₁ := by simpa using hb
  obtain ⟨conn, hconn, hdes⟩ := hs.beginTxx_ok hp (setTx ctx tx)
  obtain ⟨-, hx, hlog⟩ := World.beginTxx_ok hconn
  have htx : getTx (setTx ctx tx) = some tx := TxKind.getTx_setTx _ _ _
  have hroute (op : Op) := (DB.call_of_designated hdes errType op).trans
    (by rw [route_of_getTx htx])
  obtain ⟨hq, hl, hr⟩ := runOps_queue errType reply hroute ops hx rfl
  have hans : (runOps errType db (setTx ctx tx) reply ops w').answer = w'.answer := by
    simp only [World.answer, hr]
  refine ⟨hl.trans hlog, ⟨conn, hdes, ?_⟩, ?_⟩ <;> cases ha : w'.answer <;>
    simp [commitCtx, rollbackCtx, htx, World.commit_of_active hq rfl,
      World.rollback_of_active hq rfl, World.finishWith, hans, ha, hl, hlog, Function.comp_def]

theorem sql_round_trip_refused :
    (runOps "sql" (client 0) (setTx .background 0) noReply [.execContext "q" []]
        ⟨[⟨.sqlTx, 0, [], .active⟩], [], [some (.driver 1)]⟩).log = [] ∧
      (∃ conn, (client 0).designated (setTx .background 0) = some conn ∧
        (commitCtx (setTx .background 0) (runOps "sql" (client 0) (setTx .background 0) noReply
          [.execContext "q" []] ⟨[⟨.sqlTx, 0, [], .active⟩], [], [some (.driver 1)]⟩)).1 =
          Option.map errTransactorCommit
            (World.answer ⟨[⟨.sqlTx, 0, [], .active⟩], [], [some (.driver 1)]⟩) ∧
        (commitCtx (setTx .background 0) (runOps "sql" (client 0) (setTx .background 0) noReply
          [.execContext "q" []] ⟨[⟨.sqlTx, 0, [], .active⟩], [], [some (.driver 1)]⟩)).2.log =
          [] ++ if World.answer ⟨[⟨.sqlTx, 0, [], .active⟩], [], [some (.driver 1)]⟩ = none then
            [Op.execContext "q" []].map fun op => (conn, op.cmd) else []) ∧
      (rollbackCtx (setTx .background 0) (runOps "sql" (client 0) (setTx .background 0) noReply
        [.execContext "q" []] ⟨[⟨.sqlTx, 0, [], .active⟩], [], [some (.driver 1)]⟩)).1 =
        Option.map errTransactorRollback
          (World.answer ⟨[⟨.sqlTx, 0, [], .active⟩], [], [some (.driver 1)]⟩) ∧
      (rollbackCtx (setTx .background 0) (runOps "sql" (client 0) (setTx .background 0) noReply
        [.execContext "q" []] ⟨[⟨.sqlTx, 0, [], .active⟩], [], [some (.driver 1)]⟩)).2.log = [] :=
  sql_round_trip "sql" (show SameBackend (.db 0) (client 0) from rfl) .background _
    ⟨[], [], [none, some (.driver 1)]⟩ _ rfl noReply _

end Sql

namespace Redis

/-- A successful `TxPipeline`: the next handle, an empty open MULTI/EXEC pipeline on the client
the provider designates. -/
theorem Client.txPipeline_ok {p : Client} {ctx : Context} {w w' : World} {tx : Nat}
    (h : (p.txPipeline ctx).run noReply w = (.ok tx, w')) :
    tx = w.handles.length ∧
      ∃ conn, w' = { w with handles := w.handles ++ [⟨.txPipeline, conn, [], .active⟩] } := by
  cases p with
  | single c =>
    cases hv : Contextx.validate ctx <;>
      simp [Client.txPipeline, SingleClient.txPipeline, hv, Call.run, World.pipeline] at h
    obtain ⟨rfl, rfl⟩ := h
    exact ⟨rfl, c.conn, rfl⟩
  | shard c =>
    cases hv : Contextx.validate ctx <;> cases hg : c.clients.get ctx <;>
      simp [Client.txPipeline, ShardClient.txPipeline, ShardClient.onShard, hv, hg, Call.run,
        World.pipeline] at h
    obtain ⟨rfl, rfl⟩ := h
    exact ⟨rfl, _, rfl⟩

/-- `redis.NewTransactor(redis.NewFromClient(c)).BeginCtx`, then `Set` through the same client
under the returned context, then `RollbackCtx`: the write reached the server as soon as it was
issued, and it is still there after the rollback. -/
theorem redis_rollback_keeps_write :
    (Transactor.redis (.single ⟨0⟩)).beginCtx .background ⟨[], [], []⟩ =
        (.ok (setTx .background 0), ⟨[⟨.txPipeline, 0, [], .active⟩], [], []⟩) ∧
      (((Client.single ⟨0⟩).call acceptAll (setTx .background 0) (.set "k" (.str "v") [])).run
          noReply ⟨[⟨.txPipeline, 0, [], .active⟩], [], []⟩).2.log =
        [(0, ⟨"Set", [.str "k", .str "v", .int 0], .result⟩)] ∧
      (rollbackCtx (setTx .background 0)
          (((Client.single ⟨0⟩).call acceptAll (setTx .background 0)
            (.set "k" (.str "v") [])).run noReply ⟨[⟨.txPipeline, 0, [], .active⟩], [], []⟩).2).2.log =
        [(0, ⟨"Set", [.str "k", .str "v", .int 0], .result⟩)] :=
  ⟨rfl, rfl, rfl⟩

end Redis

end Storage
