import Storage.Transactor

/-!
# Where the clients send their commands

A SQL client sends each statement to the ambient transaction whenever the context carries one,
and to the pool it designates otherwise: its own pool, or the shard `Connections.Get(ctx)`
selects.  Once a transaction is in the context, the designated pool decides nothing
(`DB.call_sent`).  A `clientShard` that selects no shard sends nothing and reports
`ErrConnNotSelected`, except `QueryRowxContext`, which returns a nil row and no error.

The Redis clients never read the ambient pipeline: every command goes to a client connection
(`Client.call_never_uses_pipeline`).  A `shardClient` that selects no shard sends nothing, and its
result carries `ErrConnNotSelected` unless the method returned before selecting.

`EachShardAsync` runs the caller's function on each shard's client as an errgroup fan-out under
its limit (`eachShardAsync_within_limit`).
-/

namespace Storage

namespace Sql

/-- The pool a client designates for `ctx`: its own, or the one `Connections.Get(ctx)` selects;
none when no shard is selected. -/
def DB.designated : DB → Context → Option Nat
  | .single c, _ => some c.conn
  | .shard c, ctx =>
    match c.connections.get ctx with
    | .ok raw => some raw.conn
    | .error _ => none

/-- Every statement method sends its one statement to the ambient transaction when the context
carries one, whatever pool the client designates, and to the designated pool otherwise; with
no designated pool it sends nothing. -/
theorem DB.call_sent (errType : String) (db : DB) (ctx : Context) (op : Op) :
    (db.call errType ctx op).sent =
      (db.designated ctx).map fun conn => (route ctx conn, op.cmd) := by
  cases db with
  | single c => rfl
  | shard c =>
    simp only [DB.call, ClientShard.call, DB.designated]
    cases c.connections.get ctx <;> rfl

theorem route_of_getTx {ctx : Context} {tx : Nat} (h : getTx ctx = some tx) (conn : Nat) :
    route ctx conn = .handle tx := by
  simp [route, h]

/-- Two shards, pools 0 and 1, chosen by the context's `"shard"` value. -/
def routedShards : Connections :=
  ⟨[⟨"a", 0⟩, ⟨"b", 1⟩], fun ctx l => if ctx.value "shard" = .str "b" then l.getLast? else l.head?⟩

/-- A transaction begun on shard `a`, after which the routing key moves to `b`: the shard client
designates pool 1 and `EachShard` hands out a client over pool 1, but both send the statement to
the transaction, which runs on pool 0. -/
theorem clientShard_ignores_routing :
    (Transactor.sql (.connections routedShards)).beginCtx .background ⟨[], [], []⟩ =
        (.ok (setTx .background 0), ⟨[⟨.sqlTx, 0, [], .active⟩], [], []⟩) ∧
      (clientShard routedShards).designated
        ((setTx .background 0).withValue "shard" (.str "b")) = some 1 ∧
      ((clientShard routedShards).call "sql" ((setTx .background 0).withValue "shard" (.str "b"))
        (.execContext "q" [])).sent = some (.handle 0, (Op.execContext "q" []).cmd) ∧
      ((client 1).call "sql" (setTx .background 0) (.execContext "q" [])).sent =
        some (.handle 0, (Op.execContext "q" []).cmd) :=
  ⟨rfl, rfl, rfl, rfl⟩

/-! ## `EachShard` and `EachShardAsync` -/

/-- `EachShardAsync(conn, fn, limit...)` over a shard client, with a positive `limit[0]`: in
every interleaving of its goroutines, no more than `limit[0]` shards hold a slot at once. -/
theorem eachShardAsync_within_limit {conn : DB} {limit : List Int}
    {g : ErrGroup.Group ShardConnect} (hg : eachShardAsync conn limit = .ok g)
    {g' : ErrGroup.Group ShardConnect} (hr : Relation.ReflTransGen ErrGroup.Step g g') {n : Int}
    (hn : limit.head? = some n) (hpos : 0 < n) : g'.live.length ≤ n.toNat := by
  cases conn with
  | single c => cases hg
  | shard c =>
    cases hg
    obtain ⟨rest, rfl⟩ : ∃ rest, limit = n :: rest := by
      cases limit with
      | nil => cases hn
      | cons m rest => cases hn; exact ⟨rest, rfl⟩
    have hinv := ErrGroup.Reach.inv hr
    exact hinv.bound ⟨n.toNat, by omega⟩ (hinv.limit_eq.trans (by simp [asyncLimit, hpos]))

/-! ## No shard selected -/

theorem Connections.beginTxx_unselected {c : Connections} {ctx : Context}
    (hsel : c.selector ctx c.connections = none) (w : World) :
    c.beginTxx ctx w = (.error .connNotSelected, w) := by
  simp [Connections.beginTxx, Connections.get, hsel]

theorem ClientShard.call_of_unselected (errType : String) {c : ClientShard} {ctx : Context}
    (hsel : c.connections.selector ctx c.connections.connections = none) (op : Op) :
    c.call errType ctx op = .ret (notSelected errType op .connNotSelected) := by
  simp [ClientShard.call, Connections.get, hsel]

/-- `QueryRowxContext` on a context for which no shard is selected sends nothing and returns a
nil row with no error. -/
theorem queryRowx_drops_selection_error (errType : String) (c : ClientShard) (ctx : Context)
    (query : String) (args : List Value)
    (hsel : c.connections.selector ctx c.connections.connections = none) :
    c.call errType ctx (.queryRowxContext query args) = .ret (.nil, none) :=
  c.call_of_unselected errType hsel _

theorem queryRowx_drops_selection_error_empty :
    (⟨⟨[], fun _ _ => none⟩⟩ : ClientShard).call "sql" .background (.queryRowxContext "q" []) =
      .ret (.nil, none) :=
  queryRowx_drops_selection_error "sql" ⟨⟨[], fun _ _ => none⟩⟩ .background "q" [] rfl

end Sql

/-! ## Redis: commands go to client connections -/

namespace Call

/-- Every command the call sends goes to a client connection, none to a pipeline handle. -/
def ConnOnly (c : Call α) : Prop :=
  ∀ t cmd, c.sent = some (t, cmd) → ∃ conn, t = .conn conn

@[simp] theorem connOnly_ret (a : α) : (Call.ret a).ConnOnly := by
  simp [ConnOnly, sent]

@[simp] theorem connOnly_pipeline (conn : Nat) (kind : HandleKind) (k : Nat → α) :
    (Call.pipeline conn kind k).ConnOnly := by
  simp [ConnOnly, sent]

@[simp] theorem connOnly_send_conn (conn : Nat) (cmd : Cmd) (k : Reply → α) :
    (Call.send (.conn conn) cmd k).ConnOnly := by
  simp [ConnOnly, sent]

@[simp] theorem connOnly_map (f : α → β) (c : Call α) : (c.map f).ConnOnly ↔ c.ConnOnly := by
  simp [ConnOnly]

@[simp] theorem connOnly_ite (p : Prop) [Decidable p] (x y : Call α) :
    (if p then x else y).ConnOnly ↔ if p then x.ConnOnly else y.ConnOnly := by
  split <;> rfl

@[simp] theorem connOnly_guard (check : Option Err) (onErr : Err → α) (rest : Call α) :
    (guard check onErr rest).ConnOnly ↔ (check = none → rest.ConnOnly) := by
  cases check <;> simp

end Call

namespace Redis

@[simp] theorem ShardClient.connOnly_onShard (c : ShardClient) (ctx : Context) (onErr : Err → α)
    (k : ShardConnect → Call α) :
    (c.onShard ctx onErr k).ConnOnly ↔ ∀ raw, c.clients.get ctx = .ok raw → (k raw).ConnOnly := by
  unfold ShardClient.onShard
  split <;> simp_all

/- Each method body is a guard, a shard resolution and at most one command; from here on
`simp` unfolds them. -/
attribute [simp] SingleClient.client SingleClient.pipeline SingleClient.txPipeline SingleClient.keys
  SingleClient.delete SingleClient.dump SingleClient.rename SingleClient.refresh
  SingleClient.refreshAt SingleClient.ttl SingleClient.set SingleClient.setNX SingleClient.get
  SingleClient.mGet SingleClient.exist SingleClient.getBytes SingleClient.getInt SingleClient.parse
  SingleClient.hSet SingleClient.hGetAll SingleClient.hGet SingleClient.hGetInt
  SingleClient.hGetBool SingleClient.hExist SingleClient.hScan SingleClient.hIncrBy
  SingleClient.hIncrByFloat SingleClient.hDelete SingleClient.hKeys SingleClient.hLen
  SingleClient.hMGet SingleClient.hMSet SingleClient.hSetNX SingleClient.scan
  SingleClient.hScanNoValues SingleClient.hVals SingleClient.hRandField
  SingleClient.hRandFieldWithValues SingleClient.hExpire SingleClient.hTTL SingleClient.evalBy
  SingleClient.eval SingleClient.evalSha SingleClient.evalRO SingleClient.evalShaRO
  SingleClient.scriptExists SingleClient.scriptFlush SingleClient.scriptKill SingleClient.scriptLoad
  SingleClient.send
attribute [simp] ShardClient.client ShardClient.pipeline ShardClient.txPipeline ShardClient.keys
  ShardClient.delete ShardClient.dump ShardClient.rename ShardClient.refresh ShardClient.refreshAt
  ShardClient.ttl ShardClient.set ShardClient.setNX ShardClient.get ShardClient.mGet
  ShardClient.exist ShardClient.getBytes ShardClient.getInt ShardClient.parse ShardClient.hSet
  ShardClient.hGetAll ShardClient.hGet ShardClient.hGetInt ShardClient.hGetBool ShardClient.hExist
  ShardClient.hScan ShardClient.hIncrBy ShardClient.hIncrByFloat ShardClient.hDelete
  ShardClient.hKeys ShardClient.hLen ShardClient.hMGet ShardClient.hMSet ShardClient.hSetNX
  ShardClient.scan ShardClient.hScanNoValues ShardClient.hVals ShardClient.hRandField
  ShardClient.hRandFieldWithValues ShardClient.hExpire ShardClient.hTTL ShardClient.evalBy
  ShardClient.eval ShardClient.evalSha ShardClient.evalRO ShardClient.evalShaRO
  ShardClient.scriptExists ShardClient.scriptFlush ShardClient.scriptKill ShardClient.scriptLoad
  ShardClient.send

theorem SingleClient.call_connOnly (h : Helpers) (c : SingleClient) (ctx : Context) (m : Method) :
    (c.call h ctx m).ConnOnly := by
  cases m <;> simp [SingleClient.call]

theorem ShardClient.call_connOnly (h : Helpers) (c : ShardClient) (ctx : Context) (m : Method) :
    (c.call h ctx m).ConnOnly := by
  cases m <;> simp [ShardClient.call]

/-- No method of either Redis client reads the ambient pipeline: on every context, one that
carries the pipeline `BeginCtx` opened included, every command it sends goes to a client
connection, where it runs at once, out of reach of the pipeline's `Exec` and `Discard`. -/
theorem Client.call_never_uses_pipeline (h : Helpers) (cl : Client) (ctx : Context)
    (m : Method) : (cl.call h ctx m).ConnOnly := by
  cases cl with
  | single c => exact c.call_connOnly h ctx m
  | shard c => exact c.call_connOnly h ctx m

/-! ## Redis: no shard selected -/

/-- A `Helpers` that accepts every key. -/
def acceptAll : Helpers := ⟨fun _ _ => none, fun _ _ => none, fun _ _ => none⟩

/-- A `shardClient` method on a context for which no shard is selected sends nothing: it
reports `ErrConnNotSelected`, or it returned before selecting, on a failed validation or an
empty argument list, and returns the same over every shard set. -/
theorem ShardClient.call_unselected (h : Helpers) {c : ShardClient} {ctx : Context}
    (hsel : c.clients.selector ctx c.clients.clients = none) (m : Method) :
    ∃ r, c.call h ctx m = .ret r ∧
      ((∃ e, r.2 = some e ∧ e.Is .connNotSelected) ∨ ∀ c' : ShardClient, c'.call h ctx m = .ret r) := by
  have hget : c.clients.get ctx = .error .connNotSelected := Clients.get_eq_error.2 ⟨hsel, rfl⟩
  cases m <;> simp only [ShardClient.call, ShardClient.client, ShardClient.pipeline,
    ShardClient.txPipeline, ShardClient.keys, ShardClient.delete, ShardClient.dump,
    ShardClient.rename, ShardClient.refresh, ShardClient.refreshAt, ShardClient.ttl,
    ShardClient.set, ShardClient.setNX, ShardClient.get, ShardClient.mGet, ShardClient.exist,
    ShardClient.getBytes, ShardClient.getInt, ShardClient.parse, ShardClient.hSet,
    ShardClient.hGetAll, ShardClient.hGet, ShardClient.hGetInt, ShardClient.hGetBool,
    ShardClient.hExist, ShardClient.hScan, ShardClient.hIncrBy, ShardClient.hIncrByFloat,
    ShardClient.hDelete, ShardClient.hKeys, ShardClient.hLen, ShardClient.hMGet,
    ShardClient.hMSet, ShardClient.hSetNX, ShardClient.scan, ShardClient.hScanNoValues,
    ShardClient.hVals, ShardClient.hRandField, ShardClient.hRandFieldWithValues,
    ShardClient.hExpire, ShardClient.hTTL, ShardClient.evalBy, ShardClient.eval,
    ShardClient.evalSha, ShardClient.evalRO, ShardClient.evalShaRO, ShardClient.scriptExists,
    ShardClient.scriptFlush, ShardClient.scriptKill, ShardClient.scriptLoad, ShardClient.send,
    ShardClient.onShard, hget, Call.guard]
  all_goals repeat' split
  all_goals first
    | exact ⟨_, rfl, .inr fun _ => rfl⟩
    | exact ⟨_, rfl, .inl ⟨_, rfl, Err.is_self _⟩⟩

theorem ShardClient.call_unselected_set :
    ∃ r, (⟨⟨[], fun _ _ => none⟩⟩ : ShardClient).call acceptAll .background
        (.set "k" (.str "v") []) = .ret r ∧
      ((∃ e, r.2 = some e ∧ e.Is .connNotSelected) ∨
        ∀ c' : ShardClient, c'.call acceptAll .background (.set "k" (.str "v") []) = .ret r) :=
  ShardClient.call_unselected acceptAll rfl _

end Redis

end Storage
