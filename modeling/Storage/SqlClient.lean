import Storage.Ambient
import Storage.Shard

/-!
# The SQL clients

`clientSingle` (`sql.Client(conn)`) and `clientShard` (`sql.ClientShard(connections)`), the
versions with a deferred `errorx.Wrap` in every method.  Each statement method of the shard
client first resolves a shard; both then run the statement on the ambient transaction when the
context carries one, and on the pool otherwise.  Logging (`printLog`) has no effect on the
backend and is left out.

`errType`, the label every method wraps its error with, is used by src/ but not defined there,
so it is a parameter.

`EachShard` and `EachShardAsync` hand the caller's function a `clientSingle` over each shard's
pool, one after the other or through an errgroup fan-out.
-/

namespace Storage
namespace Sql

/-- Where a statement runs: the ambient transaction if the context carries one, else the
pool `conn`. -/
def route (ctx : Context) (conn : Nat) : Target :=
  match getTx ctx with
  | some tx => .handle tx
  | none => .conn conn

/-- The deferred `errorx.Wrap(errType, &err, method)`. -/
def wrapErr (errType method : String) (r : Value × Option Err) : Value × Option Err :=
  (r.1, r.2.map (.wrap errType method))

/-- A statement method of the `DB` interface, with its arguments (the context apart). -/
inductive Op where
  | execContext (query : String) (args : List Value)
  | queryContext (query : String) (args : List Value)
  | queryxContext (query : String) (args : List Value)
  | queryRowxContext (query : String) (args : List Value)
  | prepareContext (query : String)
  | namedExecContext (query : String) (arg : Value)
  | selectContext (dest : Value) (query : String) (args : List Value)
  | getContext (dest : Value) (query : String) (args : List Value)
  | prepareNamedContext (query : String)

namespace Op

/-- The Go method's name, which is also the sqlx method it calls and its `Wrap` label. -/
def name : Op → String
  | .execContext .. => "ExecContext"
  | .queryContext .. => "QueryContext"
  | .queryxContext .. => "QueryxContext"
  | .queryRowxContext .. => "QueryRowxContext"
  | .prepareContext .. => "PrepareContext"
  | .namedExecContext .. => "NamedExecContext"
  | .selectContext .. => "SelectContext"
  | .getContext .. => "GetContext"
  | .prepareNamedContext .. => "PrepareNamedContext"

/-- The arguments the sqlx method receives after the context. -/
def args : Op → List Value
  | .execContext q as | .queryContext q as | .queryxContext q as
  | .queryRowxContext q as => .str q :: as
  | .prepareContext q | .prepareNamedContext q => [.str q]
  | .namedExecContext q a => [.str q, a]
  | .selectContext d q as | .getContext d q as => d :: .str q :: as

/-- The sqlx call the method makes. -/
def cmd (op : Op) : Cmd := ⟨op.name, op.args, .result⟩

end Op

/-- `clientSingle`, over the pool `conn`. -/
structure ClientSingle where
  conn : Nat
  deriving DecidableEq, Repr

/-- `clientShard`, over a shard set. -/
structure ClientShard where
  connections : Connections

/-- What a statement method returns for the driver's reply, uniformly as `(T, error)`:
`QueryRowxContext` returns its row and no error (and wraps nothing), `SelectContext` and
`GetContext` only their error. -/
def finish (errType : String) : Op → Reply → Value × Option Err
  | .queryRowxContext .., r => (r.1, none)
  | op@(.selectContext ..), r | op@(.getContext ..), r => (.nil, r.2.map (.wrap errType op.name))
  | op, r => wrapErr errType op.name r

/-- What a `clientShard` statement method returns when no shard is selected: the wrapped
error, except `QueryRowxContext`, which returns a nil row. -/
def notSelected (errType : String) : Op → Err → Value × Option Err
  | .queryRowxContext .., _ => (.nil, none)
  | op, e => (.nil, some (.wrap errType op.name e))

/-- `clientSingle.ExecContext`, `QueryContext`, ..., `PrepareNamedContext`. -/
def ClientSingle.call (errType : String) (c : ClientSingle) (ctx : Context) (op : Op) :
    Call (Value × Option Err) :=
  .send (route ctx c.conn) op.cmd (finish errType op)

/-- `clientShard.ExecContext`, ...: resolve a shard, then run like `clientSingle` on it. -/
def ClientShard.call (errType : String) (c : ClientShard) (ctx : Context) (op : Op) :
    Call (Value × Option Err) :=
  match c.connections.get ctx with
  | .error e => .ret (notSelected errType op e)
  | .ok raw => .send (route ctx raw.conn) op.cmd (finish errType op)

/-- The `DB` interface: either client. -/
inductive DB where
  | single (c : ClientSingle)
  | shard (c : ClientShard)

namespace DB

/-- A statement method on either client. -/
def call (errType : String) : DB → Context → Op → Call (Value × Option Err)
  | .single c => c.call errType
  | .shard c => c.call errType

/-- `Connection()`: the pool of a single client, nil for a shard client. -/
def connection : DB → Option Nat
  | .single c => some c.conn
  | .shard _ => none

end DB

/-- `sql.Client(conn)`. -/
def client (conn : Nat) : DB := .single ⟨conn⟩

/-- `sql.ClientShard(connections)`. -/
def clientShard (connections : Connections) : DB := .shard ⟨connections⟩

/-- The error `EachShard` and `EachShardAsync` return for a single client. -/
def errNotShard : Err := .named "provided conn is not shard client"

/-- The loop of `EachShard`: `fn(Client(shard.Conn()))` for each shard until one fails. -/
def eachShardLoop (fn : DB → World → Option Err × World) : List ShardConnect → World →
    Option Err × World
  | [], w => (none, w)
  | shard :: rest, w =>
    match fn (client shard.conn) w with
    | (some e, w') => (some e, w')
    | (none, w') => eachShardLoop fn rest w'

/-- `sql.EachShard(conn, fn)`; `fn` is the caller's code, acting on the backend. -/
def eachShard (conn : DB) (fn : DB → World → Option Err × World) (w : World) :
    Option Err × World :=
  match conn with
  | .single _ => (some errNotShard, w)
  | .shard c => eachShardLoop fn c.connections.connections w

/-- The limit `EachShardAsync` sets: `limit[0]` when given and positive. -/
def asyncLimit : List Int → Option ℕ+
  | n :: _ => if h : 0 < n then some ⟨n.toNat, by omega⟩ else none
  | [] => none

/-- `sql.EachShardAsync(conn, fn, limit...)`: one goroutine per shard calls
`fn(Client(shard.Conn()))`, under the limit. -/
def eachShardAsync (conn : DB) (limit : List Int) : Except Err (ErrGroup.Group ShardConnect) :=
  match conn with
  | .single _ => .error errNotShard
  | .shard c => .ok (ErrGroup.start c.connections.connections (asyncLimit limit))

end Sql
end Storage
