import Storage.Backend
import Storage.ErrGroup

/-!
# Shard sets and selectors

A shard set is an ordered list of handles and a selector.  `Get(ctx)` asks the selector for
one handle and fails with `storage.ErrConnNotSelected` when it returns nil; this is the only
place either package resolves a shard.  The selector is any Go function of the context and
the list, so it is any Lean function here; it need not return a member of the list.

`Close` closes every handle through an errgroup fan-out.
-/

namespace Storage

namespace Sql

/-- `ShardConnect`: a connection pool of the shard set and its key. -/
structure ShardConnect where
  key : String
  conn : Nat
  deriving DecidableEq, Repr

/-- `ConnectionSelector`; `none` is a nil `ShardConnect`. -/
abbrev ConnectionSelector := Context → List ShardConnect → Option ShardConnect

/-- `Connections`: the shards and the selector choosing among them. -/
structure Connections where
  connections : List ShardConnect
  selector : ConnectionSelector

namespace Connections

/-- `Connections.Get(ctx)`. -/
def get (c : Connections) (ctx : Context) : Except Err ShardConnect :=
  match c.selector ctx c.connections with
  | none => .error .connNotSelected
  | some conn => .ok conn

/-- `Connections.BeginTxx(ctx, opts)`: a transaction on the selected shard. -/
def beginTxx (c : Connections) (ctx : Context) (w : World) : Except Err Nat × World :=
  match c.get ctx with
  | .error e => (.error e, w)
  | .ok conn => w.beginTxx conn.conn

/-- `Connections.Close()`: one goroutine per shard runs its `Close`. -/
def close (c : Connections) : ErrGroup.Group ShardConnect :=
  ErrGroup.start c.connections none

theorem get_eq_error {c : Connections} {ctx : Context} {e : Err} :
    c.get ctx = .error e ↔ c.selector ctx c.connections = none ∧ e = .connNotSelected := by
  unfold get
  cases c.selector ctx c.connections <;> simp [eq_comm]

theorem get_eq_ok {c : Connections} {ctx : Context} {conn : ShardConnect} :
    c.get ctx = .ok conn ↔ c.selector ctx c.connections = some conn := by
  unfold get
  cases c.selector ctx c.connections <;> simp

end Connections

end Sql

namespace Redis

/-- `shardConnect`: a client of the shard set, its key and its routing conditions. -/
structure ShardConnect where
  key : String
  conditions : List String
  client : Nat
  deriving DecidableEq, Repr

/-- `ClientSelector`; `none` is a nil `ShardClient`. -/
abbrev ClientSelector := Context → List ShardConnect → Option ShardConnect

/-- `Clients`: the shards and the selector choosing among them. -/
structure Clients where
  clients : List ShardConnect
  selector : ClientSelector

namespace Clients

/-- `Clients.Get(ctx)`. -/
def get (c : Clients) (ctx : Context) : Except Err ShardConnect :=
  match c.selector ctx c.clients with
  | none => .error .connNotSelected
  | some conn => .ok conn

/-- `Clients.Close()`: one goroutine per shard runs its `Close`. -/
def close (c : Clients) : ErrGroup.Group ShardConnect :=
  ErrGroup.start c.clients none

theorem get_eq_error {c : Clients} {ctx : Context} {e : Err} :
    c.get ctx = .error e ↔ c.selector ctx c.clients = none ∧ e = .connNotSelected := by
  unfold get
  cases c.selector ctx c.clients <;> simp [eq_comm]

theorem get_eq_ok {c : Clients} {ctx : Context} {conn : ShardConnect} :
    c.get ctx = .ok conn ↔ c.selector ctx c.clients = some conn := by
  unfold get
  cases c.selector ctx c.clients <;> simp

end Clients

end Redis

end Storage
