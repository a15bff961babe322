import Storage.Context

/-!
# The ambient transaction store

Both resource packages keep their open transaction in the context under a string key of
their own: `sql.SetTx` stores a `*sqlx.Tx` under `"storage_sql_tx"`, `redis.SetTx` a
`redis.Pipeliner` under `"storage_redis_tx"`, and `GetTx` reads the key back and asserts the
value's type.  The two packages differ only in the key and in the asserted type, so both are
one definition over `TxKind`.

`storage.RewriteTx` copies whatever a context holds under a key into another context.
-/

namespace Storage

/-- The resource kinds that keep an ambient transaction in a context. -/
inductive TxKind where
  | sql
  | redis
  deriving DecidableEq, Repr

namespace TxKind

/-- The package's `transactionKey`. -/
def transactionKey : TxKind → String
  | .sql => "storage_sql_tx"
  | .redis => "storage_redis_tx"

/-- The context value holding the handle `h`: a `*sqlx.Tx` or a `redis.Pipeliner`. -/
def box : TxKind → Nat → Value
  | .sql, h => .sqlTx h
  | .redis, h => .pipeliner h

/-- The type assertion in `GetTx`: `transaction.(*sqlx.Tx)`, `transaction.(redis.Pipeliner)`. -/
def unbox : TxKind → Value → Option Nat
  | .sql, .sqlTx h => some h
  | .redis, .pipeliner h => some h
  | _, _ => none

/-- `SetTx(ctx, tx)`. -/
def setTx (k : TxKind) (ctx : Context) (tx : Nat) : Context :=
  ctx.withValue k.transactionKey (k.box tx)

/-- `GetTx(ctx)`; `none` is `(nil, false)`. -/
def getTx (k : TxKind) (ctx : Context) : Option Nat :=
  k.unbox (ctx.value k.transactionKey)

theorem transactionKey_injective : Function.Injective transactionKey := by
  intro a b h
  cases a <;> cases b <;> simp_all [transactionKey]

@[simp] theorem unbox_box (k : TxKind) (h : Nat) : k.unbox (k.box h) = some h := by
  cases k <;> rfl

@[simp] theorem unbox_nil (k : TxKind) : k.unbox .nil = none := by
  cases k <;> rfl

@[simp] theorem getTx_setTx (k : TxKind) (ctx : Context) (tx : Nat) :
    k.getTx (k.setTx ctx tx) = some tx := by
  simp [getTx, setTx]

theorem getTx_withValue_of_ne (k : TxKind) (ctx : Context) {key : String} (v : Value)
    (h : key ≠ k.transactionKey) : k.getTx (ctx.withValue key v) = k.getTx ctx := by
  simp [getTx, Context.value_withValue_of_ne _ _ h]

/-- Storing one kind's transaction leaves the other kind's lookup unchanged. -/
@[simp] theorem getTx_setTx_of_ne {k k' : TxKind} (ctx : Context) (tx : Nat) (h : k' ≠ k) :
    k.getTx (k'.setTx ctx tx) = k.getTx ctx :=
  getTx_withValue_of_ne k ctx _ (fun he => h (transactionKey_injective he))

/-- The keys `GetTx` reads. -/
def txKeys : List String := [sql.transactionKey, redis.transactionKey]

theorem transactionKey_mem_txKeys (k : TxKind) : k.transactionKey ∈ txKeys := by
  cases k <;> simp [txKeys]

/-- Links under keys other than the transaction keys do not change what `GetTx` finds. -/
theorem getTx_of_derivedAvoiding (k : TxKind) {ctx ctx' : Context}
    (h : ctx.DerivedAvoiding txKeys ctx') : k.getTx ctx' = k.getTx ctx := by
  rw [getTx, h.value_eq (transactionKey_mem_txKeys k), getTx]

end TxKind

/-- `SetTx` of each `(kind, transaction)` in turn. -/
def setTxAll (ctx : Context) : List (TxKind × Nat) → Context
  | [] => ctx
  | (k, tx) :: rest => setTxAll (k.setTx ctx tx) rest

theorem setTxAll_append (ctx : Context) (l₁ l₂ : List (TxKind × Nat)) :
    setTxAll ctx (l₁ ++ l₂) = setTxAll (setTxAll ctx l₁) l₂ := by
  induction l₁ generalizing ctx with
  | nil => rfl
  | cons p l₁ ih => exact ih _

/-- A kind that is not stored again keeps its lookup. -/
theorem getTx_setTxAll_of_not_mem {k : TxKind} (ctx : Context) {l : List (TxKind × Nat)}
    (h : k ∉ l.map Prod.fst) : k.getTx (setTxAll ctx l) = k.getTx ctx := by
  induction l generalizing ctx with
  | nil => rfl
  | cons p l ih =>
    simp only [List.map_cons, List.mem_cons, not_or] at h
    rw [setTxAll, ih _ h.2, TxKind.getTx_setTx_of_ne _ _ (Ne.symm h.1)]

/-- When every kind is stored once, each lookup finds the transaction stored for it. -/
theorem getTx_setTxAll_of_mem (ctx : Context) {l : List (TxKind × Nat)}
    (hl : (l.map Prod.fst).Nodup) {p : TxKind × Nat} (hp : p ∈ l) :
    p.1.getTx (setTxAll ctx l) = some p.2 := by
  induction l generalizing ctx with
  | nil => cases hp
  | cons q l ih =>
    rw [List.map_cons, List.nodup_cons] at hl
    rcases List.mem_cons.1 hp with rfl | hp
    · rw [setTxAll, getTx_setTxAll_of_not_mem _ hl.1, TxKind.getTx_setTx]
    · exact ih _ hl.2 hp

/-- Every kind stored finds some transaction. -/
theorem getTx_setTxAll_isSome {k : TxKind} (ctx : Context) {l : List (TxKind × Nat)}
    (h : k ∈ l.map Prod.fst) : (k.getTx (setTxAll ctx l)).isSome := by
  induction l generalizing ctx with
  | nil => cases h
  | cons q l ih =>
    by_cases hk : k ∈ l.map Prod.fst
    · exact ih _ hk
    · obtain rfl : k = q.1 := by simpa [hk] using h
      rw [setTxAll, getTx_setTxAll_of_not_mem _ hk, TxKind.getTx_setTx]
      rfl

namespace Sql

/-- `sql.transactionKey`. -/
def transactionKey : String := TxKind.sql.transactionKey

/-- `sql.SetTx`. -/
def setTx (ctx : Context) (tx : Nat) : Context := TxKind.sql.setTx ctx tx

/-- `sql.GetTx`. -/
def getTx (ctx : Context) : Option Nat := TxKind.sql.getTx ctx

end Sql

namespace Redis

/-- `redis.transactionKey`. -/
def transactionKey : String := TxKind.redis.transactionKey

/-- `redis.SetTx`. -/
def setTx (ctx : Context) (tx : Nat) : Context := TxKind.redis.setTx ctx tx

/-- `redis.GetTx`. -/
def getTx (ctx : Context) : Option Nat := TxKind.redis.getTx ctx

end Redis

/-- `storage.RewriteTx(key, original, toCopy)`: copy what `original` holds under `key`. -/
def rewriteTx (key : String) (original toCopy : Context) : Context :=
  match original.value key with
  | .nil => toCopy
  | tx => toCopy.withValue key tx

/-- What `RewriteTx` leaves under any key: `original`'s value under the copied key when it
has one, `toCopy`'s otherwise. -/
theorem value_rewriteTx (key key' : String) (original toCopy : Context) :
    (rewriteTx key original toCopy).value key' =
      if key = key' ∧ original.value key ≠ .nil then original.value key
      else toCopy.value key' := by
  unfold rewriteTx
  split
  · rename_i h; simp [h]
  · rename_i h
    by_cases hk : key = key'
    · subst hk; simp [if_neg h]
    · simp [Context.value_withValue_of_ne _ _ hk, hk]

end Storage
