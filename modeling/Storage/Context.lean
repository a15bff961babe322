import Mathlib.Data.List.Basic

/-!
# Errors, dynamic values and execution contexts

The repository threads every open transaction through Go's `context.Context`: a
context is an immutable chain of key/value pairs, `context.WithValue` adds a link,
and `ctx.Value(key)` walks the chain from the newest link to the oldest.  This
module fixes that data model, together with the errors the repository and its
drivers produce, so that every later module speaks about the same values.

Keys are the plain strings the source uses (`"storage_sql_tx"`, `"storage_redis_tx"`,
`"STORAGE_NO_LOG"`), compared by value as Go compares `string` keys.
-/

namespace Storage

/-- Errors, as the repository builds them with `errors.New` and the `errorx` package, and as
its drivers report them: `storage.ErrConnNotSelected`, `errorx.ErrNotFound`, `redis.Nil`,
`sql.ErrTxDone`, `context.Canceled`, any other driver failure, an error or a recovered panic of
caller-supplied code, `errors.New(name)`, and the `errorx` builders `SetError`, `AddParam` (or
`AddContext`) and `Wrap` (applied to a non-nil error). -/
inductive Err where
  | connNotSelected
  | notFound
  | redisNil
  | txDone
  | canceled
  | driver (code : Nat)
  | user (code : Nat)
  | panicked (code : Nat)
  | named (name : String)
  | setError (base cause : Err)
  | param (base : Err) (key value : String)
  | wrap (typ method : String) (cause : Err)
  deriving DecidableEq, Repr

/-- `errors.Is(e, target)`: `e` is `target`, or one of the errors it wraps is. -/
def Err.Is : Err → Err → Bool
  | .setError base cause, target =>
      decide (Err.setError base cause = target) || base.Is target || cause.Is target
  | .param base k v, target => decide (Err.param base k v = target) || base.Is target
  | .wrap typ m cause, target => decide (Err.wrap typ m cause = target) || cause.Is target
  | e, target => decide (e = target)

@[simp] theorem Err.is_self (e : Err) : e.Is e = true := by
  cases e <;> simp [Err.Is]

@[simp] theorem Err.is_wrap (typ m : String) (cause target : Err) (h : cause.Is target) :
    (Err.wrap typ m cause).Is target = true := by
  simp [Err.Is, h]

/-- A dynamic Go value (`any`): what a context stores and what a driver returns.  A `*sqlx.Tx`
and a `redis.Pipeliner` are named by their handle in the backend, a `redis.UniversalClient` or
`*sqlx.DB` by its connection. -/
inductive Value where
  | nil
  | bool (b : Bool)
  | int (i : Int)
  | str (s : String)
  | strs (ss : List String)
  | pair (a b : Value)
  | sqlTx (h : Nat)
  | pipeliner (h : Nat)
  | client (c : Nat)
  | other (n : Nat)
  deriving DecidableEq, Repr

/-- A non-nil `context.Context`: `context.Background()`, `context.WithValue(parent, key, val)`,
or a context whose `Done` channel is closed (cancelled, or past its deadline).  A nil context
is `none : Option Context`. -/
inductive Context where
  | background
  | withValue (parent : Context) (key : String) (val : Value)
  | canceled (parent : Context)
  deriving DecidableEq, Repr

namespace Context

/-- `ctx.Value(key)`: the value of the newest link with this key, `nil` if none. -/
def value : Context → String → Value
  | .background, _ => .nil
  | .withValue parent k v, key => if k = key then v else parent.value key
  | .canceled parent, key => parent.value key

/-- `ctx.Err()`. -/
def err : Context → Option Err
  | .background => none
  | .withValue parent _ _ => parent.err
  | .canceled _ => some .canceled

@[simp] theorem value_background (key : String) : background.value key = .nil := rfl

@[simp] theorem value_withValue_self (ctx : Context) (key : String) (v : Value) :
    (ctx.withValue key v).value key = v := by
  simp [value]

theorem value_withValue_of_ne (ctx : Context) {k key : String} (v : Value) (h : k ≠ key) :
    (ctx.withValue k v).value key = ctx.value key := by
  simp [value, h]

@[simp] theorem value_canceled (ctx : Context) (key : String) :
    ctx.canceled.value key = ctx.value key := rfl

@[simp] theorem err_withValue (ctx : Context) (k : String) (v : Value) :
    (ctx.withValue k v).err = ctx.err := rfl

/-- `ctx'` is `ctx` extended by `context.WithValue` links whose keys are not in `ks`. -/
inductive DerivedAvoiding (ks : List String) (ctx : Context) : Context → Prop
  | refl : DerivedAvoiding ks ctx ctx
  | withValue {ctx' : Context} (k : String) (v : Value) :
      DerivedAvoiding ks ctx ctx' → k ∉ ks → DerivedAvoiding ks ctx (ctx'.withValue k v)

/-- Links under other keys do not change what a key in `ks` finds. -/
theorem DerivedAvoiding.value_eq {ks : List String} {ctx ctx' : Context}
    (h : DerivedAvoiding ks ctx ctx') {key : String} (hkey : key ∈ ks) :
    ctx'.value key = ctx.value key := by
  induction h with
  | refl => rfl
  | withValue k v _ hk ih =>
    rw [value_withValue_of_ne _ _ (by rintro rfl; exact hk hkey), ih]

end Context

namespace Contextx

/-- `contextx.Validate(ctx)` (external package): the context's own error, `nil` while it
is live. -/
def validate (ctx : Context) : Option Err := ctx.err

end Contextx

/-- `noLogKey`. -/
def noLogKey : String := "STORAGE_NO_LOG"

/-- `storage.NoLog(ctx)`: turns query logging off below `ctx`. -/
def noLog (ctx : Context) : Context := ctx.withValue noLogKey (.bool true)

end Storage
