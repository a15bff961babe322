import Storage.Shard

/-!
# The Redis clients

The newest `singleClient` and `shardClient` of the `redis` package (the first versions in
`client_single.go` and `client_shard.go`).  Every method validates its input, the shard client
then resolves a shard with `Clients.Get`, and the method sends at most one command to a
client, post-processing the reply.  Neither client reads the ambient pipeline: every command
goes to a client, never to a `redis.Pipeliner`.

`validate` and `validateMultiple` are called by both clients but are not in src/, so they
are parameters (`Helpers`), as is `json.Unmarshal`, which decodes `Parse`'s reply.

Go results are kept as the method returns them: `Option Err` for `error`,
`Value × Option Err` for `(T, error)`, `Value × Value × Option Err` for the scans.  An empty
non-nil slice (`[]any{}`) is `.strs []`, a nil one `.nil`.
-/

namespace Storage
namespace Redis

/-- The helpers the clients call that src/ does not define, `validate(ctx, key)` and
`validateMultiple(ctx, keys)`, and `json.Unmarshal(result, &export)`. -/
structure Helpers where
  validate : Context → String → Option Err
  validateMultiple : Context → List String → Option Err
  unmarshal : Value → Value → Option Err

/-- `ErrKeyNotFound.AddParam("key", key)`. -/
def errKeyNotFound (key : String) : Err :=
  .param (.setError (.named "redis.key_not_found") .notFound) "key" key

/-- `ErrInvalidKey.SetError(err).AddParam("key_type", keyType)`. -/
def errInvalidKey (err : Err) (keyType : String) : Err :=
  .param (.setError (.named "redis.invalid_key") err) "key_type" keyType

/-- A `(T, error)` result whose error is `e`. -/
def fail (zero : Value) (e : Err) : Value × Option Err := (zero, some e)

/-- The reply of a read that turns `redis.Nil` into `ErrKeyNotFound`, returning `onNil` with
it, and passes any other error on with `onErr`'s value. -/
def notFound (key : String) (onNil onErr : Value → Value) (r : Reply) : Value × Option Err :=
  match r.2 with
  | some e => if e.Is .redisNil then (onNil r.1, some (errKeyNotFound key)) else (onErr r.1, some e)
  | none => (r.1, none)

/-- The error of a read that turns `redis.Nil` into `ErrKeyNotFound`, whatever it returns
beside it. -/
@[simp] theorem notFound_snd (key : String) (onNil onErr : Value → Value) (r : Reply) :
    (notFound key onNil onErr r).2 =
      r.2.map fun e => if e.Is .redisNil then errKeyNotFound key else e := by
  rcases r with ⟨v, _ | e⟩
  · rfl
  · by_cases he : e.Is .redisNil <;> simp [notFound, he]

/-- `TTL`'s post-processing: `-2` (no such key) becomes `errorx.ErrNotFound`. -/
def ttlReply (r : Reply) : Value × Option Err :=
  match r.2 with
  | some e => (r.1, some e)
  | none => if r.1 = .int (-2) then (r.1, some .notFound) else (r.1, none)

/-- `Set`'s expiration: `ttl[0]` when given and positive, else `0`. -/
def expireAt (ttl : List Int) : Int :=
  match ttl with
  | t :: _ => if 0 < t then t else 0
  | [] => 0

/-- `json.Unmarshal` of `Parse`'s reply, after the same miss handling as `Get`. -/
def parseReply (h : Helpers) (key : String) (export_ : Value) (r : Reply) : Option Err :=
  match r.2 with
  | some e => if e.Is .redisNil then some (errKeyNotFound key) else some e
  | none => h.unmarshal r.1 export_

/-- A `(T, error)` call's error only: `.Err()`. -/
def errOf (r : Reply) : Option Err := r.2

/-- A scan's reply `(keys, cursor, err)`. -/
def scanReply (r : Reply) : Value × Value × Option Err :=
  match r.1 with
  | .pair keys cursor => (keys, cursor, r.2)
  | v => (v, .int 0, r.2)

/-- `Delete`'s filter: `slices.DeleteFunc(keys, key == "")`. -/
def nonEmpty (keys : List String) : List String := keys.filter (· ≠ "")

/-- The newest `singleClient`; `conn` is its `client` field. -/
structure SingleClient where
  conn : Nat
  deriving DecidableEq, Repr

namespace SingleClient

variable (h : Helpers) (c : SingleClient) (ctx : Context)

/-- A command to the client. -/
def send (cmd : Cmd) (k : Reply → α) : Call α := .send (.conn c.conn) cmd k

/-- `singleClient.Client`. -/
def client : Call (Value × Option Err) :=
  .guard (Contextx.validate ctx) (fail .nil) (.ret (.client c.conn, none))

/-- `singleClient.Pipeline`; `.ok p` is the new pipeline, `.error e` a nil one and `e`. -/
def pipeline : Call (Except Err Nat) :=
  .guard (Contextx.validate ctx) .error (.pipeline c.conn .pipeline .ok)

/-- `singleClient.TxPipeline`. -/
def txPipeline : Call (Except Err Nat) :=
  .guard (Contextx.validate ctx) .error (.pipeline c.conn .txPipeline .ok)

/-- `singleClient.Keys`. -/
def keys (pattern : String) : Call (Value × Option Err) :=
  .guard (Contextx.validate ctx) (fail .nil) (c.send ⟨"Keys", [.str pattern], .result⟩ id)

/-- `singleClient.Delete`. -/
def delete (keys : List String) : Call (Option Err) :=
  .guard (Contextx.validate ctx) some <|
    if keys = [] then .ret none
    else if nonEmpty keys = [] then .ret none
    else c.send ⟨"Del", [.strs (nonEmpty keys)], .result⟩ errOf

/-- `singleClient.Dump`. -/
def dump (key : String) : Call (Value × Option Err) :=
  .guard (h.validate ctx key) (fail (.str "")) (c.send ⟨"Dump", [.str key], .result⟩ id)

/-- `singleClient.Rename`. -/
def rename (oldKey newKey : String) : Call (Option Err) :=
  .guard (h.validate ctx oldKey) (fun e => some (errInvalidKey e "old")) <|
  .guard (h.validate ctx newKey) (fun e => some (errInvalidKey e "new")) <|
  c.send ⟨"Rename", [.str oldKey, .str newKey], .result⟩ errOf

/-- `singleClient.Refresh`. -/
def refresh (key : String) (ttl : Int) : Call (Option Err) :=
  .guard (h.validate ctx key) some (c.send ⟨"Expire", [.str key, .int ttl], .result⟩ errOf)

/-- `singleClient.RefreshAt`. -/
def refreshAt (key : String) (atTime : Int) : Call (Option Err) :=
  .guard (h.validate ctx key) some (c.send ⟨"ExpireAt", [.str key, .int atTime], .result⟩ errOf)

/-- `singleClient.TTL`. -/
def ttl (key : String) : Call (Value × Option Err) :=
  .guard (h.validate ctx key) (fail (.int 0)) (c.send ⟨"TTL", [.str key], .result⟩ ttlReply)

/-- `singleClient.Set`. -/
def set (key : String) (value : Value) (ttl : List Int) : Call (Option Err) :=
  .guard (h.validate ctx key) some
    (c.send ⟨"Set", [.str key, value, .int (expireAt ttl)], .result⟩ errOf)

/-- `singleClient.SetNX`. -/
def setNX (key : String) (value : Value) (ttl : Int) : Call (Value × Option Err) :=
  .guard (h.validate ctx key) (fail (.bool false))
    (c.send ⟨"SetNX", [.str key, value, .int ttl], .result⟩ id)

/-- `singleClient.Get`. -/
def get (key : String) : Call (Value × Option Err) :=
  .guard (h.validate ctx key) (fail (.str ""))
    (c.send ⟨"Get", [.str key], .result⟩ (notFound key id id))

/-- `singleClient.MGet`. -/
def mGet (keys : List String) : Call (Value × Option Err) :=
  .guard (Contextx.validate ctx) (fail .nil) (c.send ⟨"MGet", [.strs keys], .result⟩ id)

/-- `singleClient.Exist`. -/
def exist (key : String) : Call (Value × Option Err) :=
  .guard (h.validate ctx key) (fail (.int 0)) (c.send ⟨"Exists", [.str key], .result⟩ id)

/-- `singleClient.GetBytes`. -/
def getBytes (key : String) : Call (Value × Option Err) :=
  .guard (h.validate ctx key) (fail .nil)
    (c.send ⟨"Get", [.str key], .bytes⟩ (notFound key id id))

/-- `singleClient.GetInt`. -/
def getInt (key : String) : Call (Value × Option Err) :=
  .guard (h.validate ctx key) (fail (.int 0))
    (c.send ⟨"Get", [.str key], .int⟩ (notFound key id id))

/-- `singleClient.Parse`. -/
def parse (key : String) (export_ : Value) : Call (Option Err) :=
  .guard (h.validate ctx key) some (c.send ⟨"Get", [.str key], .bytes⟩ (parseReply h key export_))

/-- `singleClient.HSet`. -/
def hSet (key : String) (value : Value) : Call (Option Err) :=
  .guard (h.validate ctx key) some (c.send ⟨"HSet", [.str key, value], .result⟩ errOf)

/-- `singleClient.HGetAll`. -/
def hGetAll (key : String) : Call (Value × Option Err) :=
  .guard (h.validate ctx key) (fail .nil) (c.send ⟨"HGetAll", [.str key], .result⟩ id)

/-- `singleClient.HGet`. -/
def hGet (key field : String) : Call (Value × Option Err) :=
  .guard (h.validate ctx key) (fail (.str ""))
    (c.send ⟨"HGet", [.str key, .str field], .result⟩ id)

/-- `singleClient.HGetInt`. -/
def hGetInt (key field : String) : Call (Value × Option Err) :=
  .guard (h.validate ctx key) (fail (.int 0)) (c.send ⟨"HGet", [.str key, .str field], .int⟩ id)

/-- `singleClient.HGetBool`. -/
def hGetBool (key field : String) : Call (Value × Option Err) :=
  .guard (h.validate ctx key) (fail (.bool false))
    (c.send ⟨"HGet", [.str key, .str field], .bool⟩ id)

/-- `singleClient.HExist`. -/
def hExist (key field : String) : Call (Value × Option Err) :=
  .guard (h.validate ctx key) (fail (.bool false))
    (c.send ⟨"HExists", [.str key, .str field], .result⟩ id)

/-- `singleClient.HScan`. -/
def hScan (key : String) (cursor : Nat) (pattern : String) (count : Int) :
    Call (Value × Value × Option Err) :=
  .guard (h.validate ctx key) (fun e => (.nil, .int 0, some e))
    (c.send ⟨"HScan", [.str key, .int cursor, .str pattern, .int count], .result⟩ scanReply)

/-- `singleClient.HIncrBy`. -/
def hIncrBy (key field : String) (incr : Int) : Call (Value × Option Err) :=
  .guard (h.validate ctx key) (fail (.int 0))
    (c.send ⟨"HIncrBy", [.str key, .str field, .int incr], .result⟩ id)

/-- `singleClient.HIncrByFloat`; the `float64` increment is an opaque value. -/
def hIncrByFloat (key field : String) (incr : Value) : Call (Value × Option Err) :=
  .guard (h.validate ctx key) (fail (.int 0))
    (c.send ⟨"HIncrByFloat", [.str key, .str field, incr], .result⟩ id)

/-- `singleClient.HDelete`. -/
def hDelete (key : String) (fields : List String) : Call (Option Err) :=
  .guard (h.validate ctx key) some (c.send ⟨"HDel", [.str key, .strs fields], .result⟩ errOf)

/-- `singleClient.HKeys`. -/
def hKeys (key : String) : Call (Value × Option Err) :=
  .guard (h.validate ctx key) (fail .nil) (c.send ⟨"HKeys", [.str key], .result⟩ id)

/-- `singleClient.HLen`. -/
def hLen (key : String) : Call (Value × Option Err) :=
  .guard (h.validate ctx key) (fail (.int 0)) (c.send ⟨"HLen", [.str key], .result⟩ id)

/-- `singleClient.HMGet`. -/
def hMGet (key : String) (fields : List String) : Call (Value × Option Err) :=
  if fields = [] then .ret (.strs [], none)
  else .guard (h.validate ctx key) (fail (.strs []))
    (c.send ⟨"HMGet", [.str key, .strs fields], .result⟩ id)

/-- `singleClient.HMSet`. -/
def hMSet (key : String) (values : List Value) : Call (Option Err) :=
  if values = [] then .ret none
  else .guard (h.validate ctx key) some (c.send ⟨"HMSet", .str key :: values, .result⟩ errOf)

/-- `singleClient.HSetNX`. -/
def hSetNX (key field : String) (value : Value) : Call (Option Err) :=
  .guard (h.validate ctx key) some
    (c.send ⟨"HSetNX", [.str key, .str field, value], .result⟩ errOf)

/-- `singleClient.Scan`. -/
def scan (cursor : Nat) (pattern : String) (count : Int) : Call (Value × Value × Option Err) :=
  .guard (Contextx.validate ctx) (fun e => (.nil, .int 0, some e))
    (c.send ⟨"Scan", [.int cursor, .str pattern, .int count], .result⟩ scanReply)

/-- `singleClient.HScanNoValues`. -/
def hScanNoValues (key : String) (cursor : Nat) (pattern : String) (count : Int) :
    Call (Value × Value × Option Err) :=
  .guard (h.validate ctx key) (fun e => (.nil, .int 0, some e))
    (c.send ⟨"HScanNoValues", [.str key, .int cursor, .str pattern, .int count], .result⟩
      scanReply)

/-- `singleClient.HVals`. -/
def hVals (key : String) : Call (Value × Option Err) :=
  .guard (h.validate ctx key) (fail .nil) (c.send ⟨"HVals", [.str key], .result⟩ id)

/-- `singleClient.HRandField`. -/
def hRandField (key : String) (count : Int) : Call (Value × Option Err) :=
  .guard (h.validate ctx key) (fail .nil)
    (c.send ⟨"HRandField", [.str key, .int count], .result⟩ id)

/-- `singleClient.HRandFieldWithValues`. -/
def hRandFieldWithValues (key : String) (count : Int) : Call (Value × Option Err) :=
  .guard (h.validate ctx key) (fail .nil)
    (c.send ⟨"HRandFieldWithValues", [.str key, .int count], .result⟩ id)

/-- `singleClient.HExpire`. -/
def hExpire (key : String) (expiration : Int) (fields : List String) :
    Call (Value × Option Err) :=
  if fields = [] then .ret (.nil, none)
  else .guard (h.validate ctx key) (fail .nil)
    (c.send ⟨"HExpire", [.str key, .int expiration, .strs fields], .result⟩ id)

/-- `singleClient.HTTL`. -/
def hTTL (key : String) (fields : List String) : Call (Value × Option Err) :=
  if fields = [] then .ret (.nil, none)
  else .guard (h.validate ctx key) (fail .nil)
    (c.send ⟨"HTTL", [.str key, .strs fields], .result⟩ id)

/-- `singleClient.Eval`, `EvalSha`, `EvalRO` and `EvalShaRO`: the go-redis method `name`. -/
def evalBy (name script : String) (keys : List String) (args : List Value) :
    Call (Value × Option Err) :=
  .guard (h.validateMultiple ctx keys) (fail .nil)
    (c.send ⟨name, .str script :: .strs keys :: args, .result⟩ id)

/-- `singleClient.Eval`. -/
def eval (script : String) (keys : List String) (args : List Value) :=
  evalBy h c ctx "Eval" script keys args

/-- `singleClient.EvalSha`. -/
def evalSha (sha1 : String) (keys : List String) (args : List Value) :=
  evalBy h c ctx "EvalSha" sha1 keys args

/-- `singleClient.EvalRO`. -/
def evalRO (script : String) (keys : List String) (args : List Value) :=
  evalBy h c ctx "EvalRO" script keys args

/-- `singleClient.EvalShaRO`. -/
def evalShaRO (sha1 : String) (keys : List String) (args : List Value) :=
  evalBy h c ctx "EvalShaRO" sha1 keys args

/-- `singleClient.ScriptExists`. -/
def scriptExists (hashes : List String) : Call (Value × Option Err) :=
  c.send ⟨"ScriptExists", [.strs hashes], .result⟩ id

/-- `singleClient.ScriptFlush`. -/
def scriptFlush : Call (Value × Option Err) := c.send ⟨"ScriptFlush", [], .result⟩ id

/-- `singleClient.ScriptKill`. -/
def scriptKill : Call (Value × Option Err) := c.send ⟨"ScriptKill", [], .result⟩ id

/-- `singleClient.ScriptLoad`. -/
def scriptLoad (script : String) : Call (Value × Option Err) :=
  c.send ⟨"ScriptLoad", [.str script], .result⟩ id

end SingleClient

/-- `MGet`'s reply in the shard client: the value is dropped on error. -/
def mGetReply (r : Reply) : Value × Option Err :=
  match r.2 with
  | some e => (.nil, some e)
  | none => (r.1, none)

/-- The newest `shardClient`. -/
structure ShardClient where
  clients : Clients

namespace ShardClient

variable (h : Helpers) (c : ShardClient) (ctx : Context)

/-- `raw, err := c.clients.Get(ctx); if err != nil { return onErr(err) }`, then `k raw`. -/
def onShard (onErr : Err → α) (k : ShardConnect → Call α) : Call α :=
  match c.clients.get ctx with
  | .error e => .ret (onErr e)
  | .ok raw => k raw

/-- A command to the selected shard's client. -/
def send (onErr : Err → α) (cmd : Cmd) (k : Reply → α) : Call α :=
  c.onShard ctx onErr fun raw => .send (.conn raw.client) cmd k

/-- `shardClient.Client`. -/
def client : Call (Value × Option Err) :=
  .guard (Contextx.validate ctx) (fail .nil) <|
  c.onShard ctx (fail .nil) fun raw => .ret (.client raw.client, none)

/-- `shardClient.Pipeline`. -/
def pipeline : Call (Except Err Nat) :=
  .guard (Contextx.validate ctx) .error <|
  c.onShard ctx .error fun raw => .pipeline raw.client .pipeline .ok

/-- `shardClient.TxPipeline`. -/
def txPipeline : Call (Except Err Nat) :=
  .guard (Contextx.validate ctx) .error <|
  c.onShard ctx .error fun raw => .pipeline raw.client .txPipeline .ok

/-- `shardClient.Keys`. -/
def keys (pattern : String) : Call (Value × Option Err) :=
  .guard (Contextx.validate ctx) (fail .nil) <|
  c.send ctx (fail .nil) ⟨"Keys", [.str pattern], .result⟩ id

/-- `shardClient.Delete`: the shard is resolved before the keys are filtered. -/
def delete (keys : List String) : Call (Option Err) :=
  .guard (Contextx.validate ctx) some <|
    if keys = [] then .ret none
    else c.onShard ctx some fun raw =>
      if nonEmpty keys = [] then .ret none
      else .send (.conn raw.client) ⟨"Del", [.strs (nonEmpty keys)], .result⟩ errOf

/-- `shardClient.Dump`. -/
def dump (key : String) : Call (Value × Option Err) :=
  .guard (h.validate ctx key) (fail (.str "")) <|
  c.send ctx (fail (.str "")) ⟨"Dump", [.str key], .result⟩ id

/-- `shardClient.Rename`. -/
def rename (oldKey newKey : String) : Call (Option Err) :=
  .guard (h.validate ctx oldKey) (fun e => some (errInvalidKey e "old")) <|
  .guard (h.validate ctx newKey) (fun e => some (errInvalidKey e "new")) <|
  c.send ctx some ⟨"Rename", [.str oldKey, .str newKey], .result⟩ errOf

/-- `shardClient.Refresh`. -/
def refresh (key : String) (ttl : Int) : Call (Option Err) :=
  .guard (h.validate ctx key) some <|
  c.send ctx some ⟨"Expire", [.str key, .int ttl], .result⟩ errOf

/-- `shardClient.RefreshAt`. -/
def refreshAt (key : String) (atTime : Int) : Call (Option Err) :=
  .guard (h.validate ctx key) some <|
  c.send ctx some ⟨"ExpireAt", [.str key, .int atTime], .result⟩ errOf

/-- `shardClient.TTL`. -/
def ttl (key : String) : Call (Value × Option Err) :=
  .guard (h.validate ctx key) (fail (.int 0)) <|
  c.send ctx (fail (.int 0)) ⟨"TTL", [.str key], .result⟩ ttlReply

/-- `shardClient.Set`. -/
def set (key : String) (value : Value) (ttl : List Int) : Call (Option Err) :=
  .guard (h.validate ctx key) some <|
  c.send ctx some ⟨"Set", [.str key, value, .int (expireAt ttl)], .result⟩ errOf

/-- `shardClient.SetNX`. -/
def setNX (key : String) (value : Value) (ttl : Int) : Call (Value × Option Err) :=
  .guard (h.validate ctx key) (fail (.bool false)) <|
  c.send ctx (fail (.bool false)) ⟨"SetNX", [.str key, value, .int ttl], .result⟩ id

/-- `shardClient.Get`. -/
def get (key : String) : Call (Value × Option Err) :=
  .guard (h.validate ctx key) (fail (.str "")) <|
  c.send ctx (fail (.str "")) ⟨"Get", [.str key], .result⟩ (notFound key id id)

/-- `shardClient.MGet`: the keys are checked with `validateMultiple`. -/
def mGet (keys : List String) : Call (Value × Option Err) :=
  .guard (h.validateMultiple ctx keys) (fail .nil) <|
  c.send ctx (fail .nil) ⟨"MGet", [.strs keys], .result⟩ mGetReply

/-- `shardClient.Exist`. -/
def exist (key : String) : Call (Value × Option Err) :=
  .guard (h.validate ctx key) (fail (.int 0)) <|
  c.send ctx (fail (.int 0)) ⟨"Exists", [.str key], .result⟩ id

/-- `shardClient.GetBytes`: a miss returns nil bytes. -/
def getBytes (key : String) : Call (Value × Option Err) :=
  .guard (h.validate ctx key) (fail .nil) <|
  c.send ctx (fail .nil) ⟨"Get", [.str key], .bytes⟩ (notFound key (fun _ => .nil) id)

/-- `shardClient.GetInt`: every failure returns `0`. -/
def getInt (key : String) : Call (Value × Option Err) :=
  .guard (h.validate ctx key) (fail (.int 0)) <|
  c.send ctx (fail (.int 0)) ⟨"Get", [.str key], .int⟩
    (notFound key (fun _ => .int 0) (fun _ => .int 0))

/-- `shardClient.Parse`. -/
def parse (key : String) (export_ : Value) : Call (Option Err) :=
  .guard (h.validate ctx key) some <|
  c.send ctx some ⟨"Get", [.str key], .bytes⟩ (parseReply h key export_)

/-- `shardClient.HSet`. -/
def hSet (key : String) (value : Value) : Call (Option Err) :=
  .guard (h.validate ctx key) some <|
  c.send ctx some ⟨"HSet", [.str key, value], .result⟩ errOf

/-- `shardClient.HGetAll`. -/
def hGetAll (key : String) : Call (Value × Option Err) :=
  .guard (h.validate ctx key) (fail .nil) <|
  c.send ctx (fail .nil) ⟨"HGetAll", [.str key], .result⟩ id

/-- `shardClient.HGet`. -/
def hGet (key field : String) : Call (Value × Option Err) :=
  .guard (h.validate ctx key) (fail (.str "")) <|
  c.send ctx (fail (.str "")) ⟨"HGet", [.str key, .str field], .result⟩ id

/-- `shardClient.HGetInt`. -/
def hGetInt (key field : String) : Call (Value × Option Err) :=
  .guard (h.validate ctx key) (fail (.int 0)) <|
  c.send ctx (fail (.int 0)) ⟨"HGet", [.str key, .str field], .int⟩ id

/-- `shardClient.HGetBool`. -/
def hGetBool (key field : String) : Call (Value × Option Err) :=
  .guard (h.validate ctx key) (fail (.bool false)) <|
  c.send ctx (fail (.bool false)) ⟨"HGet", [.str key, .str field], .bool⟩ id

/-- `shardClient.HExist`. -/
def hExist (key field : String) : Call (Value × Option Err) :=
  .guard (h.validate ctx key) (fail (.bool false)) <|
  c.send ctx (fail (.bool false)) ⟨"HExists", [.str key, .str field], .result⟩ id

/-- `shardClient.HDelete`. -/
def hDelete (key : String) (fields : List String) : Call (Option Err) :=
  .guard (h.validate ctx key) some <|
  c.send ctx some ⟨"HDel", [.str key, .strs fields], .result⟩ errOf

/-- `shardClient.HScan`. -/
def hScan (key : String) (cursor : Nat) (pattern : String) (count : Int) :
    Call (Value × Value × Option Err) :=
  .guard (h.validate ctx key) (fun e => (.nil, .int 0, some e)) <|
  c.send ctx (fun e => (.nil, .int 0, some e))
    ⟨"HScan", [.str key, .int cursor, .str pattern, .int count], .result⟩ scanReply

/-- `shardClient.Scan`. -/
def scan (cursor : Nat) (pattern : String) (count : Int) : Call (Value × Value × Option Err) :=
  .guard (Contextx.validate ctx) (fun e => (.nil, .int 0, some e)) <|
  c.send ctx (fun e => (.nil, .int 0, some e))
    ⟨"Scan", [.int cursor, .str pattern, .int count], .result⟩ scanReply

/-- `shardClient.HIncrBy`. -/
def hIncrBy (key field : String) (incr : Int) : Call (Value × Option Err) :=
  .guard (h.validate ctx key) (fail (.int 0)) <|
  c.send ctx (fail (.int 0)) ⟨"HIncrBy", [.str key, .str field, .int incr], .result⟩ id

/-- `shardClient.HIncrByFloat`. -/
def hIncrByFloat (key field : String) (incr : Value) : Call (Value × Option Err) :=
  .guard (h.validate ctx key) (fail (.int 0)) <|
  c.send ctx (fail (.int 0)) ⟨"HIncrByFloat", [.str key, .str field, incr], .result⟩ id

/-- `shardClient.HKeys`. -/
def hKeys (key : String) : Call (Value × Option Err) :=
  .guard (h.validate ctx key) (fail .nil) <|
  c.send ctx (fail .nil) ⟨"HKeys", [.str key], .result⟩ id

/-- `shardClient.HLen`. -/
def hLen (key : String) : Call (Value × Option Err) :=
  .guard (h.validate ctx key) (fail (.int 0)) <|
  c.send ctx (fail (.int 0)) ⟨"HLen", [.str key], .result⟩ id

/-- `shardClient.HMGet`: a failed validation returns a nil slice. -/
def hMGet (key : String) (fields : List String) : Call (Value × Option Err) :=
  if fields = [] then .ret (.strs [], none)
  else .guard (h.validate ctx key) (fail .nil) <|
    c.send ctx (fail .nil) ⟨"HMGet", [.str key, .strs fields], .result⟩ id

/-- `shardClient.HMSet`. -/
def hMSet (key : String) (values : List Value) : Call (Option Err) :=
  if values = [] then .ret none
  else .guard (h.validate ctx key) some <|
    c.send ctx some ⟨"HMSet", .str key :: values, .result⟩ errOf

/-- `shardClient.HSetNX`. -/
def hSetNX (key field : String) (value : Value) : Call (Option Err) :=
  .guard (h.validate ctx key) some <|
  c.send ctx some ⟨"HSetNX", [.str key, .str field, value], .result⟩ errOf

/-- `shardClient.HScanNoValues`: a failed validation returns the given cursor. -/
def hScanNoValues (key : String) (cursor : Nat) (pattern : String) (count : Int) :
    Call (Value × Value × Option Err) :=
  .guard (h.validate ctx key) (fun e => (.nil, .int cursor, some e)) <|
  c.send ctx (fun e => (.nil, .int 0, some e))
    ⟨"HScanNoValues", [.str key, .int cursor, .str pattern, .int count], .result⟩ scanReply

/-- `shardClient.HVals`. -/
def hVals (key : String) : Call (Value × Option Err) :=
  .guard (h.validate ctx key) (fail .nil) <|
  c.send ctx (fail .nil) ⟨"HVals", [.str key], .result⟩ id

/-- `shardClient.HRandField`. -/
def hRandField (key : String) (count : Int) : Call (Value × Option Err) :=
  .guard (h.validate ctx key) (fail .nil) <|
  c.send ctx (fail .nil) ⟨"HRandField", [.str key, .int count], .result⟩ id

/-- `shardClient.HRandFieldWithValues`. -/
def hRandFieldWithValues (key : String) (count : Int) : Call (Value × Option Err) :=
  .guard (h.validate ctx key) (fail .nil) <|
  c.send ctx (fail .nil) ⟨"HRandFieldWithValues", [.str key, .int count], .result⟩ id

/-- `shardClient.HExpire`. -/
def hExpire (key : String) (expiration : Int) (fields : List String) :
    Call (Value × Option Err) :=
  if fields = [] then .ret (.nil, none)
  else .guard (h.validate ctx key) (fail .nil) <|
    c.send ctx (fail .nil) ⟨"HExpire", [.str key, .int expiration, .strs fields], .result⟩ id

/-- `shardClient.HTTL`. -/
def hTTL (key : String) (fields : List String) : Call (Value × Option Err) :=
  if fields = [] then .ret (.nil, none)
  else .guard (h.validate ctx key) (fail .nil) <|
    c.send ctx (fail .nil) ⟨"HTTL", [.str key, .strs fields], .result⟩ id

/-- `shardClient.Eval`, `EvalSha`, `EvalRO` and `EvalShaRO`: with no keys they return
`(nil, nil)` and run nothing. -/
def evalBy (name script : String) (keys : List String) (args : List Value) :
    Call (Value × Option Err) :=
  if keys = [] then .ret (.nil, none)
  else .guard (h.validateMultiple ctx keys) (fail .nil) <|
    c.send ctx (fail .nil) ⟨name, .str script :: .strs keys :: args, .result⟩ id

/-- `shardClient.Eval`. -/
def eval (script : String) (keys : List String) (args : List Value) :=
  evalBy h c ctx "Eval" script keys args

/-- `shardClient.EvalSha`. -/
def evalSha (sha1 : String) (keys : List String) (args : List Value) :=
  evalBy h c ctx "EvalSha" sha1 keys args

/-- `shardClient.EvalRO`. -/
def evalRO (script : String) (keys : List String) (args : List Value) :=
  evalBy h c ctx "EvalRO" script keys args

/-- `shardClient.EvalShaRO`. -/
def evalShaRO (sha1 : String) (keys : List String) (args : List Value) :=
  evalBy h c ctx "EvalShaRO" sha1 keys args

/-- `shardClient.ScriptExists`. -/
def scriptExists (hashes : List String) : Call (Value × Option Err) :=
  c.send ctx (fail .nil) ⟨"ScriptExists", [.strs hashes], .result⟩ id

/-- `shardClient.ScriptFlush`. -/
def scriptFlush : Call (Value × Option Err) :=
  c.send ctx (fail (.str "")) ⟨"ScriptFlush", [], .result⟩ id

/-- `shardClient.ScriptKill`. -/
def scriptKill : Call (Value × Option Err) :=
  c.send ctx (fail (.str "")) ⟨"ScriptKill", [], .result⟩ id

/-- `shardClient.ScriptLoad`. -/
def scriptLoad (script : String) : Call (Value × Option Err) :=
  c.send ctx (fail (.str "")) ⟨"ScriptLoad", [.str script], .result⟩ id

end ShardClient

end Redis
end Storage
