import Storage.RedisClient

/-!
# The Redis `Client` interface

The methods the two Redis clients share (`Close` aside), as data, and each client's method
table.  Results are uniform here: the Go results before the error, then the error.  A
`Client` is either implementation, as `redis.New`/`NewFromClient` and `redis.NewShard` build
them; it is also the provider `redis.NewTransactor` opens pipelines on.
-/

namespace Storage
namespace Redis

/-- A call of one `Client` method, with its arguments (the context apart). -/
inductive Method where
  | client
  | pipeline
  | txPipeline
  | keys (pattern : String)
  | delete (keys : List String)
  | dump (key : String)
  | rename (oldKey newKey : String)
  | refresh (key : String) (ttl : Int)
  | refreshAt (key : String) (atTime : Int)
  | ttl (key : String)
  | set (key : String) (value : Value) (ttl : List Int)
  | setNX (key : String) (value : Value) (ttl : Int)
  | get (key : String)
  | mGet (keys : List String)
  | exist (key : String)
  | getBytes (key : String)
  | getInt (key : String)
  | parse (key : String) (export_ : Value)
  | hSet (key : String) (value : Value)
  | hGetAll (key : String)
  | hGet (key field : String)
  | hGetInt (key field : String)
  | hGetBool (key field : String)
  | hExist (key field : String)
  | hScan (key : String) (cursor : Nat) (pattern : String) (count : Int)
  | hIncrBy (key field : String) (incr : Int)
  | hIncrByFloat (key field : String) (incr : Value)
  | hDelete (key : String) (fields : List String)
  | hKeys (key : String)
  | hLen (key : String)
  | hMGet (key : String) (fields : List String)
  | hMSet (key : String) (values : List Value)
  | hSetNX (key field : String) (value : Value)
  | scan (cursor : Nat) (pattern : String) (count : Int)
  | hScanNoValues (key : String) (cursor : Nat) (pattern : String) (count : Int)
  | hVals (key : String)
  | hRandField (key : String) (count : Int)
  | hRandFieldWithValues (key : String) (count : Int)
  | hExpire (key : String) (expiration : Int) (fields : List String)
  | hTTL (key : String) (fields : List String)
  | eval (script : String) (keys : List String) (args : List Value)
  | evalSha (sha1 : String) (keys : List String) (args : List Value)
  | evalRO (script : String) (keys : List String) (args : List Value)
  | evalShaRO (sha1 : String) (keys : List String) (args : List Value)
  | scriptExists (hashes : List String)
  | scriptFlush
  | scriptKill
  | scriptLoad (script : String)

/-- A method's Go results: the values before the error, and the error. -/
abbrev Returns := List Value × Option Err

/-- An `error` result. -/
def ofErr (e : Option Err) : Returns := ([], e)

/-- A `(T, error)` result. -/
def ofOne (r : Value × Option Err) : Returns := ([r.1], r.2)

/-- A `(T, U, error)` result. -/
def ofTwo (r : Value × Value × Option Err) : Returns := ([r.1, r.2.1], r.2.2)

/-- A `(redis.Pipeliner, error)` result. -/
def ofPipeline : Except Err Nat → Returns
  | .ok p => ([.pipeliner p], none)
  | .error e => ([.nil], some e)

/-- The method table of `singleClient`. -/
def SingleClient.call (h : Helpers) (c : SingleClient) (ctx : Context) : Method → Call Returns
  | .client => (c.client ctx).map ofOne
  | .pipeline => (c.pipeline ctx).map ofPipeline
  | .txPipeline => (c.txPipeline ctx).map ofPipeline
  | .keys pattern => (c.keys ctx pattern).map ofOne
  | .delete keys => (c.delete ctx keys).map ofErr
  | .dump key => (c.dump h ctx key).map ofOne
  | .rename oldKey newKey => (c.rename h ctx oldKey newKey).map ofErr
  | .refresh key ttl => (c.refresh h ctx key ttl).map ofErr
  | .refreshAt key atTime => (c.refreshAt h ctx key atTime).map ofErr
  | .ttl key => (c.ttl h ctx key).map ofOne
  | .set key value ttl => (c.set h ctx key value ttl).map ofErr
  | .setNX key value ttl => (c.setNX h ctx key value ttl).map ofOne
  | .get key => (c.get h ctx key).map ofOne
  | .mGet keys => (c.mGet ctx keys).map ofOne
  | .exist key => (c.exist h ctx key).map ofOne
  | .getBytes key => (c.getBytes h ctx key).map ofOne
  | .getInt key => (c.getInt h ctx key).map ofOne
  | .parse key export_ => (c.parse h ctx key export_).map ofErr
  | .hSet key value => (c.hSet h ctx key value).map ofErr
  | .hGetAll key => (c.hGetAll h ctx key).map ofOne
  | .hGet key field => (c.hGet h ctx key field).map ofOne
  | .hGetInt key field => (c.hGetInt h ctx key field).map ofOne
  | .hGetBool key field => (c.hGetBool h ctx key field).map ofOne
  | .hExist key field => (c.hExist h ctx key field).map ofOne
  | .hScan key cursor pattern count => (c.hScan h ctx key cursor pattern count).map ofTwo
  | .hIncrBy key field incr => (c.hIncrBy h ctx key field incr).map ofOne
  | .hIncrByFloat key field incr => (c.hIncrByFloat h ctx key field incr).map ofOne
  | .hDelete key fields => (c.hDelete h ctx key fields).map ofErr
  | .hKeys key => (c.hKeys h ctx key).map ofOne
  | .hLen key => (c.hLen h ctx key).map ofOne
  | .hMGet key fields => (c.hMGet h ctx key fields).map ofOne
  | .hMSet key values => (c.hMSet h ctx key values).map ofErr
  | .hSetNX key field value => (c.hSetNX h ctx key field value).map ofErr
  | .scan cursor pattern count => (c.scan ctx cursor pattern count).map ofTwo
  | .hScanNoValues key cursor pattern count =>
    (c.hScanNoValues h ctx key cursor pattern count).map ofTwo
  | .hVals key => (c.hVals h ctx key).map ofOne
  | .hRandField key count => (c.hRandField h ctx key count).map ofOne
  | .hRandFieldWithValues key count => (c.hRandFieldWithValues h ctx key count).map ofOne
  | .hExpire key expiration fields => (c.hExpire h ctx key expiration fields).map ofOne
  | .hTTL key fields => (c.hTTL h ctx key fields).map ofOne
  | .eval script keys args => (c.eval h ctx script keys args).map ofOne
  | .evalSha sha1 keys args => (c.evalSha h ctx sha1 keys args).map ofOne
  | .evalRO script keys args => (c.evalRO h ctx script keys args).map ofOne
  | .evalShaRO sha1 keys args => (c.evalShaRO h ctx sha1 keys args).map ofOne
  | .scriptExists hashes => (c.scriptExists hashes).map ofOne
  | .scriptFlush => c.scriptFlush.map ofOne
  | .scriptKill => c.scriptKill.map ofOne
  | .scriptLoad script => (c.scriptLoad script).map ofOne

/-- The method table of `shardClient`. -/
def ShardClient.call (h : Helpers) (c : ShardClient) (ctx : Context) : Method → Call Returns
  | .client => (c.client ctx).map ofOne
  | .pipeline => (c.pipeline ctx).map ofPipeline
  | .txPipeline => (c.txPipeline ctx).map ofPipeline
  | .keys pattern => (c.keys ctx pattern).map ofOne
  | .delete keys => (c.delete ctx keys).map ofErr
  | .dump key => (c.dump h ctx key).map ofOne
  | .rename oldKey newKey => (c.rename h ctx oldKey newKey).map ofErr
  | .refresh key ttl => (c.refresh h ctx key ttl).map ofErr
  | .refreshAt key atTime => (c.refreshAt h ctx key atTime).map ofErr
  | .ttl key => (c.ttl h ctx key).map ofOne
  | .set key value ttl => (c.set h ctx key value ttl).map ofErr
  | .setNX key value ttl => (c.setNX h ctx key value ttl).map ofOne
  | .get key => (c.get h ctx key).map ofOne
  | .mGet keys => (c.mGet h ctx keys).map ofOne
  | .exist key => (c.exist h ctx key).map ofOne
  | .getBytes key => (c.getBytes h ctx key).map ofOne
  | .getInt key => (c.getInt h ctx key).map ofOne
  | .parse key export_ => (c.parse h ctx key export_).map ofErr
  | .hSet key value => (c.hSet h ctx key value).map ofErr
  | .hGetAll key => (c.hGetAll h ctx key).map ofOne
  | .hGet key field => (c.hGet h ctx key field).map ofOne
  | .hGetInt key field => (c.hGetInt h ctx key field).map ofOne
  | .hGetBool key field => (c.hGetBool h ctx key field).map ofOne
  | .hExist key field => (c.hExist h ctx key field).map ofOne
  | .hScan key cursor pattern count => (c.hScan h ctx key cursor pattern count).map ofTwo
  | .hIncrBy key field incr => (c.hIncrBy h ctx key field incr).map ofOne
  | .hIncrByFloat key field incr => (c.hIncrByFloat h ctx key field incr).map ofOne
  | .hDelete key fields => (c.hDelete h ctx key fields).map ofErr
  | .hKeys key => (c.hKeys h ctx key).map ofOne
  | .hLen key => (c.hLen h ctx key).map ofOne
  | .hMGet key fields => (c.hMGet h ctx key fields).map ofOne
  | .hMSet key values => (c.hMSet h ctx key values).map ofErr
  | .hSetNX key field value => (c.hSetNX h ctx key field value).map ofErr
  | .scan cursor pattern count => (c.scan ctx cursor pattern count).map ofTwo
  | .hScanNoValues key cursor pattern count =>
    (c.hScanNoValues h ctx key cursor pattern count).map ofTwo
  | .hVals key => (c.hVals h ctx key).map ofOne
  | .hRandField key count => (c.hRandField h ctx key count).map ofOne
  | .hRandFieldWithValues key count => (c.hRandFieldWithValues h ctx key count).map ofOne
  | .hExpire key expiration fields => (c.hExpire h ctx key expiration fields).map ofOne
  | .hTTL key fields => (c.hTTL h ctx key fields).map ofOne
  | .eval script keys args => (c.eval h ctx script keys args).map ofOne
  | .evalSha sha1 keys args => (c.evalSha h ctx sha1 keys args).map ofOne
  | .evalRO script keys args => (c.evalRO h ctx script keys args).map ofOne
  | .evalShaRO sha1 keys args => (c.evalShaRO h ctx sha1 keys args).map ofOne
  | .scriptExists hashes => (c.scriptExists ctx hashes).map ofOne
  | .scriptFlush => (c.scriptFlush ctx).map ofOne
  | .scriptKill => (c.scriptKill ctx).map ofOne
  | .scriptLoad script => (c.scriptLoad ctx script).map ofOne

/-- A Redis `Client`: `redis.New`/`NewFromClient` or `redis.NewShard`. -/
inductive Client where
  | single (c : SingleClient)
  | shard (c : ShardClient)

namespace Client

/-- A method call on either implementation. -/
def call (h : Helpers) : Client → Context → Method → Call Returns
  | .single c => c.call h
  | .shard c => c.call h

/-- `TxPipeline(ctx)`, as `redis.NewTransactor` calls it on its provider. -/
def txPipeline : Client → Context → Call (Except Err Nat)
  | .single c => c.txPipeline
  | .shard c => c.txPipeline

end Client

end Redis
end Storage
