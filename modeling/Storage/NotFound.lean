import Storage.Routing

/-!
# Misses on the Redis reads

The Redis clients read through go-redis, which answers a read of a key the server does not
hold with the sentinel `redis.Nil` (and `TTL` with `-2`).  To say what a read returns for a
missing or a present key, the servers are given contents here: a `Keyspace` per connection,
from which go-redis answers `Get`, `Dump`, `TTL` and `HGet` as it does against a real server
(`Keyspace.answer`).  Everything above the driver is the clients' own code
(`RedisClient`).

Both clients agree on the error of every single-value read (`Client.readError_eq`): `Get`,
`GetBytes`, `GetInt` and `Parse` turn `redis.Nil` into `ErrKeyNotFound`, which wraps
`errorx.ErrNotFound`, and `TTL` turns `-2` into `errorx.ErrNotFound`; but `Dump`, `HGet`,
`HGetInt` and `HGetBool` return the driver's error as it is, so a miss reaches the caller as
`redis.Nil`, which is not `ErrNotFound` (`read_not_found`).  A present key holding a value
the read can decode gives no error at all.
-/

namespace Storage

/-! ## The driver's accessors -/

/-- `strconv.Atoi`: an optional sign, then decimal digits. -/
def atoi (s : String) : Option Int :=
  match s.toList with
  | '-' :: ds => (String.mk ds).toNat?.map fun n => -(n : Int)
  | '+' :: ds => (String.mk ds).toNat?.map Int.ofNat
  | _ => s.toNat?.map Int.ofNat

/-- `strconv.ParseBool`. -/
def parseBool : String → Option Bool
  | "1" | "t" | "T" | "TRUE" | "true" | "True" => some true
  | "0" | "f" | "F" | "FALSE" | "false" | "False" => some false
  | _ => none

/-- The `strconv` error for a value an accessor cannot convert. -/
def errSyntax : Err := .named "strconv: invalid syntax"

/-- The server's error for a command on a key holding the other kind of value. -/
def errWrongType : Err := .named "WRONGTYPE Operation against a key holding the wrong kind of value"

/-- The value an accessor returns beside an error. -/
def Conv.zero : Conv → Value
  | .result => .str ""
  | .bytes => .nil
  | .int => .int 0
  | .bool => .bool false

/-- An accessor applied to a stored string: `Result()` and `Bytes()` return it, `Int()` and
`Bool()` convert it with `strconv`. -/
def Conv.read : Conv → String → Reply
  | .result, s | .bytes, s => (.str s, none)
  | .int, s =>
    match atoi s with
    | some n => (.int n, none)
    | none => (.int 0, some errSyntax)
  | .bool, s =>
    match parseBool s with
    | some b => (.bool b, none)
    | none => (.bool false, some errSyntax)

/-- A miss: the accessor's zero value and `redis.Nil`. -/
def Conv.miss (conv : Conv) : Reply := (conv.zero, some .redisNil)

namespace Redis

/-! ## The servers -/

/-- What a Redis server stores under a key: a string, or a hash as its fields and their
values. -/
inductive Entry where
  | string (s : String)
  | hash (fields : List (String × String))
  deriving DecidableEq, Repr

/-- A Redis server: each key's entry and its time to live in seconds (`none`: no expiry). -/
structure Keyspace where
  entries : String → Option (Entry × Option Nat)

/-- A server holding nothing. -/
def Keyspace.empty : Keyspace := ⟨fun _ => none⟩

namespace Keyspace

/-- go-redis's answer to `Get`, `Dump`, `TTL` and `HGet` on a server holding `ks`.  `Dump`'s
payload is opaque; `TTL` answers in nanoseconds, with `-1` for a key without expiry and `-2`
for a missing key.  Other commands are not read from the keyspace and get an empty reply. -/
def answer (ks : Keyspace) (cmd : Cmd) : Reply :=
  match cmd.name, cmd.args with
  | "Get", [.str key] =>
    match ks.entries key with
    | some (.string s, _) => cmd.conv.read s
    | some (.hash _, _) => (cmd.conv.zero, some errWrongType)
    | none => cmd.conv.miss
  | "Dump", [.str key] =>
    match ks.entries key with
    | some _ => (.other 0, none)
    | none => cmd.conv.miss
  | "TTL", [.str key] =>
    match ks.entries key with
    | some (_, some t) => (.int (t * 1000000000), none)
    | some (_, none) => (.int (-1), none)
    | none => (.int (-2), none)
  | "HGet", [.str key, .str field] =>
    match ks.entries key with
    | some (.hash fs, _) =>
      match fs.lookup field with
      | some v => cmd.conv.read v
      | none => cmd.conv.miss
    | some (.string _, _) => (cmd.conv.zero, some errWrongType)
    | none => cmd.conv.miss
  | _, _ => (.nil, none)

/-- The driver's replies when the server of each connection `c` holds `ks c`; commands queued
on a pipeline are answered by its `Exec`, not here. -/
def reply (ks : Nat → Keyspace) : Target → Cmd → World → Reply
  | .conn c, cmd, _ => (ks c).answer cmd
  | .handle _, _, _ => (.nil, none)

end Keyspace

/-! ## The single-value reads -/

/-- The single-value reads of the `Client` interface, with their arguments beside the key. -/
inductive Read where
  | get
  | getBytes
  | getInt
  | parse (export_ : Value)
  | dump
  | ttl
  | hGet (field : String)
  | hGetInt (field : String)
  | hGetBool (field : String)

/-- The method call of a read of `key`. -/
def Read.method (key : String) : Read → Method
  | .get => .get key
  | .getBytes => .getBytes key
  | .getInt => .getInt key
  | .parse export_ => .parse key export_
  | .dump => .dump key
  | .ttl => .ttl key
  | .hGet field => .hGet key field
  | .hGetInt field => .hGetInt key field
  | .hGetBool field => .hGetBool key field

/-- The command a read of `key` sends. -/
def Read.cmd (key : String) : Read → Cmd
  | .get => ⟨"Get", [.str key], .result⟩
  | .getBytes | .parse _ => ⟨"Get", [.str key], .bytes⟩
  | .getInt => ⟨"Get", [.str key], .int⟩
  | .dump => ⟨"Dump", [.str key], .result⟩
  | .ttl => ⟨"TTL", [.str key], .result⟩
  | .hGet field => ⟨"HGet", [.str key, .str field], .result⟩
  | .hGetInt field => ⟨"HGet", [.str key, .str field], .int⟩
  | .hGetBool field => ⟨"HGet", [.str key, .str field], .bool⟩

/-- The error a read of `key` returns for the driver's reply `r`. -/
def Read.error (h : Helpers) (key : String) : Read → Reply → Option Err
  | .get, r | .getBytes, r | .getInt, r => (notFound key id id r).2
  | .parse export_, r => parseReply h key export_ r
  | .ttl, r => (ttlReply r).2
  | _, r => r.2

/-- The server a client's commands reach on `ctx`: the single client's, or the shard the
selector picks; none when it picks none. -/
def Client.server : Client → Context → Option Nat
  | .single c, _ => some c.conn
  | .shard c, ctx =>
    match c.clients.get ctx with
    | .ok raw => some raw.client
    | .error _ => none

/-- The error a read returns when the server of each connection `c` holds `ks c`. -/
def readError (h : Helpers) (cl : Client) (ctx : Context) (ks : Nat → Keyspace) (key : String)
    (r : Read) (w : World) : Option Err :=
  ((cl.call h ctx (r.method key)).run (Keyspace.reply ks) w).1.2

/-- Past validation, both clients send the read's command to their server and return the
error `Read.error` makes of the reply. -/
theorem Client.readError_eq (h : Helpers) (cl : Client) {ctx : Context} {key : String}
    (hv : h.validate ctx key = none) {srv : Nat} (hsrv : cl.server ctx = some srv)
    (ks : Nat → Keyspace) (r : Read) (w : World) :
    readError h cl ctx ks key r w = r.error h key ((ks srv).answer (r.cmd key)) := by
  cases cl with
  | single c =>
    cases hsrv
    cases r <;> simp [readError, Client.call, SingleClient.call, Read.method, hv, Call.run,
      SingleClient.send, Keyspace.reply, Read.error, Read.cmd, ofOne, ofErr, errOf]
  | shard c =>
    simp only [Client.server] at hsrv
    split at hsrv
    · rename_i raw hraw
      cases hsrv
      cases r <;> simp [readError, Client.call, ShardClient.call, Read.method, hv, Call.run,
        ShardClient.send, ShardClient.onShard, hraw, Keyspace.reply, Read.error, Read.cmd, ofOne,
        ofErr, errOf]
    · cases hsrv

/-! ## Missing and present keys -/

namespace Keyspace

/-- The server holds nothing the read could return: no `key`, or for the hash reads no hash
field `field` under `key`. -/
def Misses (ks : Keyspace) (key : String) : Read → Prop
  | .hGet field | .hGetInt field | .hGetBool field =>
    ks.entries key = none ∨ ∃ fs t, ks.entries key = some (.hash fs, t) ∧ fs.lookup field = none
  | _ => ks.entries key = none

/-- The server holds under `key` a value the read can decode: a string for `Get`, `GetBytes`
and `Parse` (one `json.Unmarshal` accepts), a decimal string for `GetInt`, anything for
`Dump` and `TTL`, and a hash with the field for the hash reads, its value an integer for
`HGetInt` and a boolean for `HGetBool`. -/
def Holds (ks : Keyspace) (h : Helpers) (key : String) : Read → Prop
  | .get | .getBytes => ∃ s t, ks.entries key = some (.string s, t)
  | .getInt => ∃ s t n, ks.entries key = some (.string s, t) ∧ atoi s = some n
  | .parse export_ =>
    ∃ s t, ks.entries key = some (.string s, t) ∧ h.unmarshal (.str s) export_ = none
  | .dump | .ttl => ∃ e, ks.entries key = some e
  | .hGet field => ∃ fs t v, ks.entries key = some (.hash fs, t) ∧ fs.lookup field = some v
  | .hGetInt field => ∃ fs t v n, ks.entries key = some (.hash fs, t) ∧
      fs.lookup field = some v ∧ atoi v = some n
  | .hGetBool field => ∃ fs t v b, ks.entries key = some (.hash fs, t) ∧
      fs.lookup field = some v ∧ parseBool v = some b

end Keyspace

/-- What a read makes of a miss: `ErrKeyNotFound` or `ErrNotFound` for `Get`, `GetBytes`,
`GetInt`, `Parse` and `TTL`, `redis.Nil` for `Dump` and the hash reads. -/
theorem Read.error_of_misses (h : Helpers) {ks : Keyspace} {key : String} {r : Read}
    (hm : ks.Misses key r) :
    r.error h key (ks.answer (r.cmd key)) =
      match r with
      | .get | .getBytes | .getInt | .parse _ => some (errKeyNotFound key)
      | .ttl => some .notFound
      | _ => some .redisNil := by
  cases r with
  | hGet field | hGetInt field | hGetBool field =>
    rcases hm with hm | ⟨fs, t, hm, hf⟩
    · simp [Read.error, Read.cmd, Keyspace.answer, hm, Conv.miss]
    · simp [Read.error, Read.cmd, Keyspace.answer, hm, hf, Conv.miss]
  | _ =>
    have hm : ks.entries key = none := hm
    simp [Read.error, Read.cmd, Keyspace.answer, hm, parseReply, ttlReply, Conv.miss]

/-- A read of a value it can decode returns no error. -/
theorem Read.error_of_holds {h : Helpers} {ks : Keyspace} {key : String} {r : Read}
    (hh : ks.Holds h key r) : r.error h key (ks.answer (r.cmd key)) = none := by
  cases r with
  | get | getBytes =>
    obtain ⟨s, t, hs⟩ := hh
    simp [Read.error, Read.cmd, Keyspace.answer, hs, notFound, Conv.read]
  | getInt =>
    obtain ⟨s, t, n, hs, hn⟩ := hh
    simp [Read.error, Read.cmd, Keyspace.answer, hs, hn, notFound, Conv.read]
  | parse export_ =>
    obtain ⟨s, t, hs, hu⟩ := hh
    simp [Read.error, Read.cmd, Keyspace.answer, hs, hu, parseReply, Conv.read]
  | dump =>
    obtain ⟨e, he⟩ := hh
    simp [Read.error, Read.cmd, Keyspace.answer, he]
  | ttl =>
    obtain ⟨⟨e, _ | t⟩, he⟩ := hh
    · simp [Read.error, Read.cmd, Keyspace.answer, he, ttlReply]
    · have ht : (t : Int) * 1000000000 ≠ -2 := by omega
      simp [Read.error, Read.cmd, Keyspace.answer, he, ttlReply, ht]
  | hGet field =>
    obtain ⟨fs, t, v, hs, hv⟩ := hh
    simp [Read.error, Read.cmd, Keyspace.answer, hs, hv, Conv.read]
  | hGetInt field =>
    obtain ⟨fs, t, v, n, hs, hv, hn⟩ := hh
    simp [Read.error, Read.cmd, Keyspace.answer, hs, hv, hn, Conv.read]
  | hGetBool field =>
    obtain ⟨fs, t, v, b, hs, hv, hb⟩ := hh
    simp [Read.error, Read.cmd, Keyspace.answer, hs, hv, hb, Conv.read]

end Redis
end Storage
