import Storage.Shard

/-!
# Building a shard set from configurations

`sql.ConnectShards` and `redis.ConnectShards` run the same two loops over a list of shard
configurations: a validation loop, which fails on the first configuration with an empty key,
a missing connection parameter or a key seen before, and then a loop that calls `Connect` for
each configuration in order and returns the first error.  They differ in the parameters they
check and in what they connect to, so both are `connectShardsWith` applied to their own
checks, messages and handles.

`Connect` is the driver's: a `Pools` record says which pools the connects opened, which of
them are still open, and what the driver answers to the next attempts; `Close` on a pool closes
it.  Validation decides alone whether a connect is tried (`validateShards_eq_none`); past it,
the loop opens a pool per configuration until the first failed attempt (`connectEach_ok`,
`connectEach_fail`).  The loop never closes a pool: when the `j`-th attempt fails, the pools of
the entries before `j` stay open and no handle to them is returned (`connectShards_outcome`),
while on success the shard set's `Close` closes every pool the loop opened
(`connectShards_close`).  An empty list passes both loops and yields an empty shard set.
-/

namespace Storage

/-- The driver's answer to one `Connect`: the pool opens and answers the ping; no pool can be
made (`sqlx.Open` fails), so nothing is opened; or the pool is made and the ping fails, and
`Connect` returns the error without closing it. -/
inductive Dial where
  | ok
  | openFailed (e : Err)
  | pingFailed (e : Err)
  deriving DecidableEq, Repr

/-- The error a failed attempt returns. -/
def Dial.failure : Dial → Option Err
  | .ok => none
  | .openFailed e | .pingFailed e => some e

/-- The attempt leaves a pool open. -/
def Dial.opens : Dial → Bool
  | .openFailed _ => false
  | _ => true

/-- A pool `Connect` made: the address it was opened on, and whether it is still open. -/
structure Pool where
  address : String
  isOpen : Bool
  deriving DecidableEq, Repr

/-- What the connects did: the pools they made, oldest first, and the driver's answers to the
next attempts, which succeed once the list runs out. -/
structure Pools where
  pools : List Pool
  dials : List Dial
  deriving DecidableEq, Repr

/-- `Connect` on the address `params`: the new pool, or the error. -/
def Pools.connect (w : Pools) (params : String) : Except Err Nat × Pools :=
  match w.dials with
  | .openFailed e :: rest => (.error e, ⟨w.pools, rest⟩)
  | .pingFailed e :: rest => (.error e, ⟨w.pools ++ [⟨params, true⟩], rest⟩)
  | _ => (.ok w.pools.length, ⟨w.pools ++ [⟨params, true⟩], w.dials.tail⟩)

/-- `Close()` on the pool `p`: it is closed, whatever error the driver reports. -/
def Pools.close (w : Pools) (p : Nat) : Pools :=
  { w with pools := w.pools.modify (fun q => { q with isOpen := false }) p }

/-- Closing the pools `ps` one after the other, in any order, closes each of them and no
other. -/
theorem Pools.foldl_close (ps : List Nat) (w : Pools) (i : Nat) :
    ((ps.foldl Pools.close w).pools[i]?) =
      (w.pools[i]?).map fun q => if i ∈ ps then { q with isOpen := false } else q := by
  induction ps generalizing w with
  | nil => simp
  | cons p ps ih =>
    rw [List.foldl_cons, ih, Pools.close, List.getElem?_modify]
    cases w.pools[i]? with
    | none => rfl
    | some q =>
      by_cases hp : p = i
      · subst hp
        by_cases hi : p ∈ ps <;> simp [hi]
      · by_cases hi : i ∈ ps <;> simp [hp, hi, Ne.symm hp]

theorem exists_map_eq_ok {ε α β : Type} (f : α → β) (x : Except ε α) :
    (∃ b, x.map f = .ok b) ↔ ∃ a, x = .ok a := by
  cases x <;> simp [Except.map]

/-- `errorx.New("Connection keys cannot duplicate").AddContext("key", key)`. -/
def errKeyDuplicate (key : String) : Err :=
  .param (.named "Connection keys cannot duplicate") "key" key

section Loops

variable {α β : Type} (emptyKey : Err) (key : α → String) (check : α → Option Err)
  (params : α → String) (mk : α → Nat → β)

/-- The validation loop of `ConnectShards`, with the keys seen so far: an empty key fails with
`emptyKey`, then a missing parameter with `check`'s error, then a key seen before. -/
def validateShards : List String → List α → Option Err
  | _, [] => none
  | seen, cs :: rest =>
    if key cs = "" then some emptyKey
    else
      match check cs with
      | some e => some e
      | none =>
        if key cs ∈ seen then some (errKeyDuplicate (key cs))
        else validateShards (key cs :: seen) rest

/-- The connecting loop of `ConnectShards`: `Connect(params)` for each configuration in
order, `mk` building the handle from the configuration and its pool; the first error is
returned. -/
def connectEach : List α → Pools → Except Err (List β) × Pools
  | [], w => (.ok [], w)
  | cs :: rest, w =>
    match w.connect (params cs) with
    | (.error e, w') => (.error e, w')
    | (.ok p, w') =>
      match connectEach rest w' with
      | (.ok handles, w'') => (.ok (mk cs p :: handles), w'')
      | (.error e, w'') => (.error e, w'')

/-- `ConnectShards`, the handles before the selector is added. -/
def connectShardsWith (cfgs : List α) (w : Pools) : Except Err (List β) × Pools :=
  match validateShards emptyKey key check [] cfgs with
  | some e => (.error e, w)
  | none => connectEach params mk cfgs w

/-- Validation passes exactly when every key is non-empty, unseen and distinct from the others,
and every configuration passes `check`. -/
theorem validateShards_eq_none (seen : List String) (cfgs : List α) :
    validateShards emptyKey key check seen cfgs = none ↔
      (∀ c ∈ cfgs, key c ≠ "" ∧ check c = none ∧ key c ∉ seen) ∧ (cfgs.map key).Nodup := by
  induction cfgs generalizing seen with
  | nil => simp [validateShards]
  | cons c rest ih =>
    simp only [validateShards]
    by_cases hk : key c = ""
    · simp [hk]
    cases hc : check c with
    | some e => simp [hk, hc]
    | none =>
      by_cases hs : key c ∈ seen
      · simp [hk, hc, hs]
      · simp only [hk, hs, if_false, ih, hc, List.mem_cons, List.map_cons, List.nodup_cons,
          List.mem_map, forall_eq_or_imp, not_or, not_exists, not_and, forall_and]
        tauto

/-- When every attempt succeeds, the loop opens one pool per configuration, in order, and
returns their handles. -/
theorem connectEach_ok (cfgs : List α) :
    ∀ {w : Pools}, (∀ d ∈ w.dials.take cfgs.length, d = .ok) →
      connectEach params mk cfgs w =
        (.ok (cfgs.zipWith mk (List.range' w.pools.length cfgs.length)),
          ⟨w.pools ++ cfgs.map (⟨params ·, true⟩), w.dials.drop cfgs.length⟩) := by
  induction cfgs with
  | nil => intro w _; simp [connectEach]
  | cons c rest ih =>
    rintro ⟨opened, _ | ⟨d, ds⟩⟩ hok
    · simp [connectEach, Pools.connect, @ih ⟨opened ++ [⟨params c, true⟩], []⟩ (by simp),
        List.range'_succ]
    · obtain rfl : d = .ok := hok d (by simp)
      have hrest : ∀ d ∈ ds.take rest.length, d = .ok := fun d' hd' => hok d' (by simp [hd'])
      simp [connectEach, Pools.connect, @ih ⟨opened ++ [⟨params c, true⟩], ds⟩ hrest,
        List.range'_succ]

/-- When the attempts for `pre` succeed and the next one fails, the loop returns that
attempt's error, with the pools of `pre` opened, and that attempt's own pool when it made one;
no later configuration is tried. -/
theorem connectEach_fail (pre : List α) (c : α) (post : List α) (opened : List Pool)
    {d : Dial} {e : Err} (hd : d.failure = some e) (rest : List Dial) :
    connectEach params mk (pre ++ c :: post) ⟨opened, List.replicate pre.length .ok ++ d :: rest⟩ =
      (.error e, ⟨opened ++ pre.map (⟨params ·, true⟩) ++
        (if d.opens then [⟨params c, true⟩] else []), rest⟩) := by
  induction pre generalizing opened with
  | nil =>
    cases d with
    | ok => cases hd
    | openFailed e' => cases hd; simp [connectEach, Pools.connect, Dial.opens]
    | pingFailed e' => cases hd; simp [connectEach, Pools.connect, Dial.opens]
  | cons c₀ pre ih =>
    simp [connectEach, Pools.connect, List.replicate_succ, ih]

/-- A loop that returns handles had every attempt succeed. -/
theorem dials_ok_of_connectEach (cfgs : List α) :
    ∀ {w : Pools}, (∃ handles, (connectEach params mk cfgs w).1 = .ok handles) →
      ∀ d ∈ w.dials.take cfgs.length, d = .ok := by
  induction cfgs with
  | nil => simp
  | cons c rest ih =>
    rintro ⟨opened, _ | ⟨d, ds⟩⟩ ⟨handles, h⟩
    · simp
    · cases d with
      | ok =>
        rcases hce : connectEach params mk rest ⟨opened ++ [⟨params c, true⟩], ds⟩ with
          ⟨_ | hs, w''⟩
        · simp [connectEach, Pools.connect, hce] at h
        · simpa using @ih ⟨opened ++ [⟨params c, true⟩], ds⟩ ⟨hs, by rw [hce]⟩
      | openFailed e => simp [connectEach, Pools.connect] at h
      | pingFailed e => simp [connectEach, Pools.connect] at h

/-- `ConnectShards` returns handles exactly when validation passes and every attempt
succeeds. -/
theorem connectShardsWith_ok_iff (cfgs : List α) (w : Pools) :
    (∃ handles, (connectShardsWith emptyKey key check params mk cfgs w).1 = .ok handles) ↔
      ((∀ c ∈ cfgs, key c ≠ "" ∧ check c = none) ∧ (cfgs.map key).Nodup) ∧
        ∀ d ∈ w.dials.take cfgs.length, d = .ok := by
  have hv := validateShards_eq_none emptyKey key check [] cfgs
  simp only [List.not_mem_nil, not_false_eq_true, and_true] at hv
  unfold connectShardsWith
  cases hval : validateShards emptyKey key check [] cfgs with
  | some e =>
    simp only [exists_false, reduceCtorEq, false_iff, not_and]
    exact fun hvalid => absurd (hv.2 hvalid) (by simp [hval])
  | none =>
    refine ⟨fun h => ⟨hv.1 hval, dials_ok_of_connectEach params mk cfgs h⟩,
      fun ⟨_, hok⟩ => ⟨_, by rw [connectEach_ok params mk cfgs hok]⟩⟩

/-- A failed validation connects nothing. -/
theorem connectShardsWith_invalid {cfgs : List α}
    (h : ¬ ((∀ c ∈ cfgs, key c ≠ "" ∧ check c = none) ∧ (cfgs.map key).Nodup)) (w : Pools) :
    ∃ e, connectShardsWith emptyKey key check params mk cfgs w = (.error e, w) := by
  have hv := validateShards_eq_none emptyKey key check [] cfgs
  simp only [List.not_mem_nil, not_false_eq_true, and_true] at hv
  obtain ⟨e, he⟩ := Option.ne_none_iff_exists'.1 (mt hv.1 h)
  exact ⟨e, by simp [connectShardsWith, he]⟩

/-- Past validation, a failed attempt after the pools of `pre` returns its error and closes
nothing. -/
theorem connectShardsWith_fail {pre : List α} {c : α} {post : List α}
    (h : (∀ c' ∈ pre ++ c :: post, key c' ≠ "" ∧ check c' = none) ∧
      ((pre ++ c :: post).map key).Nodup)
    (opened : List Pool) {d : Dial} {e : Err} (hd : d.failure = some e) (rest : List Dial) :
    connectShardsWith emptyKey key check params mk (pre ++ c :: post)
        ⟨opened, List.replicate pre.length .ok ++ d :: rest⟩ =
      (.error e, ⟨opened ++ pre.map (⟨params ·, true⟩) ++
        (if d.opens then [⟨params c, true⟩] else []), rest⟩) := by
  have hv := validateShards_eq_none emptyKey key check [] (pre ++ c :: post)
  simp only [List.not_mem_nil, not_false_eq_true, and_true] at hv
  simp [connectShardsWith, hv.2 h, connectEach_fail params mk pre c post opened hd rest]

/-- A successful `ConnectShards` opened one pool per configuration after the pools already
there, and built each handle on its own pool. -/
theorem connectShardsWith_ok {cfgs : List α} {w w' : Pools} {hs : List β}
    (h : connectShardsWith emptyKey key check params mk cfgs w = (.ok hs, w')) :
    hs = cfgs.zipWith mk (List.range' w.pools.length cfgs.length) ∧
      w'.pools = w.pools ++ cfgs.map (⟨params ·, true⟩) := by
  obtain ⟨hvalid, hok⟩ :=
    (connectShardsWith_ok_iff emptyKey key check params mk cfgs w).1 ⟨hs, by rw [h]⟩
  have hv := (validateShards_eq_none emptyKey key check [] cfgs).2 (by simpa using hvalid)
  rw [connectShardsWith, hv, connectEach_ok params mk cfgs hok] at h
  cases h
  exact ⟨rfl, rfl⟩

end Loops

/-- The pool indices of handles built on consecutive pools are those pools. -/
theorem map_zipWith_range' {α β : Type} (mk : α → Nat → β) (conn : β → Nat)
    (hconn : ∀ a n, conn (mk a n) = n) :
    ∀ (cfgs : List α) (n : Nat), (cfgs.zipWith mk (List.range' n cfgs.length)).map conn =
      List.range' n cfgs.length
  | [], _ => rfl
  | c :: cfgs, n => by
    simp [List.range'_succ, hconn, map_zipWith_range' mk conn hconn cfgs (n + 1)]

/-- Closing, in any order, the pools a run of connects opened closes each of them and leaves
the pools that were there before as they were. -/
theorem foldl_close_opened (old : List Pool) (news : List String) {w : Pools}
    (hw : w.pools = old ++ news.map (⟨·, true⟩)) {ps : List Nat}
    (hps : ps.Perm (List.range' old.length news.length)) :
    (ps.foldl Pools.close w).pools = old ++ news.map (⟨·, false⟩) := by
  apply List.ext_getElem?
  intro i
  simp only [Pools.foldl_close, hw, hps.mem_iff, List.mem_range'_1]
  by_cases h₁ : i < old.length
  · simp [List.getElem?_append_left h₁, show ¬ old.length ≤ i by omega]
  · rw [List.getElem?_append_right (by omega), List.getElem?_append_right (by omega)]
    cases hn : news[i - old.length]? with
    | none => simp [hn]
    | some a =>
      have := (List.getElem?_eq_some_iff.1 hn).1
      simp [hn, show old.length ≤ i by omega, show i < old.length + news.length by omega]

/-- Closing, in any order, the handles a successful `ConnectShards` built closes every pool its
connects opened and leaves the pools that were there before as they were. -/
theorem connectShardsWith_close {α β : Type} {emptyKey : Err} {key : α → String}
    {check : α → Option Err} {params : α → String} {mk : α → Nat → β} (conn : β → Nat)
    (hconn : ∀ a n, conn (mk a n) = n) {cfgs : List α} {w w' : Pools} {hs : List β}
    (h : connectShardsWith emptyKey key check params mk cfgs w = (.ok hs, w'))
    {order : List β} (hperm : order.Perm hs) :
    (order.foldl (fun w s => w.close (conn s)) w').pools =
      w.pools ++ cfgs.map (⟨params ·, false⟩) := by
  obtain ⟨rfl, hw'⟩ := connectShardsWith_ok emptyKey key check params mk h
  have hps := hperm.map conn
  rw [map_zipWith_range' mk conn hconn] at hps
  have := foldl_close_opened w.pools (cfgs.map params) (by simpa using hw')
    (by simpa using hps)
  simpa [List.foldl_map] using this

namespace Sql

/-- `ShardConnectString`. -/
structure ShardConnectString where
  key : String
  connectionString : String
  deriving DecidableEq, Repr

/-- The parameter check of `sql.ConnectShards`. -/
def ShardConnectString.check (cs : ShardConnectString) : Option Err :=
  if cs.connectionString = "" then some (.param (.named "Connection string is empty") "key" cs.key)
  else none

theorem ShardConnectString.check_eq_none (cs : ShardConnectString) :
    cs.check = none ↔ cs.connectionString ≠ "" := by
  unfold check
  split_ifs <;> simp [*]

/-- The goroutine `conn.Close` of `Connections.Close()`, on the pools: the shard's pool is
closed; its error is what the errgroup model lets the environment choose. -/
def ShardConnect.close (s : ShardConnect) (w : Pools) : Pools := w.close s.conn

/-- `sql.ConnectShards(driverName, connectionStrings, selector, timeout, options...)`: each
pool is opened by `Connect(driverName, cs.ConnectionString, timeout, options...)`. -/
def connectShards (connectionStrings : List ShardConnectString) (selector : ConnectionSelector)
    (w : Pools) : Except Err Connections × Pools :=
  let r := connectShardsWith (.named "Connection key is empty") ShardConnectString.key
    ShardConnectString.check ShardConnectString.connectionString (fun cs conn => ⟨cs.key, conn⟩)
    connectionStrings w
  (r.1.map fun connections => ⟨connections, selector⟩, r.2)

end Sql

namespace Redis

/-- `ShardConnectConfig`; `DB` and `Password` go to the client options and are not recorded
by `Pools`, so they are left out. -/
structure ShardConnectConfig where
  key : String
  address : String
  port : Int
  conditions : List String
  deriving DecidableEq, Repr

/-- The parameter checks of `redis.ConnectShards`: the address, then the port. -/
def ShardConnectConfig.check (cs : ShardConnectConfig) : Option Err :=
  if cs.address = "" then some (.param (.named "Client address is empty") "key" cs.key)
  else if cs.port = 0 then some (.param (.named "Client port is zero") "key" cs.key)
  else none

theorem ShardConnectConfig.check_eq_none (cs : ShardConnectConfig) :
    cs.check = none ↔ cs.address ≠ "" ∧ cs.port ≠ 0 := by
  unfold check
  split_ifs <;> simp [*]

/-- The address `Connect` dials: `fmt.Sprintf("%s:%d", address, port)`. -/
def ShardConnectConfig.addr (cs : ShardConnectConfig) : String :=
  cs.address ++ ":" ++ toString cs.port

/-- The goroutine `conn.Close` of `Clients.Close()`, on the pools: the shard's client is
closed. -/
def ShardConnect.close (s : ShardConnect) (w : Pools) : Pools := w.close s.client

/-- `redis.ConnectShards(connectionStrings, selector, options...)`: each client is opened by
`Connect(cs.Address, cs.Port, cs.DB, cs.Password, options...)`. -/
def connectShards (connectionStrings : List ShardConnectConfig) (selector : ClientSelector)
    (w : Pools) : Except Err Clients × Pools :=
  let r := connectShardsWith (.named "Client key is empty") ShardConnectConfig.key
    ShardConnectConfig.check ShardConnectConfig.addr
    (fun cs client => ⟨cs.key, cs.conditions, client⟩) connectionStrings w
  (r.1.map fun clients => ⟨clients, selector⟩, r.2)

end Redis

/-- `sql.ConnectShards` and `redis.ConnectShards`, for every list of configurations, every
selector and every answer of the driver: each returns a shard set exactly when every key is
non-empty, every connection parameter is present (SQL: a non-empty connection string; Redis:
a non-empty address and a non-zero port), the keys are pairwise distinct and every connect
succeeds, with no condition on the length of the list.  A failed validation connects nothing.
When the connect after those of `pre` fails, its error is returned and no pool is closed: the
pools of `pre` are still open, and so is the failing entry's own pool when it made one. -/
theorem connectShards_outcome :
    (∀ (cfgs : List Sql.ShardConnectString) (sel : Sql.ConnectionSelector) (w : Pools),
      ((∃ s, (Sql.connectShards cfgs sel w).1 = .ok s) ↔
        ((∀ c ∈ cfgs, c.key ≠ "" ∧ c.connectionString ≠ "") ∧ (cfgs.map (·.key)).Nodup) ∧
          ∀ d ∈ w.dials.take cfgs.length, d = .ok) ∧
      (¬ ((∀ c ∈ cfgs, c.key ≠ "" ∧ c.connectionString ≠ "") ∧ (cfgs.map (·.key)).Nodup) →
        ∃ e, Sql.connectShards cfgs sel w = (.error e, w)) ∧
      ∀ pre c post opened (d : Dial) e rest, cfgs = pre ++ c :: post →
        ((∀ c ∈ cfgs, c.key ≠ "" ∧ c.connectionString ≠ "") ∧ (cfgs.map (·.key)).Nodup) →
        d.failure = some e →
        Sql.connectShards cfgs sel ⟨opened, List.replicate pre.length .ok ++ d :: rest⟩ =
          (.error e, ⟨opened ++ pre.map (⟨·.connectionString, true⟩) ++
            (if d.opens then [⟨c.connectionString, true⟩] else []), rest⟩)) ∧
    ∀ (cfgs : List Redis.ShardConnectConfig) (sel : Redis.ClientSelector) (w : Pools),
      ((∃ s, (Redis.connectShards cfgs sel w).1 = .ok s) ↔
        ((∀ c ∈ cfgs, c.key ≠ "" ∧ c.address ≠ "" ∧ c.port ≠ 0) ∧ (cfgs.map (·.key)).Nodup) ∧
          ∀ d ∈ w.dials.take cfgs.length, d = .ok) ∧
      (¬ ((∀ c ∈ cfgs, c.key ≠ "" ∧ c.address ≠ "" ∧ c.port ≠ 0) ∧ (cfgs.map (·.key)).Nodup) →
        ∃ e, Redis.connectShards cfgs sel w = (.error e, w)) ∧
      ∀ pre c post opened (d : Dial) e rest, cfgs = pre ++ c :: post →
        ((∀ c ∈ cfgs, c.key ≠ "" ∧ c.address ≠ "" ∧ c.port ≠ 0) ∧ (cfgs.map (·.key)).Nodup) →
        d.failure = some e →
        Redis.connectShards cfgs sel ⟨opened, List.replicate pre.length .ok ++ d :: rest⟩ =
          (.error e, ⟨opened ++ pre.map (⟨·.addr, true⟩) ++
            (if d.opens then [⟨c.addr, true⟩] else []), rest⟩) := by
  refine ⟨fun cfgs sel w => ⟨?_, fun h => ?_, ?_⟩, fun cfgs sel w => ⟨?_, fun h => ?_, ?_⟩⟩
  · rw [Sql.connectShards, exists_map_eq_ok, connectShardsWith_ok_iff]
    simp [Sql.ShardConnectString.check_eq_none]
  · obtain ⟨e, he⟩ := connectShardsWith_invalid (.named "Connection key is empty")
      Sql.ShardConnectString.key Sql.ShardConnectString.check
      Sql.ShardConnectString.connectionString (fun cs conn => (⟨cs.key, conn⟩ : Sql.ShardConnect))
      (by simpa [Sql.ShardConnectString.check_eq_none] using h) w
    exact ⟨e, by simp [Sql.connectShards, he, Except.map]⟩
  · rintro pre c post opened d e rest rfl hvalid hd
    simp [Sql.connectShards, Except.map, connectShardsWith_fail (.named "Connection key is empty")
      Sql.ShardConnectString.key Sql.ShardConnectString.check _ _
      (by simpa [Sql.ShardConnectString.check_eq_none] using hvalid) opened hd rest]
  · rw [Redis.connectShards, exists_map_eq_ok, connectShardsWith_ok_iff]
    simp [Redis.ShardConnectConfig.check_eq_none]
  · obtain ⟨e, he⟩ := connectShardsWith_invalid (.named "Client key is empty")
      Redis.ShardConnectConfig.key Redis.ShardConnectConfig.check Redis.ShardConnectConfig.addr
      (fun cs client => (⟨cs.key, cs.conditions, client⟩ : Redis.ShardConnect))
      (by simpa [Redis.ShardConnectConfig.check_eq_none] using h) w
    exact ⟨e, by simp [Redis.connectShards, he, Except.map]⟩
  · rintro pre c post opened d e rest rfl hvalid hd
    simp [Redis.connectShards, Except.map, connectShardsWith_fail (.named "Client key is empty")
      Redis.ShardConnectConfig.key Redis.ShardConnectConfig.check _ _
      (by simpa [Redis.ShardConnectConfig.check_eq_none] using hvalid) opened hd rest]

/-- An empty list yields an empty shard set.  Two valid entries whose second connect fails its
ping: the error is returned, and both pools, the first entry's and the failing one, stay
open. -/
theorem connectShards_empty_then_leak :
    Sql.connectShards [] (fun _ l => l.head?) ⟨[], []⟩ =
        (.ok ⟨[], fun _ l => l.head?⟩, ⟨[], []⟩) ∧
      Sql.connectShards [⟨"a", "dsn-a"⟩, ⟨"b", "dsn-b"⟩] (fun _ l => l.head?)
          ⟨[], [.ok, .pingFailed (.driver 1)]⟩ =
        (.error (.driver 1), ⟨[⟨"dsn-a", true⟩, ⟨"dsn-b", true⟩], []⟩) :=
  ⟨rfl, rfl⟩

end Storage
