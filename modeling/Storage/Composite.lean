import Storage.Transactor

/-!
# Composite transactions

`storage.NewTransactor(ts...)` begins its children one after the other.  `BeginCtx` threads the
context through them, so each child's `SetTx` lands on the context the previous child returned;
`Begin` hands every child the caller's context and keeps the children's transactions in a list,
and the composite transaction's `Context()` is nil.

What one leaf's begin does to the backend is said once (`World.OpensOne`): on success it opens
the next handle, on failure none.  From it, by induction over the transactor tree, a successful
`BeginCtx` opens one transaction per leaf, in leaf order, and returns the caller's context with
each leaf's `SetTx` applied in that order (`beginsCtx`); a failing one stops at the failing child,
and what the children before it opened stays open (`beginCtxAll_error`).

Two leaves of one kind store under one key, so only the last one's transaction stays reachable:
the trees whose leaves all have different kinds are those in which every leaf finds its own.
-/

namespace Storage

namespace World

/-- `w'` is `w` with `n` more handles, all of them open. -/
def Opens (w w' : World) (n : Nat) : Prop :=
  ∃ opened : List Handle, w'.handles = w.handles ++ opened ∧ opened.length = n ∧
    ∀ x ∈ opened, x.status = .active

theorem Opens.of_handles_eq {w w' : World} (h : w'.handles = w.handles) : w.Opens w' 0 :=
  ⟨[], by simp [h], rfl, by simp⟩

theorem Opens.trans {w w₁ w₂ : World} {a b : Nat} (h₁ : w.Opens w₁ a) (h₂ : w₁.Opens w₂ b) :
    w.Opens w₂ (a + b) := by
  obtain ⟨o₁, e₁, l₁, s₁⟩ := h₁
  obtain ⟨o₂, e₂, l₂, s₂⟩ := h₂
  refine ⟨o₁ ++ o₂, by simp [e₁, e₂], by simp [l₁, l₂], fun x hx => ?_⟩
  rcases List.mem_append.1 hx with hx | hx
  exacts [s₁ x hx, s₂ x hx]

theorem Opens.length_eq {w w' : World} {n : Nat} (h : w.Opens w' n) :
    w'.handles.length = w.handles.length + n := by
  obtain ⟨o, e, l, -⟩ := h
  simp [e, l]

/-- The handles a world opened are open in it. -/
theorem Opens.isActive {w w' : World} {n i : Nat} (h : w.Opens w' n)
    (hi : w.handles.length ≤ i ∧ i < w.handles.length + n) : w'.IsActive i := by
  obtain ⟨o, e, l, s⟩ := h
  have hlt : i - w.handles.length < o.length := by omega
  exact ⟨o[i - w.handles.length], by
    rw [e, List.getElem?_append_right hi.1, List.getElem?_eq_getElem hlt], s _ (List.getElem_mem hlt)⟩

/-- What opening one transaction or pipeline does: on success the new handle is the next one,
open; on failure there is no new handle. -/
def OpensOne (w : World) : Except Err Nat × World → Prop
  | (.ok tx, w') => tx = w.handles.length ∧ w.Opens w' 1
  | (.error _, w') => w'.handles = w.handles

theorem beginTxx_opensOne (w : World) (conn : Nat) : w.OpensOne (w.beginTxx conn) := by
  unfold beginTxx
  split
  · exact rfl
  · exact ⟨rfl, [_], rfl, rfl, by simp⟩

theorem pipeline_opens (w : World) (conn : Nat) (kind : HandleKind) :
    w.Opens (w.pipeline conn kind).2 1 :=
  ⟨[_], rfl, rfl, by simp⟩

end World

theorem SqlProvider.beginTxx_opensOne (p : SqlProvider) (ctx : Context) (w : World) :
    w.OpensOne (p.beginTxx ctx w) := by
  cases p with
  | db conn => exact w.beginTxx_opensOne conn
  | connections c =>
    simp only [SqlProvider.beginTxx, Sql.Connections.beginTxx]
    split
    · exact rfl
    · exact w.beginTxx_opensOne _

theorem Redis.Client.txPipeline_opensOne (p : Redis.Client) (ctx : Context) (w : World) :
    w.OpensOne ((p.txPipeline ctx).run noReply w) := by
  cases p with
  | single c =>
    simp only [Redis.Client.txPipeline, Redis.SingleClient.txPipeline]
    cases Contextx.validate ctx
    · exact ⟨rfl, w.pipeline_opens _ _⟩
    · exact rfl
  | shard c =>
    simp only [Redis.Client.txPipeline, Redis.ShardClient.txPipeline, Redis.ShardClient.onShard]
    cases Contextx.validate ctx
    · split
      · exact rfl
      · exact ⟨rfl, w.pipeline_opens _ _⟩
    · exact rfl

namespace Transactor

@[simp] theorem kinds_composite (ts : List Transactor) :
    (composite ts).kinds = kinds.kindsAll ts := rfl

@[simp] theorem kindsAll_nil : kinds.kindsAll [] = [] := rfl

@[simp] theorem kindsAll_cons (t : Transactor) (ts : List Transactor) :
    kinds.kindsAll (t :: ts) = t.kinds ++ kinds.kindsAll ts := rfl

/-- The transactions a successful `BeginCtx` opens from the handle `n` on, each with its leaf's
kind, in leaf order. -/
def opened (t : Transactor) (n : Nat) : List (TxKind × Nat) :=
  t.kinds.zip (List.range' n t.kinds.length)

theorem map_fst_opened (t : Transactor) (n : Nat) : (t.opened n).map Prod.fst = t.kinds :=
  List.map_fst_zip _ _ (by simp)

theorem opened_composite_cons (t : Transactor) (ts : List Transactor) (n : Nat) :
    (composite (t :: ts)).opened n = t.opened n ++ (composite ts).opened (n + t.kinds.length) := by
  simp only [opened, kinds_composite, kindsAll_cons, List.length_append]
  rw [Nat.add_comm t.kinds.length, ← List.range'_append_1 n t.kinds.length,
    List.zip_append (by simp)]

/-- What a begin does to the backend: on success one new open handle per leaf of the tree, on
failure some new open handles and nothing else. -/
def Begins {β : Type} (n : Nat) (w : World) : Except Err β × World → Prop
  | (.ok _, w') => w.Opens w' n
  | (.error _, w') => ∃ m, w.Opens w' m

/-- What `BeginCtx(ctx)` returns besides: on success `ctx` with every leaf's `SetTx` applied, in
leaf order. -/
def BeginsCtx (t : Transactor) (ctx : Context) (w : World) : Except Err Context × World → Prop
  | (.ok ctx', w') => ctx' = setTxAll ctx (t.opened w.handles.length) ∧ w.Opens w' t.kinds.length
  | (.error _, w') => ∃ m, w.Opens w' m

/-- A leaf's `BeginCtx`, from what opening its one handle does. -/
theorem beginsCtx_of_opensOne {t : Transactor} {k : TxKind} (hk : t.kinds = [k]) {ctx : Context}
    {w : World} {r : Except Err Nat × World} (h : w.OpensOne r) (f : Err → Err) :
    t.BeginsCtx ctx w ((fun r : Except Err Nat × World => match r with
      | (.error e, w') => (.error (f e), w')
      | (.ok tx, w') => (.ok (k.setTx ctx tx), w')) r) := by
  rcases r with ⟨_ | tx, w'⟩
  · exact ⟨0, .of_handles_eq h⟩
  · obtain ⟨rfl, h⟩ := h
    exact ⟨by simp [opened, hk, setTxAll], by simpa [hk] using h⟩

/-- A leaf's `Begin`, from what opening its one handle does. -/
theorem begins_of_opensOne {β : Type} {w : World} {r : Except Err Nat × World}
    (h : w.OpensOne r) (f : Err → Err) (g : Nat → β) :
    Begins 1 w ((fun r : Except Err Nat × World => match r with
      | (.error e, w') => (.error (f e), w')
      | (.ok tx, w') => (.ok (g tx), w')) r) := by
  rcases r with ⟨_ | tx, w'⟩
  · exact ⟨0, .of_handles_eq h⟩
  · exact h.2

mutual

theorem beginsCtx : ∀ (t : Transactor) (ctx : Context) (w : World),
    t.BeginsCtx ctx w (t.beginCtx ctx w)
  | .sql p, ctx, w =>
    beginsCtx_of_opensOne (show (sql p).kinds = [.sql] from rfl) (p.beginTxx_opensOne ctx w)
      errTransactorBegin
  | .redis p, ctx, w =>
    beginsCtx_of_opensOne (show (redis p).kinds = [.redis] from rfl)
      (p.txPipeline_opensOne ctx w) id
  | .composite ts, ctx, w => beginsCtxAll ts ctx w

theorem beginsCtxAll : ∀ (ts : List Transactor) (ctx : Context) (w : World),
    (composite ts).BeginsCtx ctx w (beginCtx.beginCtxAll ts ctx w)
  | [], ctx, w => ⟨rfl, .of_handles_eq rfl⟩
  | t :: ts, ctx, w => by
    have h₁ := beginsCtx t ctx w
    simp only [beginCtx.beginCtxAll]
    split <;> rename_i heq <;> rw [heq] at h₁
    · exact h₁
    · rename_i ctx₁ w₁
      have h₂ := beginsCtxAll ts ctx₁ w₁
      obtain ⟨rfl, o₁⟩ := h₁
      rcases hr : beginCtx.beginCtxAll ts _ w₁ with ⟨_ | ctx₂, w₂⟩ <;> rw [hr] at h₂
      · obtain ⟨m, o₂⟩ := h₂
        exact ⟨_, o₁.trans o₂⟩
      · obtain ⟨rfl, o₂⟩ := h₂
        refine ⟨?_, by simpa using o₁.trans o₂⟩
        rw [opened_composite_cons, setTxAll_append, o₁.length_eq]

end

/-- A successful `BeginCtx`: `SetTx` of every leaf's new transaction, all of them open. -/
theorem beginCtx_ok {t : Transactor} {ctx ctx' : Context} {w w' : World}
    (h : t.beginCtx ctx w = (.ok ctx', w')) :
    ctx' = setTxAll ctx (t.opened w.handles.length) ∧ w.Opens w' t.kinds.length := by
  have hb := beginsCtx t ctx w
  rwa [h] at hb

mutual

theorem begins : ∀ (t : Transactor) (ctx : Context) (w : World),
    Begins t.kinds.length w (t.begin ctx w)
  | .sql p, ctx, w =>
    begins_of_opensOne (p.beginTxx_opensOne ctx w) errTransactorBegin (Transaction.sql · ctx)
  | .redis p, ctx, w =>
    begins_of_opensOne (p.txPipeline_opensOne ctx w) id (Transaction.redis · ctx)
  | .composite ts, ctx, w => by
    have h := beginsAll ts ctx w
    simp only [begin]
    split <;> rename_i heq <;> rw [heq] at h <;> exact h

theorem beginsAll : ∀ (ts : List Transactor) (ctx : Context) (w : World),
    Begins (composite ts).kinds.length w (begin.beginAll ts ctx w)
  | [], ctx, w => .of_handles_eq rfl
  | t :: ts, ctx, w => by
    have h₁ := begins t ctx w
    simp only [begin.beginAll]
    split <;> rename_i heq <;> rw [heq] at h₁
    · exact h₁
    · rename_i w₁
      have h₂ := beginsAll ts ctx w₁
      split <;> rename_i heq₂ <;> rw [heq₂] at h₂
      · obtain ⟨m, o₂⟩ := h₂
        exact ⟨_, h₁.trans o₂⟩
      · simpa using h₁.trans h₂

end

/-- A failing composite `BeginCtx` fails at one child: the children before it began, the
child's own error is returned, and the world is the one the child left, so no later child
began. -/
theorem beginCtxAll_error {ts : List Transactor} {ctx : Context} {w w' : World} {e : Err}
    (h : beginCtx.beginCtxAll ts ctx w = (.error e, w')) :
    ∃ pre t post ctx₁ w₁, ts = pre ++ t :: post ∧
      beginCtx.beginCtxAll pre ctx w = (.ok ctx₁, w₁) ∧ t.beginCtx ctx₁ w₁ = (.error e, w') := by
  induction ts generalizing ctx w with
  | nil => cases h
  | cons t ts ih =>
    simp only [beginCtx.beginCtxAll] at h
    split at h
    · rename_i heq
      exact ⟨[], t, ts, ctx, w, rfl, rfl, heq.trans h⟩
    · rename_i ctx₁ w₁ heq
      obtain ⟨pre, t', post, ctx₂, w₂, rfl, h₁, h₂⟩ := ih h
      exact ⟨t :: pre, t', post, ctx₂, w₂, rfl, by simp [beginCtx.beginCtxAll, heq, h₁], h₂⟩

/-- The same for `Begin`, where every child begins on the caller's context. -/
theorem beginAll_error {ts : List Transactor} {ctx : Context} {w w' : World} {e : Err}
    (h : begin.beginAll ts ctx w = (.error e, w')) :
    ∃ pre t post txs w₁, ts = pre ++ t :: post ∧
      begin.beginAll pre ctx w = (.ok txs, w₁) ∧ t.begin ctx w₁ = (.error e, w') := by
  induction ts generalizing w with
  | nil => cases h
  | cons t ts ih =>
    simp only [begin.beginAll] at h
    split at h
    · rename_i heq
      simp only [Prod.mk.injEq, Except.error.injEq] at h
      obtain ⟨rfl, rfl⟩ := h
      exact ⟨[], t, ts, [], w, rfl, rfl, heq⟩
    · rename_i tx w₁ heq
      split at h
      · rename_i heq₂
        obtain ⟨pre, t', post, txs, w₂, rfl, h₁, h₂⟩ := ih (heq₂.trans h)
        exact ⟨t :: pre, t', post, tx :: txs, w₂, rfl, by simp [begin.beginAll, heq, h₁], h₂⟩
      · cases h

/-! ## Lookups -/

@[simp] theorem isTx_none : ∀ t : Transactor, t.isTx none = false
  | .sql _ | .redis _ => rfl
  | .composite ts => anyTx_none ts
where
  anyTx_none : ∀ ts : List Transactor, isTx.anyTx ts none = false
    | [] => rfl
    | t :: ts => by simp [isTx.anyTx, isTx_none t, anyTx_none ts]

/-- `IsTx` on a context: whether some leaf's `GetTx` finds a transaction. -/
theorem isTx_some : ∀ (t : Transactor) (ctx : Context),
    t.isTx (some ctx) = t.kinds.any fun k => (k.getTx ctx).isSome
  | .sql _, _ | .redis _, _ => by simp [isTx, kinds, Sql.getTx, Redis.getTx]
  | .composite ts, ctx => anyTx_some ts ctx
where
  anyTx_some : ∀ (ts : List Transactor) (ctx : Context),
      isTx.anyTx ts (some ctx) = (kinds.kindsAll ts).any fun k => (k.getTx ctx).isSome
    | [], _ => rfl
    | t :: ts, ctx => by simp [isTx.anyTx, isTx_some t, anyTx_some ts]

/-- The transactions `CommitCtx(ctx)` and `RollbackCtx(ctx)` finish, one entry per driver call:
a leaf finishes what its own `GetTx` finds on `ctx`, and a composite's fan-out runs every child
once. -/
def finishes : Transactor → Context → List Nat
  | .sql _, ctx => (Sql.getTx ctx).toList
  | .redis _, ctx => (Redis.getTx ctx).toList
  | .composite ts, ctx => finishesAll ts ctx
where
  /-- The children's, in order. -/
  finishesAll : List Transactor → Context → List Nat
    | [], _ => []
    | t :: ts, ctx => t.finishes ctx ++ finishesAll ts ctx

theorem finishes_eq : ∀ (t : Transactor) (ctx : Context),
    t.finishes ctx = t.kinds.filterMap (·.getTx ctx)
  | .sql _, ctx => by
    simp only [finishes, kinds, Sql.getTx, List.filterMap_cons, List.filterMap_nil]
    cases TxKind.sql.getTx ctx <;> rfl
  | .redis _, ctx => by
    simp only [finishes, kinds, Redis.getTx, List.filterMap_cons, List.filterMap_nil]
    cases TxKind.redis.getTx ctx <;> rfl
  | .composite ts, ctx => finishesAll_eq ts ctx
where
  finishesAll_eq : ∀ (ts : List Transactor) (ctx : Context),
      finishes.finishesAll ts ctx = (kinds.kindsAll ts).filterMap (·.getTx ctx)
    | [], _ => rfl
    | t :: ts, ctx => by
      simp [finishes.finishesAll, finishes_eq t, finishesAll_eq ts, List.filterMap_append]

/-! ## `Begin` against `BeginCtx` -/

/-- A composite's `Begin` returns a transaction whose `Context()` is nil, on which `IsTx` is
false, while its `BeginCtx` returns a context on which `IsTx` is true as soon as the tree has a
leaf. -/
theorem composite_begin_context_nil (ts : List Transactor) (ctx : Context) (w : World) :
    (∀ T w', (composite ts).begin ctx w = (.ok T, w') →
      T.context = none ∧ (composite ts).isTx T.context = false) ∧
    (∀ ctx' w', (composite ts).beginCtx ctx w = (.ok ctx', w') →
      (composite ts).kinds ≠ [] → (composite ts).isTx (some ctx') = true) := by
  refine ⟨fun T w' h => ?_, fun ctx' w' h hne => ?_⟩
  · simp only [begin] at h
    split at h
    · cases h
    · cases h
      exact ⟨rfl, isTx_none _⟩
  · obtain ⟨k, hk⟩ := List.exists_mem_of_ne_nil _ hne
    rw [isTx_some, (beginCtx_ok h).1, List.any_eq_true]
    exact ⟨k, hk, getTx_setTxAll_isSome ctx (by rwa [map_fst_opened])⟩

theorem composite_begin_context_nil_one :
    (Transaction.composite [.sql 0 .background]).context = none ∧
      (composite [sql (.db 0)]).isTx (some (Sql.setTx .background 0)) = true :=
  have h := composite_begin_context_nil [sql (.db 0)] .background ⟨[], [], []⟩
  ⟨(h.1 _ ⟨[⟨.sqlTx, 0, [], .active⟩], [], []⟩ rfl).1,
    h.2 _ ⟨[⟨.sqlTx, 0, [], .active⟩], [], []⟩ rfl (by decide)⟩

/-! ## A failing composite begin -/

/-- How a composite `BeginCtx` fails with `e`, ending in `w'`: the children split as
`pre ++ t :: post`, `pre` began, `t` failed with `e` leaving `w'`, so no child after `t` began,
and every handle opened on the way, `pre`'s included, is still open. -/
def FailsAtCtx (ts : List Transactor) (ctx : Context) (w : World) (e : Err) (w' : World) :
    Prop :=
  ∃ pre t post ctx₁ w₁, ts = pre ++ t :: post ∧
    (composite pre).beginCtx ctx w = (.ok ctx₁, w₁) ∧ t.beginCtx ctx₁ w₁ = (.error e, w') ∧
    ∃ m, w.Opens w' ((composite pre).kinds.length + m)

/-- The same for `Begin`. -/
def FailsAt (ts : List Transactor) (ctx : Context) (w : World) (e : Err) (w' : World) : Prop :=
  ∃ pre t post txs w₁, ts = pre ++ t :: post ∧
    (composite pre).begin ctx w = (.ok (.composite txs), w₁) ∧ t.begin ctx w₁ = (.error e, w') ∧
    ∃ m, w.Opens w' ((composite pre).kinds.length + m)

/-- A failing composite `Begin` or `BeginCtx` returns the failing child's error and begins no
later child, and it rolls nothing back: the transactions the earlier children opened stay open
in the backend. -/
theorem composite_begin_failure_leaves_open (ts : List Transactor) (ctx : Context)
    (w w' : World) (e : Err) :
    ((composite ts).beginCtx ctx w = (.error e, w') → FailsAtCtx ts ctx w e w') ∧
      ((composite ts).begin ctx w = (.error e, w') → FailsAt ts ctx w e w') := by
  constructor
  · intro h
    obtain ⟨pre, t, post, ctx₁, w₁, rfl, h₁, h₂⟩ := beginCtxAll_error h
    obtain ⟨m, o₂⟩ : ∃ m, w₁.Opens w' m := (congrArg (t.BeginsCtx ctx₁ w₁) h₂).mp (beginsCtx ..)
    have o₁ := (beginCtx_ok (show (composite pre).beginCtx ctx w = _ from h₁)).2
    exact ⟨pre, t, post, ctx₁, w₁, rfl, h₁, h₂, m, o₁.trans o₂⟩
  · intro h
    simp only [begin] at h
    split at h
    · rename_i heq
      cases h
      obtain ⟨pre, t, post, txs, w₁, rfl, h₁, h₂⟩ := beginAll_error heq
      have hpre : (composite pre).begin ctx w = (.ok (.composite txs), w₁) := by
        simp [begin, h₁]
      have o₁ : w.Opens w₁ (composite pre).kinds.length :=
        (congrArg (Begins _ w) hpre).mp (begins ..)
      obtain ⟨m, o₂⟩ : ∃ m, w₁.Opens w' m := (congrArg (Begins _ w₁) h₂).mp (begins ..)
      exact ⟨pre, t, post, txs, w₁, rfl, hpre, h₂, m, o₁.trans o₂⟩
    · cases h

theorem composite_begin_failure_at_second :
    FailsAtCtx [sql (.db 0), sql (.db 1)] .background ⟨[], [], [none, some (.driver 7)]⟩
      (errTransactorBegin (.driver 7)) ⟨[⟨.sqlTx, 0, [], .active⟩], [], []⟩ :=
  (composite_begin_failure_leaves_open _ _ _ _ _).1 rfl

/-- The second of two sql children is refused: `BeginCtx` returns its error, and the first
child's transaction is still open, not rolled back. -/
theorem composite_beginCtx_failure_keeps_first :
    (composite [sql (.db 0), sql (.db 1)]).beginCtx .background
        ⟨[], [], [none, some (.driver 7)]⟩ =
      (.error (errTransactorBegin (.driver 7)), ⟨[⟨.sqlTx, 0, [], .active⟩], [], []⟩) :=
  rfl

/-! ## `RewriteTx` with a transactor's key -/

/-- A leaf of kind `k`, or a composite whose only child is one. -/
inductive SingleLeaf : Transactor → TxKind → Prop
  | sql (p : SqlProvider) : SingleLeaf (.sql p) .sql
  | redis (p : Redis.Client) : SingleLeaf (.redis p) .redis
  | composite {t : Transactor} {k : TxKind} : SingleLeaf t k → SingleLeaf (.composite [t]) k

theorem SingleLeaf.key_eq {t : Transactor} {k : TxKind} (h : SingleLeaf t k) :
    t.key = k.transactionKey := by
  induction h with
  | sql | redis => rfl
  | composite _ ih => simpa [key, key.keys, String.intercalate, String.intercalate.go] using ih

theorem SingleLeaf.isTx_eq {t : Transactor} {k : TxKind} (h : SingleLeaf t k) (ctx : Context) :
    t.isTx (some ctx) = (k.getTx ctx).isSome := by
  induction h with
  | sql | redis => rfl
  | composite _ ih => simpa [isTx, isTx.anyTx] using ih

/-- For a leaf, or a chain of one-child composites over one, `RewriteTx(t.Key(), o, c)` is in a
transaction iff `o` or `c` is, and carries `o`'s transaction when `o` has one, provided `o`
holds nothing or a transaction of the leaf's kind under the key. -/
theorem rewriteTx_single_leaf {t : Transactor} {k : TxKind} (ht : SingleLeaf t k)
    (o c : Context) (ho : o.value k.transactionKey = .nil ∨ (k.getTx o).isSome) :
    t.isTx (some (rewriteTx t.key o c)) = (t.isTx (some o) || t.isTx (some c)) ∧
      (t.isTx (some o) = true → k.getTx (rewriteTx t.key o c) = k.getTx o) := by
  have hval := value_rewriteTx k.transactionKey k.transactionKey o c
  simp only [ht.isTx_eq, ht.key_eq, TxKind.getTx, true_and] at hval ⊢
  by_cases hn : o.value k.transactionKey = .nil
  · simp [hval, hn]
  · have hs : (k.unbox (o.value k.transactionKey)).isSome := by simpa [TxKind.getTx, hn] using ho
    simp [hval, hn, hs]

theorem rewriteTx_single_leaf_sql :
    (composite [sql (.db 0)]).isTx
        (some (rewriteTx (composite [sql (.db 0)]).key (Sql.setTx .background 3) .background)) =
      true ∧
      Sql.getTx (rewriteTx (composite [sql (.db 0)]).key (Sql.setTx .background 3) .background) =
        some 3 :=
  have h := rewriteTx_single_leaf (.composite (.sql (.db 0))) (Sql.setTx .background 3)
    .background (.inr rfl)
  ⟨h.1.trans rfl, h.2 rfl⟩

/-- Where the lemma above stops.  Under the key of a sql leaf, `o` holds a string and no
transaction: `RewriteTx` copies it over `c`'s transaction, and the copy is not in a
transaction although `c` is.  With two children, the key is the two keys joined by a comma,
under which nothing is stored, so `RewriteTx` copies nothing and the copy is not in a
transaction although the original is. -/
theorem rewriteTx_outside_single_leaf :
    (sql (.db 0)).isTx (some (.withValue .background TxKind.sql.transactionKey (.str "x"))) =
        false ∧
      (sql (.db 0)).isTx (some (Sql.setTx .background 3)) = true ∧
      (sql (.db 0)).isTx (some (rewriteTx (sql (.db 0)).key
        (.withValue .background TxKind.sql.transactionKey (.str "x")) (Sql.setTx .background 3))) =
        false ∧
      (composite [sql (.db 0), redis (.single ⟨0⟩)]).isTx (some (Sql.setTx .background 0)) =
        true ∧
      (composite [sql (.db 0), redis (.single ⟨0⟩)]).isTx
        (some (rewriteTx (composite [sql (.db 0), redis (.single ⟨0⟩)]).key
          (Sql.setTx .background 0) .background)) = false := by
  decide

end Transactor

end Storage
