import Storage.RoundTrip

/-!
# A shard set of one against the single client

Over a one-shard set whose selector always picks that shard, `sql.ClientShard` is
`sql.Client` over the shard's pool, method for method: same statement, same target, same
result (`Sql.oneShard_refines_client`).

The Redis `shardClient` over such a set does something else than `singleClient` over the
shard's client on two kinds of calls only: `MGet`, when `validateMultiple` and the context check
disagree, and the four `Eval` methods with no keys, which it does not run.  On every other call
the two send the same command to the same client and return the same error; five methods
return other values beside it (`MGet` beside an error, `GetBytes` and `GetInt` beside a miss or
an error, `HMGet` and `HScanNoValues` beside a failed validation), and every other call is the
same call (`oneShard_refines_single`).
-/

namespace Storage

namespace Sql

/-- The shard set of the one shard `r`, selected on every context. -/
def oneShard (r : ShardConnect) : Connections := ⟨[r], fun _ _ => some r⟩

theorem oneShard_refines_client (errType : String) (r : ShardConnect) (ctx : Context) (op : Op) :
    (clientShard (oneShard r)).call errType ctx op = (client r.conn).call errType ctx op :=
  rfl

end Sql

namespace Redis

/-- The shard set of the one shard `r`, selected on every context. -/
def oneShard (r : ShardConnect) : ShardClient := ⟨⟨[r], fun _ _ => some r⟩⟩

/-- Two results of a method that are the same but for the values beside an error: the same
error, and the same values when there is none. -/
def SameBesideError (a b : Returns) : Prop := a.2 = b.2 ∧ (a.2 = none → a.1 = b.1)

/-- Two calls that make the same driver interaction and, whatever the driver replies, return
results related by `R`. -/
def Call.Rel {α : Type} (R : α → α → Prop) : Call α → Call α → Prop
  | .ret a, .ret b => R a b
  | .send t cmd k, .send t' cmd' k' => t = t' ∧ cmd = cmd' ∧ ∀ r, R (k r) (k' r)
  | .pipeline c kind k, .pipeline c' kind' k' => c = c' ∧ kind = kind' ∧ ∀ n, R (k n) (k' n)
  | _, _ => False

theorem Call.Rel.refl {α : Type} {R : α → α → Prop} (hR : ∀ a, R a a) :
    ∀ c : Call α, Call.Rel R c c
  | .ret a => hR a
  | .send _ _ k => ⟨rfl, rfl, fun r => hR (k r)⟩
  | .pipeline _ _ k => ⟨rfl, rfl, fun n => hR (k n)⟩

theorem Call.Rel.map {α β : Type} {R : β → β → Prop} {f g : α → β} :
    ∀ {c c' : Call α}, Call.Rel (fun a b => R (f a) (g b)) c c' → Call.Rel R (c.map f) (c'.map g)
  | .ret _, .ret _, h => h
  | .send _ _ _, .send _ _ _, ⟨ht, hc, hk⟩ => ⟨ht, hc, hk⟩
  | .pipeline _ _ _, .pipeline _ _ _, ⟨hc, hk, hn⟩ => ⟨hc, hk, hn⟩

theorem Call.Rel.guard {α : Type} {R : α → α → Prop} (check : Option Err) {onErr onErr' : Err → α}
    {c c' : Call α} (he : ∀ e, R (onErr e) (onErr' e)) (hc : Call.Rel R c c') :
    Call.Rel R (Call.guard check onErr c) (Call.guard check onErr' c') := by
  cases check
  · exact hc
  · exact he _

theorem sameBesideError_refl (a : Returns) : SameBesideError a a := ⟨rfl, fun _ => rfl⟩

/-- Two results with the same error are the same but for the values beside it. -/
theorem sameBesideError_of_error {a b : Returns} (e : Err) (ha : a.2 = some e) (hb : b.2 = some e) :
    SameBesideError a b :=
  ⟨ha.trans hb.symm, fun h => absurd (ha.symm.trans h) (Option.some_ne_none e)⟩

theorem sameBesideError_mGetReply (r : Reply) : SameBesideError (ofOne (mGetReply r)) (ofOne r) := by
  rcases r with ⟨v, _ | e⟩ <;> simp [SameBesideError, ofOne, mGetReply]

theorem sameBesideError_notFound (key : String) (onNil onErr onNil' onErr' : Value → Value)
    (r : Reply) :
    SameBesideError (ofOne (notFound key onNil onErr r)) (ofOne (notFound key onNil' onErr' r)) := by
  rcases r with ⟨v, _ | e⟩
  · exact sameBesideError_refl _
  · by_cases he : e.Is .redisNil <;> simp [SameBesideError, ofOne, notFound, he]

/-- The calls on which a one-shard `shardClient` can return other values than a `singleClient`
beside an error: an error for `MGet`, a miss or an error for `GetBytes` and `GetInt`, a failed
validation for `HMGet` and `HScanNoValues`. -/
def Method.ValuesDiffer : Method → Prop
  | .mGet _ | .getBytes _ | .getInt _ | .hMGet _ _ | .hScanNoValues _ _ _ _ => True
  | _ => False

/-- The calls on which a one-shard `shardClient` does something else than a `singleClient`:
`MGet` when `validateMultiple` and the context check disagree, and the four `Eval` methods with
no keys, which the shard client does not run. -/
def Method.ShardDiverges (h : Helpers) (ctx : Context) : Method → Prop
  | .mGet ks => h.validateMultiple ctx ks ≠ Contextx.validate ctx
  | .eval _ ks _ | .evalSha _ ks _ | .evalRO _ ks _ | .evalShaRO _ ks _ => ks = []
  | _ => False

@[simp] theorem oneShard_send {α : Type} (r : ShardConnect) (ctx : Context) (onErr : Err → α)
    (cmd : Cmd) (k : Reply → α) :
    (oneShard r).send ctx onErr cmd k = .send (.conn r.client) cmd k := rfl

theorem oneShard_call (h : Helpers) (r : ShardConnect) (ctx : Context) {m : Method}
    (hm : ¬ m.ShardDiverges h ctx) (hv : ¬ m.ValuesDiffer) :
    (oneShard r).call h ctx m = (SingleClient.mk r.client).call h ctx m := by
  cases m <;> simp_all [Method.ShardDiverges, Method.ValuesDiffer, ShardClient.call,
    SingleClient.call, oneShard, ShardClient.onShard, Clients.get]

/-- On the five calls whose values differ, the two clients still send the same command to the
same client and return the same error, and the same values when there is none. -/
theorem oneShard_call_values (h : Helpers) (r : ShardConnect) (ctx : Context) {m : Method}
    (hm : ¬ m.ShardDiverges h ctx) (hv : m.ValuesDiffer) :
    Call.Rel SameBesideError ((oneShard r).call h ctx m) ((SingleClient.mk r.client).call h ctx m) := by
  have fail_fail (x y : Value) (e : Err) : SameBesideError (ofOne (fail x e)) (ofOne (fail y e)) :=
    sameBesideError_of_error e rfl rfl
  cases m <;> simp only [Method.ValuesDiffer] at hv <;>
    refine Call.Rel.map ?_ <;>
    simp only [ShardClient.call, SingleClient.call, ShardClient.mGet, SingleClient.mGet,
      ShardClient.getBytes, SingleClient.getBytes, ShardClient.getInt, SingleClient.getInt,
      ShardClient.hMGet, SingleClient.hMGet, ShardClient.hScanNoValues, SingleClient.hScanNoValues,
      oneShard_send, SingleClient.send]
  case mGet ks =>
    rw [show h.validateMultiple ctx ks = Contextx.validate ctx from not_not.mp hm]
    exact Call.Rel.guard _ (fail_fail _ _) ⟨rfl, rfl, sameBesideError_mGetReply⟩
  case getBytes key =>
    exact Call.Rel.guard _ (fail_fail _ _) ⟨rfl, rfl, sameBesideError_notFound key _ _ _ _⟩
  case getInt key =>
    exact Call.Rel.guard _ (fail_fail _ _) ⟨rfl, rfl, sameBesideError_notFound key _ _ _ _⟩
  case hMGet key fields =>
    split
    · exact sameBesideError_refl _
    · exact Call.Rel.guard _ (fail_fail _ _) ⟨rfl, rfl, fun _ => sameBesideError_refl _⟩
  case hScanNoValues =>
    exact Call.Rel.guard _ (fun e => sameBesideError_of_error e rfl rfl)
      ⟨rfl, rfl, fun _ => sameBesideError_refl _⟩

/-- A shard set of one, selected on every context, behaves as the single client over the shard:
for SQL on every statement method; for Redis, on every call but `MGet` with disagreeing
validations and `Eval` without keys, the two send the same command to the same client and
return the same error, and the same values when there is none; off the five calls whose values
differ beside an error, they are the same call. -/
theorem oneShard_refines_single (errType : String) (h : Helpers) (ctx : Context) :
    (∀ (r : Sql.ShardConnect) (op : Sql.Op),
      (Sql.clientShard (Sql.oneShard r)).call errType ctx op = (Sql.client r.conn).call errType ctx op) ∧
    ∀ (r : ShardConnect) (m : Method), ¬ m.ShardDiverges h ctx →
      Call.Rel SameBesideError ((oneShard r).call h ctx m) ((SingleClient.mk r.client).call h ctx m) ∧
      (¬ m.ValuesDiffer → (oneShard r).call h ctx m = (SingleClient.mk r.client).call h ctx m) := by
  refine ⟨fun r op => Sql.oneShard_refines_client errType r ctx op, fun r m hm => ?_⟩
  by_cases hv : m.ValuesDiffer
  · exact ⟨oneShard_call_values h r ctx hm hv, fun hv' => absurd hv hv'⟩
  · rw [oneShard_call h r ctx hm hv]
    exact ⟨Call.Rel.refl sameBesideError_refl _, fun _ => rfl⟩

theorem oneShard_refines_single_mGet_get :
    Call.Rel SameBesideError ((oneShard ⟨"r", [], 0⟩).call acceptAll .background (.mGet ["k"]))
        ((SingleClient.mk 0).call acceptAll .background (.mGet ["k"])) ∧
      (oneShard ⟨"r", [], 0⟩).call acceptAll .background (.get "k") =
        (SingleClient.mk 0).call acceptAll .background (.get "k") :=
  ⟨((oneShard_refines_single "sql" acceptAll .background).2 ⟨"r", [], 0⟩ (.mGet ["k"])
      fun h => h rfl).1,
    ((oneShard_refines_single "sql" acceptAll .background).2 ⟨"r", [], 0⟩ (.get "k") id).2 id⟩

/-- Where the two differ.  `Eval` with no keys: the shard client runs nothing and returns
`(nil, nil)`, while the single client sends the script.  `MGet` when `validateMultiple` rejects
keys the context check accepts: the shard client fails, the single client sends the command;
and beside a driver error the shard client drops the value the single client returns.
`GetBytes` beside a miss, and `GetInt` beside a miss or an error, return another value.  A
failed validation gives `HMGet` a nil slice instead of an empty one, and `HScanNoValues` the
given cursor instead of `0`. -/
theorem oneShard_eval_without_keys :
    (oneShard ⟨"r", [], 0⟩).call acceptAll .background (.eval "return 1" [] []) =
        .ret ([.nil], none) ∧
      ((SingleClient.mk 0).call acceptAll .background (.eval "return 1" [] [])).sent =
        some (.conn 0, ⟨"Eval", [.str "return 1", .strs []], .result⟩) ∧
      (oneShard ⟨"r", [], 0⟩).call ⟨fun _ _ => none, fun _ _ => some (.user 1), fun _ _ => none⟩
          .background (.mGet ["k"]) = .ret ([.nil], some (.user 1)) ∧
      ((SingleClient.mk 0).call ⟨fun _ _ => none, fun _ _ => some (.user 1), fun _ _ => none⟩
          .background (.mGet ["k"])).sent = some (.conn 0, ⟨"MGet", [.strs ["k"]], .result⟩) ∧
      (((oneShard ⟨"r", [], 0⟩).call acceptAll .background (.mGet ["k"])).run
          (fun _ _ _ => (.strs ["v"], some (.driver 1))) ⟨[], [], []⟩).1 =
        ([.nil], some (.driver 1)) ∧
      (((SingleClient.mk 0).call acceptAll .background (.mGet ["k"])).run
          (fun _ _ _ => (.strs ["v"], some (.driver 1))) ⟨[], [], []⟩).1 =
        ([.strs ["v"]], some (.driver 1)) ∧
      (((oneShard ⟨"r", [], 0⟩).call acceptAll .background (.getBytes "k")).run
          (fun _ _ _ => (.str "v", some .redisNil)) ⟨[], [], []⟩).1.1 = [.nil] ∧
      (((SingleClient.mk 0).call acceptAll .background (.getBytes "k")).run
          (fun _ _ _ => (.str "v", some .redisNil)) ⟨[], [], []⟩).1.1 = [.str "v"] ∧
      (((oneShard ⟨"r", [], 0⟩).call acceptAll .background (.getInt "k")).run
          (fun _ _ _ => (.int 7, some (.driver 1))) ⟨[], [], []⟩).1 = ([.int 0], some (.driver 1)) ∧
      (((SingleClient.mk 0).call acceptAll .background (.getInt "k")).run
          (fun _ _ _ => (.int 7, some (.driver 1))) ⟨[], [], []⟩).1 = ([.int 7], some (.driver 1)) ∧
      (oneShard ⟨"r", [], 0⟩).call ⟨fun _ _ => some (.user 1), fun _ _ => none, fun _ _ => none⟩
          .background (.hMGet "k" ["f"]) = .ret ([.nil], some (.user 1)) ∧
      (SingleClient.mk 0).call ⟨fun _ _ => some (.user 1), fun _ _ => none, fun _ _ => none⟩
          .background (.hMGet "k" ["f"]) = .ret ([.strs []], some (.user 1)) ∧
      (oneShard ⟨"r", [], 0⟩).call ⟨fun _ _ => some (.user 1), fun _ _ => none, fun _ _ => none⟩
          .background (.hScanNoValues "k" 5 "*" 10) = .ret ([.nil, .int 5], some (.user 1)) ∧
      (SingleClient.mk 0).call ⟨fun _ _ => some (.user 1), fun _ _ => none, fun _ _ => none⟩
          .background (.hScanNoValues "k" 5 "*" 10) = .ret ([.nil, .int 0], some (.user 1)) :=
  ⟨rfl, rfl, rfl, rfl, rfl, rfl, rfl, rfl, rfl, rfl, rfl, rfl, rfl, rfl⟩

end Redis

end Storage
