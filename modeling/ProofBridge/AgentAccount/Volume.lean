import ProofBridge.AgentAccount.Model
import ProofBridge.Lib.Tank

/-!
# How much agents can lock

Every lock an agent authorizes is charged to its own bucket and to the account's. Read as tanks, the
two can only lose what is locked, so what is locked over any stretch of time is bounded by what was
available at its start and by what flowed in since.
-/

namespace ProofBridge
namespace AgentAccount

open ContractLib Finset

variable {Y : Type} {N : Neighbors Y} {H : AccountHost} {env : Env} {c c' c₁ c₂ : Chain Y}
  {token : BytesN32} {agentId : BytesN32} {p p' : AgentPolicy}

/-! ## What is available -/

/-- What the account's bucket of a token has left. -/
def State.level (s : State) (token : BytesN32) (t : ℕ) : ℕ :=
  match s.volumes.get? token with
  | some v => available v.limit v.bucket t
  | none => 0

/-- What a policy's bucket of a token has left; a bucket never spent from is full. -/
def AgentPolicy.level (p : AgentPolicy) (token : BytesN32) (t : ℕ) : ℕ :=
  match limitFor p token with
  | some row => available row.rate ((bucketFor p token).getD (Bucket.full row.rate 0)) t
  | none => 0

def AgentPolicy.refill (p : AgentPolicy) (token : BytesN32) : ℕ :=
  match limitFor p token with
  | some row => row.rate.refillPerSecond.toNat
  | none => 0

/-- An agent's level: of the policy it has. -/
def State.agentLevel (s : State) (agentId token : BytesN32) (t : ℕ) : ℕ :=
  match s.policies.get? agentId with
  | some p => p.level token t
  | none => 0

def State.agentRefill (s : State) (agentId token : BytesN32) : ℕ :=
  match s.policies.get? agentId with
  | some p => p.refill token
  | none => 0

def State.limit (s : State) (token : BytesN32) : Option Limit :=
  (s.volumes.get? token).map AccountVolume.limit

def refillOf (limit : Option Limit) : ℕ :=
  match limit with
  | some l => l.refillPerSecond.toNat
  | none => 0

theorem AgentPolicy.level_grows {t t' : ℕ} (ht : t ≤ t') :
    p.level token t' ≤ p.level token t + p.refill token * (t' - t) := by
  unfold AgentPolicy.level AgentPolicy.refill
  cases limitFor p token with
  | some row => exact available_grows ht
  | none => exact Nat.zero_le _

/-- The account's bucket of a token. -/
def accountTank (token : BytesN32) : Tank State where
  level s := s.level token
  rate s := refillOf (s.limit token)
  grows s t t' ht := by
    unfold State.level State.limit refillOf
    cases s.volumes.get? token with
    | some v => exact available_grows ht
    | none => exact Nat.zero_le _

/-- An agent's own bucket of a token. -/
def agentTank (agentId token : BytesN32) : Tank State where
  level s := s.agentLevel agentId token
  rate s := s.agentRefill agentId token
  grows s t t' ht := by
    unfold State.agentLevel State.agentRefill
    cases s.policies.get? agentId with
    | some p => exact AgentPolicy.level_grows ht
    | none => exact Nat.zero_le _

/-! ## What a lock takes -/

/-- The ad-chain amount of the lock a context asks for, where it is of this token. -/
def lockOf (token : BytesN32) : Context → ℕ
  | .contract c =>
    match decodeLock c.args with
    | .ok lock =>
      if lock.adChainToken = token then
        match scaleLock lock.amount lock.orderDecimals lock.adDecimals with
        | .ok amount => amount
        | .error _ => 0
      else 0
    | .error _ => 0
  | .other => 0

/-- The locks of every context of one authorization. -/
def lockedIn (token : BytesN32) (contexts : List Context) : ℕ := (contexts.map (lockOf token)).sum

theorem find_putRow {token' : BytesN32} {bucket : Bucket} {rows : List TokenBucket} :
    ((putRow token bucket rows).find? fun b => b.token = token').map TokenBucket.bucket
      = if token' = token then some bucket
        else (rows.find? fun b => b.token = token').map TokenBucket.bucket := by
  induction rows with
  | nil =>
    unfold putRow
    by_cases htoken : token' = token
    · simp [htoken]
    · simp [htoken, Ne.symm htoken]
  | cons b rows ih =>
    unfold putRow
    by_cases hhead : b.token = token
    · rw [if_pos hhead]
      by_cases htoken : token' = token
      · simp [htoken]
      · simp [htoken, hhead, Ne.symm htoken]
    · rw [if_neg hhead, List.find?_cons]
      by_cases htoken : b.token = token'
      · have hne : token' ≠ token := htoken ▸ hhead
        simp [htoken, hne]
      · simp only [htoken, decide_false, List.find?_cons]
        exact ih

theorem bucketFor_putBucket {token' : BytesN32} {bucket : Bucket} :
    bucketFor (putBucket p token bucket) token'
      = if token' = token then some bucket else bucketFor p token' :=
  find_putRow

/-- What a lock leaves: the policy's bucket and the account's, both charged the same amount. -/
structure Locked (env : Env) (c : Chain Y) (p : AgentPolicy) (ctx : Context) (c' : Chain Y)
    (p' : AgentPolicy) : Prop where
  agent : ∀ token, p'.level token env.now + lockOf token ctx = p.level token env.now
  account : ∀ token, c'.state.level token env.now + lockOf token ctx = c.state.level token env.now
  rows : p'.adTokens = p.adTokens
  limits : ∀ token, c'.state.limit token = c.state.limit token
  policies : c'.state.policies = c.state.policies

theorem checkContractCall_ok {targets : List Address} {ctx : ContractContext}
    (ok : checkContractCall H env targets p ctx c = .ok (p', c')) :
    Locked env c p (.contract ctx) c' p' := by
  simp only [checkContractCall, spendVolume, Tx.bind_require_ok, Tx.bind_lift_ok, Tx.bind_expect_ok,
    Tx.bind_read_ok, Tx.bind_modify_ok, Tx.pure_ok, Prod.mk.injEq] at ok
  obtain ⟨-, -, lock, hdecode, -, -, row, hrow, -, -, amount, hscale, -, -, v, hv, agentBucket,
    hagent, accountBucket, haccount, rfl, rfl⟩ := ok
  have hlock : ∀ token, lockOf token (.contract ctx)
      = if lock.adChainToken = token then amount else 0 := by
    intro token
    unfold lockOf
    simp only [hdecode, hscale]
  have hfull : available row.rate
      ((bucketFor p lock.adChainToken).getD (Bucket.full row.rate env.timestamp)) env.now
      = available row.rate
        ((bucketFor p lock.adChainToken).getD (Bucket.full row.rate 0)) env.now := by
    cases bucketFor p lock.adChainToken with
    | some b => rfl
    | none => exact available_full.trans available_full.symm
  refine ⟨?_, ?_, rfl, ?_, rfl⟩
  · intro token
    rw [hlock]
    unfold AgentPolicy.level
    rw [show limitFor (putBucket p lock.adChainToken agentBucket) token = limitFor p token from rfl,
      bucketFor_putBucket]
    by_cases htoken : token = lock.adChainToken
    · subst htoken
      rw [hrow, if_pos rfl, if_pos rfl]
      have hspent := available_trySpend hagent
      exact hspent.trans hfull
    · rw [if_neg htoken, if_neg (Ne.symm htoken)]
      rfl
  · intro token
    rw [hlock]
    unfold State.level
    rw [Map.get?_set]
    by_cases htoken : token = lock.adChainToken
    · subst htoken
      rw [hv, if_pos rfl, if_pos rfl]
      exact available_trySpend haccount
    · rw [if_neg htoken, if_neg (Ne.symm htoken)]
      rfl
  · intro token
    unfold State.limit
    rw [Map.get?_set]
    split
    · next htoken => rw [htoken, hv]; rfl
    · rfl

/-- Each context is charged on what the one before left, so no two share an allowance. -/
theorem checkContexts_ok {targets : List Address} {contexts : List Context}
    (ok : checkContexts H env targets p contexts c = .ok (p', c')) :
    (∀ token, p'.level token env.now + lockedIn token contexts = p.level token env.now) ∧
      (∀ token, c'.state.level token env.now + lockedIn token contexts
        = c.state.level token env.now) ∧
      p'.adTokens = p.adTokens ∧ (∀ token, c'.state.limit token = c.state.limit token) ∧
      c'.state.policies = c.state.policies := by
  induction contexts generalizing p c with
  | nil =>
    obtain ⟨rfl, rfl⟩ := Prod.mk.inj (Tx.pure_ok.mp ok)
    exact ⟨fun _ => rfl, fun _ => rfl, rfl, fun _ => rfl, rfl⟩
  | cons ctx rest ih =>
    cases ctx with
    | other => cases ok
    | contract ctx =>
      obtain ⟨p₁, c₁, hfirst, hrest⟩ := Tx.bind_ok.mp ok
      have hlocked := checkContractCall_ok hfirst
      obtain ⟨hagent, haccount, hrows, hlimits, hpolicies⟩ := ih hrest
      refine ⟨?_, ?_, hrows.trans hlocked.rows, ?_, hpolicies.trans hlocked.policies⟩
      · intro token
        rw [← hlocked.agent token, ← hagent token]
        unfold lockedIn
        rw [List.map_cons, List.sum_cons]
        omega
      · intro token
        rw [← hlocked.account token, ← haccount token]
        unfold lockedIn
        rw [List.map_cons, List.sum_cons]
        omega
      · exact fun token => (hlimits token).trans (hlocked.limits token)

/-! ## What each call does to the buckets -/

/-- The limit a call puts on a token. -/
def Call.limitOn (token : BytesN32) : Call → Option Limit
  | .setAccountLimit token' limit => if token' = token then some limit else none
  | _ => none

/-- The call installs the agent's policy. -/
def Call.installs (agentId : BytesN32) : Call → Bool
  | .setPolicy agentId' .. => agentId' = agentId
  | _ => false

/-- The locks of this token a call authorizes. -/
def Call.locked (token : BytesN32) : Call → ℕ
  | .checkAuth _ _ contexts => lockedIn token contexts
  | _ => 0

/-- The ones the agent signed for. -/
def Call.lockedBy (H : AccountHost) (agentId token : BytesN32) : Call → ℕ
  | .checkAuth payload signature contexts =>
    match agentOf H payload signature with
    | .ok signer => if signer = agentId then lockedIn token contexts else 0
    | .error _ => 0
  | _ => 0

/-- The calls that touch no bucket. -/
def Call.quiet : Call → Bool
  | .checkAuth .. | .setPolicy .. | .setAccountLimit .. | .revokeAgent .. => false
  | _ => true

/-- What a quiet call leaves alone. -/
def Chain.buckets (c : Chain Y) : Map BytesN32 AccountVolume × Map BytesN32 AgentPolicy :=
  (c.state.volumes, c.state.policies)

section Frames

variable {ν : Type} {g : Chain Y → ν}

theorem frames_requireOwner : Tx.Frames g (requireOwner env) :=
  .bind .read fun _ => .demand

theorem frames_spend {scope : Scope} {action : Symbol} {args : List Value}
    (hg : ∀ c, g { c with state := c.state.clearSchedule scope action } = g c) :
    Tx.Frames g (spend H env scope action args) :=
  .bind .read fun _ => .bind .expect fun _ => .bind .require fun _ => .modify hg

theorem frames_spendIf {loosens : Bool} {action : Symbol} {args : List Value}
    (hg : ∀ c, g { c with state := c.state.clearSchedule .account action } = g c) :
    Tx.Frames g (spendIf H env loosens action args) :=
  .bind .read fun _ => .ite (frames_spend hg) .pure

theorem frames_requireTarget {target : Address} : Tx.Frames g (requireTarget target) :=
  .bind .read fun _ => .require

theorem frames_callWith {target : Address} {fnName : Symbol} {args : List Value}
    {pay : Option (Address × U128)} {approvals : List Approval}
    (hg : ∀ c y, g { c with outside := y } = g c) :
    Tx.Frames g (callWith N H env target fnName args pay approvals) :=
  .bind .lift fun _ => .bind .read fun _ => .bind .lift fun _ => .bind .lift fun _ =>
    .bind .expectTrap fun _ => .bind .lift fun _ => .bind .require fun _ =>
    .bind (.modify fun c => hg c _) fun _ => .pure

theorem frames_payAndCall {escrow : Address} {fnName : Symbol} {args : List Value}
    {token : Address} {amount : U128} (hg : ∀ c y, g { c with outside := y } = g c) :
    Tx.Frames g (payAndCall N H env escrow fnName args token amount) :=
  .bind .lift fun _ => .bind (frames_callWith hg) fun _ => .pure

end Frames

theorem buckets_foldl {α : Type} {f : State → α → State} {items : List α} {s : State}
    (hf : ∀ s a, ((f s a).volumes, (f s a).policies) = (s.volumes, s.policies)) :
    ((items.foldl f s).volumes, (items.foldl f s).policies) = (s.volumes, s.policies) := by
  induction items generalizing s with
  | nil => rfl
  | cons a items ih => exact ih.trans (hf s a)

theorem buckets_restampAction {scope : Scope} {f : Schedule → Schedule} {s : State} {a : Symbol} :
    ((State.restampAction scope f s a).volumes, (State.restampAction scope f s a).policies)
      = (s.volumes, s.policies) := by
  unfold State.restampAction
  split <;> rfl

theorem buckets_clearAllSchedules {adId : AdId} {s : State} :
    ((s.clearAllSchedules adId).volumes, (s.clearAllSchedules adId).policies)
      = (s.volumes, s.policies) :=
  buckets_foldl fun _ _ => buckets_foldl fun _ _ => rfl

theorem frames_disarm {adId : AdId} : Tx.Frames (Chain.buckets (Y := Y)) (disarm adId) :=
  .bind (.modify fun _ => rfl) fun _ => .bind (.modify fun _ => buckets_clearAllSchedules) fun _ =>
    .modify fun _ => rfl

theorem buckets_restamps {scope : Scope} {f : Schedule → Schedule} {s : State} :
    (((actionsFor scope).foldl (State.restampAction scope f) s).volumes,
      ((actionsFor scope).foldl (State.restampAction scope f) s).policies)
      = (s.volumes, s.policies) :=
  buckets_foldl fun _ _ => buckets_restampAction

theorem frames_raiseDelay {scope : Scope} {before : ℕ} {armed : GuardRail} :
    Tx.Frames (Chain.buckets (Y := Y)) (raiseDelay env scope before armed) :=
  .ite (.bind .lift fun _ => .modify fun _ => buckets_restamps) .pure

theorem frames_shortenWindow {scope : Scope} {before window : ℕ} :
    Tx.Frames (Chain.buckets (Y := Y)) (shortenWindow scope before window) :=
  .ite (.modify fun _ => buckets_restamps) .pure

theorem frames_retime {adId : AdId} {current : Option GuardRail} {armed : GuardRail}
    {accountBefore : ℕ × ℕ} :
    Tx.Frames (Chain.buckets (Y := Y)) (retime env adId current armed accountBefore) := by
  refine .bind frames_raiseDelay fun _ => .bind frames_raiseDelay fun _ =>
    .bind frames_shortenWindow fun _ => .bind .read fun c => ?_
  split
  · exact frames_shortenWindow
  · exact .pure

theorem frames_arm {adId : AdId} {current : Option GuardRail} {g : GuardRail} {loosening : Bool} :
    Tx.Frames (Chain.buckets (Y := Y)) (arm env adId current g loosening) :=
  .bind .require fun _ => .bind .require fun _ => .bind .read fun _ => .bind .require fun _ =>
    .bind (.modify fun _ => rfl) fun _ =>
    .bind (.ite (.modify fun _ => buckets_clearAllSchedules) frames_retime) fun _ =>
    .modify fun _ => rfl

theorem frames_setGuardRail {adId : AdId} {guardRail : Option GuardRail} :
    Tx.Frames (Chain.buckets (Y := Y)) (setGuardRail H env adId guardRail) := by
  refine .bind frames_requireOwner fun _ => .bind .lift fun _ => .bind .read fun c =>
    .bind .require fun _ => .bind (.ite (frames_spend fun _ => rfl) .pure) fun _ => ?_
  cases guardRail with
  | some g => exact frames_arm
  | none => exact frames_disarm

theorem frames_checkOwnerCall {fnName : Symbol} {args : List Value} :
    Tx.Frames (Chain.buckets (Y := Y)) (checkOwnerCall H env fnName args) := by
  refine .bind .require fun _ => .bind .read fun c => .ite ?_ (.ite .require ?_)
  · exact .bind .lift fun _ => frames_spendIf fun _ => rfl
  · refine .bind .lift fun a => .ite ?_ .pure
    exact .bind .read fun _ => .bind .expect fun _ => .ite (frames_spend fun _ => rfl)
      (.bind .expect fun _ => .modify fun _ => rfl)

/-- A quiet call leaves every bucket as it was. -/
theorem buckets_of_quiet {call : Call} {r : Ret} (hquiet : call.quiet = true)
    (ok : exec N H env call c = .ok (r, c')) : c'.buckets = c.buckets := by
  have hframes : Tx.Frames Chain.buckets (exec N H env call) := by
    cases call
    case setTargets =>
      exact .answer (.bind frames_requireOwner fun _ => .bind .read fun _ =>
        .bind (frames_spendIf fun _ => rfl) fun _ => .bind .lift fun _ =>
        .bind (.modify fun _ => rfl) fun _ => .modify fun _ => rfl)
    case setGuardRail => exact .answer frames_setGuardRail
    case disarmClosedAd =>
      exact .answer (.bind frames_requireOwner fun _ => .bind frames_requireTarget fun _ =>
        .bind .read fun _ => .bind .require fun _ => .bind .lift fun _ => .bind .require fun _ =>
        .bind .lift fun _ => .bind .lift fun _ => .bind .require fun _ => frames_disarm)
    case schedule =>
      exact .answer (.bind frames_requireOwner fun _ => .bind .read fun _ => .bind .lift fun _ =>
        .bind .require fun _ => .bind .require fun _ => .bind (.modify fun _ => rfl) fun _ =>
        .modify fun _ => rfl)
    case cancel =>
      exact .answer (.bind frames_requireOwner fun _ => .bind .read fun _ => .bind .require fun _ =>
        .bind (.modify fun _ => rfl) fun _ => .modify fun _ => rfl)
    case upgrade =>
      exact .answer (.bind frames_requireOwner fun _ => .bind (frames_spendIf fun _ => rfl) fun _ =>
        .bind (.modify fun _ => rfl) fun _ => .modify fun _ => rfl)
    case migrate =>
      exact .answer (.bind frames_requireOwner fun _ => .bind .read fun _ => .bind .require fun _ =>
        .bind (.modify fun _ => rfl) fun _ => .bind (.modify fun _ => rfl) fun _ => .pure)
    case createAd =>
      exact .answer (.bind frames_requireOwner fun _ => .bind frames_requireTarget fun _ =>
        .bind .lift fun _ => frames_payAndCall fun _ _ => rfl)
    case fundAd =>
      exact .answer (.bind frames_requireOwner fun _ => .bind frames_requireTarget fun _ =>
        .bind .view fun _ => .bind .lift fun _ => frames_payAndCall fun _ _ => rfl)
    case call =>
      exact .answer (.bind frames_requireOwner fun _ => .bind frames_requireTarget fun _ =>
        .bind frames_checkOwnerCall fun _ => frames_callWith fun _ _ => rfl)
    case sweep =>
      exact .answer (.bind frames_requireOwner fun _ => .bind (frames_spendIf fun _ => rfl) fun _ =>
        .bind .lift fun _ => .bind .read fun _ => .bind .expectTrap fun _ => .modify fun _ => rfl)
    all_goals cases hquiet
  exact hframes _ _ ok

theorem volumes_of_buckets (h : c'.buckets = c.buckets) : c'.state.volumes = c.state.volumes :=
  (Prod.mk.inj h).1

theorem policies_of_buckets (h : c'.buckets = c.buckets) : c'.state.policies = c.state.policies :=
  (Prod.mk.inj h).2

theorem State.level_congr {s s' : State} (h : s'.volumes = s.volumes) :
    s'.level token = s.level token := by
  unfold State.level
  rw [h]

theorem State.limit_congr {s s' : State} (h : s'.volumes = s.volumes) :
    s'.limit token = s.limit token := by
  unfold State.limit
  rw [h]

theorem setAccountLimit_ok {limit : Limit} (ok : setAccountLimit H env token limit c = .ok ((), c')) :
    c'.state.volumes = c.state.volumes.set token
      { limit, bucket := settleVolume (c.state.volumes.get? token) limit env.timestamp } ∧
    c'.state.policies = c.state.policies := by
  unfold setAccountLimit at ok
  obtain ⟨⟨⟩, c₁, hc₁, ok⟩ := frames_requireOwner.rest (g := Chain.buckets) ok
  simp only [Tx.bind_lift_ok, Tx.bind_read_ok] at ok
  obtain ⟨⟨⟩, -, ok⟩ := ok
  obtain ⟨⟨⟩, c₂, hc₂, ok⟩ := (frames_spendIf fun _ => rfl).rest (g := Chain.buckets) ok
  simp only [Tx.bind_modify_ok, Tx.modify_ok, Prod.mk.injEq, true_and] at ok
  obtain rfl := ok
  have hvolumes : c₂.state.volumes = c.state.volumes :=
    (volumes_of_buckets hc₂).trans (volumes_of_buckets hc₁)
  have hpolicies : c₂.state.policies = c.state.policies :=
    (policies_of_buckets hc₂).trans (policies_of_buckets hc₁)
  refine ⟨?_, hpolicies⟩
  show c₂.state.volumes.set _ _ = _
  rw [hvolumes, volumes_of_buckets hc₁]

theorem checkAuth_ok {payload : BytesN32} {signature : AccountSig} {contexts : List Context}
    (ok : checkAuth H env payload signature contexts c = .ok ((), c')) :
    ∃ agentId p p' c₁, agentOf H payload signature = .ok agentId ∧
      c.state.policies.get? agentId = some p ∧
      checkContexts H env c.state.targets p contexts c = .ok (p', c₁) ∧
      c' = { c₁ with state := { c₁.state with
        policies := c₁.state.policies.set agentId p' } } := by
  simp only [checkAuth, Tx.bind_lift_ok, Tx.bind_read_ok, Tx.bind_expect_ok,
    Tx.bind_require_ok] at ok
  obtain ⟨agentId, hagent, p, hp, -, -, -, ok⟩ := ok
  obtain ⟨p', c₁, hcontexts, ok⟩ := Tx.bind_ok.mp ok
  simp only [Tx.modify_ok, Prod.mk.injEq, true_and] at ok
  exact ⟨agentId, p, p', c₁, hagent, hp, hcontexts, ok⟩

theorem setPolicy_ok {installed : BytesN32} {allowedAction : Symbol} {adTokens : List TokenLimit}
    {orderTokens : List BytesN32} {validUntil : U64} {settlementSigner : BytesN32}
    {adScope : Option (List AdId)}
    (ok : setPolicy H env installed allowedAction adTokens orderTokens validUntil settlementSigner
      adScope c = .ok ((), c')) :
    c'.state.volumes = c.state.volumes ∧
      ∃ p, c'.state.policies = c.state.policies.set installed p := by
  unfold setPolicy at ok
  obtain ⟨⟨⟩, c₁, hc₁, ok⟩ := frames_requireOwner.rest (g := Chain.buckets) ok
  simp only [Tx.bind_lift_ok, Tx.bind_read_ok, Tx.bind_require_ok] at ok
  obtain ⟨-, -, ⟨⟩, -, ok⟩ := ok
  have hsettle : ∀ p, Tx.Frames (Chain.buckets (Y := Y)) (settlePolicy H env installed p) := by
    intro p
    refine .bind .read fun c => .ite ?_ .pure
    split
    · exact .pure
    · exact .bind (frames_spend fun _ => rfl) fun _ => .pure
  obtain ⟨p, c₂, hc₂, ok⟩ := (hsettle _).rest ok
  simp only [Tx.bind_modify_ok, Tx.modify_ok, Prod.mk.injEq, true_and] at ok
  obtain rfl := ok
  refine ⟨(volumes_of_buckets hc₂).trans (volumes_of_buckets hc₁), p, ?_⟩
  show c₂.state.policies.set installed p = _
  rw [policies_of_buckets hc₂, policies_of_buckets hc₁]

theorem revokeAgent_ok {revoked : BytesN32} (ok : revokeAgent env revoked c = .ok ((), c')) :
    c'.state.volumes = c.state.volumes ∧ (c'.state.policies = c.state.policies ∨
      ∃ p, c.state.policies.get? revoked = some p ∧
        c'.state.policies = c.state.policies.set revoked { p with revoked := true }) := by
  unfold revokeAgent at ok
  obtain ⟨⟨⟩, c₁, hc₁, ok⟩ := frames_requireOwner.rest (g := Chain.buckets) ok
  simp only [Tx.bind_read_ok, Tx.bind_expect_ok, Tx.ite_apply] at ok
  obtain ⟨p, hp, ok⟩ := ok
  rw [policies_of_buckets hc₁] at hp
  split at ok
  · obtain rfl := (Prod.mk.inj (Tx.pure_ok.mp ok)).2
    exact ⟨volumes_of_buckets hc₁, .inl (policies_of_buckets hc₁)⟩
  · simp only [Tx.bind_modify_ok, Tx.modify_ok, Prod.mk.injEq, true_and] at ok
    obtain rfl := ok
    have hvolumes := volumes_of_buckets hc₁
    have hpolicies := policies_of_buckets hc₁
    refine ⟨hvolumes, .inr ⟨p, hp, ?_⟩⟩
    show c₁.state.policies.set revoked _ = _
    rw [hpolicies]

/-- A first limit puts its capacity in; a later one puts nothing in. -/
def firstCapacity (before next : Option Limit) : ℕ :=
  match before, next with
  | none, some limit => limit.capacity.toNat
  | _, _ => 0

theorem settleVolume_le {current : Option AccountVolume} {limit : Limit} {now : U64} :
    available limit (settleVolume current limit now) now.toNat
      ≤ match current with
        | some v => available v.limit v.bucket now.toNat
        | none => limit.capacity.toNat := by
  cases current with
  | none => exact available_le
  | some v =>
    have hcapacity := limit.capacity.isLt
    have hold : available v.limit v.bucket now.toNat ≤ v.limit.capacity.toNat := available_le
    have hlimit := v.limit.capacity.isLt
    have hlevel : (settleVolume (some v) limit now).level.toNat
        = min limit.capacity.toNat (available v.limit v.bucket now.toNat) := by
      unfold settleVolume
      dsimp only
      rw [BitVec.toNat_ofNat]
      split
      · rw [Nat.mod_eq_of_lt hcapacity]
        omega
      · rw [Nat.mod_eq_of_lt (by omega)]
        omega
    have hstamp : (settleVolume (some v) limit now).lastTs = now := rfl
    have hat : now.toNat ≤ (settleVolume (some v) limit now).lastTs.toNat := hstamp ▸ le_rfl
    have hcap : (settleVolume (some v) limit now).level.toNat ≤ limit.capacity.toNat :=
      hlevel.trans_le (min_le_left _ _)
    rw [available_of_le hcap hat, hlevel]
    exact min_le_right _ _

/-- What any accepted call does to the account's bucket of a token: it can lose what is locked, and
gains nothing but a first limit. -/
theorem account_draw {call : Call} {r : Ret} (token : BytesN32) (ok : exec N H env call c = .ok (r, c')) :
    c'.state.level token env.now + call.locked token
        ≤ c.state.level token env.now + firstCapacity (c.state.limit token) (call.limitOn token) ∧
      c'.state.limit token = (call.limitOn token).or (c.state.limit token) := by
  cases hquiet : call.quiet with
  | true =>
    have hvolumes := volumes_of_buckets (buckets_of_quiet hquiet ok)
    have hnothing : call.locked token = 0 ∧ call.limitOn token = none := by
      cases call <;> first | exact ⟨rfl, rfl⟩ | cases hquiet
    rw [State.level_congr hvolumes, State.limit_congr hvolumes, hnothing.1, hnothing.2]
    exact ⟨Nat.le_add_right _ _, rfl⟩
  | false =>
    cases call
    case checkAuth payload signature contexts =>
      obtain ⟨⟨⟩, hok, rfl⟩ := Tx.answer_ok.mp ok
      obtain ⟨agentId, p, p', c₁, hagent, hp, hcontexts, rfl⟩ := checkAuth_ok hok
      obtain ⟨-, haccount, -, hlimits, -⟩ := checkContexts_ok hcontexts
      exact ⟨(haccount token).le.trans (Nat.le_add_right _ _), hlimits token⟩
    case setPolicy =>
      obtain ⟨⟨⟩, hok, rfl⟩ := Tx.answer_ok.mp ok
      have hvolumes := (setPolicy_ok hok).1
      rw [State.level_congr hvolumes, State.limit_congr hvolumes]
      exact ⟨Nat.le_add_right _ _, rfl⟩
    case revokeAgent =>
      obtain ⟨⟨⟩, hok, rfl⟩ := Tx.answer_ok.mp ok
      have hvolumes := (revokeAgent_ok hok).1
      rw [State.level_congr hvolumes, State.limit_congr hvolumes]
      exact ⟨Nat.le_add_right _ _, rfl⟩
    case setAccountLimit token' limit =>
      obtain ⟨⟨⟩, hok, rfl⟩ := Tx.answer_ok.mp ok
      have hvolumes := (setAccountLimit_ok hok).1
      unfold State.level State.limit firstCapacity Call.limitOn Call.locked
      dsimp only
      rw [hvolumes, Map.get?_set]
      by_cases htoken : token = token'
      · subst htoken
        have hsettle := @settleVolume_le (c.state.volumes.get? token) limit env.timestamp
        rw [if_pos rfl, if_pos rfl]
        refine ⟨?_, rfl⟩
        cases hv : c.state.volumes.get? token <;>
        · rw [hv] at hsettle
          dsimp only [Option.map] at hsettle ⊢
          unfold Env.now
          omega
      · rw [if_neg htoken, if_neg (Ne.symm htoken)]
        exact ⟨Nat.le_add_right _ _, rfl⟩
    all_goals cases hquiet

/-- What any accepted call but an install does to an agent's own bucket. -/
theorem agent_draw {call : Call} {r : Ret} (token : BytesN32) (hinstall : call.installs agentId = false)
    (ok : exec N H env call c = .ok (r, c')) :
    c'.state.agentLevel agentId token env.now + call.lockedBy H agentId token
        = c.state.agentLevel agentId token env.now ∧
      c'.state.agentRefill agentId token = c.state.agentRefill agentId token := by
  have hsame : ∀ {s s' : State}, s'.policies.get? agentId = s.policies.get? agentId →
      s'.agentLevel agentId token = s.agentLevel agentId token ∧
        s'.agentRefill agentId token = s.agentRefill agentId token := by
    intro s s' h
    unfold State.agentLevel State.agentRefill
    rw [h]
    exact ⟨rfl, rfl⟩
  cases hquiet : call.quiet with
  | true =>
    have hpolicies := policies_of_buckets (buckets_of_quiet hquiet ok)
    have hnothing : call.lockedBy H agentId token = 0 := by
      cases call <;> first | rfl | cases hquiet
    obtain ⟨hlevel, hrefill⟩ := @hsame c.state c'.state (by rw [hpolicies])
    rw [hlevel, hrefill, hnothing]
    exact ⟨rfl, rfl⟩
  | false =>
    cases call
    case checkAuth payload signature contexts =>
      obtain ⟨⟨⟩, hok, rfl⟩ := Tx.answer_ok.mp ok
      obtain ⟨signer, p, p', c₁, hagent, hp, hcontexts, rfl⟩ := checkAuth_ok hok
      obtain ⟨hcharged, -, hrows, -, hpolicies⟩ := checkContexts_ok hcontexts
      unfold Call.lockedBy
      dsimp only
      rw [hagent]
      dsimp only
      by_cases hsigner : agentId = signer
      · subst hsigner
        rw [if_pos rfl]
        unfold State.agentLevel State.agentRefill
        dsimp only
        rw [Map.get?_set, if_pos rfl, hp]
        refine ⟨hcharged token, ?_⟩
        show p'.refill token = p.refill token
        unfold AgentPolicy.refill limitFor
        rw [hrows]
      · rw [if_neg (Ne.symm hsigner)]
        have hget : (c₁.state.policies.set signer p').get? agentId
            = c.state.policies.get? agentId := by
          rw [Map.get?_set, if_neg hsigner, hpolicies]
        unfold State.agentLevel State.agentRefill
        dsimp only
        rw [hget]
        exact ⟨rfl, rfl⟩
    case setAccountLimit =>
      obtain ⟨⟨⟩, hok, rfl⟩ := Tx.answer_ok.mp ok
      obtain ⟨hlevel, hrefill⟩ := @hsame c.state c'.state (by rw [(setAccountLimit_ok hok).2])
      rw [hlevel, hrefill]
      exact ⟨rfl, rfl⟩
    case setPolicy installed _ _ _ _ _ _ =>
      obtain ⟨⟨⟩, hok, rfl⟩ := Tx.answer_ok.mp ok
      obtain ⟨-, p, hpolicies⟩ := setPolicy_ok hok
      have hne : agentId ≠ installed := fun heq => of_decide_eq_false hinstall heq.symm
      obtain ⟨hlevel, hrefill⟩ := @hsame c.state c'.state
        (by rw [hpolicies, Map.get?_set, if_neg hne])
      rw [hlevel, hrefill]
      exact ⟨rfl, rfl⟩
    case revokeAgent revoked =>
      obtain ⟨⟨⟩, hok, rfl⟩ := Tx.answer_ok.mp ok
      obtain ⟨-, hpolicies | ⟨p, hp, hpolicies⟩⟩ := revokeAgent_ok hok
      · obtain ⟨hlevel, hrefill⟩ := @hsame c.state c'.state (by rw [hpolicies])
        rw [hlevel, hrefill]
        exact ⟨rfl, rfl⟩
      · by_cases hrevoked : agentId = revoked
        · -- the tombstone keeps its rows and its buckets
          subst hrevoked
          unfold State.agentLevel State.agentRefill
          rw [hpolicies, Map.get?_set, if_pos rfl, hp]
          exact ⟨rfl, rfl⟩
        · obtain ⟨hlevel, hrefill⟩ := @hsame c.state c'.state
            (by rw [hpolicies, Map.get?_set, if_neg hrevoked])
          rw [hlevel, hrefill]
          exact ⟨rfl, rfl⟩
    all_goals cases hquiet

end AgentAccount
end ProofBridge
