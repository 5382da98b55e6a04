import ProofBridge.AgentAccount.Flow

/-!
# An instant tightening never widens an agent

A policy is within another where every field allows no more and every bucket it may draw on holds no
more, now and at all later times. What an agent is then let through under the narrower policy it would
have been let through under the wider one, and the two stay in that relation.
-/

namespace ProofBridge
namespace AgentAccount

open ContractLib

variable {Y : Type} {N : Neighbors Y} {H : AccountHost} {outside : Y → Y → Prop} {env : Env}
  {a a' b c c' : Chain Y} {s : State} {p p' q cur next : AgentPolicy} {token agentId : BytesN32}
  {targets : List Address} {t t' : ℕ} {h : History}

/-! ## Buckets -/

/-- What the bucket of a row holds; one never spent from is full. -/
def levelOf (limit : Limit) (bucket : Option Bucket) (t : ℕ) : ℕ :=
  available limit (bucket.getD (Bucket.full limit 0)) t

theorem levelOf_full {bucket : Option Bucket} {limit : Limit} {now : U64} :
    available limit (bucket.getD (Bucket.full limit now)) t = levelOf limit bucket t := by
  unfold levelOf
  cases bucket with
  | some x => rfl
  | none => exact available_full.trans available_full.symm

/-- A bucket that allows no more than another from `t` on. -/
inductive BucketWithin (t : ℕ) (limit : Limit) (bucket : Option Bucket) (limit' : Limit)
    (bucket' : Option Bucket) : Prop
  | same (hlimit : limit = limit') (hbucket : bucket = bucket')
  | lower (hcapacity : limit.capacity.toNat ≤ limit'.capacity.toNat)
      (hrefill : limit.refillPerSecond.toNat ≤ limit'.refillPerSecond.toNat)
      (hlevel : levelOf limit bucket t ≤ levelOf limit' bucket' t)
      (hstamp : ∀ x, bucket' = some x → x.lastTs.toNat ≤ t)

section Buckets

variable {limit limit' : Limit} {bucket bucket' : Option Bucket} {x : Bucket} {amount : ℕ}

theorem BucketWithin.level (hw : BucketWithin t limit bucket limit' bucket') :
    levelOf limit bucket t ≤ levelOf limit' bucket' t := by
  cases hw with
  | same hlimit hbucket => rw [hlimit, hbucket]
  | lower hcapacity hrefill hlevel hstamp => exact hlevel

theorem BucketWithin.later (hw : BucketWithin t limit bucket limit' bucket') (ht : t ≤ t') :
    BucketWithin t' limit bucket limit' bucket' := by
  cases hw with
  | same hlimit hbucket => exact .same hlimit hbucket
  | lower hcapacity hrefill hlevel hstamp =>
    refine .lower hcapacity hrefill ?_ fun x hx => (hstamp x hx).trans ht
    have hgrow : levelOf limit bucket t' ≤ levelOf limit bucket t
        + limit.refillPerSecond.toNat * (t' - t) := available_grows ht
    have hcap : levelOf limit bucket t' ≤ limit.capacity.toNat := available_le
    cases bucket' with
    | none =>
      have hfull : levelOf limit' none t' = limit'.capacity.toNat := available_full
      omega
    | some x =>
      have hlater : levelOf limit' (some x) t' = min
          (levelOf limit' (some x) t + limit'.refillPerSecond.toNat * (t' - t))
          limit'.capacity.toNat := available_later (hstamp x rfl) ht
      have hmul := Nat.mul_le_mul_right (t' - t) hrefill
      omega

/-- What the lower bucket covers the other covers, and what is left is still within. -/
theorem BucketWithin.spend (hw : BucketWithin env.now limit bucket limit' bucket')
    (hspend : trySpend limit (bucket.getD (Bucket.full limit env.timestamp)) amount env.timestamp
      = some x) :
    ∃ x', trySpend limit' (bucket'.getD (Bucket.full limit' env.timestamp)) amount env.timestamp
      = some x' ∧ BucketWithin env.now limit (some x) limit' (some x') := by
  cases hw with
  | same hlimit hbucket =>
    subst hlimit hbucket
    exact ⟨x, hspend, .same rfl rfl⟩
  | lower hcapacity hrefill hlevel hstamp =>
    have hspent := available_trySpend hspend
    rw [levelOf_full] at hspent
    have henough : amount ≤ available limit'
        (bucket'.getD (Bucket.full limit' env.timestamp)) env.timestamp.toNat := by
      rw [levelOf_full]
      unfold Env.now at hlevel
      omega
    obtain ⟨x', hx'⟩ : ∃ x', trySpend limit' (bucket'.getD (Bucket.full limit' env.timestamp)) amount
        env.timestamp = some x' := ⟨_, trySpend_eq_some.mpr ⟨henough, rfl⟩⟩
    refine ⟨x', hx', .lower hcapacity hrefill ?_ ?_⟩
    · have hspent' := available_trySpend hx'
      rw [levelOf_full] at hspent'
      unfold levelOf Env.now at hlevel ⊢
      rw [Option.getD_some, Option.getD_some]
      unfold levelOf at hspent hspent'
      omega
    · intro y hy
      obtain rfl := Option.some.inj hy
      obtain ⟨-, rfl⟩ := trySpend_eq_some.mp hx'
      have hold : (bucket'.getD (Bucket.full limit' env.timestamp)).lastTs.toNat ≤ env.now := by
        cases bucket' with
        | some y => exact hstamp y rfl
        | none => exact le_rfl
      dsimp only
      split
      · exact le_rfl
      · exact hold

end Buckets

/-! ## Policies -/

/-- A policy that lets through no more than another from `t` on. -/
structure PolicyWithin (t : ℕ) (p q : AgentPolicy) : Prop where
  action : p.allowedAction = q.allowedAction
  signer : p.settlementSigner = q.settlementSigner
  live : p.revoked = false → q.revoked = false
  expiry : ∀ t', q.validUntil ≠ 0 ∧ q.validUntil.toNat ≤ t' →
    p.validUntil ≠ 0 ∧ p.validUntil.toNat ≤ t'
  orders : ∀ token ∈ p.orderTokens, token ∈ q.orderTokens
  ads : ∀ adId, adInScope p adId = true → adInScope q adId = true
  rows : ∀ token row, limitFor p token = some row → ∃ row', limitFor q token = some row' ∧
    row.maxPerOrder.toNat ≤ row'.maxPerOrder.toNat ∧
    BucketWithin t row.rate (bucketFor p token) row'.rate (bucketFor q token)

theorem PolicyWithin.refl : PolicyWithin t p p where
  action := rfl
  signer := rfl
  live h := h
  expiry _ h := h
  orders _ h := h
  ads _ h := h
  rows _ row hrow := ⟨row, hrow, le_rfl, .same rfl rfl⟩

theorem PolicyWithin.later (hw : PolicyWithin t p q) (ht : t ≤ t') : PolicyWithin t' p q where
  action := hw.action
  signer := hw.signer
  live := hw.live
  expiry := hw.expiry
  orders := hw.orders
  ads := hw.ads
  rows token row hrow := by
    obtain ⟨row', hrow', hcap, hbucket⟩ := hw.rows token row hrow
    exact ⟨row', hrow', hcap, hbucket.later ht⟩

/-- A lock the narrower policy lets through passes the wider one too, whichever the account around
it, as long as its volumes agree. -/
theorem checkContractCall_within {ctx : ContractContext} (hw : PolicyWithin env.now p q)
    (hvolumes : b.state.volumes = a.state.volumes)
    (ok : checkContractCall H env targets p ctx a = .ok (p', a')) :
    ∃ q', checkContractCall H env targets q ctx b
        = .ok (q', { b with state := { b.state with volumes := a'.state.volumes } }) ∧
      PolicyWithin env.now p' q' := by
  simp only [checkContractCall, spendVolume, Tx.bind_require_ok, Tx.bind_lift_ok, Tx.bind_expect_ok,
    Tx.bind_read_ok, Tx.bind_modify_ok, Tx.pure_ok, Prod.mk.injEq] at ok ⊢
  obtain ⟨htarget, haction, lock, hdecode, hmaker, hsigner, row, hrow, horder, hscope, amount,
    hscale, hpos, hcap, v, hv, x, hx, y, hy, rfl, rfl⟩ := ok
  obtain ⟨row', hrow', hcap', hbucket⟩ := hw.rows _ row hrow
  obtain ⟨x', hx', hleft⟩ := hbucket.spend hx
  refine ⟨putBucket q lock.adChainToken x', ⟨htarget, haction.trans hw.action, lock, hdecode, hmaker,
    hsigner.trans hw.signer, row', hrow', hw.orders _ horder, hw.ads _ hscope, amount, hscale, hpos,
    hcap.trans hcap', v, hvolumes ▸ hv, x', hx', y, hy, rfl, ?_⟩, ?_⟩
  · rw [hvolumes]
  · refine ⟨hw.action, hw.signer, hw.live, hw.expiry, hw.orders, hw.ads, fun token' row₁ hrow₁ => ?_⟩
    obtain ⟨row₂, hrow₂, hcap₂, hbucket₂⟩ := hw.rows token' row₁ hrow₁
    refine ⟨row₂, hrow₂, hcap₂, ?_⟩
    rw [bucketFor_putBucket, bucketFor_putBucket]
    split
    · next htoken =>
      subst htoken
      have hsame : row₁ = row := Option.some.inj (hrow₁.symm.trans hrow)
      have hsame' : row₂ = row' := Option.some.inj (hrow₂.symm.trans hrow')
      rw [hsame, hsame']
      exact hleft
    · exact hbucket₂

theorem checkContexts_within {contexts : List Context} (hw : PolicyWithin env.now p q)
    (hvolumes : b.state.volumes = a.state.volumes)
    (ok : checkContexts H env targets p contexts a = .ok (p', a')) :
    ∃ q', checkContexts H env targets q contexts b
        = .ok (q', { b with state := { b.state with volumes := a'.state.volumes } }) ∧
      PolicyWithin env.now p' q' := by
  induction contexts generalizing p q a b with
  | nil =>
    obtain ⟨rfl, rfl⟩ := Prod.mk.inj (Tx.pure_ok.mp ok)
    refine ⟨q, Tx.pure_ok.mpr ?_, hw⟩
    rw [← hvolumes]
  | cons ctx rest ih =>
    cases ctx with
    | other => cases ok
    | contract ctx =>
      obtain ⟨p₁, a₁, hfirst, hrest⟩ := Tx.bind_ok.mp ok
      obtain ⟨q₁, hfirst', hw₁⟩ := checkContractCall_within hw hvolumes hfirst
      have hstored : ({ b with state := { b.state with volumes := a₁.state.volumes } } :
        Chain Y).state.volumes = a₁.state.volumes := rfl
      obtain ⟨q', hrest', hw'⟩ := ih hw₁ hstored hrest
      exact ⟨q', Tx.bind_ok.mpr ⟨q₁, _, hfirst', hrest'⟩, hw'⟩

/-! ## A sequence of authorizations -/

/-- The one account lets every agent through no more than the other. -/
structure Tighter (t : ℕ) (a b : Chain Y) : Prop where
  targets : b.state.targets = a.state.targets
  volumes : b.state.volumes = a.state.volumes
  agents : ∀ agentId p, a.state.policies.get? agentId = some p →
    ∃ q, b.state.policies.get? agentId = some q ∧ PolicyWithin t p q

theorem Tighter.later (hab : Tighter t a b) (ht : t ≤ t') : Tighter t' a b where
  targets := hab.targets
  volumes := hab.volumes
  agents agentId p hp := by
    obtain ⟨q, hq, hw⟩ := hab.agents agentId p hp
    exact ⟨q, hq, hw.later ht⟩

theorem checkAuth_within {payload : BytesN32} {signature : AccountSig} {contexts : List Context}
    (hab : Tighter env.now a b)
    (ok : checkAuth H env payload signature contexts a = .ok ((), a')) :
    ∃ b', checkAuth H env payload signature contexts b = .ok ((), b') ∧
      Tighter env.now a' b' := by
  simp only [checkAuth, Tx.bind_lift_ok, Tx.bind_read_ok, Tx.bind_expect_ok, Tx.bind_require_ok]
    at ok
  obtain ⟨signer, hsigner, p, hp, hlive, hexpiry, hcontexts, ok⟩ := ok
  obtain ⟨p', a₁, hchecked, hstored⟩ := Tx.bind_ok.mp ok
  simp only [Tx.modify_ok, Prod.mk.injEq, true_and] at hstored
  subst hstored
  obtain ⟨q, hq, hw⟩ := hab.agents signer p hp
  rw [← hab.targets] at hchecked
  obtain ⟨q', hchecked', hw'⟩ := checkContexts_within hw hab.volumes hchecked
  have hframe := frames_checkContexts
    (g := fun c : Chain Y => (c.state.targets, c.state.policies)) (fun _ _ => rfl) _ _ hchecked
  obtain ⟨htargets, hpolicies⟩ := Prod.mk.inj hframe
  refine ⟨{ b with state := { b.state with
      volumes := a₁.state.volumes
      policies := b.state.policies.set signer q' } }, ?_, ?_⟩
  · simp only [checkAuth, Tx.bind_lift_ok, Tx.bind_read_ok, Tx.bind_expect_ok, Tx.bind_require_ok]
    refine ⟨signer, hsigner, q, hq, hw.live hlive, fun h => hexpiry (hw.expiry _ h), hcontexts, ?_⟩
    exact Tx.bind_ok.mpr ⟨q', _, hchecked', Tx.modify_ok.mpr rfl⟩
  · refine ⟨hab.targets.trans htargets.symm, rfl, ?_⟩
    intro agentId p₁ hp₁
    dsimp only at hp₁ ⊢
    rw [Map.get?_set] at hp₁ ⊢
    split at hp₁
    · next hagent =>
      cases hp₁
      exact ⟨q', if_pos hagent, hw'⟩
    · next hagent =>
      rw [if_neg hagent]
      exact hab.agents agentId p₁ (hpolicies ▸ hp₁)

/-- An agent's authorization. -/
def Call.authorizes : Call → Bool
  | .checkAuth .. => true
  | _ => false

/-- A sequence of authorizations at non-decreasing times from `t` on. -/
def Authorizations (t : ℕ) (auths : List (Env × Call)) : Prop :=
  (∀ x ∈ auths, x.2.authorizes = true) ∧ (∀ x ∈ auths, t ≤ x.1.now) ∧
    auths.Pairwise fun earlier later => earlier.1.now ≤ later.1.now

/-- Each call of the sequence is accepted, in the state the one before left. -/
def Accepts (N : Neighbors Y) (H : AccountHost) : List (Env × Call) → Chain Y → Prop
  | [], _ => True
  | x :: xs, c => ∃ r c', exec N H x.1 x.2 c = .ok (r, c') ∧ Accepts N H xs c'

theorem accepts_within {auths : List (Env × Call)} (hauths : Authorizations t auths)
    (hab : Tighter t a b) (hacc : Accepts N H auths a) : Accepts N H auths b := by
  induction auths generalizing t a b with
  | nil => trivial
  | cons x xs ih =>
    obtain ⟨env, call⟩ := x
    obtain ⟨hkind, htimes, horder⟩ := hauths
    obtain ⟨hlater, hrest⟩ := List.pairwise_cons.mp horder
    have hauth : call.authorizes = true := hkind _ List.mem_cons_self
    have hnow : t ≤ env.now := htimes _ List.mem_cons_self
    have hauths' : Authorizations env.now xs :=
      ⟨fun x hx => hkind x (List.mem_cons_of_mem _ hx), hlater, hrest⟩
    obtain ⟨r, a', hok, hacc⟩ := hacc
    cases call with
    | checkAuth payload signature contexts =>
      obtain ⟨⟨⟩, hchecked, hr⟩ := Tx.answer_ok.mp hok
      obtain ⟨b', hchecked', hab'⟩ := checkAuth_within (hab.later hnow) hchecked
      exact ⟨r, b', Tx.answer_ok.mpr ⟨(), hchecked', hr⟩, ih hauths' hab' hacc⟩
    | _ => cases hauth

/-! ## The carried buckets -/

/-- The bucket a row of the new policy takes over from the old one. -/
def carried (cur : AgentPolicy) (now : U64) (row : TokenLimit) : Option Bucket :=
  match bucketFor cur row.token, limitFor cur row.token with
  | some b, some c => some {
      level := BitVec.ofNat 128 (min (available c.rate b now.toNat) row.rate.capacity.toNat)
      lastTs := now }
  | _, _ => none

theorem bucketFor_carryBucket {now : U64} {row : TokenLimit} :
    bucketFor (carryBucket cur now p row) token
      = if row.token = token then (carried cur now row).or (bucketFor p token)
        else bucketFor p token := by
  unfold carryBucket carried
  cases bucketFor cur row.token with
  | none => exact (ite_self _).symm
  | some x =>
    cases limitFor cur row.token with
    | none => exact (ite_self _).symm
    | some c =>
      dsimp only
      rw [bucketFor_putBucket]
      by_cases htoken : row.token = token
      · rw [if_pos htoken, if_pos htoken.symm, Option.some_or]
      · rw [if_neg htoken, if_neg (Ne.symm htoken)]

/-- Each token's bucket is carried for the one row that names it. -/
theorem bucketFor_foldl {now : U64} {rows : List TokenLimit}
    (hnodup : (rows.map TokenLimit.token).Nodup) :
    bucketFor (rows.foldl (carryBucket cur now) p) token
      = match rows.find? fun l => l.token = token with
        | some row => (carried cur now row).or (bucketFor p token)
        | none => bucketFor p token := by
  induction rows generalizing p with
  | nil => rfl
  | cons row rows ih =>
    rw [List.map_cons, List.nodup_cons] at hnodup
    obtain ⟨hfresh, hnodup⟩ := hnodup
    rw [List.foldl_cons, ih hnodup, List.find?_cons, bucketFor_carryBucket]
    by_cases htoken : row.token = token
    · have hrest : rows.find? (fun l => l.token = token) = none := by
        rw [List.find?_eq_none]
        intro l hl hother
        exact hfresh (List.mem_map.mpr ⟨l, hl, (of_decide_eq_true hother).trans htoken.symm⟩)
      rw [hrest, if_pos htoken, decide_eq_true htoken]
    · rw [if_neg htoken, decide_eq_false htoken]

theorem foldl_carryBucket_eq {now : U64} {rows : List TokenLimit} :
    rows.foldl (carryBucket cur now) p
      = { p with buckets := (rows.foldl (carryBucket cur now) p).buckets } := by
  induction rows generalizing p with
  | nil => rfl
  | cons row rows ih =>
    have hrow : carryBucket cur now p row
        = { p with buckets := (carryBucket cur now p row).buckets } := by
      unfold carryBucket
      split <;> rfl
    rw [List.foldl_cons, ih, hrow]

theorem carryBuckets_eq (cur next : AgentPolicy) (now : U64) : carryBuckets cur next now
    = { next with buckets := (carryBuckets cur next now).buckets } :=
  foldl_carryBucket_eq

/-- A validated list names every token once. -/
theorem validateAdTokens_nodup {volumes : Map BytesN32 AccountVolume} {seen : List BytesN32}
    {rows : List TokenLimit} (ok : validateAdTokens volumes seen rows = .ok ()) :
    (rows.map TokenLimit.token).Nodup ∧ ∀ row ∈ rows, row.token ∉ seen := by
  induction rows generalizing seen with
  | nil => exact ⟨List.nodup_nil, fun row hrow => absurd hrow List.not_mem_nil⟩
  | cons row rows ih =>
    simp only [validateAdTokens, checkToken, Check.bind_ok, Check.require_ok] at ok
    obtain ⟨⟨⟩, ⟨⟨⟩, -, hfresh⟩, ⟨⟩, -, ⟨⟩, -, hrest⟩ := ok
    obtain ⟨hnodup, hapart⟩ := ih hrest
    refine ⟨?_, ?_⟩
    · rw [List.map_cons, List.nodup_cons]
      refine ⟨fun hmem => ?_, hnodup⟩
      obtain ⟨other, hother, htoken⟩ := List.mem_map.mp hmem
      exact hapart other hother (htoken ▸ List.mem_append_right seen List.mem_cons_self)
    · intro row' hrow'
      rcases List.mem_cons.mp hrow' with rfl | hrow'
      · exact hfresh
      · exact fun hmem => hapart row' hrow' (List.mem_append_left _ hmem)

theorem validate_nodup {volumes : Map BytesN32 AccountVolume}
    (ok : validate env volumes p = .ok ()) : (p.adTokens.map TokenLimit.token).Nodup := by
  simp only [validate, Check.bind_ok] at ok
  obtain ⟨-, -, -, -, ⟨⟩, hrows, -⟩ := ok
  exact (validateAdTokens_nodup hrows).1

/-- No bucket of the policy is stamped after `t`. -/
def AgentPolicy.StampedBy (p : AgentPolicy) (t : ℕ) : Prop :=
  ∀ token b, bucketFor p token = some b → b.lastTs.toNat ≤ t

theorem subset_iff {α : Type} [DecidableEq α] {small big : List α} :
    subset small big = true ↔ ∀ x ∈ small, x ∈ big := by
  unfold subset
  rw [List.all_eq_true]
  simp only [decide_eq_true_eq]

/-- A tightening that carries the buckets is within the policy it replaces. -/
theorem within_of_tightening (htight : isPolicyTightening cur next = true)
    (hnodup : (next.adTokens.map TokenLimit.token).Nodup) (hempty : next.buckets = [])
    (hlive : cur.revoked = false) (hstamped : cur.StampedBy env.now) :
    PolicyWithin env.now (carryBuckets cur next env.timestamp) cur := by
  have hfields := carryBuckets_eq cur next env.timestamp
  unfold isPolicyTightening at htight
  simp only [Bool.and_eq_true, Bool.or_eq_true, decide_eq_true_eq, subset_iff,
    List.all_eq_true] at htight
  obtain ⟨⟨⟨⟨⟨haction, horders⟩, hsigner⟩, hexpiry⟩, hscope⟩, hrows⟩ := htight
  have hlimit : ∀ token, limitFor (carryBuckets cur next env.timestamp) token
      = limitFor next token := by
    intro token
    rw [hfields]
    rfl
  refine ⟨?_, ?_, ?_, ?_, ?_, ?_, ?_⟩
  · rw [hfields]
    exact haction
  · rw [hfields]
    exact hsigner
  · exact fun _ => hlive
  · intro t' hcur
    rw [hfields]
    rcases hexpiry with hzero | ⟨hsome, hle⟩
    · exact absurd hzero hcur.1
    · exact ⟨hsome, hle.trans hcur.2⟩
  · rw [hfields]
    exact horders
  · intro adId hads
    rw [hfields] at hads
    unfold adInScope at hads ⊢
    dsimp only at hads
    cases hcur : cur.adScope with
    | none => rfl
    | some ads =>
      rw [hcur] at hscope
      cases hnext : next.adScope with
      | none =>
        rw [hnext] at hscope
        cases hscope
      | some narrower =>
        rw [hnext] at hscope hads
        dsimp only at hscope hads ⊢
        rw [decide_eq_true_eq] at hads ⊢
        exact subset_iff.mp hscope adId hads
  · intro token row hrow
    rw [hlimit] at hrow
    have hfound := hrows row (List.mem_of_find?_eq_some hrow)
    have hnamed := List.find?_some hrow
    have htoken : row.token = token := of_decide_eq_true hnamed
    rw [htoken] at hfound
    cases hcur : limitFor cur token with
    | none =>
      rw [hcur] at hfound
      cases hfound
    | some c =>
      rw [hcur] at hfound
      simp only [Bool.and_eq_true, decide_eq_true_eq] at hfound
      obtain ⟨⟨hcap, hcapacity⟩, hrefill⟩ := hfound
      refine ⟨c, rfl, hcap, .lower hcapacity hrefill ?_ fun x hx => hstamped token x hx⟩
      unfold carryBuckets
      rw [bucketFor_foldl hnodup]
      unfold limitFor at hrow
      rw [hrow]
      dsimp only
      have hnone : bucketFor next token = none := by
        unfold bucketFor
        rw [hempty]
        rfl
      rw [hnone, Option.or_none]
      unfold carried
      rw [htoken, hcur]
      cases hb : bucketFor cur token with
      | none =>
        -- never spent from: full under either
        have hfull : levelOf row.rate none env.now = row.rate.capacity.toNat := available_full
        have hfull' : levelOf c.rate none env.now = c.rate.capacity.toNat := available_full
        show levelOf row.rate none env.now ≤ levelOf c.rate none env.now
        omega
      | some b =>
        have hle : available c.rate b env.timestamp.toNat ≤ c.rate.capacity.toNat := available_le
        have hlt := c.rate.capacity.isLt
        have hlevel : (BitVec.ofNat 128 (min (available c.rate b env.timestamp.toNat)
            row.rate.capacity.toNat)).toNat
            = min (available c.rate b env.timestamp.toNat) row.rate.capacity.toNat := by
          rw [BitVec.toNat_ofNat]
          exact Nat.mod_eq_of_lt (by omega)
        unfold levelOf
        rw [Option.getD_some, Option.getD_some, available_of_le]
        · exact hlevel.trans_le (min_le_left _ _)
        · exact hlevel.trans_le (min_le_right _ _)
        · exact le_rfl

/-! ## Installing a policy -/

/-- What an accepted install leaves: the policy validated, and, where it tightens the one in place of
a guarded account, that one's buckets carried over. -/
structure Installed (env : Env) (c c' : Chain Y) (agentId : BytesN32) (next p : AgentPolicy) :
    Prop where
  policies : c'.state.policies = c.state.policies.set agentId p
  volumes : c'.state.volumes = c.state.volumes
  targets : c'.state.targets = c.state.targets
  valid : validate env c.state.volumes next = .ok ()
  live : ∀ cur, c.state.policies.get? agentId = some cur → cur.revoked = false
  settled : p = next ∨ ∃ cur, c.state.policies.get? agentId = some cur ∧
    p = carryBuckets cur next env.timestamp
  carried : ∀ cur, c.state.policies.get? agentId = some cur → c.state.anyGuarded = true →
    isPolicyTightening cur next = true → p = carryBuckets cur next env.timestamp

theorem settlePolicy_tightens (hguarded : c.state.anyGuarded = true)
    (hcur : c.state.policies.get? agentId = some cur) (htight : isPolicyTightening cur next = true)
    (ok : settlePolicy H env agentId next c = .ok (p, c')) :
    p = carryBuckets cur next env.timestamp := by
  have hfilter : (some cur).filter (fun cur => isPolicyTightening cur next) = some cur :=
    Option.filter_some_pos htight
  unfold settlePolicy at ok
  rw [Tx.bind_read_ok, if_pos hguarded, hcur, hfilter] at ok
  exact (Prod.mk.inj (Tx.pure_ok.mp ok)).1

theorem setPolicy_installed {allowedAction : Symbol} {adTokens : List TokenLimit}
    {orderTokens : List BytesN32} {validUntil : U64} {settlementSigner : BytesN32}
    {adScope : Option (List AdId)}
    (ok : setPolicy H env agentId allowedAction adTokens orderTokens validUntil settlementSigner
      adScope c = .ok ((), c')) :
    ∃ p, Installed env c c' agentId
      (newPolicy allowedAction adTokens orderTokens validUntil settlementSigner adScope) p := by
  have hrest := of_requireOwner ok
  simp only [Tx.bind_require_ok, Tx.bind_read_ok, Tx.bind_lift_ok] at hrest
  obtain ⟨-, hlive, ⟨⟩, hvalid, hrest⟩ := hrest
  obtain ⟨p, c₁, hsettle, hrest⟩ := Tx.bind_ok.mp hrest
  simp only [Tx.bind_modify_ok, Tx.modify_ok, Prod.mk.injEq, true_and] at hrest
  obtain rfl := hrest
  have hlive' : ∀ cur, c.state.policies.get? agentId = some cur → cur.revoked = false := by
    intro cur hcur
    rw [hcur] at hlive
    exact hlive
  have hcarried : ∀ cur, c.state.policies.get? agentId = some cur → c.state.anyGuarded = true →
      isPolicyTightening cur (newPolicy allowedAction adTokens orderTokens validUntil
        settlementSigner adScope) = true → p = carryBuckets cur (newPolicy allowedAction adTokens
        orderTokens validUntil settlementSigner adScope) env.timestamp :=
    fun cur hcur hguarded htight => settlePolicy_tightens hguarded hcur htight hsettle
  rcases settlePolicy_ok hsettle with ⟨-, rfl, hp⟩ | ⟨-, -, rfl, hp⟩
  · refine ⟨p, rfl, rfl, rfl, hvalid, hlive', ?_, hcarried⟩
    rcases hp with rfl | ⟨cur, hcur, -, rfl⟩
    · exact .inl rfl
    · exact .inr ⟨cur, hcur, rfl⟩
  · exact ⟨p, rfl, rfl, rfl, hvalid, hlive', .inl hp, hcarried⟩

/-! ## The stamps of stored buckets -/

/-- Every agent's buckets are stamped no later than `t`. -/
def Stamped (t : ℕ) (s : State) : Prop :=
  ∀ agentId p, s.policies.get? agentId = some p → p.StampedBy t

theorem Stamped.congr {s' : State} (hs : Stamped t s) (h : s'.policies = s.policies) (ht : t ≤ t') :
    Stamped t' s' := by
  intro agentId p hp token b hb
  rw [h] at hp
  exact (hs agentId p hp token b hb).trans ht

theorem Stamped.set {s' : State} (hs : Stamped t s) (h : s'.policies = s.policies.set agentId p)
    (ht : t ≤ t') (hp : p.StampedBy t') : Stamped t' s' := by
  intro agentId' p' hp' token b hb
  rw [h, Map.get?_set] at hp'
  split at hp'
  · cases hp'
    exact hp token b hb
  · exact (hs agentId' p' hp' token b hb).trans ht

theorem checkContractCall_stamped {ctx : ContractContext} (hp : p.StampedBy env.now)
    (ok : checkContractCall H env targets p ctx c = .ok (p', c')) : p'.StampedBy env.now := by
  simp only [checkContractCall, spendVolume, Tx.bind_require_ok, Tx.bind_lift_ok, Tx.bind_expect_ok,
    Tx.bind_read_ok, Tx.bind_modify_ok, Tx.pure_ok, Prod.mk.injEq] at ok
  obtain ⟨-, -, lock, -, -, -, row, -, -, -, amount, -, -, -, v, -, x, hx, y, -, rfl, -⟩ := ok
  intro token b hb
  rw [bucketFor_putBucket] at hb
  split at hb
  · cases hb
    obtain ⟨-, rfl⟩ := trySpend_eq_some.mp hx
    have hold : ((bucketFor p lock.adChainToken).getD
        (Bucket.full row.rate env.timestamp)).lastTs.toNat ≤ env.now := by
      cases hb : bucketFor p lock.adChainToken with
      | some b => exact hp _ b hb
      | none => exact le_rfl
    dsimp only
    split
    · exact le_rfl
    · exact hold
  · exact hp token b hb

theorem checkContexts_stamped {contexts : List Context} (hp : p.StampedBy env.now)
    (ok : checkContexts H env targets p contexts c = .ok (p', c')) : p'.StampedBy env.now := by
  induction contexts generalizing p c with
  | nil =>
    obtain ⟨rfl, -⟩ := Prod.mk.inj (Tx.pure_ok.mp ok)
    exact hp
  | cons ctx rest ih =>
    cases ctx with
    | other => cases ok
    | contract ctx =>
      obtain ⟨p₁, c₁, hfirst, hrest⟩ := Tx.bind_ok.mp ok
      exact ih (checkContractCall_stamped hp hfirst) hrest

theorem stampedBy_carried (hnodup : (next.adTokens.map TokenLimit.token).Nodup)
    (hempty : next.buckets = []) : (carryBuckets cur next env.timestamp).StampedBy env.now := by
  have hnone : ∀ token, bucketFor next token = none := by
    intro token
    unfold bucketFor
    rw [hempty]
    rfl
  intro token b hb
  unfold carryBuckets at hb
  rw [bucketFor_foldl hnodup, hnone] at hb
  split at hb
  · next row hrow =>
    rw [Option.or_none] at hb
    unfold carried at hb
    split at hb
    · cases hb
      exact le_rfl
    · cases hb
  · cases hb

/-- Buckets are stamped with the time of the call that writes them. -/
theorem Stamped.step {call : Call} {r : Ret} (hs : Stamped t c.state) (ht : t ≤ env.now)
    (ok : exec N H env call c = .ok (r, c')) : Stamped env.now c'.state := by
  cases hquiet : call.quiet with
  | true => exact hs.congr (policies_of_buckets (buckets_of_quiet hquiet ok)) ht
  | false =>
    cases call
    case checkAuth =>
      obtain ⟨⟨⟩, hok, -⟩ := Tx.answer_ok.mp ok
      obtain ⟨agentId, p, p', c₁, -, hp, hcontexts, rfl⟩ := checkAuth_ok hok
      obtain ⟨-, -, -, -, hpolicies⟩ := checkContexts_ok hcontexts
      have hold : p.StampedBy env.now := fun token b hb => (hs agentId p hp token b hb).trans ht
      have hset : c₁.state.policies.set agentId p' = c.state.policies.set agentId p' := by
        rw [hpolicies]
      exact hs.set hset ht (checkContexts_stamped hold hcontexts)
    case setAccountLimit =>
      obtain ⟨⟨⟩, hok, -⟩ := Tx.answer_ok.mp ok
      exact hs.congr (setAccountLimit_ok hok).2 ht
    case setPolicy =>
      obtain ⟨⟨⟩, hok, -⟩ := Tx.answer_ok.mp ok
      obtain ⟨p, hinstalled⟩ := setPolicy_installed hok
      refine hs.set hinstalled.policies ht ?_
      rcases hinstalled.settled with rfl | ⟨cur, -, rfl⟩
      · intro token b hb
        cases hb
      · exact stampedBy_carried (validate_nodup hinstalled.valid) rfl
    case revokeAgent =>
      obtain ⟨⟨⟩, hok, -⟩ := Tx.answer_ok.mp ok
      obtain ⟨-, hpolicies | ⟨p, hp, hpolicies⟩⟩ := revokeAgent_ok hok
      · exact hs.congr hpolicies ht
      · exact hs.set hpolicies ht fun token b hb => (hs _ p hp token b hb).trans ht
    all_goals cases hquiet

theorem stamped_of_run {owner : Address} {s₀ : State} {y : Y}
    (hnew : construct H owner targets = .ok s₀) (run : Run (system N H outside) ⟨s₀, y⟩ h c)
    (hchron : Chronological h) (hlate : ∀ e ∈ h, timeOf e ≤ t) : Stamped t c.state := by
  induction run generalizing t with
  | start =>
    simp only [construct, Check.bind_ok, Check.pure_ok] at hnew
    obtain ⟨-, -, -, -, rfl⟩ := hnew
    intro agentId p hp
    cases hp
  | refused run failed ih => exact ih hchron hlate
  | outside run moved ih =>
    obtain ⟨y', -, rfl⟩ := moved
    exact ih hchron hlate
  | @accepted h a b x r run admitted ok ih =>
    obtain ⟨hlatest, hchron⟩ := List.pairwise_cons.mp hchron
    have hbefore := ih hchron hlatest
    have hnow : timeOf (x, r) ≤ t := hlate _ List.mem_cons_self
    exact (hbefore.step le_rfl ok).congr rfl hnow

/-! ## The tightening -/

/-- What an agent is let through after an instant tightening, it would have been let through before;
and while an ad is guarded, any other write of a policy spends its announcement. -/
theorem tightening_never_widens (N : Neighbors Y) (H : AccountHost) (outside : Y → Y → Prop) :
    (∀ env agentId allowedAction adTokens orderTokens validUntil settlementSigner adScope cur c r c',
      exec N H env (.setPolicy agentId allowedAction adTokens orderTokens validUntil settlementSigner
        adScope) c = .ok (r, c') → c.state.policies.get? agentId = some cur →
      c.state.anyGuarded = true → isPolicyTightening cur (newPolicy allowedAction adTokens orderTokens
        validUntil settlementSigner adScope) = true → cur.StampedBy env.now →
      ∀ auths, Authorizations env.now auths → Accepts N H auths c' → Accepts N H auths c) ∧
    (∀ owner targets s₀ y h c t, construct H owner targets = .ok s₀ →
      Run (system N H outside) ⟨s₀, y⟩ h c → Chronological h → (∀ e ∈ h, timeOf e ≤ t) →
      ∀ agentId cur, c.state.policies.get? agentId = some cur → cur.StampedBy t) ∧
    ∀ env agentId allowedAction adTokens orderTokens validUntil settlementSigner adScope next c r c',
      exec N H env (.setPolicy agentId allowedAction adTokens orderTokens validUntil settlementSigner
        adScope) c = .ok (r, c') →
      next = newPolicy allowedAction adTokens orderTokens validUntil settlementSigner adScope →
      c.state.guardedAds ≠ [] → (∀ cur, c.state.policies.get? agentId = some cur →
        isPolicyTightening cur next = false) →
      Spendable H env c.state .account "set_policy" (policyArgs agentId next) ∧
        c'.state.row .account "set_policy" = none := by
  refine ⟨?_, ?_, ?_⟩
  · intro env agentId allowedAction adTokens orderTokens validUntil settlementSigner adScope cur c r c'
      ok hcur hguarded htight hstamped auths hauths hacc
    obtain ⟨⟨⟩, hok, -⟩ := Tx.answer_ok.mp ok
    obtain ⟨p, hinstalled⟩ := setPolicy_installed hok
    refine accepts_within hauths ?_ hacc
    refine ⟨hinstalled.targets.symm, hinstalled.volumes.symm, ?_⟩
    intro agentId' p' hp'
    rw [hinstalled.policies, Map.get?_set] at hp'
    split at hp'
    · next hagent =>
      cases hp'
      refine ⟨cur, hagent ▸ hcur, ?_⟩
      rw [hinstalled.carried cur hcur hguarded htight]
      exact within_of_tightening htight (validate_nodup hinstalled.valid) rfl
        (hinstalled.live cur hcur) hstamped
    · exact ⟨p', hp', .refl⟩
  · intro owner targets s₀ y h c t hnew run hchron hlate
    exact stamped_of_run hnew run hchron hlate
  · intro env agentId allowedAction adTokens orderTokens validUntil settlementSigner adScope next c r
      c' ok hnext hguarded hwider
    exact spendable_of_announced (brakeStep_of_exec ok)
      (announcement_of_loosens hguarded (.policy hnext hwider))

/-- The sample agent's account with an ad guarded. -/
def sampleArmed : History × Chain Unit :=
  (play sampleAccountSystem (sampleSetup ++
    [(sampleEnv 150, .setGuardRail (ascii "ad") (some (sampleRail 3600)))]) [] sampleNew).getD
    ([], sampleNew)

/-- The sample policy with every number halved. -/
def sampleTightening : Env × Call :=
  (sampleEnv 300, .setPolicy sampleAgent "lock_for_order" [⟨0x7A, 300, ⟨400, 1⟩⟩] [0x7B] 0 0x51 none)

def sampleAuthorization : Env × Call :=
  (sampleEnv 400, .checkAuth 9 (.agent sampleAgent sampleSignature) [sampleLock 150, sampleLock 200])

theorem tightening_never_widens_sample :
    Accepts noEscrows sampleAccountHost [sampleAuthorization] sampleArmed.2 := by
  obtain ⟨hwithin, hreached, -⟩ :=
    tightening_never_widens noEscrows sampleAccountHost fun _ _ => False
  obtain ⟨r, htightened⟩ := sampleStep_ok (t := sampleTightening) (c := sampleArmed.2)
    (by decide +kernel)
  obtain ⟨r', hauthorized⟩ := sampleStep_ok (t := sampleAuthorization)
    (c := sampleStep sampleTightening sampleArmed.2) (by decide +kernel)
  have run : Run sampleAccountSystem sampleNew sampleArmed.1 sampleArmed.2 :=
    Run.played_admitted (by decide +kernel) (by decide +kernel)
  have hchron : Chronological sampleArmed.1 := by
    have htimes : (sampleArmed.1.map timeOf).Pairwise fun later earlier => earlier ≤ later := by
      decide +kernel
    exact List.pairwise_map.mp htimes
  have hlate : ∀ e ∈ sampleArmed.1, timeOf e ≤ 300 := by
    have htimes : ∀ t ∈ sampleArmed.1.map timeOf, t ≤ 300 := by decide +kernel
    exact fun e he => htimes _ (List.mem_map_of_mem he)
  have hstored : (sampleArmed.2.state.policies.get? sampleAgent).isSome = true := by decide +kernel
  obtain ⟨cur, hcur⟩ := Option.isSome_iff_exists.mp hstored
  have htight : (sampleArmed.2.state.policies.get? sampleAgent).all (fun cur =>
      isPolicyTightening cur (newPolicy "lock_for_order" [⟨0x7A, 300, ⟨400, 1⟩⟩] [0x7B] 0 0x51 none))
      = true := by decide +kernel
  rw [hcur] at htight
  have hauths : Authorizations 300 [sampleAuthorization] :=
    ⟨List.forall_mem_singleton.mpr rfl, List.forall_mem_singleton.mpr (by decide),
      List.pairwise_singleton _ _⟩
  exact hwithin _ _ _ _ _ _ _ _ cur _ _ _ htightened hcur (by decide +kernel) htight
    (hreached _ _ _ () _ _ 300 construct_sampleNew run hchron hlate _ cur hcur) _ hauths
    ⟨r', _, hauthorized, trivial⟩

end AgentAccount
end ProofBridge
