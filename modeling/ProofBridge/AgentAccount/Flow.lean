import ProofBridge.AgentAccount.Timelock

/-!
# What leaves a guarded ad

An owner call that withdraws from, closes, locks against or re-points a guarded ad either spends an
announcement of exactly that call or is small, and small calls draw on the rail's bucket. The bucket
is a tank that no call refills, so what leaves unannounced is a rate and not the balance.
-/

namespace ProofBridge
namespace AgentAccount

open ContractLib Finset

variable {Y : Type} {N : Neighbors Y} {H : AccountHost} {outside : Y → Y → Prop} {env : Env}
  {c c' : Chain Y} {s s' : State} {scope : Scope} {action : Symbol} {adId : AdId} {call : Call}
  {r : Ret} {h : History} {owner : Address} {targets : List Address} {s₀ : State} {y : Y}
  {t₀ t₁ : ℕ}

/-- What an unannounced call takes of an ad. -/
def Call.small (s : State) (adId : AdId) : Call → ℕ
  | .call _ fnName args _ _ =>
    if extractive fnName ∧ escrowAnnouncement s fnName args = none then
      match decodeAdCall fnName args with
      | .ok (adId', amount) => if adId' = adId then amount else 0
      | .error _ => 0
    else 0
  | _ => 0

/-- What a guarded ad's bucket has left. -/
def State.railLevel (s : State) (adId : AdId) (t : ℕ) : ℕ :=
  match s.guardRails.get? adId with
  | some g => available g.rate g.bucket t
  | none => 0

def State.railRefill (s : State) (adId : AdId) : ℕ :=
  match s.guardRails.get? adId with
  | some g => g.rate.refillPerSecond.toNat
  | none => 0

/-- The bucket of a guarded ad's rail. -/
def railTank (adId : AdId) : Tank State where
  level s := s.railLevel adId
  rate s := s.railRefill adId
  grows s t t' ht := by
    unfold State.railLevel State.railRefill
    cases s.guardRails.get? adId with
    | some g => exact available_grows ht
    | none => exact Nat.zero_le _

/-! ## What one call takes -/

theorem railLevel_of_same (h : s'.guardRails.get? adId = s.guardRails.get? adId) (t : ℕ) :
    s'.railLevel adId t = s.railLevel adId t := by
  unfold State.railLevel
  rw [h]

/-- A rail's new bucket holds no more than its old one. -/
theorem available_settleRail {cur g : GuardRail} {now : U64} :
    available (settleRail (some cur) g now).rate (settleRail (some cur) g now).bucket now.toNat
      ≤ available cur.rate cur.bucket now.toNat := by
  have hcapacity := g.rate.capacity.isLt
  have hlevel : (settleRail (some cur) g now).bucket.level.toNat
      = min g.rate.capacity.toNat (available cur.rate cur.bucket now.toNat) := by
    unfold settleRail
    dsimp only
    rw [BitVec.toNat_ofNat]
    have hcur : available cur.rate cur.bucket now.toNat ≤ cur.rate.capacity.toNat := available_le
    have hlt := cur.rate.capacity.isLt
    split
    · rw [Nat.mod_eq_of_lt hcapacity]
      omega
    · rw [Nat.mod_eq_of_lt (by omega)]
      omega
  have hstamp : (settleRail (some cur) g now).bucket.lastTs = now := rfl
  have hrate : (settleRail (some cur) g now).rate = g.rate := rfl
  have hcap : (settleRail (some cur) g now).bucket.level.toNat
      ≤ (settleRail (some cur) g now).rate.capacity.toNat :=
    hlevel.trans_le (hrate ▸ min_le_left _ _)
  rw [available_of_le hcap (hstamp ▸ le_rfl), hlevel]
  exact min_le_right _ _

/-- A call that announces is not small. -/
theorem small_of_announced {k : Scope × Symbol × List Value}
    (hann : call.announcement s = some k) : call.small s adId = 0 := by
  cases call with
  | call target fnName args pay approvals =>
    have hann' : escrowAnnouncement s fnName args = some k := hann
    unfold Call.small
    dsimp only
    rw [if_neg]
    rintro ⟨-, hnone⟩
    rw [hann'] at hnone
    cases hnone
  | _ => rfl

/-- A call that leaves the brake alone takes nothing of a guarded ad. -/
theorem small_of_unguarded (hopen : call.Unguarded s) (hguarded : s.isGuarded adId = true) :
    call.small s adId = 0 := by
  cases call with
  | call target fnName args pay approvals =>
    unfold Call.small
    dsimp only
    split
    · next hext =>
      obtain ⟨adId', amount, hdecode, hfree⟩ := hopen hext.1
      rw [hdecode]
      dsimp only
      rw [if_neg]
      rintro rfl
      rw [hguarded] at hfree
      cases hfree
    · rfl
  | _ => rfl

theorem small_of_writes (hcall : call.writesBrake = true) : call.small s adId = 0 := by
  cases call with
  | call => cases hcall
  | _ => rfl

/-- What a call takes unannounced of an ad that stays guarded, it takes of the bucket; no call puts
anything in. -/
theorem rail_draw (hs : Rostered s) (step : BrakeStep H env s s' call)
    (hguarded : s.isGuarded adId = true) (hkept : s'.isGuarded adId = true) :
    s'.railLevel adId env.now + call.small s adId ≤ s.railLevel adId env.now := by
  have hsame : s'.guardRails.get? adId = s.guardRails.get? adId → call.small s adId = 0 →
      s'.railLevel adId env.now + call.small s adId ≤ s.railLevel adId env.now := by
    intro hrail hsmall
    rw [railLevel_of_same hrail, hsmall, Nat.add_zero]
  -- a rail put in the place of one that was there
  have hput : ∀ {adId' : AdId} {g armed : GuardRail},
      armed = settleRail (s.guardRails.get? adId') g env.timestamp →
      s'.rails = (s.putGuardRail adId' armed).rails → call.small s adId = 0 →
      s'.railLevel adId env.now + call.small s adId ≤ s.railLevel adId env.now := by
    intro adId' g armed harmed hrails hsmall
    have hguards := (Prod.mk.inj hrails).1
    rw [guardRails_put] at hguards
    by_cases had : adId = adId'
    · subst had
      obtain ⟨cur, hcur⟩ := Option.isSome_iff_exists.mp
        ((hs.listed adId).mp (of_decide_eq_true hguarded))
      rw [hsmall, Nat.add_zero]
      unfold State.railLevel
      rw [hguards, Map.get?_set_self, hcur, harmed, hcur]
      exact available_settleRail
    · exact hsame (by rw [hguards, Map.get?_set_ne had]) hsmall
  -- an ad that stays guarded is not the one whose rail goes
  have hremoved : ∀ {adId' : AdId}, s'.rails = (s.removeGuardRail adId').rails →
      call.small s adId = 0 →
      s'.railLevel adId env.now + call.small s adId ≤ s.railLevel adId env.now := by
    intro adId' hrails hsmall
    have hmem : adId ∈ (s.removeGuardRail adId').guardedAds :=
      (Prod.mk.inj hrails).2 ▸ of_decide_eq_true hkept
    have had : adId ≠ adId' := of_decide_eq_true (List.mem_filter.mp hmem).2
    exact hsame (by rw [guards_of_removed hrails, if_neg had]) hsmall
  cases step with
  | kept hcall hnone hopen hrails hrows =>
    exact hsame (by rw [(Prod.mk.inj hrails).1]) (small_of_unguarded hopen hguarded)
  | spent hcall hann hspendable hrails hrows =>
    exact hsame (by rw [(Prod.mk.inj hrails).1]) (small_of_announced hann)
  | @charged _ fnName args _ _ adId' amount g bucket hfn hdecode hnone _ hg hthreshold hspend hrails
      hrows =>
    have hguards := (Prod.mk.inj hrails).1
    unfold Call.small
    dsimp only
    have hext : extractive fnName = true := by
      rcases hfn with rfl | rfl
      · decide
      · decide
    rw [if_pos ⟨hext, hnone⟩, hdecode]
    dsimp only
    split
    · next had =>
      subst had
      unfold State.railLevel
      rw [hguards, Map.get?_set_self, hg]
      exact (available_trySpend hspend).le
    · next had =>
      have hrail : s'.guardRails.get? adId = s.guardRails.get? adId := by
        rw [hguards, Map.get?_set_ne (Ne.symm had)]
      rw [Nat.add_zero]
      exact (railLevel_of_same hrail _).le
  | scheduled hterms hrails hrows => exact hsame (by rw [(Prod.mk.inj hrails).1]) rfl
  | cancelled hrails hrows => exact hsame (by rw [(Prod.mk.inj hrails).1]) rfl
  | armed hbounds hfound htight harmed hrails hrows => exact hput harmed hrails rfl
  | loosened hbounds hloosens hspendable harmed hrails hrows => exact hput harmed hrails rfl
  | disarmed hspendable hfound hrails hrows => exact hremoved hrails rfl
  | disarmedClosed hclosed hbefore hafter hlax hrails hrows => exact hremoved hrails rfl

/-! ## Over a run -/

/-- A run's calls as draws on the rail's bucket. -/
def railDraws (adId : AdId) (ps : List (Passage (Chain Y) (Env × Call) Ret)) : List Draw :=
  ps.map fun p => {
    time := timeOf p.event
    amount := p.event.1.2.small p.before.state adId
    gain := 0
    rate := p.after.state.railRefill adId }

/-- What a run takes unannounced of an ad. -/
def smallOn (adId : AdId) (ps : List (Passage (Chain Y) (Env × Call) Ret)) : ℕ :=
  (ps.map fun p => p.event.1.2.small p.before.state adId).sum

theorem railDraws_of_passages {ps : List (Passage (Chain Y) (Env × Call) Ret)}
    (hs : Rostered c.state) (run : Passages (system N H outside) c ps c')
    (hguarded : c.state.isGuarded adId = true)
    (hkept : ∀ p ∈ ps, p.after.state.isGuarded adId = true) :
    Drawn (railTank adId) c.state (railDraws adId ps) c'.state ∧ Rostered c'.state ∧
      c'.state.isGuarded adId = true := by
  induction run with
  | start => exact ⟨.start, hs, hguarded⟩
  | refused run failed ih => exact ih hkept
  | outside run moved ih =>
    obtain ⟨y, -, rfl⟩ := moved
    exact ih hkept
  | @accepted ps a b t r run admitted ok ih =>
    obtain ⟨hdrawn, hrostered, hbefore⟩ := ih fun p hp => hkept p (List.mem_cons_of_mem _ hp)
    have hafter : b.state.isGuarded adId = true := hkept _ List.mem_cons_self
    have step : BrakeStep H t.1 a.state b.state t.2 := brakeStep_of_exec ok
    have hdraw := rail_draw hrostered step hbefore hafter
    refine ⟨?_, hrostered.step step, hafter⟩
    unfold railDraws at hdrawn ⊢
    rw [List.map_cons]
    exact Drawn.draw hdrawn hdraw

/-- The flow through a rail's bucket while its ad stays guarded. -/
theorem smallOn_le {ps : List (Passage (Chain Y) (Env × Call) Ret)} (hs : Rostered c.state)
    (run : Passages (system N H outside) c ps c') (hguarded : c.state.isGuarded adId = true)
    (hkept : ∀ p ∈ ps, p.after.state.isGuarded adId = true)
    (hchron : Chronological (ps.map Passage.event)) (hwithin : Within t₀ t₁ (ps.map Passage.event))
    (ht : t₀ ≤ t₁) : smallOn adId ps ≤ c.state.railLevel adId t₀
      + ∑ u ∈ Ico t₀ t₁, rateAt (c.state.railRefill adId) (railDraws adId ps) u := by
  obtain ⟨hdrawn, -, -⟩ := railDraws_of_passages hs run hguarded hkept
  have horder : InOrder (railDraws adId ps) := by
    unfold InOrder railDraws
    rw [List.pairwise_map]
    exact List.pairwise_map.mp hchron
  have hspan : ∀ d ∈ railDraws adId ps, t₀ ≤ d.time ∧ d.time ≤ t₁ := by
    intro d hd
    obtain ⟨p, hp, rfl⟩ := List.mem_map.mp hd
    exact hwithin p.event (List.mem_map_of_mem hp)
  have hflow := hdrawn.flow horder ht (fun d hd => (hspan d hd).1) fun d hd => (hspan d hd).2
  have hgain : ((railDraws adId ps).map Draw.gain).sum = 0 := by
    unfold railDraws
    rw [List.map_map, List.sum_eq_zero]
    intro g hg
    obtain ⟨p, -, rfl⟩ := List.mem_map.mp hg
    rfl
  have hamount : ((railDraws adId ps).map Draw.amount).sum = smallOn adId ps := by
    unfold railDraws smallOn
    rw [List.map_map]
    rfl
  rw [hgain, hamount] at hflow
  exact (Nat.le_add_right _ _).trans hflow

/-! ## What every call has to spend -/

/-- The delay a row of the scope waits. -/
def DelayInForce (s : State) (scope : Scope) (delay : ℕ) : Prop :=
  match scope with
  | .ad adId => ∃ g, s.guardRails.get? adId = some g ∧ g.delay.toNat = delay
  | .account => ∃ timing, IsTimelock s none timing ∧ timing.1 = delay

/-- The call took one row of exactly these arguments, announced at least the delay in force earlier,
and used it up. -/
def SpentRow (H : AccountHost) (env : Env) (h : History) (s s' : State) (scope : Scope)
    (action : Symbol) (args : List Value) : Prop :=
  ∃ row t delay, s.row scope action = some row ∧ row.commitment = H.argsCommitment args ∧
    announcedAt scope action h = some t ∧ DelayInForce s scope delay ∧ t + delay ≤ env.now ∧
    env.now < row.expiresAt ∧ s'.row scope action = none

theorem spentRow_of_spendable {args : List Value} (hs : Timely h s)
    (hspendable : Spendable H env s scope action args) (hgone : s'.row scope action = none) :
    SpentRow H env h s s' scope action args := by
  obtain ⟨row, hrow, hcommitment, hready, hexpires⟩ := hspendable
  cases scope with
  | ad adId =>
    obtain ⟨g, t, hg, ht, hobeys⟩ := hs.ofAd adId action row hrow
    have hwaits : t + g.delay.toNat ≤ row.readyAt := hobeys.waits
    exact ⟨row, t, g.delay.toNat, hrow, hcommitment, ht, ⟨g, hg, rfl⟩, hwaits.trans hready, hexpires,
      hgone⟩
  | account =>
    obtain ⟨timing, t, htiming, ht, hobeys⟩ := hs.ofAccount action row hrow
    have hlock : IsTimelock s none timing := isTimelock_of_ok (accountTimelock_ok htiming).2
    exact ⟨row, t, timing.1, hrow, hcommitment, ht, ⟨timing, hlock, rfl⟩, hobeys.waits.trans hready,
      hexpires, hgone⟩

/-- A call that has to announce finds its row, and uses it up. -/
theorem spendable_of_announced {args : List Value} (step : BrakeStep H env s s' call)
    (hann : call.announcement s = some (scope, action, args)) :
    Spendable H env s scope action args ∧ s'.row scope action = none := by
  have hlisted : "set_guard_rail" ∈ adActions := by decide
  cases step with
  | kept hcall hnone hopen hrails hrows =>
    rw [hann] at hnone
    cases hnone
  | spent hcall hann' hspendable hrails hrows =>
    rw [hann] at hann'
    cases hann'
    refine ⟨hspendable, ?_⟩
    unfold State.row
    rw [hrows, Map.get?_remove, if_pos rfl]
  | charged hfn hdecode hnone hguarded hg hthreshold hspend hrails hrows =>
    have hann' : escrowAnnouncement s _ _ = some _ := hann
    rw [hnone] at hann'
    cases hann'
  | scheduled hterms hrails hrows => cases hann
  | cancelled hrails hrows => cases hann
  | armed hbounds hfound htight harmed hrails hrows =>
    unfold Call.announcement at hann
    dsimp only at hann
    rw [htight] at hann
    cases hann
  | loosened hbounds hloosens hspendable harmed hrails hrows =>
    unfold Call.announcement at hann
    dsimp only at hann
    rw [if_pos hloosens] at hann
    cases hann
    exact ⟨hspendable, (hrows _ _).1 ⟨.inl rfl, hlisted⟩⟩
  | disarmed hspendable hfound hrails hrows =>
    unfold Call.announcement at hann
    dsimp only at hann
    split at hann
    · next hloosens =>
      cases hann
      exact ⟨hspendable hloosens, (hrows _ _).1 ⟨.inl rfl, hlisted⟩⟩
    · cases hann
  | disarmedClosed hclosed hbefore hafter hlax hrails hrows => cases hann

theorem spent_of_announced {args : List Value} (hs : Timely h s) (step : BrakeStep H env s s' call)
    (hann : call.announcement s = some (scope, action, args)) :
    SpentRow H env h s s' scope action args := by
  obtain ⟨hspendable, hgone⟩ := spendable_of_announced step hann
  exact spentRow_of_spendable hs hspendable hgone

/-- A change of the account that only an announcement may make while an ad is guarded: its action and
the arguments the row commits to. -/
inductive LoosensAccount (s : State) : Call → Symbol → List Value → Prop
  | upgrade (newWasmHash : BytesN32) :
      LoosensAccount s (.upgrade newWasmHash) "upgrade" [.bytes32 newWasmHash]
  | policy {agentId : BytesN32} {allowedAction : Symbol} {adTokens : List TokenLimit}
      {orderTokens : List BytesN32} {validUntil : U64} {settlementSigner : BytesN32}
      {adScope : Option (List AdId)} {p : AgentPolicy}
      (hnew : p = newPolicy allowedAction adTokens orderTokens validUntil settlementSigner adScope)
      (hwider : ∀ cur, s.policies.get? agentId = some cur → isPolicyTightening cur p = false) :
      LoosensAccount s (.setPolicy agentId allowedAction adTokens orderTokens validUntil
        settlementSigner adScope) "set_policy" (policyArgs agentId p)
  | limit {token : BytesN32} {limit : Limit}
      (hwider : isLimitTightening (s.volumes.get? token) limit = false) :
      LoosensAccount s (.setAccountLimit token limit) "set_account_limit"
        [.bytes32 token, Value.ofLimit limit]
  | targets {targets : List Address} {target : Address} (hmem : target ∈ targets)
      (hadded : target ∉ s.targets) :
      LoosensAccount s (.setTargets targets) "set_targets" [.vec (targets.map Value.address)]
  | sweep (token payee : Address) (amount : U128) :
      LoosensAccount s (.sweep token payee amount) "sweep"
        [.address token, .address payee, .u128 amount]
  | resume (target : Address) (args : List Value) (pay : Option (Address × U128))
      (approvals : List Approval) :
      LoosensAccount s (.call target "resume_settlement" args pay approvals) "resume_settlement" args

theorem announcement_of_loosens {args : List Value} (hguarded : s.guardedAds ≠ [])
    (hloosens : LoosensAccount s call action args) :
    call.announcement s = some (.account, action, args) := by
  have hany : s.anyGuarded = true := by
    unfold State.anyGuarded
    rw [Bool.not_eq_true', List.isEmpty_eq_false_iff]
    exact hguarded
  have hneeds : ∀ action args, accountAnnouncement s true action args
      = some (.account, action, args) := by
    intro action args
    unfold accountAnnouncement
    rw [hany, Bool.and_true, if_pos rfl]
  cases hloosens with
  | upgrade newWasmHash => exact hneeds _ _
  | @policy agentId _ _ _ _ _ _ p hnew hwider =>
    have hnot : tightensPolicy s agentId p = false := by
      unfold tightensPolicy
      rw [Option.isSome_eq_false_iff, Option.isNone_iff_eq_none, Option.filter_eq_none_iff]
      intro cur hcur
      rw [hwider cur hcur]
      exact Bool.false_ne_true
    subst hnew
    unfold Call.announcement
    dsimp only
    rw [hnot]
    exact hneeds _ _
  | limit hwider =>
    unfold Call.announcement
    dsimp only
    rw [hwider]
    exact hneeds _ _
  | targets hmem hadded =>
    have hadds : (List.any _ fun t => decide (t ∉ s.targets)) = true :=
      List.any_eq_true.mpr ⟨_, hmem, decide_eq_true hadded⟩
    unfold Call.announcement
    dsimp only
    rw [hadds]
    exact hneeds _ _
  | sweep token payee amount => exact hneeds _ _
  | resume target args pay approvals =>
    show escrowAnnouncement s "resume_settlement" args = _
    unfold escrowAnnouncement
    rw [if_pos rfl, if_pos hany]

/-! ## The owner's escrow calls -/

/-- What `call` reaches at all. -/
theorem checkOwnerCall_listed {fnName : Symbol} {args : List Value}
    (ok : checkOwnerCall H env fnName args c = .ok ((), c')) : isTokenFunction fnName = false ∧
      (c.state.guardedAds ≠ [] → extractive fnName = true ∨ fnName = "resume_settlement" ∨
        fnName ∈ instantEscrowCalls) := by
  unfold checkOwnerCall at ok
  simp only [Tx.bind_require_ok, Tx.bind_read_ok, Tx.ite_apply] at ok
  obtain ⟨htoken, ok⟩ := ok
  refine ⟨htoken, fun hguarded => ?_⟩
  split at ok
  · next hresume => exact .inr (.inl hresume)
  · split at ok
    · next hother =>
      obtain ⟨hlisted, -⟩ := Tx.require_ok.mp ok
      have hany : c.state.anyGuarded = true := by
        unfold State.anyGuarded
        rw [Bool.not_eq_true', List.isEmpty_eq_false_iff]
        exact hguarded
      refine .inr (.inr ?_)
      by_contra hnot
      exact hlisted ⟨hany, hnot⟩
    · next hnamed => exact .inl (decide_eq_true (not_not.mp hnamed))

/-- What an accepted extractive call on a guarded ad cost. -/
inductive Charged (H : AccountHost) (env : Env) (h : History) (s s' : State) (fnName : Symbol)
    (args : List Value) (adId : AdId) (amount : ℕ) : Prop
  | announced (hspent : SpentRow H env h s s' (.ad adId) fnName args)
  | small (g : GuardRail) (bucket : Bucket)
      (hfn : fnName = "withdraw_from_ad" ∨ fnName = "lock_for_order")
      (hg : s.guardRails.get? adId = some g) (hthreshold : amount ≤ g.threshold.toNat)
      (hspend : trySpend g.rate g.bucket amount env.timestamp = some bucket)
      (hcharged : s'.guardRails.get? adId = some { g with bucket })

/-- An extractive call is announced under the ad it names, with its own name and arguments. -/
theorem escrowAnnouncement_ok {fnName : Symbol} {args : List Value}
    {k : Scope × Symbol × List Value} (hann : escrowAnnouncement s fnName args = some k)
    (hext : extractive fnName = true) : ∃ adId amount,
      decodeAdCall fnName args = .ok (adId, amount) ∧ k = (.ad adId, fnName, args) := by
  have hresume : fnName ≠ "resume_settlement" := by
    rintro rfl
    exact absurd hext (by decide)
  unfold escrowAnnouncement at hann
  rw [if_neg hresume, if_pos (of_decide_eq_true hext)] at hann
  cases hdecode : decodeAdCall fnName args with
  | error e =>
    rw [hdecode] at hann
    cases hann
  | ok d =>
    obtain ⟨adId, amount⟩ := d
    rw [hdecode] at hann
    dsimp only at hann
    refine ⟨adId, amount, rfl, ?_⟩
    obtain ⟨-, hann⟩ := Option.ite_none_right_eq_some.mp hann
    cases hg : s.guardRails.get? adId with
    | none =>
      rw [hg] at hann
      cases hann
    | some g =>
      rw [hg] at hann
      obtain ⟨-, hann⟩ := Option.ite_none_right_eq_some.mp hann
      exact (Option.some.inj hann).symm

theorem charged_of_step {target : Address} {fnName : Symbol} {args : List Value}
    {pay : Option (Address × U128)} {approvals : List Approval} (hs : Timely h s)
    (step : BrakeStep H env s s' (.call target fnName args pay approvals))
    (hext : extractive fnName = true) :
    ∃ adId amount, decodeAdCall fnName args = .ok (adId, amount) ∧
      (s.isGuarded adId = true → Charged H env h s s' fnName args adId amount) := by
  cases step with
  | kept hcall hnone hopen hrails hrows =>
    obtain ⟨adId, amount, hdecode, hfree⟩ := hopen hext
    refine ⟨adId, amount, hdecode, fun hguarded => ?_⟩
    rw [hguarded] at hfree
    cases hfree
  | spent hcall hann hspendable hrails hrows =>
    have hann' : escrowAnnouncement s fnName args = some _ := hann
    have hspent := spent_of_announced hs (.spent hcall hann hspendable hrails hrows) hann
    obtain ⟨adId, amount, hdecode, hk⟩ := escrowAnnouncement_ok hann' hext
    cases hk
    exact ⟨adId, amount, hdecode, fun _ => .announced hspent⟩
  | @charged _ _ _ _ _ adId amount g bucket hfn hdecode hnone hguarded hg hthreshold hspend hrails
      hrows =>
    refine ⟨adId, amount, hdecode, fun _ => .small g bucket hfn hg hthreshold hspend ?_⟩
    rw [(Prod.mk.inj hrails).1, Map.get?_set_self]

/-! ## Changes of the settings -/

/-- Only an announced change loosens the rail of an ad that stays guarded. -/
theorem loosened_spent (hs : Timely h s) (step : BrakeStep H env s s' call)
    (hkept : s'.isGuarded adId = true) (hloosened : RailLoosened adId s s') :
    ∃ g, call = .setGuardRail adId (some g) ∧
      SpentRow H env h s s' (.ad adId) "set_guard_rail" (guardRailArgs adId (some g)) := by
  obtain ⟨hrows, ⟨g, hcall, hspendable⟩ | hrails⟩ := loosening_of_step step hloosened
  · have hlisted : "set_guard_rail" ∈ adActions := by decide
    exact ⟨g, hcall, spentRow_of_spendable hs hspendable ((hrows _ _).1 ⟨.inl rfl, hlisted⟩)⟩
  · have hmem : adId ∈ (s.removeGuardRail adId).guardedAds :=
      (Prod.mk.inj hrails).2 ▸ of_decide_eq_true hkept
    exact absurd rfl (of_decide_eq_true (List.mem_filter.mp hmem).2)

/-- What a change of the settings does to the bucket of an ad that stays guarded. -/
structure SettingsHold (H : AccountHost) (env : Env) (h : History) (s s' : State) (call : Call)
    (adId : AdId) : Prop where
  /-- The bucket is never topped up. -/
  level : s'.railLevel adId env.now ≤ s.railLevel adId env.now
  /-- A rail that is not loosened allows no more. -/
  limits : ¬RailLoosened adId s s' → ∃ g g', s.guardRails.get? adId = some g ∧
    s'.guardRails.get? adId = some g' ∧ g'.rate.capacity.toNat ≤ g.rate.capacity.toNat ∧
    g'.rate.refillPerSecond.toNat ≤ g.rate.refillPerSecond.toNat ∧
    g'.threshold.toNat ≤ g.threshold.toNat
  announced : RailLoosened adId s s' → ∃ g, call = .setGuardRail adId (some g) ∧
    SpentRow H env h s s' (.ad adId) "set_guard_rail" (guardRailArgs adId (some g))

theorem settingsHold_of_step (hs : Timely h s) (step : BrakeStep H env s s' call)
    (hguarded : s.isGuarded adId = true) (hkept : s'.isGuarded adId = true) :
    SettingsHold H env h s s' call adId where
  level := (Nat.le_add_right _ _).trans (rail_draw hs.rostered step hguarded hkept)
  limits hnot := by
    obtain ⟨g, hg⟩ := Option.isSome_iff_exists.mp
      ((hs.rostered.listed adId).mp (of_decide_eq_true hguarded))
    obtain ⟨g', hg'⟩ := Option.isSome_iff_exists.mp
      (((hs.rostered.step step).listed adId).mp (of_decide_eq_true hkept))
    refine ⟨g, g', hg, hg', ?_⟩
    have htight : isTightening g g' = true := by
      by_contra hloose
      refine hnot ⟨g, hg, fun g₁ hg₁ => ?_⟩
      rw [hg'] at hg₁
      cases hg₁
      exact Bool.not_eq_true _ ▸ hloose
    unfold isTightening at htight
    simp only [Bool.and_eq_true, decide_eq_true_eq] at htight
    obtain ⟨⟨⟨⟨hthreshold, -⟩, -⟩, hcapacity⟩, hrefill⟩ := htight
    exact ⟨hcapacity, hrefill, hthreshold⟩
  announced := loosened_spent hs step hkept

/-! ## The flow bound -/

/-- While an ad stays guarded, what leaves it is announced or flows through its bucket; while any ad
is guarded, nothing loosens the account unannounced, and no token function is ever reached. -/
theorem guarded_flow (hnew : construct H owner targets = .ok s₀)
    (run : Run (system N H outside) ⟨s₀, y⟩ h c) (hchron : Chronological h) :
    (∀ env target fnName args pay approvals r c',
      exec N H env (.call target fnName args pay approvals) c = .ok (r, c') →
        isTokenFunction fnName = false ∧
        (extractive fnName = true → ∃ adId amount, decodeAdCall fnName args = .ok (adId, amount) ∧
          (c.state.isGuarded adId = true →
            Charged H env h c.state c'.state fnName args adId amount)) ∧
        (c.state.guardedAds ≠ [] → extractive fnName = true ∨ fnName = "resume_settlement" ∨
          fnName ∈ instantEscrowCalls)) ∧
    (∀ adId ps c' t₀ t₁, Passages (system N H outside) c ps c' → c.state.isGuarded adId = true →
      (∀ p ∈ ps, p.after.state.isGuarded adId = true) → Chronological (ps.map Passage.event) →
      Within t₀ t₁ (ps.map Passage.event) → t₀ ≤ t₁ →
        smallOn adId ps ≤ c.state.railLevel adId t₀
          + ∑ u ∈ Ico t₀ t₁, rateAt (c.state.railRefill adId) (railDraws adId ps) u) ∧
    (∀ adId env call r c', exec N H env call c = .ok (r, c') → c.state.isGuarded adId = true →
      c'.state.isGuarded adId = true → SettingsHold H env h c.state c'.state call adId) ∧
    ∀ env call action args r c', exec N H env call c = .ok (r, c') → c.state.guardedAds ≠ [] →
      LoosensAccount c.state call action args →
        SpentRow H env h c.state c'.state .account action args := by
  have htimely := timely_of_run hnew run hchron
  refine ⟨?_, ?_, ?_, ?_⟩
  · intro env target fnName args pay approvals r c' ok
    have step := brakeStep_of_exec ok
    obtain ⟨v, hcall, -⟩ := Tx.answer_ok.mp ok
    have hrest := of_requireTarget (of_requireOwner hcall)
    obtain ⟨⟨⟩, c₁, hcheck, -⟩ := Tx.bind_ok.mp hrest
    obtain ⟨htoken, hlisted⟩ := checkOwnerCall_listed hcheck
    exact ⟨htoken, charged_of_step htimely step, hlisted⟩
  · intro adId ps c' t₀ t₁ hps hguarded hkept horder hwithin ht
    exact smallOn_le htimely.rostered hps hguarded hkept horder hwithin ht
  · intro adId env call r c' ok hguarded hkept
    exact settingsHold_of_step htimely (brakeStep_of_exec ok) hguarded hkept
  · intro env call action args r c' ok hguarded hloosens
    exact spent_of_announced htimely (brakeStep_of_exec ok)
      (announcement_of_loosens hguarded hloosens)

/-- Around the sample account, an escrow that takes every call. -/
def openEscrow : Neighbors Unit :=
  { noEscrows with invoke := fun _ _ _ _ _ _ => some (.void, ()) }

instance (s : Chain Unit) (t : Env × Call) :
    Decidable ((system openEscrow sampleAccountHost fun _ _ => False).admits s t) :=
  inferInstanceAs (Decidable (s.state.replacedBy = none))

def sampleGuarded : History × Chain Unit :=
  (play (system openEscrow sampleAccountHost fun _ _ => False) sampleBrakeCalls [] sampleNew).getD
    ([], sampleNew)

/-- A withdrawal below the first ad's threshold. -/
def sampleWithdrawal : Call :=
  .call (.contract 0xAD) "withdraw_from_ad"
    [.string (ascii "ad"), .u128 80, .address (.account 0x3A)] none []

theorem guarded_flow_sample : ∃ p : Passage (Chain Unit) (Env × Call) Ret,
    p.event.1 = (sampleEnv 300, sampleWithdrawal) ∧ p.before = sampleGuarded.2 ∧
      smallOn (ascii "ad") [p] = 80 ∧ smallOn (ascii "ad") [p] ≤ 1000 + 0 := by
  have run : Run (system openEscrow sampleAccountHost fun _ _ => False) sampleNew sampleGuarded.1
      sampleGuarded.2 := Run.played_admitted (by decide +kernel) (by decide +kernel)
  have hchron : Chronological sampleGuarded.1 := by
    have htimes : (sampleGuarded.1.map timeOf).Pairwise fun later earlier => earlier ≤ later := by
      decide +kernel
    exact List.pairwise_map.mp htimes
  obtain ⟨-, hflow, -⟩ := guarded_flow construct_sampleNew run hchron
  have haccepted : ((exec openEscrow sampleAccountHost (sampleEnv 300) sampleWithdrawal
      sampleGuarded.2).toOption.map fun r => r.2.state.isGuarded (ascii "ad")) = some true := by
    decide +kernel
  cases hexec : exec openEscrow sampleAccountHost (sampleEnv 300) sampleWithdrawal
      sampleGuarded.2 with
  | error e =>
    rw [hexec] at haccepted
    cases haccepted
  | ok r =>
    obtain ⟨r, c'⟩ := r
    rw [hexec] at haccepted
    have hkept : c'.state.isGuarded (ascii "ad") = true := Option.some.inj haccepted
    have hadmitted : sampleGuarded.2.state.replacedBy = none := by decide +kernel
    have hpassages := Passages.accepted (S := system openEscrow sampleAccountHost fun _ _ => False)
      (t := (sampleEnv 300, sampleWithdrawal)) .start hadmitted hexec
    have hnow : (sampleEnv 300).now = 300 := by decide
    have hbound := hflow (ascii "ad") _ _ 300 300 hpassages (by decide +kernel)
      (List.forall_mem_singleton.mpr hkept) (List.pairwise_singleton _ _)
      (List.forall_mem_singleton.mpr ⟨hnow.ge, hnow.le⟩) le_rfl
    have hlevel : sampleGuarded.2.state.railLevel (ascii "ad") 300 = 1000 := by decide +kernel
    have hsmall : sampleWithdrawal.small sampleGuarded.2.state (ascii "ad") = 80 := by
      decide +kernel
    rw [hlevel, Ico_self, sum_empty] at hbound
    refine ⟨_, rfl, rfl, ?_, hbound⟩
    unfold smallOn
    simpa using hsmall

end AgentAccount
end ProofBridge
