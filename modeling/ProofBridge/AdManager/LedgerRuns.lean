import ProofBridge.AdManager.Safety
import ProofBridge.Core.Bank

/-!
# The lock ledger over whole runs

Every state a run of the contract reaches has sound settings and a sound lock ledger over the book
of the orders the run locked. What a run was told about an order is keyed by its hash alone, so the
one thing asked of the host is that keccak does not collide on the orders of the run.
-/

namespace ProofBridge
namespace AdManager

open ContractLib

variable {X : Type} {O : Outside X} {H : Host} {env : Env} {s s' : Chain X}
  {outside : X → X → Prop}

/-! ## The settings -/

theorem Chain.keep (hsettings : s'.core.settings = s.core.settings) (hfees : s'.fees = s.fees) :
    s.Sound → s'.Sound ∧ s.Grows s' := by
  intro hs
  refine ⟨⟨hsettings ▸ hs.settings, hfees ▸ hs.fees⟩, ⟨?_, ?_⟩⟩
  · rw [hsettings]
    exact .refl _
  · rw [hfees]
    exact id

theorem Filled.settings {config : ContractConfig} {params : OrderParams} {orderHash : BytesN32}
    {byEvidence : Bool} (h : Filled O H env config params orderHash byEvidence s s') :
    s'.core.settings = s.core.settings ∧ s'.fees = s.fees := by
  obtain ⟨hclosed, hcounted, hamount, had, hlocked, hcharged, hpaid⟩ := h
  obtain ⟨x, rfl⟩ := hclosed.frame
  obtain ⟨x', claimable, events, rfl⟩ := hpaid.moneyOnly
  exact ⟨rfl, rfl⟩

/-- Nothing but the admin's calls touches the settings. -/
theorem settings_of_order {call : Call} {ret : Ret} (hcall : call.administrative = false)
    (hstep : Step O H env s call ret s') :
    s'.core.settings = s.core.settings ∧ s'.fees = s.fees := by
  cases hstep with
  | admin hadmin hframe =>
    rw [hcall] at hadmin
    cases hadmin
  | @unlock params nullifierHash targetRoot proof cosigData config orderHash t ad publicInputs s₁ s₂
      hconfig hhash hlive hnullifier htiming hcutoff had hhalt hroot hinputs hproof hspent
      hfilled =>
    obtain ⟨hsettings, hfees⟩ := hfilled.settings
    subst hspent
    exact ⟨hsettings, hfees⟩
  | presentSettled hconfig hhash hlive hanchored hproof hfilled => exact hfilled.settings
  | @finalizeDispute params config orderHash verdict amount finalizesAt ad s₁ manager x₁ x₂ hconfig
      hhash hdisputed hverdict hamount had hend hreached hlocked hpaid hcounted hmanager hsettle
      happend =>
    obtain ⟨c, out, ⟨x, claimable, events, rfl⟩, -, rfl⟩ := Locks.ruling_frame hpaid
    exact ⟨rfl, rfl⟩
  | _ => exact ⟨rfl, rfl⟩

/-- The admin's calls only grow them. -/
theorem settings_of_step {call : Call} {ret : Ret} (hstep : Step O H env s call ret s') :
    s.Sound → s'.Sound ∧ s.Grows s' := by
  by_cases hcall : call.administrative = true
  · cases hstep with
    | admin _ hframe => exact hframe.step
    | _ => cases hcall
  · obtain ⟨hsettings, hfees⟩ := settings_of_order (by simpa using hcall) hstep
    exact Chain.keep hsettings hfees

/-- What a state's chain id is, the state before had it too. -/
theorem Chain.Grows.chainId {chainId : U128} (h : s.Grows s')
    (hchain : ∀ config, s'.core.settings.config = some config → config.chainId = chainId) :
    ∀ config, s.core.settings.config = some config → config.chainId = chainId := by
  intro config hconfig
  obtain ⟨admin, hconfig'⟩ := h.settings.config config hconfig
  exact hchain { config with admin } hconfig'

/-! ## The ledger -/

theorem Locks.around {chainId : U128} {orders : List (BytesN32 × OrderParams)}
    (h : Locks H chainId orders s) (x : X) :
    Locks H chainId orders { s with core := { s.core with outside := x } } :=
  h.frame rfl (fun _ => rfl) (fun _ => id) rfl id

/-- What every reachable state has. -/
theorem sound_of_run {x : X} {history : History}
    (run : Run (system O H outside) (Chain.fresh x) history s) : s.Sound := by
  refine Run.preserves (Chain.sound_fresh x) ?_ ?_ run
  · intro s t r s' hs ok
    exact (settings_of_step (step_of_exec ok) hs).1
  · rintro s s' hs ⟨x', -, rfl⟩
    exact ⟨hs.settings, hs.fees⟩

/-- The lock ledger holds in every reachable state, over the orders the run locked. -/
theorem locks_of_run {x : X} {history : History} {chainId : U128} {known : List OrderParams}
    (run : Run (system O H outside) (Chain.fresh x) history s)
    (hchain : ∀ config, s.core.settings.config = some config → config.chainId = chainId)
    (hfree : CollisionFree H chainId known) (hknown : ordersOf history ⊆ known) :
    Locks H chainId (book history) s := by
  -- the chain id of the last state is that of every state before it, so it is fixed up front
  refine Run.invariant (I := fun history s =>
    (∀ config, s.core.settings.config = some config → config.chainId = chainId) →
      ordersOf history ⊆ known → Locks H chainId (book history) s) ?_ ?_ ?_ run hchain hknown
  · intro _ _
    exact Locks.fresh x
  · rintro history s ⟨env, call⟩ ret s' run ih hadmits ok hchain hknown
    have hsound := sound_of_run run
    have hstep := step_of_exec ok
    have hchain' := (settings_of_step hstep hsound).2.chainId hchain
    have hbefore : ordersOf history ⊆ known := fun params hmem => hknown (ordersOf_cons hmem)
    have hparams : ∀ params, call.params? = some params → params ∈ known :=
      fun params hp => hknown (mem_ordersOf_head hp)
    exact (ih hchain' hbefore).step hsound hchain' hfree hbefore hparams hadmits hstep
  · rintro history s s' run ih ⟨x', -, rfl⟩ hchain hknown
    exact (ih hchain hknown).around x'

/-- A live order can leave its ad either way: everything a payout or a release takes out of the ad,
the count and the ledger is there. -/
structure Settleable (O : Outside X) (H : Host) (s : Chain X) (orderHash : BytesN32)
    (params : OrderParams) : Prop where
  /-- The ad holds the order's whole amount, locked. -/
  funded : ∃ ad, s.ads.get? params.adId = some ad ∧ adAmount params = .ok (amountOf params) ∧
    amountOf params ≤ ad.locked ∧ amountOf params ≤ ad.balance
  /-- It can be paid out in full, where a credit the recipient may need still fits its width. -/
  paid : ∀ env config, (∀ recipient token,
      s.core.ledger.getClaimable recipient token + amountOf params < 2 ^ 128) →
    ∃ s', payFromAd O H env config params orderHash s = .ok ((), s')
  filled : ∀ byEvidence, ∃ c,
    Escrow.fill orderHash params.adSettlementSigner byEvidence s.core = .ok ((), c)
  cancelled : ∀ byEvidence, ∃ c,
    Escrow.cancel orderHash params.adSettlementSigner byEvidence s.core = .ok ((), c)
  resolved : ∃ c, Escrow.resolve orderHash params.adSettlementSigner s.core = .ok ((), c)

theorem Payable.settleable {params : OrderParams} {ad : Ad} {amount : ℕ}
    (h : Payable s params ad amount) (orderHash : BytesN32) : Settleable O H s orderHash params := by
  have hamount := amountOf_eq h.worth
  obtain ⟨hfill, hcancel, hresolve⟩ :=
    Escrow.close_succeeds orderHash (c := s.core) h.counted
  refine ⟨⟨ad, h.lookup, ?_, ?_, ?_⟩, fun env config hroom => ?_, hfill, hcancel, hresolve⟩
  · rw [hamount]
    exact h.worth
  · rw [hamount]
    exact h.held
  · rw [hamount]
    exact h.held.trans h.covered
  · rw [hamount] at hroom
    exact payFromAd_succeeds h hroom

/-- **The ad ledger.** In every reachable state an ad has locked exactly what its live orders are
worth and no more than it holds, a closed ad holds nothing and carries no live order, no call can
underflow, and every live order can be paid out or released in full. -/
theorem ad_ledger {x : X} {history : History} {chainId : U128} {known : List OrderParams}
    (run : Run (system O H outside) (Chain.fresh x) history s)
    (hchain : ∀ config, s.core.settings.config = some config → config.chainId = chainId)
    (hfree : CollisionFree H chainId known) (hknown : ordersOf history ⊆ known) :
    (∀ adId ad, s.ads.get? adId = some ad →
      ad.locked = liveTotal s.live (lockedOn adId) (book history) ∧ ad.locked ≤ ad.balance ∧
      (ad.isOpen = false → ad.balance = 0 ∧ ad.locked = 0 ∧
        ∀ e ∈ book history, e.2.adId = adId → s.live e.1 = false)) ∧
    ((book history).map Prod.fst).Nodup ∧
    (∀ orderHash, s.live orderHash = true →
      ∃ params, (orderHash, params) ∈ book history ∧ Settleable O H s orderHash params) ∧
    (∀ env call, (∀ params, call.params? = some params → params ∈ known) →
      Tx.Safe .underflow (exec O H env call) s) := by
  have hsound := sound_of_run run
  have hlocks := locks_of_run run hchain hfree hknown
  have hsub : ∀ e ∈ book history, e.2 ∈ known := fun e he => hknown (mem_ordersOf_of_mem_book he)
  refine ⟨fun adId ad had => ?_, hlocks.nodup, fun orderHash hlive => ?_, fun env call hparams => ?_⟩
  · have hs := hlocks.ads adId ad had
    refine ⟨hs.locked, hs.covered, fun hclosed => ?_⟩
    have hbalance := hs.closed hclosed
    have hcovered := hs.covered
    have hlocked : ad.locked = 0 := by omega
    refine ⟨hbalance, hlocked, fun e he hid => ?_⟩
    -- a live order would weigh on the ad
    by_contra hlive
    rw [Bool.not_eq_false] at hlive
    obtain ⟨ad', amount, hp⟩ := hlocks.payable he hlive
    obtain rfl : ad' = ad := by
      have hlookup := hp.lookup
      rw [hid, had] at hlookup
      exact (Option.some.inj hlookup).symm
    have hheld := hp.held
    have hpositive := hp.positive
    omega
  · obtain ⟨e, he, rfl⟩ := List.mem_map.mp (hlocks.known orderHash hlive)
    obtain ⟨ad, amount, hp⟩ := hlocks.payable he hlive
    exact ⟨e.2, he, hp.settleable e.1⟩
  · exact exec_safe hlocks hsound hchain hfree hsub hparams

/-! ## A run that locks one order -/

def sampleParams : OrderParams where
  orderChainToken := 0x11
  adChainToken := 0x22
  amount := 100000
  bridger := 0xB1
  orderChainId := 1
  srcOrderPortal := 0x50
  orderRecipient := 0xB2
  adId := [97, 100, 45, 49]
  adCreator := 0x3A
  adRecipient := 0x3B
  salt := 7
  orderDecimals := 7
  adDecimals := 7
  deadline := 8200
  adSettlementSigner := 0x3A
  lpFeeBps := 10
  protocolFeeBps := 5

/-- Wire one route, open an ad on it and lock the sample order. -/
def sampleCalls : List (Env × Call) :=
  [.initializeContract (.account 0x0A) (.contract 0x77) (.contract 0x78) (.contract 0x79) 2,
    .setKeyRegistry (.contract 0x7A), .setChain 1 0x50, .setTokenRoute 0x22 0x11 1,
    .setRouteTiming 1 ⟨3600, 86400, 600, 600⟩, .setRootVerifier 1 (.contract 0x7B),
    .setProtocolFeePool 0xFE, .setFeeBps 10 5,
    .createAd (.account 0x3A) [97, 100, 45, 49] 0x22 500000 1 0x3B 0x3A,
    .lockForOrder sampleParams 0].map fun call => (sampleEnv 1000, call)

/-- The sample's contract, in a world of balances. -/
abbrev sampleSystem : System AdManagerError (Chain Bank) (Env × Call) Ret :=
  system Bank.world (sampleHost 0xAD) Bank.gift

abbrev sampleStart : Bank := Bank.endowed 1000000 (.contract 0xAD)

def sampleRun : History × Chain Bank :=
  (play sampleSystem sampleCalls [] (Chain.fresh sampleStart)).getD ([], Chain.fresh sampleStart)

theorem run_sample :
    Run sampleSystem (Chain.fresh sampleStart) sampleRun.1 sampleRun.2 := by
  refine Run.played (by decide +kernel) ?_
  intro t ht s
  obtain ⟨call, -, rfl⟩ := List.mem_map.mp ht
  rfl

theorem sample_config (config : ContractConfig)
    (h : sampleRun.2.core.settings.config = some config) :
    config.chainId = 2 ∧ config.wNativeToken = .contract 0x79 := by
  have hconfig : sampleRun.2.core.settings.config
      = some ⟨.account 0x0A, .contract 0x77, .contract 0x78, .contract 0x79, 2⟩ := by
    decide +kernel
  cases Option.some.inj (h.symm.trans hconfig)
  exact ⟨rfl, rfl⟩

theorem sample_orders : ordersOf sampleRun.1 ⊆ [sampleParams] := by
  have horders : ordersOf sampleRun.1 = [sampleParams] := by decide +kernel
  rw [horders]
  exact List.Subset.refl _

theorem sample_collisionFree : CollisionFree (sampleHost 0xAD) 2 [sampleParams] := by
  obtain ⟨o, ho⟩ : ∃ o, orderOf (sampleHost 0xAD) sampleParams 2 = .ok o := ⟨_, rfl⟩
  have hlength : sampleParams.adId.length = 4 := rfl
  refine (sampleKeccak_injOn 0xAD hlength o).mono ?_
  rintro b ⟨params, hmem, o', ho', hb⟩
  obtain rfl := List.mem_singleton.mp hmem
  obtain rfl := Except.ok.inj (ho.symm.trans ho')
  exact hb

/-- The ledger of the sample: what its ad has locked is what the one live order is worth. -/
theorem ad_ledger_sample :
    (sampleRun.2.ads.get? sampleParams.adId).map Ad.locked = some 100000 ∧
    ∀ ad, sampleRun.2.ads.get? sampleParams.adId = some ad →
      ad.locked = liveTotal sampleRun.2.live (lockedOn sampleParams.adId) (book sampleRun.1) ∧
        ad.locked ≤ ad.balance := by
  refine ⟨by decide +kernel, fun ad had => ?_⟩
  have hledger := ad_ledger run_sample (fun config h => (sample_config config h).1)
    sample_collisionFree sample_orders
  obtain ⟨hlocked, hcovered, -⟩ := hledger.1 _ ad had
  exact ⟨hlocked, hcovered⟩

end AdManager
end ProofBridge
