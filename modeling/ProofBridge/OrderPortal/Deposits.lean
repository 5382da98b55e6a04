import ProofBridge.OrderPortal.Step
import ProofBridge.Lib.Book
import ProofBridge.Core.Bank

/-!
# The deposits of a run

`Deposits` ties the open orders of a state to the book of the orders the run created: an order is
created once, it is open until one exit closes it, and an account's count is the number of its open
orders. A call is a frame, a create or an exit.
-/

namespace ProofBridge
namespace OrderPortal

open ContractLib

variable {X : Type} {O : Outside X} {H : Host} {env : Env} {s s' : Chain X}
  {outside : X → X → Prop}

/-! ## The orders of a run -/

/-- The order a call is about. -/
def Call.params? : Call → Option OrderParams
  | .createOrder params | .unlock params .. | .refundByCancel params .. | .presentSettled params ..
  | .payMakerByForfeit params .. | .recordSettled params => some params
  | _ => none

abbrev History := List ((Env × Call) × Ret)

/-- Every order a run was ever told about. -/
def ordersOf (history : History) : List OrderParams := history.filterMap fun e => e.1.2.params?

/-- The entry an accepted call makes in the book of deposits. -/
def depositEntry (call : Call) (ret : Ret) : Option (BytesN32 × OrderParams) :=
  match call, ret with
  | .createOrder params, .order orderHash => some (orderHash, params)
  | _, _ => none

/-- The orders a run created, under their hashes, the newest first. -/
def book (history : History) : List (BytesN32 × OrderParams) :=
  history.filterMap fun e => depositEntry e.1.2 e.2

theorem ordersOf_cons {history : History} {e : (Env × Call) × Ret} {params : OrderParams}
    (h : params ∈ ordersOf history) : params ∈ ordersOf (e :: history) := by
  obtain ⟨e', he', hp⟩ := List.mem_filterMap.mp h
  exact List.mem_filterMap.mpr ⟨e', List.mem_cons_of_mem _ he', hp⟩

theorem mem_ordersOf_head {history : History} {e : (Env × Call) × Ret} {params : OrderParams}
    (h : e.1.2.params? = some params) : params ∈ ordersOf (e :: history) :=
  List.mem_filterMap.mpr ⟨e, List.mem_cons_self, h⟩

theorem mem_ordersOf_of_mem_book {history : History} {e : BytesN32 × OrderParams}
    (h : e ∈ book history) : e.2 ∈ ordersOf history := by
  obtain ⟨⟨⟨env, call⟩, ret⟩, hmem, hentry⟩ := List.mem_filterMap.mp h
  refine List.mem_filterMap.mpr ⟨_, hmem, ?_⟩
  cases call <;> cases ret <;>
    simp only [depositEntry, reduceCtorEq, Option.some.injEq] at hentry
  subst hentry
  rfl

theorem book_cons_of_none {history : History} {env : Env} {call : Call} {ret : Ret}
    (h : depositEntry call ret = none) : book (((env, call), ret) :: history) = book history := by
  unfold book
  rw [List.filterMap_cons, h]

/-- What an order weighs on an account's count. -/
def openedBy (account : BytesN32) (params : OrderParams) : ℕ :=
  if decide (params.bridger = account) then 1 else 0

theorem openedBy_self (params : OrderParams) : openedBy params.bridger params = 1 := by
  simp [openedBy]

theorem openedBy_ne {account : BytesN32} {params : OrderParams} (h : account ≠ params.bridger) :
    openedBy account params = 0 := by
  simp [openedBy, Ne.symm h]

/-- The order's deposit is still held. -/
def Chain.holds (s : Chain X) (orderHash : BytesN32) : Bool :=
  s.core.ledger.status orderHash = .opened

/-! ## The invariant -/

/-- The deposits of a state, over the book of the orders created so far. -/
structure Deposits (H : Host) (chainId : U128) (orders : List (BytesN32 × OrderParams))
    (s : Chain X) : Prop where
  hashed : ∀ e ∈ orders, hashOrder H e.2 chainId = .ok e.1
  nodup : (orders.map Prod.fst).Nodup
  /-- An order has a status exactly when it was created. -/
  created : ∀ orderHash,
    s.core.ledger.status orderHash ≠ .none ↔ orderHash ∈ orders.map Prod.fst
  /-- This leg knows no claim and no dispute. -/
  plain : ∀ orderHash, (s.core.ledger.status orderHash).live = true →
    s.core.ledger.status orderHash = .opened
  counted : ∀ account,
    s.core.ledger.getInFlight account = liveTotal s.holds (openedBy account) orders

namespace Deposits

variable {chainId : U128} {orders : List (BytesN32 × OrderParams)}

theorem fresh (x : X) : Deposits H chainId [] (Chain.fresh x) where
  hashed _ h := by cases h
  nodup := List.nodup_nil
  created k := by simp [Chain.fresh, Core.fresh, Ledger.fresh, Ledger.status, Ledger.getOrder,
    OrderRecord.absent]
  plain _ h := by cases h
  counted _ := rfl

/-- A move of no order's status and no count. -/
theorem frame (h : Deposits H chainId orders s)
    (horders : s'.core.ledger.orders = s.core.ledger.orders)
    (hcount : s'.core.ledger.inFlight = s.core.ledger.inFlight) : Deposits H chainId orders s' := by
  have hstatus := Ledger.status_of_eq horders
  have hholds : s'.holds = s.holds := funext fun k => by simp [Chain.holds, hstatus]
  refine ⟨h.hashed, h.nodup, fun k => ?_, fun k => ?_, fun account => ?_⟩
  · rw [hstatus]
    exact h.created k
  · rw [hstatus]
    exact h.plain k
  · rw [hholds, Ledger.getInFlight_of_eq hcount]
    exact h.counted account

/-- A create: a fresh hash opens. What the book weighs grows by the order's weight. -/
theorem create_total (h : Deposits H chainId orders s) (params : OrderParams) (s' : Chain X)
    {orderHash : BytesN32} {rec : OrderRecord} (hnew : s.core.ledger.status orderHash = .none)
    (hrec : rec.status = .opened)
    (horders : s'.core.ledger.orders = s.core.ledger.orders.set orderHash rec)
    (w : OrderParams → ℕ) :
    liveTotal s'.holds w ((orderHash, params) :: orders) = w params + liveTotal s.holds w orders := by
  have hstatus := Ledger.status_of_set horders
  rw [hrec] at hstatus
  have hother : ∀ e ∈ orders, s'.holds e.1 = s.holds e.1 := by
    intro e he
    have hne : e.1 ≠ orderHash := by
      intro heq
      exact (h.created e.1).mpr (List.mem_map_of_mem he) (heq ▸ hnew)
    simp [Chain.holds, hstatus, hne]
  have hopen : s'.holds orderHash = true := by simp [Chain.holds, hstatus]
  rw [liveTotal_cons, liveTotal_congr hother, if_pos hopen]

theorem create (h : Deposits H chainId orders s) {params : OrderParams} {orderHash : BytesN32}
    {rec : OrderRecord} (hhash : hashOrder H params chainId = .ok orderHash)
    (hnew : s.core.ledger.status orderHash = .none) (hrec : rec.status = .opened)
    (horders : s'.core.ledger.orders = s.core.ledger.orders.set orderHash rec)
    (hcount : s'.core.ledger.inFlight = storeNonzero s.core.ledger.inFlight params.bridger
      (s.core.ledger.getInFlight params.bridger + 1)) :
    Deposits H chainId ((orderHash, params) :: orders) s' := by
  have htotal := h.create_total params s' hnew hrec horders
  have hstatus := Ledger.status_of_set horders
  rw [hrec] at hstatus
  have hfresh : orderHash ∉ orders.map Prod.fst := by
    intro hmem
    exact (h.created orderHash).mpr hmem hnew
  refine ⟨?_, List.nodup_cons.mpr ⟨hfresh, h.nodup⟩, fun k => ?_, fun k => ?_, fun account => ?_⟩
  · intro e he
    rcases List.mem_cons.mp he with rfl | he
    · exact hhash
    · exact h.hashed e he
  · rw [hstatus, List.map_cons, List.mem_cons, ← h.created k]
    by_cases heq : k = orderHash
    · simp [heq]
    · simp [heq]
  · rw [hstatus]
    split
    · exact fun _ => rfl
    · exact h.plain k
  · rw [htotal, Ledger.getInFlight_of_store hcount]
    split
    · next heq =>
      rw [heq, h.counted, openedBy_self, Nat.add_comm]
    · next hne =>
      rw [h.counted, openedBy_ne hne, Nat.zero_add]

/-- An exit takes exactly the order's weight out of what the book weighs. -/
theorem exit_total (h : Deposits H chainId orders s) {params : OrderParams} {orderHash : BytesN32}
    {rec : OrderRecord} (hmem : (orderHash, params) ∈ orders)
    (hlive : (s.core.ledger.status orderHash).live = true)
    (horders : s'.core.ledger.orders = s.core.ledger.orders.set orderHash rec)
    (hrec : rec.status.terminal = true) (w : OrderParams → ℕ) :
    liveTotal s'.holds w orders + w params = liveTotal s.holds w orders := by
  have hstatus := Ledger.status_of_set horders
  have hopen : s.holds orderHash = true := by simp [Chain.holds, h.plain _ hlive]
  have hclosed : s'.holds orderHash = false := by
    cases hs : rec.status <;> simp_all [Chain.holds, Status.terminal]
  have hother : ∀ k, k ≠ orderHash → s'.holds k = s.holds k := by
    intro k hne
    simp [Chain.holds, hstatus, hne]
  exact liveTotal_close h.nodup hmem hopen hclosed hother

theorem exit (h : Deposits H chainId orders s) {params : OrderParams} {orderHash : BytesN32}
    {rec : OrderRecord} (hmem : (orderHash, params) ∈ orders)
    (hlive : (s.core.ledger.status orderHash).live = true) (hrec : rec.status.terminal = true)
    (horders : s'.core.ledger.orders = s.core.ledger.orders.set orderHash rec)
    (hcount : s'.core.ledger.inFlight = storeNonzero s.core.ledger.inFlight params.bridger
      (s.core.ledger.getInFlight params.bridger - 1)) : Deposits H chainId orders s' := by
  have htotal := h.exit_total hmem hlive horders hrec
  have hstatus := Ledger.status_of_set horders
  have hne : rec.status ≠ .none := by
    intro hnone
    simp [hnone, Status.terminal] at hrec
  refine ⟨h.hashed, h.nodup, fun k => ?_, fun k => ?_, fun account => ?_⟩
  · rw [hstatus, ← h.created k]
    by_cases heq : k = orderHash
    · have hbefore : s.core.ledger.status orderHash ≠ .none := by
        intro hnone
        simp [hnone, Status.live] at hlive
      simp [heq, hne, hbefore]
    · simp [heq]
  · rw [hstatus]
    split
    · intro hdead
      cases hs : rec.status <;> simp_all [Status.terminal, Status.live]
    · exact h.plain k
  · have hdue := htotal (openedBy account)
    rw [Ledger.getInFlight_of_store hcount]
    split
    · next heq =>
      subst heq
      rw [openedBy_self, ← h.counted] at hdue
      omega
    · next hne' =>
      rw [openedBy_ne hne', Nat.add_zero] at hdue
      rw [h.counted, hdue]

/-- The entry of a created order, by its hash. -/
theorem entry (h : Deposits H chainId orders s) {known : List OrderParams}
    (hcollision : CollisionFree H chainId known) (hsub : ∀ e ∈ orders, e.2 ∈ known)
    {params : OrderParams} {orderHash : BytesN32} (hparams : params ∈ known)
    (hhash : hashOrder H params chainId = .ok orderHash)
    (hlive : (s.core.ledger.status orderHash).live = true) : (orderHash, params) ∈ orders := by
  have hsome : s.core.ledger.status orderHash ≠ .none := by
    intro hnone
    simp [hnone, Status.live] at hlive
  obtain ⟨e, he, rfl⟩ := List.mem_map.mp ((h.created orderHash).mp hsome)
  have hsame := hcollision.eq_of_hashOrder (hsub e he) hparams (h.hashed e he) hhash
  subst hsame
  exact he

/-- An open order's bridger is counted. -/
theorem counted_of_live (h : Deposits H chainId orders s) {params : OrderParams}
    {orderHash : BytesN32} (hmem : (orderHash, params) ∈ orders)
    (hlive : (s.core.ledger.status orderHash).live = true) :
    1 ≤ s.core.ledger.getInFlight params.bridger := by
  have hopen : s.holds orderHash = true := by simp [Chain.holds, h.plain _ hlive]
  have hweight := le_liveTotal (w := openedBy params.bridger) hmem hopen
  rw [openedBy_self, ← h.counted] at hweight
  exact hweight

end Deposits

/-! ## One step -/

/-- An exit moves the order, the count and the money, and nothing else. -/
theorem Exited.frame {config : ContractConfig} {params : OrderParams} {orderHash : BytesN32}
    {status : Status} {recipient : BytesN32} {event : Event}
    (h : Exited O H env config params orderHash status recipient event s s') :
    ∃ x claimable events, s' = { s with core := { s.core with
      outside := x
      ledger := { Escrow.closeOrder orderHash params.bridger status s.core.ledger with claimable }
      events } } := by
  obtain ⟨hcounted, hpaid⟩ := h
  obtain ⟨x, claimable, events, rfl⟩ := hpaid.moneyOnly
  exact ⟨x, claimable, events, rfl⟩

theorem Exited.orders {config : ContractConfig} {params : OrderParams} {orderHash : BytesN32}
    {status : Status} {recipient : BytesN32} {event : Event}
    (h : Exited O H env config params orderHash status recipient event s s') :
    s'.core.ledger.orders = s.core.ledger.orders.set orderHash
      { s.core.ledger.getOrder orderHash with status } := by
  obtain ⟨x, claimable, events, rfl⟩ := h.frame
  rfl

theorem Deposits.exited {chainId : U128} {orders : List (BytesN32 × OrderParams)}
    (h : Deposits H chainId orders s) {config : ContractConfig} {params : OrderParams}
    {orderHash : BytesN32} {status : Status} {recipient : BytesN32} {event : Event}
    (hmem : (orderHash, params) ∈ orders) (hlive : (s.core.ledger.status orderHash).live = true)
    (hstatus : status.terminal = true)
    (hexit : Exited O H env config params orderHash status recipient event s s') :
    Deposits H chainId orders s' := by
  obtain ⟨x, claimable, events, rfl⟩ := hexit.frame
  exact h.exit hmem hlive hstatus rfl rfl

/-- An accepted call keeps the deposits, over the book with its entry. -/
theorem Deposits.step {chainId : U128} {history : History} {known : List OrderParams} {call : Call}
    {ret : Ret} (h : Deposits H chainId (book history) s)
    (hchain : ∀ config, s.core.settings.config = some config → config.chainId = chainId)
    (hcollision : CollisionFree H chainId known) (hknown : ordersOf history ⊆ known)
    (hparams : ∀ params, call.params? = some params → params ∈ known)
    (hstep : Step O H env s call ret s') :
    Deposits H chainId (book (((env, call), ret) :: history)) s' := by
  have hsub : ∀ e ∈ book history, e.2 ∈ known := fun e he => hknown (mem_ordersOf_of_mem_book he)
  -- what an evidence path or an unlock finds is an order of the book
  have hentry : ∀ {params orderHash config}, call.params? = some params →
      s.core.settings.config = some config → hashOrder H params config.chainId = .ok orderHash →
      (s.core.ledger.status orderHash).live = true → (orderHash, params) ∈ book history := by
    intro params orderHash config hp hconfig hhash hlive
    rw [hchain _ hconfig] at hhash
    exact h.entry hcollision hsub (hparams _ hp) hhash hlive
  cases hstep with
  | admin hcall honly =>
    rw [book_cons_of_none (by cases call <;> cases ret <;> cases hcall <;> rfl)]
    exact h.frame (by rw [honly.ledger]) (by rw [honly.ledger])
  | @createOrder params config timingVersion orderHash x₁ x₂ hconfig hvalid hdecimals hwindow hhash
      hnew hauth hpull happend =>
    rw [hchain _ hconfig] at hhash
    exact h.create hhash hnew rfl rfl rfl
  | @unlock params nullifierHash targetRoot proof cosigData config orderHash t publicInputs s₁ s₂
      hconfig hhash hopened hnullifier htiming hcutoff hinputs hroot hproof hspent hexit =>
    have hlive : (s.core.ledger.status orderHash).live = true := by rw [hopened]; rfl
    have hmem := hentry rfl hconfig hhash hlive
    have hbefore : Deposits H chainId (book history) s₁ := by
      subst hspent
      exact h.frame rfl rfl
    have hafter := hbefore.exited hmem (by subst hspent; exact hlive) rfl hexit
    exact hafter.frame rfl rfl
  | refundByCancel hconfig hhash hevidence hexit =>
    have hmem := hentry rfl hconfig hhash hevidence.live
    exact (h.exited hmem hevidence.live rfl hexit).frame rfl rfl
  | presentSettled hconfig hhash hevidence hexit =>
    have hmem := hentry rfl hconfig hhash hevidence.live
    exact h.exited hmem hevidence.live rfl hexit
  | @payMakerByForfeit params targetRoot proof config orderHash s₁ s₂ hconfig hhash hevidence
      hmarked hexit =>
    have hmem := hentry rfl hconfig hhash hevidence.live
    have hbefore : Deposits H chainId (book history) s₁ := by
      subst hmarked
      exact h.frame rfl rfl
    have hafter := hbefore.exited hmem (by subst hmarked; exact hevidence.live) rfl hexit
    exact hafter.frame rfl rfl
  | recordSettled => exact h.frame rfl rfl
  | claim => exact h.frame rfl rfl

/-! ## Whole runs -/

/-- Nothing but the admin's calls touches the settings, and those only grow them. -/
theorem settings_of_step {call : Call} {ret : Ret} (hstep : Step O H env s call ret s') :
    s.core.settings.Step s'.core.settings := by
  cases hstep with
  | admin hcall honly => exact honly.step
  | unlock hconfig hhash hopened hnullifier htiming hcutoff hinputs hroot hproof hspent hexit =>
    obtain ⟨x, claimable, events, rfl⟩ := hexit.frame
    subst hspent
    exact .refl _
  | refundByCancel hconfig hhash hevidence hexit =>
    obtain ⟨x, claimable, events, rfl⟩ := hexit.frame
    exact .refl _
  | presentSettled hconfig hhash hevidence hexit =>
    obtain ⟨x, claimable, events, rfl⟩ := hexit.frame
    exact .refl _
  | payMakerByForfeit hconfig hhash hevidence hmarked hexit =>
    obtain ⟨x, claimable, events, rfl⟩ := hexit.frame
    subst hmarked
    exact .refl _
  | createOrder => exact .refl _
  | recordSettled => exact .refl _
  | claim => exact .refl _

/-- What every reachable state has. -/
theorem sound_of_run {x : X} {history : History}
    (run : Run (system O H outside) (Chain.fresh x) history s) : s.core.settings.Sound := by
  refine Run.preserves (R := fun s : Chain X => s.core.settings.Sound) Settings.sound_fresh ?_ ?_ run
  · intro s t r s' hs ok
    exact (settings_of_step (step_of_exec ok) hs).1
  · rintro s s' hs ⟨x', -, rfl⟩
    exact hs

/-- What the config of a state fixes, the config before it fixed too. -/
theorem config_of_grows {st st' : Settings} (h : st.Grows st') {chainId : U128} {wNative : Address}
    (hconfig : ∀ config, st'.config = some config →
      config.chainId = chainId ∧ config.wNativeToken = wNative) :
    ∀ config, st.config = some config → config.chainId = chainId ∧ config.wNativeToken = wNative := by
  intro config hc
  obtain ⟨admin, hc'⟩ := h.config config hc
  exact hconfig { config with admin } hc'

/-- The induction every result over the runs of this contract goes through: the chain id and the
wrapped native token are the ones of the last state, so they are fixed up front. -/
theorem run_invariant {x : X} {history : History} {chainId : U128} {wNative : Address}
    {known : List OrderParams} {I : History → Chain X → Prop} (start : I [] (Chain.fresh x))
    (step : ∀ {history s env call ret s'}, I history s → s.core.settings.Sound →
      (∀ config, s.core.settings.config = some config →
        config.chainId = chainId ∧ config.wNativeToken = wNative) →
      ordersOf history ⊆ known → (∀ params, call.params? = some params → params ∈ known) →
      env.authorized H.address = false → Step O H env s call ret s' →
      I (((env, call), ret) :: history) s')
    (around : ∀ {history s x'}, I history s → outside s.core.outside x' →
      I history { s with core := { s.core with outside := x' } })
    (run : Run (system O H outside) (Chain.fresh x) history s)
    (hconfig : ∀ config, s.core.settings.config = some config →
      config.chainId = chainId ∧ config.wNativeToken = wNative)
    (hknown : ordersOf history ⊆ known) : I history s := by
  refine Run.invariant (I := fun history s =>
    (∀ config, s.core.settings.config = some config →
      config.chainId = chainId ∧ config.wNativeToken = wNative) →
      ordersOf history ⊆ known → I history s) ?_ ?_ ?_ run hconfig hknown
  · intro _ _
    exact start
  · rintro history s ⟨env, call⟩ ret s' run ih hadmits ok hconfig hknown
    have hsound := sound_of_run run
    have hstep := step_of_exec ok
    have hconfig' := config_of_grows (settings_of_step hstep hsound).2 hconfig
    have hbefore : ordersOf history ⊆ known := fun params hmem => hknown (ordersOf_cons hmem)
    have hparams : ∀ params, call.params? = some params → params ∈ known :=
      fun params hp => hknown (mem_ordersOf_head hp)
    exact step (ih hconfig' hbefore) hsound hconfig' hbefore hparams hadmits hstep
  · rintro history s s' run ih ⟨x', hmoved, rfl⟩ hconfig hknown
    exact around (ih hconfig hknown) hmoved

/-- The deposits hold in every reachable state, over the orders the run created. -/
theorem deposits_of_run {x : X} {history : History} {chainId : U128} {wNative : Address}
    {known : List OrderParams} (run : Run (system O H outside) (Chain.fresh x) history s)
    (hconfig : ∀ config, s.core.settings.config = some config →
      config.chainId = chainId ∧ config.wNativeToken = wNative)
    (hcollision : CollisionFree H chainId known) (hknown : ordersOf history ⊆ known) :
    Deposits H chainId (book history) s := by
  refine run_invariant (I := fun history s => Deposits H chainId (book history) s) (.fresh x) ?_ ?_
    run hconfig hknown
  · intro history s env call ret s' h _ hconfig hknown hparams _ hstep
    exact h.step (fun config hc => (hconfig config hc).1) hcollision hknown hparams hstep
  · intro history s x' h _
    exact h.frame rfl rfl

/-! ## A run that creates one order -/

def sampleParams : OrderParams where
  orderChainToken := 0x11
  adChainToken := 0x22
  amount := 100000
  bridger := 0xB1
  orderRecipient := 0xB2
  adChainId := 2
  adManager := 0xAD
  adId := [97, 100, 45, 49]
  adCreator := 0x3A
  adRecipient := 0x3B
  salt := 7
  orderDecimals := 7
  adDecimals := 7
  deadline := 8200
  adSettlementSigner := 0x3A
  lpFeeBps := 10
  protocolFeeBps := 5

/-- Wire one route and create the sample order. -/
def sampleCalls : List (Env × Call) :=
  [.initializeContract (.account 0x0A) (.contract 0x57) (.contract 0x58) (.contract 0x59) 1,
    .setChain 2 0xAD, .setTokenRoute 0x11 2 0x22, .setRouteTiming 2 ⟨3600, 86400, 600, 600⟩,
    .setRootVerifier 2 (.contract 0x5B), .setRootAnchor (.contract 0x5C),
    .createOrder sampleParams].map fun call => (sampleEnv 1000, call)

/-- The sample's contract, in a world of balances. -/
abbrev sampleSystem : System OrderPortalError (Chain Bank) (Env × Call) Ret :=
  system Bank.world (sampleHost 0x50) Bank.gift

abbrev sampleStart : Bank := Bank.endowed 1000000 (.contract 0x50)

def sampleRun : History × Chain Bank :=
  (play sampleSystem sampleCalls [] (Chain.fresh sampleStart)).getD ([], Chain.fresh sampleStart)

theorem run_sample : Run sampleSystem (Chain.fresh sampleStart) sampleRun.1 sampleRun.2 := by
  refine Run.played (by decide +kernel) ?_
  intro t ht s
  obtain ⟨call, -, rfl⟩ := List.mem_map.mp ht
  rfl

theorem sample_config (config : ContractConfig)
    (h : sampleRun.2.core.settings.config = some config) :
    config.chainId = 1 ∧ config.wNativeToken = .contract 0x59 := by
  have hconfig : sampleRun.2.core.settings.config
      = some ⟨.account 0x0A, .contract 0x57, .contract 0x58, .contract 0x59, 1⟩ := by
    decide +kernel
  cases Option.some.inj (h.symm.trans hconfig)
  exact ⟨rfl, rfl⟩

theorem sample_orders : ordersOf sampleRun.1 ⊆ [sampleParams] := by
  have horders : ordersOf sampleRun.1 = [sampleParams] := by decide +kernel
  rw [horders]
  exact List.Subset.refl _

theorem sample_collisionFree : CollisionFree (sampleHost 0x50) 1 [sampleParams] := by
  obtain ⟨o, ho⟩ : ∃ o, orderOf (sampleHost 0x50) sampleParams 1 = .ok o := ⟨_, rfl⟩
  have hlength : sampleParams.adId.length = 4 := rfl
  refine (sampleKeccak_injOn 0x50 hlength o).mono ?_
  rintro b ⟨params, hmem, o', ho', hb⟩
  obtain rfl := List.mem_singleton.mp hmem
  obtain rfl := Except.ok.inj (ho.symm.trans ho')
  exact hb

end OrderPortal
end ProofBridge
