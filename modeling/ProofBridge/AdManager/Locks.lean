import ProofBridge.AdManager.Step
import ProofBridge.Lib.Book

/-!
# The lock ledger

Three counters follow the set of live orders: what an ad has locked, what an ad must keep in its
balance, and how many positions a settlement signer has open. `Locks` ties each of them to the book
of the orders the run locked. It is stated over the four things a call can move (the ads, the
statuses, the counts, the fee pool), so that a call is one of a few elementary moves: a frame, a
change to one ad, a lock, or the close of a live order.
-/

namespace ProofBridge
namespace AdManager

open ContractLib

variable {X : Type} {O : Outside X} {H : Host} {env : Env} {s s' : Chain X}

/-! ## The orders of a run -/

/-- The order a call is about. -/
def Call.params? : Call → Option OrderParams
  | .lockForOrder params _ | .unlock params .. | .claimCancel params | .dispute params ..
  | .respondToDispute params .. | .finalizeDispute params | .finalizeCancel params
  | .cancelNeverLocked params .. | .repinOrder params | .presentSettled params ..
  | .recordSettled params => some params
  | _ => none

abbrev History := List ((Env × Call) × Ret)

/-- Every order a run was ever told about. -/
def ordersOf (history : History) : List OrderParams := history.filterMap fun e => e.1.2.params?

theorem ordersOf_cons {history : History} {e : (Env × Call) × Ret} {params : OrderParams}
    (h : params ∈ ordersOf history) : params ∈ ordersOf (e :: history) := by
  obtain ⟨e', he', hp⟩ := List.mem_filterMap.mp h
  exact List.mem_filterMap.mpr ⟨e', List.mem_cons_of_mem _ he', hp⟩

theorem mem_ordersOf_head {history : History} {e : (Env × Call) × Ret} {params : OrderParams}
    (h : e.1.2.params? = some params) : params ∈ ordersOf (e :: history) :=
  List.mem_filterMap.mpr ⟨e, List.mem_cons_self, h⟩

/-- The entry an accepted call makes in the book of locks. -/
def lockEntry (call : Call) (ret : Ret) : Option (BytesN32 × OrderParams) :=
  match call, ret with
  | .lockForOrder params _, .order orderHash => some (orderHash, params)
  | _, _ => none

/-- The orders a run locked, under their hashes, the newest first. -/
def book (history : History) : List (BytesN32 × OrderParams) :=
  history.filterMap fun e => lockEntry e.1.2 e.2

theorem mem_ordersOf_of_mem_book {history : History} {e : BytesN32 × OrderParams}
    (h : e ∈ book history) : e.2 ∈ ordersOf history := by
  obtain ⟨⟨⟨env, call⟩, ret⟩, hmem, hentry⟩ := List.mem_filterMap.mp h
  refine List.mem_filterMap.mpr ⟨_, hmem, ?_⟩
  cases call <;> cases ret <;> simp only [lockEntry, reduceCtorEq, Option.some.injEq] at hentry
  subst hentry
  rfl

/-- What an order holds in its ad's units. -/
def amountOf (params : OrderParams) : ℕ :=
  match adAmount params with
  | .ok amount => amount
  | .error _ => 0

theorem amountOf_eq {params : OrderParams} {amount : ℕ} (h : adAmount params = .ok amount) :
    amountOf params = amount := by
  simp [amountOf, h]

/-- What an order weighs on an ad. -/
def lockedOn (adId : AdId) (params : OrderParams) : ℕ :=
  if params.adId = adId then amountOf params else 0

/-- What an order weighs on an account's count. -/
def signedBy (account : BytesN32) (params : OrderParams) : ℕ :=
  if decide (params.adSettlementSigner = account) then 1 else 0

theorem lockedOn_self {params : OrderParams} {amount : ℕ} (h : adAmount params = .ok amount) :
    lockedOn params.adId params = amount := by
  rw [lockedOn, if_pos rfl, amountOf_eq h]

theorem lockedOn_ne {adId : AdId} {params : OrderParams} (h : adId ≠ params.adId) :
    lockedOn adId params = 0 :=
  if_neg (Ne.symm h)

theorem signedBy_self (params : OrderParams) : signedBy params.adSettlementSigner params = 1 := by
  simp [signedBy]

theorem signedBy_ne {account : BytesN32} {params : OrderParams}
    (h : account ≠ params.adSettlementSigner) : signedBy account params = 0 := by
  simp [signedBy, Ne.symm h]

/-- The order's lock still stands. -/
def Chain.live (s : Chain X) (orderHash : BytesN32) : Bool :=
  (s.core.ledger.status orderHash).live

/-! ## The invariant -/

/-- A locked order rests on an ad, in that ad's token, at a rate somebody takes. -/
structure Backed (s : Chain X) (params : OrderParams) (ad : Ad) (amount : ℕ) : Prop where
  lookup : s.ads.get? params.adId = some ad
  worth : adAmount params = .ok amount
  positive : 0 < amount
  token : params.adChainToken = ad.token
  fees : feesValid params.lpFeeBps.toNat params.protocolFeeBps.toNat s.fees.pool.isSome

/-- An ad on which live orders worth `due` rest. -/
structure AdSound (H : Host) (due : ℕ) (ad : Ad) : Prop where
  locked : ad.locked = due
  covered : ad.locked ≤ ad.balance
  fits : ad.balance < 2 ^ 128
  closed : ad.isOpen = false → ad.balance = 0
  /-- No ad is the contract's own. -/
  maker : ad.maker ≠ H.address

/-- The lock ledger of a state, over the book of the orders locked so far. -/
structure Locks (H : Host) (chainId : U128) (orders : List (BytesN32 × OrderParams))
    (s : Chain X) : Prop where
  hashed : ∀ e ∈ orders, hashOrder H e.2 chainId = .ok e.1
  nodup : (orders.map Prod.fst).Nodup
  /-- A hash once locked stays taken. -/
  taken : ∀ e ∈ orders, s.core.ledger.status e.1 ≠ .none
  /-- Nothing but a lock makes an order live. -/
  known : ∀ orderHash, s.live orderHash = true → orderHash ∈ orders.map Prod.fst
  backed : ∀ e ∈ orders, ∃ ad amount, Backed s e.2 ad amount
  ads : ∀ adId ad, s.ads.get? adId = some ad →
    AdSound H (liveTotal s.live (lockedOn adId) orders) ad
  counted : ∀ account,
    s.core.ledger.getInFlight account = liveTotal s.live (signedBy account) orders

theorem Locks.fresh {chainId : U128} (x : X) : Locks H chainId [] (Chain.fresh x) where
  hashed _ h := by cases h
  nodup := List.nodup_nil
  taken _ h := by cases h
  known _ h := by cases h
  backed _ h := by cases h
  ads _ _ h := by cases h
  counted _ := rfl

/-- Backing outlives a step that keeps the ad's token and never unsets the pool. -/
theorem Backed.mono {params : OrderParams} {ad ad' : Ad} {amount : ℕ}
    (h : Backed s params ad amount) (had : s'.ads.get? params.adId = some ad')
    (htoken : ad'.token = ad.token)
    (hpool : s.fees.pool.isSome = true → s'.fees.pool.isSome = true) :
    Backed s' params ad' amount := by
  obtain ⟨hlp, hprot, hpooled⟩ := h.fees
  exact ⟨had, h.worth, h.positive, h.token.trans htoken.symm, hlp, hprot, hpooled.imp_right hpool⟩

namespace Locks

variable {chainId : U128} {orders : List (BytesN32 × OrderParams)}

/-- A move that touches no ad and no count, and opens or ends no lock. -/
theorem frame (h : Locks H chainId orders s) (hads : s'.ads = s.ads)
    (hlive : ∀ k, s'.live k = s.live k)
    (htaken : ∀ k, s.core.ledger.status k ≠ .none → s'.core.ledger.status k ≠ .none)
    (hcount : s'.core.ledger.inFlight = s.core.ledger.inFlight)
    (hpool : s.fees.pool.isSome = true → s'.fees.pool.isSome = true) :
    Locks H chainId orders s' := by
  have hlive' : s'.live = s.live := funext hlive
  refine ⟨h.hashed, h.nodup, fun e he => htaken _ (h.taken e he), ?_, ?_, ?_, ?_⟩
  · rw [hlive']
    exact h.known
  · intro e he
    obtain ⟨ad, amount, hb⟩ := h.backed e he
    have had : s'.ads.get? e.2.adId = some ad := by
      rw [hads]
      exact hb.lookup
    exact ⟨ad, amount, hb.mono had rfl hpool⟩
  · rw [hads, hlive']
    exact h.ads
  · rw [hlive']
    intro account
    rw [Ledger.getInFlight_of_eq hcount]
    exact h.counted account

/-- A move of one order's record that neither opens nor ends its lock. -/
theorem mark (h : Locks H chainId orders s) {orderHash : BytesN32} {rec : OrderRecord}
    (hads : s'.ads = s.ads)
    (horders : s'.core.ledger.orders = s.core.ledger.orders.set orderHash rec)
    (hlive : rec.status.live = s.live orderHash) (hne : rec.status ≠ .none)
    (hcount : s'.core.ledger.inFlight = s.core.ledger.inFlight) (hfees : s'.fees = s.fees) :
    Locks H chainId orders s' := by
  have hstatus := Ledger.status_of_set horders
  refine h.frame hads (fun k => ?_) (fun k hk => ?_) hcount (fun hpool => hfees ▸ hpool)
  · unfold Chain.live
    rw [hstatus]
    split
    · next heq => rw [heq, hlive, Chain.live]
    · rfl
  · rw [hstatus]
    split
    · exact hne
    · exact hk

/-- After a write, an ad is the written one or one of the old. -/
theorem get?_cases {adId id : AdId} {ad a : Ad} (hads : s'.ads = s.ads.set adId ad)
    (ha : s'.ads.get? id = some a) :
    (id = adId ∧ a = ad) ∨ (id ≠ adId ∧ s.ads.get? id = some a) := by
  rw [hads, Map.get?_set] at ha
  split at ha
  · next heq => exact .inl ⟨heq, (Option.some.inj ha).symm⟩
  · next hne => exact .inr ⟨hne, ha⟩

/-- Every order stays backed when one ad is rewritten in its own token. -/
theorem backed_of_set (h : Locks H chainId orders s) {adId : AdId} {ad ad' : Ad}
    (had : s.ads.get? adId = some ad) (hads : s'.ads = s.ads.set adId ad')
    (htoken : ad'.token = ad.token) (hfees : s'.fees = s.fees) :
    ∀ e ∈ orders, ∃ ad amount, Backed s' e.2 ad amount := by
  intro e he
  obtain ⟨a, amount, hb⟩ := h.backed e he
  have hpool : s.fees.pool.isSome = true → s'.fees.pool.isSome = true := by
    rw [hfees]
    exact id
  by_cases hid : e.2.adId = adId
  · have hsame : a = ad := by
      have hlookup := hb.lookup
      rw [hid, had] at hlookup
      exact (Option.some.inj hlookup).symm
    subst hsame
    refine ⟨ad', amount, hb.mono ?_ htoken hpool⟩
    rw [hads, hid, Map.get?_set_self]
  · refine ⟨a, amount, hb.mono ?_ rfl hpool⟩
    rw [hads, Map.get?_set_ne hid]
    exact hb.lookup

/-- A move of one ad that keeps what it has locked. -/
theorem setAd (h : Locks H chainId orders s) {adId : AdId} {ad ad' : Ad}
    (had : s.ads.get? adId = some ad) (hads : s'.ads = s.ads.set adId ad')
    (horders : s'.core.ledger.orders = s.core.ledger.orders)
    (hcount : s'.core.ledger.inFlight = s.core.ledger.inFlight) (hfees : s'.fees = s.fees)
    (htoken : ad'.token = ad.token) (hsound : AdSound H ad.locked ad') :
    Locks H chainId orders s' := by
  have hstatus := Ledger.status_of_eq horders
  have hlive : s'.live = s.live := funext fun k => by simp [Chain.live, hstatus]
  refine ⟨h.hashed, h.nodup, fun e he => ?_, ?_, h.backed_of_set had hads htoken hfees, ?_, ?_⟩
  · rw [hstatus]
    exact h.taken e he
  · rw [hlive]
    exact h.known
  · intro id a ha
    rw [hlive]
    rcases get?_cases hads ha with ⟨rfl, rfl⟩ | ⟨-, ha⟩
    · rw [← (h.ads _ _ had).locked]
      exact hsound
    · exact h.ads _ _ ha
  · intro account
    rw [hlive, Ledger.getInFlight_of_eq hcount]
    exact h.counted account

/-- No order of the book rests on an id no ad has. -/
theorem free_of_none (h : Locks H chainId orders s) {adId : AdId}
    (hnew : s.ads.get? adId = none) : ∀ e ∈ orders, e.2.adId ≠ adId := by
  intro e he heq
  obtain ⟨a, amount, hb⟩ := h.backed e he
  have hsome := hb.lookup
  rw [heq, hnew] at hsome
  cases hsome

/-- A new ad, which no order rests on yet. -/
theorem newAd (h : Locks H chainId orders s) {adId : AdId} {ad : Ad}
    (hnew : s.ads.get? adId = none) (hads : s'.ads = s.ads.set adId ad)
    (horders : s'.core.ledger.orders = s.core.ledger.orders)
    (hcount : s'.core.ledger.inFlight = s.core.ledger.inFlight) (hfees : s'.fees = s.fees)
    (hsound : AdSound H 0 ad) : Locks H chainId orders s' := by
  have hstatus := Ledger.status_of_eq horders
  have hlive : s'.live = s.live := funext fun k => by simp [Chain.live, hstatus]
  have hfree := h.free_of_none hnew
  have hzero : liveTotal s.live (lockedOn adId) orders = 0 := by
    refine List.sum_eq_zero fun w hw => ?_
    obtain ⟨e, he, rfl⟩ := List.mem_map.mp hw
    exact if_neg (hfree e (List.mem_of_mem_filter he))
  refine ⟨h.hashed, h.nodup, fun e he => ?_, ?_, ?_, ?_, ?_⟩
  · rw [hstatus]
    exact h.taken e he
  · rw [hlive]
    exact h.known
  · intro e he
    obtain ⟨a, amount, hb⟩ := h.backed e he
    refine ⟨a, amount, hb.mono ?_ rfl ?_⟩
    · rw [hads, Map.get?_set_ne (hfree e he)]
      exact hb.lookup
    · rw [hfees]
      exact id
  · intro id a ha
    rw [hlive]
    rcases get?_cases hads ha with ⟨rfl, rfl⟩ | ⟨-, ha⟩
    · rw [hzero]
      exact hsound
    · exact h.ads _ _ ha
  · intro account
    rw [hlive, Ledger.getInFlight_of_eq hcount]
    exact h.counted account

/-- A lock: a fresh hash opens on an ad with room for it. -/
theorem lock (h : Locks H chainId orders s) {params : OrderParams} {orderHash : BytesN32}
    {rec : OrderRecord} {ad : Ad} {amount : ℕ}
    (hhash : hashOrder H params chainId = .ok orderHash)
    (hnew : s.core.ledger.status orderHash = .none)
    (hbacked : Backed s params ad amount) (hroom : ad.locked + amount ≤ ad.balance)
    (hrec : rec.status = .opened)
    (hads : s'.ads = s.ads.set params.adId { ad with locked := ad.locked + amount })
    (horders : s'.core.ledger.orders = s.core.ledger.orders.set orderHash rec)
    (hcount : s'.core.ledger.inFlight
      = storeNonzero s.core.ledger.inFlight params.adSettlementSigner
        (s.core.ledger.getInFlight params.adSettlementSigner + 1)) (hfees : s'.fees = s.fees) :
    Locks H chainId ((orderHash, params) :: orders) s' := by
  have hstatus := Ledger.status_of_set horders
  rw [hrec] at hstatus
  have hfresh : orderHash ∉ orders.map Prod.fst := by
    intro hmem
    obtain ⟨e, he, rfl⟩ := List.mem_map.mp hmem
    exact h.taken e he hnew
  have hlive : s'.live orderHash = true := by
    simp [Chain.live, hstatus, Status.live]
  -- the orders locked before are as live as they were
  have hother : ∀ e ∈ orders, s'.live e.1 = s.live e.1 := by
    intro e he
    have hne : e.1 ≠ orderHash := by
      rintro rfl
      exact hfresh (List.mem_map_of_mem he)
    simp [Chain.live, hstatus, hne]
  have htotal : ∀ w : OrderParams → ℕ,
      liveTotal s'.live w ((orderHash, params) :: orders) = w params + liveTotal s.live w orders := by
    intro w
    rw [liveTotal_cons, liveTotal_congr hother, if_pos hlive]
  have hbacked' := h.backed_of_set hbacked.lookup hads rfl hfees
  refine ⟨?_, ?_, ?_, ?_, ?_, ?_, ?_⟩
  · intro e he
    rcases List.mem_cons.mp he with rfl | he
    · exact hhash
    · exact h.hashed e he
  · exact List.nodup_cons.mpr ⟨hfresh, h.nodup⟩
  · intro e he
    rcases List.mem_cons.mp he with rfl | he
    · simp [hstatus]
    · rw [hstatus]
      split
      · exact Status.noConfusion
      · exact h.taken e he
  · intro k hk
    by_cases heq : k = orderHash
    · simp [heq]
    · have hk' : s.live k = true := by simpa [Chain.live, hstatus, heq] using hk
      exact List.mem_cons_of_mem _ (h.known k hk')
  · intro e he
    rcases List.mem_cons.mp he with rfl | he
    · refine ⟨{ ad with locked := ad.locked + amount }, amount, hbacked.mono ?_ rfl ?_⟩
      · rw [hads, Map.get?_set_self]
      · rw [hfees]
        exact id
    · exact hbacked' e he
  · intro id a ha
    rw [htotal]
    rcases get?_cases hads ha with ⟨rfl, rfl⟩ | ⟨hne, ha⟩
    · have hsound := h.ads _ _ hbacked.lookup
      refine ⟨?_, hroom, hsound.fits, hsound.closed, hsound.maker⟩
      rw [lockedOn_self hbacked.worth, ← hsound.locked, Nat.add_comm]
    · rw [lockedOn_ne hne, Nat.zero_add]
      exact h.ads _ _ ha
  · intro account
    rw [htotal, Ledger.getInFlight_of_store hcount]
    split
    · next heq =>
      rw [heq, h.counted, signedBy_self, Nat.add_comm]
    · next hne =>
      rw [h.counted, signedBy_ne hne, Nat.zero_add]

/-- The close of a live order: its lock is released, its signer counted out, and at most what it
held leaves the ad. -/
theorem close (h : Locks H chainId orders s) {params : OrderParams} {orderHash : BytesN32}
    (rec : OrderRecord) {ad : Ad} {amount out : ℕ}
    (hmem : (orderHash, params) ∈ orders) (hlive : s.live orderHash = true)
    (had : s.ads.get? params.adId = some ad) (hamount : adAmount params = .ok amount)
    (hout : out ≤ amount) (hrec : rec.status.terminal = true)
    (hads : s'.ads = s.ads.set params.adId (ad.release amount out))
    (horders : s'.core.ledger.orders = s.core.ledger.orders.set orderHash rec)
    (hcount : s'.core.ledger.inFlight
      = storeNonzero s.core.ledger.inFlight params.adSettlementSigner
        (s.core.ledger.getInFlight params.adSettlementSigner - 1)) (hfees : s'.fees = s.fees) :
    Locks H chainId orders s' := by
  have hstatus := Ledger.status_of_set horders
  have hdead : s'.live orderHash = false := by
    cases hs : rec.status <;> simp_all [Chain.live, Status.live, Status.terminal]
  have hother : ∀ k, k ≠ orderHash → s'.live k = s.live k := by
    intro k hne
    simp [Chain.live, hstatus, hne]
  have htotal : ∀ w : OrderParams → ℕ,
      liveTotal s'.live w orders + w params = liveTotal s.live w orders := by
    intro w
    exact liveTotal_close h.nodup hmem hlive hdead hother
  refine ⟨h.hashed, h.nodup, fun e he => ?_, fun k hk => ?_,
    h.backed_of_set had hads rfl hfees, ?_, ?_⟩
  · rw [hstatus]
    split
    · intro hnone
      simp [hnone, Status.terminal] at hrec
    · exact h.taken e he
  · by_cases heq : k = orderHash
    · rw [heq, hdead] at hk
      cases hk
    · rw [hother k heq] at hk
      exact h.known k hk
  · intro id a ha
    rcases get?_cases hads ha with ⟨rfl, rfl⟩ | ⟨hne, ha⟩
    · have hsound := h.ads _ _ had
      have hdue := htotal (lockedOn params.adId)
      rw [lockedOn_self hamount, ← hsound.locked] at hdue
      have hcovered := hsound.covered
      have hfits := hsound.fits
      have hclosed := hsound.closed
      refine ⟨?_, ?_, ?_, ?_, hsound.maker⟩
      · show ad.locked - amount = _
        omega
      · show ad.locked - amount ≤ ad.balance - out
        omega
      · show ad.balance - out < 2 ^ 128
        omega
      · intro hshut
        show ad.balance - out = 0
        rw [hclosed hshut, Nat.zero_sub]
    · have hdue := htotal (lockedOn id)
      rw [lockedOn_ne hne, Nat.add_zero] at hdue
      rw [hdue]
      exact h.ads _ _ ha
  · intro account
    have hdue := htotal (signedBy account)
    rw [Ledger.getInFlight_of_store hcount]
    split
    · next heq =>
      subst heq
      rw [signedBy_self] at hdue
      rw [h.counted]
      omega
    · next hne =>
      rw [signedBy_ne hne] at hdue
      rw [h.counted]
      omega

/-- A live order that hashes to its own key is the one the book holds there. -/
theorem entry (h : Locks H chainId orders s) {known : List OrderParams}
    (hfree : CollisionFree H chainId known) (hsub : ∀ e ∈ orders, e.2 ∈ known)
    {params : OrderParams} {orderHash : BytesN32} (hmem : params ∈ known)
    (hhash : hashOrder H params chainId = .ok orderHash) (hlive : s.live orderHash = true) :
    (orderHash, params) ∈ orders := by
  obtain ⟨e, he, rfl⟩ := List.mem_map.mp (h.known _ hlive)
  have hsame : e.2 = params := hfree.eq_of_hashOrder (hsub e he) hmem (h.hashed e he) hhash
  rw [← hsame]
  exact he

/-- A fill is the close of its order. -/
theorem filled (h : Locks H chainId orders s) {config : ContractConfig} {params : OrderParams}
    {orderHash : BytesN32} {byEvidence : Bool} (hmem : (orderHash, params) ∈ orders)
    (hlive : s.live orderHash = true)
    (hfilled : Filled O H env config params orderHash byEvidence s s') :
    Locks H chainId orders s' := by
  obtain ⟨hclosed, hcounted, hamount, had, hlocked, hcharged, hpaid⟩ := hfilled
  obtain ⟨x, claimable, events, rfl⟩ := hpaid.moneyOnly
  refine h.close { s.core.ledger.getOrder orderHash with status := .filled } hmem hlive had
    hamount (Nat.sub_le _ _) rfl rfl rfl rfl rfl

/-- A ruling's pay-out moves the ad and the money, and no order. -/
theorem ruling_frame {config : ContractConfig} {params : OrderParams} {orderHash : BytesN32}
    {outcome : DisputeOutcome} {amount : ℕ} {ad : Ad}
    (h : RulingPaid O H env config params orderHash outcome amount ad s s') :
    ∃ c out, Escrow.MoneyOnly s.core c ∧ out ≤ amount ∧
      s' = { s with core := c, ads := s.ads.set params.adId (ad.release amount out) } := by
  cases h with
  | released houtcome =>
    exact ⟨s.core, 0, ⟨_, _, _, rfl⟩, Nat.zero_le _, rfl⟩
  | forfeited houtcome hcharged hpaid =>
    obtain ⟨x, claimable, events, rfl⟩ := hpaid.moneyOnly
    exact ⟨_, _, ⟨_, _, _, rfl⟩, Nat.sub_le _ _, rfl⟩

end Locks

/-! ## One step of the ledger -/

/-- What the lock checked of an order. -/
structure LockChecked (ad : Ad) (params : OrderParams) (amount : ℕ) (s : Chain X) : Prop where
  open_ad : ad.isOpen = true
  amount_ne : params.amount ≠ 0
  recipient_ne : isZeroBytes32 params.orderRecipient = false
  recipient_not_maker : params.orderRecipient ≠ params.adCreator
  token : params.adChainToken = ad.token
  creator : params.adCreator = addressToBytes32 ad.maker
  signer : params.adSettlementSigner = ad.settlementSigner
  fees : params.lpFeeBps.toNat = s.fees.lpBps ∧ params.protocolFeeBps.toNat = s.fees.protocolBps
  worth : adAmount params = .ok amount
  covered : ad.locked ≤ ad.balance
  room : amount ≤ ad.balance - ad.locked

theorem lockChecks_ok {config : ContractConfig} {ad : Ad} {params : OrderParams}
    {signerSlot : U32} {timingVersion amount : ℕ}
    (ok : lockChecks O env config ad params signerSlot s = .ok (timingVersion, amount)) :
    LockChecked ad params amount s ∧
      Escrow.requireMinWindow env params.orderChainId params.deadline.toNat s.core
        = .ok timingVersion := by
  simp only [lockChecks, Check.bind_ok, Check.require_ok, Check.mapError_ok, Check.sub_ok,
    Check.pure_ok, Prod.mk.injEq] at ok
  obtain ⟨⟨⟩, hvalid, -, hfees, -, -, -, -, -, -, version, hversion, -, -, _, hamount, _,
    ⟨hcovered, rfl⟩, -, hroom, rfl, rfl⟩ := ok
  simp only [validateOrder, Check.bind_ok, Check.require_ok, Check.mapError_ok,
    Check.expect_ok] at hvalid
  obtain ⟨-, hopen, -, hne, -, -, -, -, -, -, -, hrecipient, -, -, -, hmaker, _, -, -, -, -, -, -,
    -, _, -, -, -, -, htoken, -, -, -, hcreator, hsigner⟩ := hvalid
  exact ⟨⟨hopen, hne, hrecipient, hmaker.1, htoken, hcreator, hsigner, hfees, hamount, hcovered,
    hroom⟩, hversion⟩

theorem LockChecked.backed {ad : Ad} {params : OrderParams} {amount : ℕ}
    (h : LockChecked ad params amount s) (had : s.ads.get? params.adId = some ad)
    (hsound : s.Sound) : Backed s params ad amount := by
  have hpos : 0 < params.amount.toNat := by
    have hne := h.amount_ne
    rw [Nat.pos_iff_ne_zero]
    intro hzero
    exact hne (BitVec.eq_of_toNat_eq hzero)
  have hworth := h.worth
  unfold adAmount at hworth
  rw [Check.mapError_ok] at hworth
  obtain ⟨hlp, hprot⟩ := h.fees
  have hfees := hsound.fees
  rw [← hlp, ← hprot] at hfees
  exact ⟨had, h.worth, scale_pos hpos hworth, h.token, hfees⟩

theorem book_cons {call : Call} {ret : Ret} {history : History} (h : lockEntry call ret = none) :
    book (((env, call), ret) :: history) = book history := by
  simp [book, h]

theorem lockEntry_admin {call : Call} {ret : Ret} (h : call.administrative = true) :
    lockEntry call ret = none := by
  cases call <;> first | rfl | cases h

/-- An accepted call keeps the lock ledger. -/
theorem Locks.step {chainId : U128} {history : History} {known : List OrderParams} {call : Call}
    {ret : Ret} (h : Locks H chainId (book history) s) (hsound : s.Sound)
    (hchain : ∀ config, s.core.settings.config = some config → config.chainId = chainId)
    (hfree : CollisionFree H chainId known) (hknown : ordersOf history ⊆ known)
    (hparams : ∀ params, call.params? = some params → params ∈ known)
    (hself : env.authorized H.address = false) (hstep : Step O H env s call ret s') :
    Locks H chainId (book (((env, call), ret) :: history)) s' := by
  have hsub : ∀ e ∈ book history, e.2 ∈ known := fun e he => hknown (mem_ordersOf_of_mem_book he)
  -- whoever authorized the call is not the contract
  have hother : ∀ a, env.authorized a = true → a ≠ H.address := by
    rintro a ha rfl
    rw [hself] at ha
    cases ha
  cases hstep with
  | admin hcall hframe =>
    rw [book_cons (lockEntry_admin hcall)]
    refine h.frame hframe.ads ?_ ?_ ?_ (hframe.step hsound).2.pool
    · intro k
      simp [Chain.live, hframe.ledger]
    · rw [hframe.ledger]
      exact fun _ => id
    · rw [hframe.ledger]
  | createAd hconfig hroute hnew hauth hregistered hpull =>
    rw [book_cons rfl]
    refine h.newAd hnew rfl rfl rfl rfl ⟨rfl, Nat.zero_le _, BitVec.isLt _, ?_, hother _ hauth⟩
    exact Bool.noConfusion
  | setSettlementSigner had hauth hregistered =>
    rw [book_cons rfl]
    have hs := h.ads _ _ had
    exact h.setAd had rfl rfl rfl rfl rfl ⟨rfl, hs.covered, hs.fits, hs.closed, hs.maker⟩
  | fundAd hconfig had hopen hauth hpull hfit =>
    rw [book_cons rfl]
    have hs := h.ads _ _ had
    refine h.setAd had rfl rfl rfl rfl rfl ⟨rfl, ?_, hfit, ?_, hs.maker⟩
    · exact hs.covered.trans (Nat.le_add_right _ _)
    · intro hclosed
      rw [hopen] at hclosed
      cases hclosed
  | @withdrawFromAd adId amount payee config ad x hconfig had havailable hauth hpush =>
    rw [book_cons rfl]
    have hs := h.ads _ _ had
    have hcovered := hs.covered
    have hfits := hs.fits
    refine h.setAd had rfl rfl rfl rfl rfl ⟨rfl, ?_, ?_, ?_, hs.maker⟩
    · show ad.locked ≤ ad.balance - amount.toNat
      omega
    · show ad.balance - amount.toNat < 2 ^ 128
      omega
    · intro hclosed
      show ad.balance - amount.toNat = 0
      rw [hs.closed hclosed, Nat.zero_sub]
  | closeAd hconfig had hlocked hauth hpush =>
    rw [book_cons rfl]
    have hs := h.ads _ _ had
    exact h.setAd had rfl rfl rfl rfl rfl
      ⟨rfl, hlocked.le, Nat.two_pow_pos _, fun _ => rfl, hs.maker⟩
  | lockForOrder hconfig had hchecks hauth hhash hnew hdelay hfit happend =>
    obtain ⟨hc, -⟩ := lockChecks_ok hchecks
    have hroom := hc.room
    have hcovered := hc.covered
    rw [hchain _ hconfig] at hhash
    exact h.lock hhash hnew (hc.backed had hsound) (by omega) rfl rfl rfl rfl rfl
  | @unlock params nullifierHash targetRoot proof cosigData config orderHash t ad publicInputs s₁ s₂
      hconfig hhash hlive hnullifier htiming hcutoff had hhalt hroot hinputs hproof hspent
      hfilled =>
    rw [book_cons rfl]
    rw [hchain _ hconfig] at hhash
    have hmem := h.entry hfree hsub (hparams _ rfl) hhash hlive
    have hspend : Locks H chainId (book history) s₁ := by
      subst hspent
      exact h.frame rfl (fun _ => rfl) (fun _ => id) rfl id
    have hlive₁ : s₁.live orderHash = true := by
      subst hspent
      exact hlive
    have hfill := hspend.filled hmem hlive₁ hfilled
    exact hfill.frame rfl (fun _ => rfl) (fun _ => id) rfl id
  | claimCancel hconfig hhash hopened hdeadline htiming =>
    rw [book_cons rfl]
    refine h.mark rfl rfl ?_ Status.noConfusion rfl rfl
    simp [Chain.live, hopened, Status.live]
  | dispute hconfig hhash had hparty hamount hdisputable hmanager hopen =>
    rw [book_cons rfl]
    obtain ⟨hstatus, -, -⟩ := Escrow.requireDisputable_ok hdisputable
    refine h.mark rfl rfl ?_ Status.noConfusion rfl rfl
    rcases hstatus with hs | hs <;> simp [Chain.live, hs, Status.live]
  | respondToDispute =>
    rw [book_cons rfl]
    exact h.frame rfl (fun _ => rfl) (fun _ => id) rfl id
  | @finalizeDispute params config orderHash verdict amount finalizesAt ad s₁ manager x₁ x₂ hconfig
      hhash hdisputed hverdict hamount had hend hreached hlocked hpaid hcounted hmanager hsettle
      happend =>
    rw [book_cons rfl]
    rw [hchain _ hconfig] at hhash
    have hlive : s.live orderHash = true := by simp [Chain.live, hdisputed, Status.live]
    have hmem := h.entry hfree hsub (hparams _ rfl) hhash hlive
    obtain ⟨c, out, ⟨x, claimable, events, rfl⟩, hout, rfl⟩ := Locks.ruling_frame hpaid
    exact h.close { s.core.ledger.getOrder orderHash with status := .resolved } hmem hlive had
      hamount hout rfl rfl rfl rfl rfl
  | @finalizeCancel params config orderHash t amount finalizesAt ad x hconfig hhash htiming
      hfinalizable hamount had hend hreached hlocked hcounted happend =>
    rw [book_cons rfl]
    rw [hchain _ hconfig] at hhash
    have hlive : s.live orderHash = true := by
      simp only [Escrow.requireFinalizable, Check.bind_ok, Check.require_ok] at hfinalizable
      obtain ⟨-, hclaimed, -⟩ := hfinalizable
      simp [Chain.live, hclaimed, Status.live]
    have hmem := h.entry hfree hsub (hparams _ rfl) hhash hlive
    exact h.close { s.core.ledger.getOrder orderHash with status := .cancelled } hmem hlive had
      hamount (Nat.zero_le _) rfl rfl rfl rfl rfl
  | cancelNeverLocked hconfig hhash hnever =>
    rw [book_cons rfl]
    refine h.mark rfl rfl ?_ Status.noConfusion rfl rfl
    simp [Chain.live, hnever, Status.live]
  | @repinOrder params config orderHash t registry consent hconfig hhash hopened =>
    rw [book_cons rfl]
    have hkept : (s.core.ledger.getOrder orderHash).status = .opened := hopened
    refine h.mark rfl rfl rfl ?_ rfl rfl
    show (s.core.ledger.getOrder orderHash).status ≠ .none
    rw [hkept]
    exact Status.noConfusion
  | presentSettled hconfig hhash hlive hanchored hproof hfilled =>
    rw [book_cons rfl]
    rw [hchain _ hconfig] at hhash
    have hmem := h.entry hfree hsub (hparams _ rfl) hhash hlive
    exact h.filled hmem hlive hfilled
  | recordSettled =>
    rw [book_cons rfl]
    exact h.frame rfl (fun _ => rfl) (fun _ => id) rfl id
  | claim =>
    rw [book_cons rfl]
    exact h.frame rfl (fun _ => rfl) (fun _ => id) rfl id

end AdManager
end ProofBridge
