import ProofBridge.AgentAccount.Volume
import ProofBridge.Core.Bank

/-!
# What agents lock over a stretch of time

A history is read as draws on a tank: on the account's bucket of a token, and on an agent's own
bucket between two installs of its policy. The owner may change the account's limit on the way; the
rate that counts in a second is the one the last change up to it left in force.
-/

namespace ProofBridge
namespace AgentAccount

open ContractLib Finset

variable {Y : Type} {N : Neighbors Y} {H : AccountHost} {outside : Y → Y → Prop} {c c' : Chain Y}
  {token agentId : BytesN32} {t₀ t₁ : ℕ}

/-- Accepted calls with their answers, the newest first. -/
abbrev History := List ((Env × Call) × Ret)

/-- A call's time and what it was. -/
abbrev timeOf (e : (Env × Call) × Ret) : ℕ := e.1.1.now

/-- Calls come in the order of their times. -/
def Chronological (h : History) : Prop := h.Pairwise fun later earlier => timeOf earlier ≤ timeOf later

/-- Every call of the history came between the two times. -/
def Within (t₀ t₁ : ℕ) (h : History) : Prop := ∀ e ∈ h, t₀ ≤ timeOf e ∧ timeOf e ≤ t₁

/-- The locks of the token that agents were authorized for. -/
def lockedOn (token : BytesN32) (h : History) : ℕ := (h.map fun e => e.1.2.locked token).sum

/-- Those one agent signed for. -/
def lockedByOn (H : AccountHost) (agentId token : BytesN32) (h : History) : ℕ :=
  (h.map fun e => e.1.2.lockedBy H agentId token).sum

/-- The limits put on the token, the newest first. -/
def limitsSet (token : BytesN32) (h : History) : List Limit :=
  h.filterMap fun e => e.1.2.limitOn token

/-- The limit a history leaves in force. -/
def limitAfter (token : BytesN32) (first : Option Limit) (h : History) : Option Limit :=
  (limitsSet token h).head?.or first

/-- The account's refill rate in the second `u`. -/
def refillAt (token : BytesN32) (first : Option Limit) (h : History) (u : ℕ) : ℕ :=
  refillOf (limitAfter token first (h.filter fun e => timeOf e ≤ u))

/-- What the account's bucket holds at `t₀`. A token without a limit has no bucket yet; its first
limit brings a full one. -/
def Chain.openingLevel (c : Chain Y) (token : BytesN32) (h : History) (t₀ : ℕ) : ℕ :=
  match c.state.limit token with
  | some _ => c.state.level token t₀
  | none =>
    match (limitsSet token h).getLast? with
    | some limit => limit.capacity.toNat
    | none => 0

/-- Every limit in force at some point of the history. -/
def limitsInForce (token : BytesN32) (c : Chain Y) (h : History) : List Limit :=
  limitsSet token h ++ (c.state.limit token).toList

/-! ## A history as draws -/

theorem limitsSet_cons {e : (Env × Call) × Ret} {h : History} :
    limitsSet token (e :: h) = (e.1.2.limitOn token).toList ++ limitsSet token h := by
  unfold limitsSet
  rw [List.filterMap_cons]
  cases e.1.2.limitOn token with
  | none => rfl
  | some limit => rfl

theorem limitAfter_cons {e : (Env × Call) × Ret} {h : History} {first : Option Limit} :
    limitAfter token first (e :: h) = (e.1.2.limitOn token).or (limitAfter token first h) := by
  unfold limitAfter
  rw [limitsSet_cons]
  cases e.1.2.limitOn token with
  | none => rfl
  | some limit => rfl

/-- The draws a history makes on the account's bucket. -/
def accountDraws (token : BytesN32) (first : Option Limit) : History → List Draw
  | [] => []
  | e :: h => {
      time := timeOf e
      amount := e.1.2.locked token
      gain := firstCapacity (limitAfter token first h) (e.1.2.limitOn token)
      rate := refillOf (limitAfter token first (e :: h)) } :: accountDraws token first h

/-- Those on an agent's own, whose row stands. -/
def agentDraws (H : AccountHost) (agentId token : BytesN32) (rate : ℕ) (h : History) : List Draw :=
  h.map fun e => {
    time := timeOf e
    amount := e.1.2.lockedBy H agentId token
    gain := 0
    rate }

theorem accountDraws_of_run {h : History} (token : BytesN32) (run : Run (system N H outside) c h c') :
    Drawn (accountTank token) c.state (accountDraws token (c.state.limit token) h) c'.state ∧
      c'.state.limit token = limitAfter token (c.state.limit token) h := by
  induction run with
  | start => exact ⟨.start, rfl⟩
  | refused run failed ih => exact ih
  | outside run moved ih =>
    obtain ⟨y, -, rfl⟩ := moved
    exact ih
  | @accepted h a b t r run admitted ok ih =>
    obtain ⟨hdrawn, hlimit⟩ := ih
    obtain ⟨hdraw, hnext⟩ := account_draw token ok
    have hafter : b.state.limit token = limitAfter token (c.state.limit token) ((t, r) :: h) := by
      rw [hnext, hlimit, limitAfter_cons]
    refine ⟨?_, hafter⟩
    rw [hlimit] at hdraw
    unfold accountDraws
    rw [← hafter]
    exact Drawn.draw hdrawn hdraw

theorem agentDraws_of_run {h : History} (token : BytesN32) (run : Run (system N H outside) c h c')
    (kept : ∀ e ∈ h, e.1.2.installs agentId = false) :
    Drawn (agentTank agentId token) c.state
        (agentDraws H agentId token (c.state.agentRefill agentId token) h) c'.state ∧
      c'.state.agentRefill agentId token = c.state.agentRefill agentId token := by
  induction run with
  | start => exact ⟨.start, rfl⟩
  | refused run failed ih => exact ih kept
  | outside run moved ih =>
    obtain ⟨y, -, rfl⟩ := moved
    exact ih kept
  | @accepted h a b t r run admitted ok ih =>
    obtain ⟨hdrawn, hrate⟩ := ih fun e he => kept e (List.mem_cons_of_mem _ he)
    obtain ⟨hdraw, hnext⟩ := agent_draw token (kept _ List.mem_cons_self) ok
    have hafter := hnext.trans hrate
    refine ⟨?_, hafter⟩
    unfold agentDraws at hdrawn ⊢
    rw [← hafter] at hdrawn ⊢
    rw [List.map_cons]
    exact Drawn.draw hdrawn hdraw.le

/-! ## Reading the draws back -/

theorem amounts_accountDraws {first : Option Limit} {h : History} :
    ((accountDraws token first h).map Draw.amount).sum = lockedOn token h := by
  induction h with
  | nil => rfl
  | cons e h ih =>
    unfold accountDraws
    rw [List.map_cons, List.sum_cons, ih]
    exact (List.sum_cons (l := h.map fun e => e.1.2.locked token)).symm

theorem times_accountDraws (first : Option Limit) (h : History) :
    (accountDraws token first h).map Draw.time = h.map timeOf := by
  induction h with
  | nil => rfl
  | cons e h ih =>
    unfold accountDraws
    rw [List.map_cons, ih, List.map_cons]

/-- All that is ever put in is the capacity of the first limit. -/
theorem gains_accountDraws {first : Option Limit} {h : History} :
    ((accountDraws token first h).map Draw.gain).sum
      = firstCapacity first (limitsSet token h).getLast? := by
  induction h with
  | nil => cases first <;> rfl
  | cons e h ih =>
    unfold accountDraws
    rw [List.map_cons, List.sum_cons, ih, limitsSet_cons]
    unfold limitAfter
    cases first with
    | some limit =>
      -- there was a limit all along
      cases hset : limitsSet token h <;> rfl
    | none =>
      cases hset : limitsSet token h with
      | nil => cases e.1.2.limitOn token <;> rfl
      | cons limit limits =>
        cases e.1.2.limitOn token with
        | none => exact Nat.zero_add _
        | some next => exact (Nat.zero_add _).trans (by simp [firstCapacity])

theorem rateAt_accountDraws {first : Option Limit} {h : History} (hchron : Chronological h) (u : ℕ) :
    rateAt (refillOf first) (accountDraws token first h) u = refillAt token first h u := by
  induction h with
  | nil => rfl
  | cons e h ih =>
    obtain ⟨hlatest, hchron⟩ := List.pairwise_cons.mp hchron
    unfold accountDraws rateAt refillAt
    rw [List.filter_cons]
    by_cases htime : timeOf e ≤ u
    · have hall : h.filter (fun e => timeOf e ≤ u) = h := by
        apply List.filter_eq_self.mpr
        intro e' he'
        exact decide_eq_true ((hlatest e' he').trans htime)
      rw [if_pos htime, if_pos (decide_eq_true htime), hall]
    · rw [if_neg htime, if_neg (fun h => htime (of_decide_eq_true h))]
      exact ih hchron

theorem amounts_agentDraws {rate : ℕ} {h : History} :
    ((agentDraws H agentId token rate h).map Draw.amount).sum = lockedByOn H agentId token h := by
  unfold agentDraws lockedByOn
  rw [List.map_map]
  rfl

theorem gains_agentDraws {rate : ℕ} {h : History} :
    ((agentDraws H agentId token rate h).map Draw.gain).sum = 0 := by
  unfold agentDraws
  rw [List.map_map]
  apply List.sum_eq_zero
  intro g hg
  obtain ⟨e, -, rfl⟩ := List.mem_map.mp hg
  rfl

theorem inOrder_of_times {draws : List Draw} {h : History}
    (htimes : draws.map Draw.time = h.map timeOf) (hchron : Chronological h) : InOrder draws := by
  have hpairs : (h.map timeOf).Pairwise fun later earlier => earlier ≤ later :=
    List.pairwise_map.mpr hchron
  rw [← htimes] at hpairs
  exact List.pairwise_map.mp hpairs

theorem within_of_times {draws : List Draw} {h : History}
    (htimes : draws.map Draw.time = h.map timeOf) (hwithin : Within t₀ t₁ h) :
    ∀ d ∈ draws, t₀ ≤ d.time ∧ d.time ≤ t₁ := by
  intro d hd
  have hmem : d.time ∈ h.map timeOf := htimes ▸ List.mem_map_of_mem hd
  obtain ⟨e, he, htime⟩ := List.mem_map.mp hmem
  have hbounds := hwithin e he
  rw [htime] at hbounds
  exact hbounds

/-! ## The bounds -/

/-- What agents lock of a token is bounded by what the account's bucket held and by what flowed in. -/
theorem lockedOn_le {h : History} (token : BytesN32) (run : Run (system N H outside) c h c')
    (hchron : Chronological h) (hwithin : Within t₀ t₁ h) (ht : t₀ ≤ t₁) :
    lockedOn token h ≤ c.openingLevel token h t₀
      + ∑ u ∈ Ico t₀ t₁, refillAt token (c.state.limit token) h u := by
  obtain ⟨hdrawn, -⟩ := accountDraws_of_run token run
  have htimes := @times_accountDraws token (c.state.limit token) h
  have hbounds := within_of_times htimes hwithin
  have hflow := hdrawn.flow (inOrder_of_times htimes hchron) ht (fun d hd => (hbounds d hd).1)
    fun d hd => (hbounds d hd).2
  rw [amounts_accountDraws, gains_accountDraws] at hflow
  have hrates : ∑ u ∈ Ico t₀ t₁, rateAt ((accountTank token).rate c.state)
        (accountDraws token (c.state.limit token) h) u
      = ∑ u ∈ Ico t₀ t₁, refillAt token (c.state.limit token) h u :=
    sum_congr rfl fun u _ => rateAt_accountDraws hchron u
  rw [hrates] at hflow
  have hopening : (accountTank token).level c.state t₀
      + firstCapacity (c.state.limit token) (limitsSet token h).getLast?
      = c.openingLevel token h t₀ := by
    unfold Chain.openingLevel
    cases hlimit : c.state.limit token with
    | some limit => rfl
    | none =>
      have hempty : c.state.volumes.get? token = none := Option.map_eq_none_iff.mp hlimit
      have hlevel : (accountTank token).level c.state t₀ = 0 := by
        show c.state.level token t₀ = 0
        unfold State.level
        rw [hempty]
      rw [hlevel, Nat.zero_add]
      cases (limitsSet token h).getLast? <;> rfl
  omega

/-- Between two installs of its policy, an agent locks no more than its own bucket held and refilled. -/
theorem lockedByOn_le {h : History} (token : BytesN32) (run : Run (system N H outside) c h c')
    (hchron : Chronological h) (hwithin : Within t₀ t₁ h) (ht : t₀ ≤ t₁)
    (kept : ∀ e ∈ h, e.1.2.installs agentId = false) :
    lockedByOn H agentId token h
      ≤ c.state.agentLevel agentId token t₀ + c.state.agentRefill agentId token * (t₁ - t₀) := by
  obtain ⟨hdrawn, -⟩ := agentDraws_of_run token run kept
  have htimes : (agentDraws H agentId token (c.state.agentRefill agentId token) h).map Draw.time
      = h.map timeOf := by
    unfold agentDraws
    rw [List.map_map]
    rfl
  have hbounds := within_of_times htimes hwithin
  have hflow := hdrawn.flow (inOrder_of_times htimes hchron) ht (fun d hd => (hbounds d hd).1)
    fun d hd => (hbounds d hd).2
  rw [amounts_agentDraws, gains_agentDraws, Nat.add_zero] at hflow
  have hrates : ∀ d ∈ agentDraws H agentId token (c.state.agentRefill agentId token) h,
      d.rate ≤ c.state.agentRefill agentId token := by
    intro d hd
    obtain ⟨e, -, rfl⟩ := List.mem_map.mp hd
    exact le_rfl
  have hinflow := @sum_rateAt_le _ (c.state.agentRefill agentId token) t₀ t₁ _ le_rfl hrates
  have hlevel : (agentTank agentId token).level c.state t₀
      = c.state.agentLevel agentId token t₀ := rfl
  have hrate : (agentTank agentId token).rate c.state = c.state.agentRefill agentId token := rfl
  rw [hlevel, hrate] at hflow
  omega

/-- The row a policy gives a token, as it stands in the account. -/
def State.agentRow (s : State) (agentId token : BytesN32) : Option TokenLimit :=
  (s.policies.get? agentId).bind fun p => limitFor p token

theorem agentLevel_le {s : State} {row : TokenLimit} (hrow : s.agentRow agentId token = some row)
    {t : ℕ} : s.agentLevel agentId token t ≤ row.rate.capacity.toNat ∧
      s.agentRefill agentId token = row.rate.refillPerSecond.toNat := by
  obtain ⟨p, hp, hrow⟩ := Option.bind_eq_some_iff.mp hrow
  unfold State.agentLevel State.agentRefill
  rw [hp]
  dsimp only
  unfold AgentPolicy.level AgentPolicy.refill
  rw [hrow]
  exact ⟨available_le, rfl⟩

theorem mem_limitsInForce_of_limitAfter {h h' : History} {limit : Limit} (hsub : h'.Sublist h)
    (hlimit : limitAfter token (c.state.limit token) h' = some limit) :
    limit ∈ limitsInForce token c h := by
  unfold limitAfter at hlimit
  unfold limitsInForce
  rcases Option.or_eq_some_iff.mp hlimit with hset | ⟨-, hfirst⟩
  · apply List.mem_append_left
    have hmem : limit ∈ limitsSet token h' := List.mem_of_head? hset
    exact (hsub.filterMap _).subset hmem
  · apply List.mem_append_right
    rw [hfirst]
    exact List.mem_singleton_self limit

theorem openingLevel_le {h : History} {C : ℕ} (t₀ : ℕ)
    (hC : ∀ limit ∈ limitsInForce token c h, limit.capacity.toNat ≤ C) :
    c.openingLevel token h t₀ ≤ C := by
  unfold Chain.openingLevel
  split
  · next limit hlimit =>
    obtain ⟨v, hv, rfl⟩ := Option.map_eq_some_iff.mp hlimit
    have hmem : v.limit ∈ limitsInForce token c h := by
      apply List.mem_append_right
      rw [hlimit]
      exact List.mem_singleton_self v.limit
    unfold State.level
    rw [hv]
    exact available_le.trans (hC _ hmem)
  · split
    · next limit hlast => exact hC _ (List.mem_append_left _ (List.mem_of_getLast? hlast))
    · exact Nat.zero_le C

theorem refillAt_le {h : History} {R u : ℕ}
    (hR : ∀ limit ∈ limitsInForce token c h, limit.refillPerSecond.toNat ≤ R) :
    refillAt token (c.state.limit token) h u ≤ R := by
  unfold refillAt refillOf
  split
  · next limit hlimit => exact hR _ (mem_limitsInForce_of_limitAfter List.filter_sublist hlimit)
  · exact Nat.zero_le R

/-- What one accepted authorization takes: exactly its locks, from the account's bucket and from its
own agent's, and from no other agent's. -/
def ChargesExactly (H : AccountHost) (token : BytesN32) (env : Env) (payload : BytesN32)
    (signature : AccountSig) (contexts : List Context) (s s' : State) : Prop :=
  s'.level token env.now + lockedIn token contexts = s.level token env.now ∧
    ∃ signer, agentOf H payload signature = .ok signer ∧
      s'.agentLevel signer token env.now + lockedIn token contexts
        = s.agentLevel signer token env.now ∧
      ∀ agentId, agentId ≠ signer →
        s'.agentLevel agentId token env.now = s.agentLevel agentId token env.now

theorem chargesExactly {env : Env} {payload : BytesN32} {signature : AccountSig}
    {contexts : List Context} {r : Ret}
    (ok : exec N H env (.checkAuth payload signature contexts) c = .ok (r, c')) :
    ChargesExactly H token env payload signature contexts c.state c'.state := by
  have hagents : ∀ agentId, c'.state.agentLevel agentId token env.now
      + (Call.checkAuth payload signature contexts).lockedBy H agentId token
      = c.state.agentLevel agentId token env.now := fun _ => (agent_draw token rfl ok).1
  obtain ⟨⟨⟩, hok, rfl⟩ := Tx.answer_ok.mp ok
  obtain ⟨signer, p, p', c₁, hagent, -, hcontexts, hc'⟩ := checkAuth_ok hok
  obtain ⟨-, haccount, -⟩ := checkContexts_ok hcontexts
  have hlocked : ∀ agentId, (Call.checkAuth payload signature contexts).lockedBy H agentId token
      = if signer = agentId then lockedIn token contexts else 0 := by
    intro agentId
    simp only [Call.lockedBy, hagent]
  refine ⟨?_, signer, hagent, ?_, ?_⟩
  · have hlevel : c'.state.level token env.now = c₁.state.level token env.now :=
      congrArg (fun c => c.state.level token env.now) hc'
    exact hlevel ▸ haccount token
  · have hsigner := hagents signer
    rw [hlocked, if_pos rfl] at hsigner
    exact hsigner
  · intro agentId hne
    have hother := hagents agentId
    rw [hlocked, if_neg (Ne.symm hne)] at hother
    exact hother

/-- The volume agents can lock, over any stretch of any run. -/
theorem agent_volume {h : History} (run : Run (system N H outside) c h c')
    (hchron : Chronological h) (hwithin : Within t₀ t₁ h) (ht : t₀ ≤ t₁) (token : BytesN32) :
    lockedOn token h ≤ c.openingLevel token h t₀
        + ∑ u ∈ Ico t₀ t₁, refillAt token (c.state.limit token) h u ∧
      (∀ C R, (∀ limit ∈ limitsInForce token c h, limit.capacity.toNat ≤ C) →
        (∀ limit ∈ limitsInForce token c h, limit.refillPerSecond.toNat ≤ R) →
        lockedOn token h ≤ C + R * (t₁ - t₀)) ∧
      (∀ agentId, (∀ e ∈ h, e.1.2.installs agentId = false) →
        lockedByOn H agentId token h
            ≤ c.state.agentLevel agentId token t₀
              + c.state.agentRefill agentId token * (t₁ - t₀) ∧
          ∀ row, c.state.agentRow agentId token = some row →
            lockedByOn H agentId token h
              ≤ row.rate.capacity.toNat + row.rate.refillPerSecond.toNat * (t₁ - t₀)) ∧
      ∀ env payload signature contexts r a b,
        exec N H env (.checkAuth payload signature contexts) a = .ok (r, b) →
          ChargesExactly H token env payload signature contexts a.state b.state := by
  have htotal := lockedOn_le token run hchron hwithin ht
  refine ⟨htotal, ?_, ?_, fun _ _ _ _ _ _ _ ok => chargesExactly ok⟩
  · intro C R hC hR
    have hopening := openingLevel_le t₀ hC
    have hinflow : ∑ u ∈ Ico t₀ t₁, refillAt token (c.state.limit token) h u ≤ R * (t₁ - t₀) := by
      calc ∑ u ∈ Ico t₀ t₁, refillAt token (c.state.limit token) h u
          ≤ ∑ _u ∈ Ico t₀ t₁, R := sum_le_sum fun u _ => refillAt_le hR
        _ = R * (t₁ - t₀) := by rw [sum_const, Nat.card_Ico, smul_eq_mul, Nat.mul_comm]
    omega
  · intro agentId kept
    have hown := lockedByOn_le token run hchron hwithin ht kept
    refine ⟨hown, ?_⟩
    intro row hrow
    obtain ⟨hlevel, hrate⟩ := agentLevel_le (t := t₀) hrow
    rw [hrate] at hown
    omega

/-! ## A sample account -/

def sampleAgent : BytesN32 := 0xA9

def sampleSignature : BytesN 64 := ⟨List.replicate 64 7, rfl⟩

/-- The agent signed the payload `9`, and nothing else. -/
def sampleAccountHost : AccountHost where
  toHost := sampleHost 0x4C
  sha256 _ := 0
  secp256k1Recover _ _ _ := none
  ed25519Verify key message sig :=
    key = sampleAgent && decide (message = Eip712.toArray 9) && decide (sig = sampleSignature)
  pairing _ _ _ _ := none
  argsCommitment args := BitVec.ofNat 256 args.length

/-- Nothing is around the sample account. -/
def noEscrows : Neighbors Unit where
  transfer _ _ _ _ _ _ := none
  balance _ _ _ := none
  decimals _ _ := none
  invoke _ _ _ _ _ _ := none
  getAd _ _ _ := none

instance (s : Chain Unit) (t : Env × Call) :
    Decidable ((system noEscrows sampleAccountHost fun _ _ => False).admits s t) :=
  inferInstanceAs (Decidable (s.state.replacedBy = none))

abbrev sampleAccountSystem : System AccountError (Chain Unit) (Env × Call) Ret :=
  system noEscrows sampleAccountHost fun _ _ => False

/-- A lock of `amount` of the ad token `0x7A`. -/
def sampleLock (amount : U128) : Context :=
  .contract {
    contract := .contract 0xAD
    fnName := "lock_for_order"
    args := [.map [("ad_creator", .bytes32 0x4C), ("ad_settlement_signer", .bytes32 0x51),
      ("ad_chain_token", .bytes32 0x7A), ("order_chain_token", .bytes32 0x7B),
      ("ad_id", .string (ascii "ad")), ("amount", .u128 amount), ("order_decimals", .u32 7),
      ("ad_decimals", .u32 7)], .u32 1] }

/-- The owner limits the token, then installs an agent that may lock it. -/
def sampleSetup : List (Env × Call) :=
  [(sampleEnv 100, .setAccountLimit 0x7A ⟨1000, 1⟩),
    (sampleEnv 100, .setPolicy sampleAgent "lock_for_order" [⟨0x7A, 600, ⟨800, 2⟩⟩] [0x7B] 0 0x51
      none)]

/-- The agent locks twice under one signature; the owner halves the limit; the agent locks again. -/
def sampleLocks : List (Env × Call) :=
  [(sampleEnv 200, .checkAuth 9 (.agent sampleAgent sampleSignature)
      [sampleLock 500, sampleLock 200]),
    (sampleEnv 220, .setAccountLimit 0x7A ⟨500, 1⟩),
    (sampleEnv 260, .checkAuth 9 (.agent sampleAgent sampleSignature) [sampleLock 150])]

def sampleNew : Chain Unit :=
  match construct sampleAccountHost (.account 0x0A) [.contract 0xAD] with
  | .ok state => ⟨state, ()⟩
  | .error _ => ⟨State.mk (.account 0) [] 0 ∅ ∅ ∅ ∅ [] none [], ()⟩

def sampleReady : History × Chain Unit :=
  (play sampleAccountSystem sampleSetup [] sampleNew).getD ([], sampleNew)

def sampleVolume : History × Chain Unit :=
  (play sampleAccountSystem sampleLocks [] sampleReady.2).getD ([], sampleReady.2)

theorem agent_volume_sample :
    lockedOn 0x7A sampleVolume.1 = 850 ∧ lockedOn 0x7A sampleVolume.1 ≤ 1000 + 1 * (260 - 100) := by
  have hlocked : lockedOn 0x7A sampleVolume.1 = 850 := by decide +kernel
  have run : Run sampleAccountSystem sampleReady.2 sampleVolume.1 sampleVolume.2 :=
    Run.played_admitted (by decide +kernel) (by decide +kernel)
  have hchron : Chronological sampleVolume.1 := by
    have htimes : (sampleVolume.1.map timeOf).Pairwise fun later earlier => earlier ≤ later := by
      decide +kernel
    exact List.pairwise_map.mp htimes
  have hwithin : Within 100 260 sampleVolume.1 := by
    have htimes : ∀ t ∈ sampleVolume.1.map timeOf, 100 ≤ t ∧ t ≤ 260 := by decide +kernel
    exact fun e he => htimes _ (List.mem_map_of_mem he)
  obtain ⟨-, hbound, -⟩ := agent_volume run hchron hwithin (by decide) 0x7A
  exact ⟨hlocked, hbound 1000 1 (by decide +kernel) (by decide +kernel)⟩

end AgentAccount
end ProofBridge
