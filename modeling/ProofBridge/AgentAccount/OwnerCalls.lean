import ProofBridge.AgentAccount.Flow
import ProofBridge.Core.Bank

/-!
# Money at rest in the account

An owner call approves calls the escrow will make as the account. Whatever tree of approvals it is
given, those that pass are transfers out of the account, each of a token whose balance is compared
before and after, and filings and responses that nest nothing else. So an owner call leaves every
token it names as it found it, and a token it does not name cannot be reached as the account: only a
sweep takes money out.
-/

namespace ProofBridge
namespace AgentAccount

open ContractLib

/-! ## The calls of a tree -/

mutual

/-- Every call an approval names, at any depth. -/
def Approval.calls : Approval → List (Address × Symbol)
  | .createContract => []
  | .contract c subInvocations => (c.contract, c.fnName) :: callsOf subInvocations

def callsOf : List Approval → List (Address × Symbol)
  | [] => []
  | a :: rest => a.calls ++ callsOf rest

end

/-- Every token of `tokens` is among `tokens'`. -/
def Among (tokens tokens' : List Address) : Prop := ∀ t ∈ tokens, t ∈ tokens'

theorem among_collect {tokens : List Address} {t : Address} : Among tokens (collect tokens t) := by
  intro u hu
  unfold collect
  split
  · exact hu
  · exact List.mem_append_left _ hu

theorem mem_collect {tokens : List Address} {t : Address} : t ∈ collect tokens t := by
  unfold collect
  split
  · next hmem => exact hmem
  · exact List.mem_append_right _ (List.mem_singleton_self t)

section Approved

variable (H : AccountHost) (target : Address) (tokens : List Address)

/-- A transfer out of this account of a token of `tokens`, with nothing nested. -/
structure TransferOut (a : Approval) : Prop where
  shape : ∃ c, a = .contract c [] ∧ c.fnName = "transfer" ∧
    (c.args[0]?).bind Value.address? = some H.address ∧ c.contract ∈ tokens

/-- What may be approved at the root. -/
inductive Approved : Approval → Prop
  | transfer {a : Approval} (out : TransferOut H tokens a) : Approved a
  /-- A filing against the called escrow by this account. -/
  | openDispute {c : ContractContext} {subInvocations : List Approval}
      (name : c.fnName = "open_dispute")
      (escrow : (c.args[0]?).bind Value.address? = some target)
      (filer : (c.args[3]?).bind Value.address? = some H.address)
      (nested : ∀ s ∈ subInvocations, TransferOut H tokens s) :
      Approved (.contract c subInvocations)
  /-- A response to it by this account. -/
  | recordResponse {c : ContractContext} (name : c.fnName = "record_response")
      (escrow : (c.args[0]?).bind Value.address? = some target)
      (responder : (c.args[2]?).bind Value.address? = some H.address) :
      Approved (.contract c [])

end Approved

section Tree

variable {H : AccountHost} {target : Address} {tokens tokens' tokens'' : List Address}

theorem TransferOut.mono {a : Approval} (h : TransferOut H tokens a) (hsub : Among tokens tokens') :
    TransferOut H tokens' a := by
  obtain ⟨c, hshape, hname, hpayer, htoken⟩ := h
  exact ⟨c, hshape, hname, hpayer, hsub _ htoken⟩

theorem Approved.mono {a : Approval} (h : Approved H target tokens a)
    (hsub : Among tokens tokens') : Approved H target tokens' a := by
  cases h with
  | transfer out => exact .transfer (out.mono hsub)
  | openDispute name escrow filer nested =>
    exact .openDispute name escrow filer fun s hs => (nested s hs).mono hsub
  | recordResponse name escrow responder => exact .recordResponse name escrow responder

theorem approvedAddress_ok {c : ContractContext} {i : ℕ} {a : Address} :
    approvedAddress c i = .ok a ↔ (c.args[i]?).bind Value.address? = some a :=
  Check.expect_ok

/-- A nested approval that passes is a transfer out, and its token is collected. -/
theorem nested_ok {a : Approval} (ok : approvedTokens H target false a tokens = .ok tokens') :
    TransferOut H tokens' a ∧ Among tokens tokens' := by
  cases a with
  | createContract => cases ok
  | contract c subInvocations =>
    unfold approvedTokens at ok
    split at ok
    · next hname =>
      obtain ⟨payer, hpayer, ok⟩ := Check.bind_ok.mp ok
      obtain ⟨⟨⟩, hchecked, ok⟩ := Check.bind_ok.mp ok
      obtain rfl := Check.pure_ok.mp ok
      have hchecked := Check.require_ok.mp hchecked
      rw [not_or, not_not, Bool.not_eq_false, List.isEmpty_iff] at hchecked
      obtain ⟨hme, hempty⟩ := hchecked
      rw [approvedAddress_ok, hme] at hpayer
      rw [hempty]
      exact ⟨⟨c, rfl, hname, hpayer, mem_collect⟩, among_collect⟩
    · rw [if_neg (by simp), if_neg (by simp)] at ok
      cases ok

theorem nestedAll_ok {l : List Approval}
    (ok : approvedTokensAll H target false l tokens = .ok tokens') :
    (∀ a ∈ l, TransferOut H tokens' a) ∧ Among tokens tokens' := by
  induction l generalizing tokens with
  | nil =>
    unfold approvedTokensAll at ok
    obtain rfl := Check.pure_ok.mp ok
    exact ⟨fun a ha => absurd ha List.not_mem_nil, fun t ht => ht⟩
  | cons a rest ih =>
    unfold approvedTokensAll at ok
    obtain ⟨middle, hfirst, hrest⟩ := Check.bind_ok.mp ok
    obtain ⟨hout, hsub⟩ := nested_ok hfirst
    obtain ⟨houts, hsub'⟩ := ih hrest
    refine ⟨fun b hb => ?_, fun t ht => hsub' t (hsub t ht)⟩
    rcases List.mem_cons.mp hb with rfl | hb
    · exact hout.mono hsub'
    · exact houts b hb

/-- An approval that passes at the root is one of the three kinds. -/
theorem root_ok {a : Approval} (ok : approvedTokens H target true a tokens = .ok tokens') :
    Approved H target tokens' a ∧ Among tokens tokens' := by
  cases a with
  | createContract => cases ok
  | contract c subInvocations =>
    by_cases htransfer : c.fnName = "transfer"
    · -- a transfer passes at the root as it does nested
      have hnested : approvedTokens H target false (.contract c subInvocations) tokens
          = .ok tokens' := by
        unfold approvedTokens at ok ⊢
        rw [if_pos htransfer] at ok ⊢
        exact ok
      obtain ⟨hout, hsub⟩ := nested_ok hnested
      exact ⟨.transfer hout, hsub⟩
    · unfold approvedTokens at ok
      rw [if_neg htransfer] at ok
      split at ok
      · next hname =>
        obtain ⟨escrow, hescrow, ok⟩ := Check.bind_ok.mp ok
        obtain ⟨⟨⟩, hsame, ok⟩ := Check.bind_ok.mp ok
        obtain ⟨filer, hfiler, ok⟩ := Check.bind_ok.mp ok
        obtain ⟨⟨⟩, hme, ok⟩ := Check.bind_ok.mp ok
        rw [approvedAddress_ok, Check.require_ok.mp hsame] at hescrow
        rw [approvedAddress_ok, Check.require_ok.mp hme] at hfiler
        obtain ⟨houts, hsub⟩ := nestedAll_ok ok
        exact ⟨.openDispute hname.2 hescrow hfiler houts, hsub⟩
      · split at ok
        · next hname =>
          obtain ⟨⟨⟩, hempty, ok⟩ := Check.bind_ok.mp ok
          obtain ⟨escrow, hescrow, ok⟩ := Check.bind_ok.mp ok
          obtain ⟨⟨⟩, hsame, ok⟩ := Check.bind_ok.mp ok
          obtain ⟨responder, hresponder, ok⟩ := Check.bind_ok.mp ok
          obtain ⟨⟨⟩, hme, ok⟩ := Check.bind_ok.mp ok
          obtain rfl := Check.pure_ok.mp ok
          rw [approvedAddress_ok, Check.require_ok.mp hsame] at hescrow
          rw [approvedAddress_ok, Check.require_ok.mp hme] at hresponder
          rw [List.isEmpty_iff.mp (Check.require_ok.mp hempty)]
          exact ⟨.recordResponse hname.2 hescrow hresponder, fun t ht => ht⟩
        · cases ok

theorem rootAll_ok {l : List Approval}
    (ok : approvedTokensAll H target true l tokens = .ok tokens') :
    (∀ a ∈ l, Approved H target tokens' a) ∧ Among tokens tokens' := by
  induction l generalizing tokens with
  | nil =>
    unfold approvedTokensAll at ok
    obtain rfl := Check.pure_ok.mp ok
    exact ⟨fun a ha => absurd ha List.not_mem_nil, fun t ht => ht⟩
  | cons a rest ih =>
    unfold approvedTokensAll at ok
    obtain ⟨middle, hfirst, hrest⟩ := Check.bind_ok.mp ok
    obtain ⟨happroved, hsub⟩ := root_ok hfirst
    obtain ⟨hall, hsub'⟩ := ih hrest
    refine ⟨fun b hb => ?_, fun t ht => hsub' t (hsub t ht)⟩
    rcases List.mem_cons.mp hb with rfl | hb
    · exact happroved.mono hsub'
    · exact hall b hb

/-- The tokens recorded hold every approval's and the payment's. -/
theorem touchedTokens_ok {approvals : List Approval} {pay : Option (Address × U128)}
    (ok : touchedTokens H target approvals pay = .ok tokens) :
    (∀ a ∈ approvals, Approved H target tokens a) ∧ ∀ t ∈ pay.map Prod.fst, t ∈ tokens := by
  obtain ⟨named, hnamed, hpure⟩ := Check.bind_ok.mp ok
  obtain rfl := Check.pure_ok.mp hpure
  obtain ⟨hall, -⟩ := rootAll_ok hnamed
  cases pay with
  | none => exact ⟨hall, fun t ht => by cases ht⟩
  | some p =>
    refine ⟨fun a ha => (hall a ha).mono among_collect, fun t ht => ?_⟩
    obtain rfl := Option.some.inj ht
    exact mem_collect

/-- A token function named anywhere in an approved tree is a transfer of a recorded token. -/
theorem TransferOut.named {a : Approval} (h : TransferOut H tokens a) {t : Address} {f : Symbol}
    (hcall : (t, f) ∈ a.calls) : f = "transfer" ∧ t ∈ tokens := by
  obtain ⟨c, rfl, hname, -, htoken⟩ := h
  rw [Approval.calls, callsOf, List.mem_singleton, Prod.mk.injEq] at hcall
  obtain ⟨rfl, rfl⟩ := hcall
  exact ⟨hname, htoken⟩

theorem mem_callsOf {l : List Approval} {p : Address × Symbol} :
    p ∈ callsOf l ↔ ∃ a ∈ l, p ∈ a.calls := by
  induction l with
  | nil => simp [callsOf]
  | cons a rest ih => rw [callsOf, List.mem_append, ih]; simp

theorem Approved.named {a : Approval} (h : Approved H target tokens a) {t : Address} {f : Symbol}
    (hcall : (t, f) ∈ a.calls) (htoken : isTokenFunction f = true) : t ∈ tokens := by
  cases h with
  | transfer out => exact (out.named hcall).2
  | openDispute name _ _ nested =>
    rw [Approval.calls, List.mem_cons, Prod.mk.injEq, mem_callsOf] at hcall
    rcases hcall with ⟨-, rfl⟩ | ⟨s, hs, hcall⟩
    · rw [name] at htoken
      exact absurd htoken (by decide)
    · exact ((nested s hs).named hcall).2
  | recordResponse name _ _ =>
    rw [Approval.calls, callsOf, List.mem_singleton, Prod.mk.injEq] at hcall
    obtain ⟨-, rfl⟩ := hcall
    rw [name] at htoken
    exact absurd htoken (by decide)

end Tree

/-! ## What an owner call invokes -/

/-- A call as this account, with what the owner pays in and what it approves. -/
structure Invocation where
  target : Address
  fnName : Symbol
  args : List Value
  pay : Option (Address × U128)
  approvals : List Approval

/-- The escrow's pull of exactly the payment. -/
def pull (H : AccountHost) (escrow token : Address) (amount : U128) : Approval :=
  .contract (ContractContext.mk token "transfer"
    [.address H.address, .address escrow, .i128 amount.toNat]) []

/-- What `create_ad`, `fund_ad` and `call` invoke. -/
def Call.invocation (H : AccountHost) : Call → Option Invocation
  | .createAd adManager token adId adToken amount orderChainId adRecipient settlementSigner => some {
      target := adManager
      fnName := "create_ad"
      args := [.address H.address, .string adId, .bytes32 adToken, .u128 amount,
        .u128 orderChainId, .bytes32 adRecipient, .bytes32 settlementSigner]
      pay := some (token, amount)
      approvals := [pull H adManager token amount] }
  | .fundAd adManager token adId amount => some {
      target := adManager
      fnName := "fund_ad"
      args := [.string adId, .u128 amount]
      pay := some (token, amount)
      approvals := [pull H adManager token amount] }
  | .call target fnName args pay approvals => some { target, fnName, args, pay, approvals }
  | _ => none

section Steps

variable {Y : Type} {N : Neighbors Y} {H : AccountHost} {env : Env} {c c' : Chain Y}

/-! ### What leaves the surroundings alone -/

abbrev Inside {α : Type} (x : Tx AccountError (Chain Y) α) : Prop := Tx.Frames Chain.outside x

theorem inside_raiseDelay {scope : Scope} {before : ℕ} {armed : GuardRail} :
    Inside (Y := Y) (raiseDelay env scope before armed) :=
  .ite (.bind .lift fun _ => .modify fun _ => rfl) .pure

theorem inside_shortenWindow {scope : Scope} {before window : ℕ} :
    Inside (Y := Y) (shortenWindow scope before window) :=
  .ite (.modify fun _ => rfl) .pure

theorem inside_retime {adId : AdId} {current : Option GuardRail} {armed : GuardRail}
    {accountBefore : ℕ × ℕ} : Inside (Y := Y) (retime env adId current armed accountBefore) := by
  refine .bind inside_raiseDelay fun _ => .bind inside_raiseDelay fun _ =>
    .bind inside_shortenWindow fun _ => .bind .read fun c => ?_
  split
  · exact inside_shortenWindow
  · exact .pure

theorem inside_disarm {adId : AdId} : Inside (Y := Y) (disarm adId) :=
  .bind (.modify fun _ => rfl) fun _ => .bind (.modify fun _ => rfl) fun _ => .modify fun _ => rfl

theorem inside_arm {adId : AdId} {current : Option GuardRail} {g : GuardRail} {loosening : Bool} :
    Inside (Y := Y) (arm env adId current g loosening) :=
  .bind .require fun _ => .bind .require fun _ => .bind .read fun _ => .bind .require fun _ =>
    .bind (.modify fun _ => rfl) fun _ => .bind (.ite (.modify fun _ => rfl) inside_retime) fun _ =>
    .modify fun _ => rfl

theorem inside_setGuardRail {adId : AdId} {guardRail : Option GuardRail} :
    Inside (Y := Y) (setGuardRail H env adId guardRail) := by
  refine .bind frames_requireOwner fun _ => .bind .lift fun _ => .bind .read fun c =>
    .bind .require fun _ => .bind (.ite (frames_spend fun _ => rfl) .pure) fun _ => ?_
  cases guardRail with
  | some g => exact inside_arm
  | none => exact inside_disarm

theorem inside_settlePolicy {agentId : BytesN32} {p : AgentPolicy} :
    Inside (Y := Y) (settlePolicy H env agentId p) := by
  refine .bind .read fun c => .ite ?_ .pure
  split
  · exact .pure
  · exact .bind (frames_spend fun _ => rfl) fun _ => .pure

theorem inside_checkOwnerCall {fnName : Symbol} {args : List Value} :
    Inside (Y := Y) (checkOwnerCall H env fnName args) := by
  refine .bind .require fun _ => .bind .read fun c => .ite ?_ (.ite .require ?_)
  · exact .bind .lift fun _ => frames_spendIf fun _ => rfl
  · refine .bind .lift fun a => .ite ?_ .pure
    exact .bind .read fun _ => .bind .expect fun _ => .ite (frames_spend fun _ => rfl)
      (.bind .expect fun _ => .modify fun _ => rfl)

/-- Only invocations and sweeps reach the surroundings. -/
theorem outside_of_settings {call : Call} {r : Ret} (hcall : call.invocation H = none)
    (hsweep : ∀ token payee amount, call ≠ .sweep token payee amount)
    (ok : exec N H env call c = .ok (r, c')) : c'.outside = c.outside := by
  have hinside : Inside (exec N H env call) := by
    cases call
    case checkAuth =>
      exact .answer (.bind .lift fun _ => .bind .read fun _ => .bind .expect fun _ =>
        .bind .require fun _ => .bind .require fun _ => .bind .require fun _ =>
        .bind (frames_checkContexts fun _ _ => rfl) fun _ => .modify fun _ => rfl)
    case setTargets =>
      exact .answer (.bind frames_requireOwner fun _ => .bind .read fun _ =>
        .bind (frames_spendIf fun _ => rfl) fun _ => .bind .lift fun _ =>
        .bind (.modify fun _ => rfl) fun _ => .modify fun _ => rfl)
    case setPolicy =>
      exact .answer (.bind frames_requireOwner fun _ => .bind .require fun _ => .bind .read fun _ =>
        .bind .require fun _ => .bind .lift fun _ => .bind inside_settlePolicy fun _ =>
        .bind (.modify fun _ => rfl) fun _ => .modify fun _ => rfl)
    case setAccountLimit =>
      exact .answer (.bind frames_requireOwner fun _ => .bind .lift fun _ => .bind .read fun _ =>
        .bind (frames_spendIf fun _ => rfl) fun _ => .bind (.modify fun _ => rfl) fun _ =>
        .modify fun _ => rfl)
    case setGuardRail => exact .answer inside_setGuardRail
    case disarmClosedAd =>
      exact .answer (.bind frames_requireOwner fun _ => .bind frames_requireTarget fun _ =>
        .bind .read fun _ => .bind .require fun _ => .bind .lift fun _ => .bind .require fun _ =>
        .bind .lift fun _ => .bind .lift fun _ => .bind .require fun _ => inside_disarm)
    case schedule =>
      exact .answer (.bind frames_requireOwner fun _ => .bind .read fun _ => .bind .lift fun _ =>
        .bind .require fun _ => .bind .require fun _ => .bind (.modify fun _ => rfl) fun _ =>
        .modify fun _ => rfl)
    case cancel =>
      exact .answer (.bind frames_requireOwner fun _ => .bind .read fun _ => .bind .require fun _ =>
        .bind (.modify fun _ => rfl) fun _ => .modify fun _ => rfl)
    case revokeAgent =>
      exact .answer (.bind frames_requireOwner fun _ => .bind .read fun _ => .bind .expect fun _ =>
        .ite .pure (.bind (.modify fun _ => rfl) fun _ => .modify fun _ => rfl))
    case upgrade =>
      exact .answer (.bind frames_requireOwner fun _ => .bind (frames_spendIf fun _ => rfl) fun _ =>
        .bind (.modify fun _ => rfl) fun _ => .modify fun _ => rfl)
    case migrate =>
      exact .answer (.bind frames_requireOwner fun _ => .bind .read fun _ => .bind .require fun _ =>
        .bind (.modify fun _ => rfl) fun _ => .bind (.modify fun _ => rfl) fun _ => .pure)
    case createAd => cases hcall
    case fundAd => cases hcall
    case call => cases hcall
    case sweep => exact absurd rfl (hsweep _ _ _)
  exact hinside _ _ ok

/-! ### One invocation -/

/-- What an accepted invocation went through. -/
structure Invoked (N : Neighbors Y) (H : AccountHost) (env : Env) (owner : Address) (y y' : Y)
    (i : Invocation) (tokens : List Address) (before : List ℤ) : Prop where
  touched : touchedTokens H i.target i.approvals i.pay = .ok tokens
  recorded : balancesOf N H y tokens = .ok before
  kept : balancesOf N H y' tokens = .ok before
  invoked : ∃ paid v, (match i.pay with
      | some (token, amount) => amount.toNat < 2 ^ 127 ∧
        N.transfer y (env.inside H.address) token owner H.address amount.toNat = some paid
      | none => paid = y) ∧
    N.invoke paid (env.inside H.address) i.approvals i.target i.fnName i.args = some (v, y')

theorem toI128_ok {amount : U128} {value : ℤ} (ok : toI128 amount = .ok value) :
    amount.toNat < 2 ^ 127 ∧ value = amount.toNat := by
  unfold toI128 at ok
  split at ok
  · next hlt => exact ⟨hlt, (Except.ok.inj ok).symm⟩
  · cases ok

theorem callWith_ok {target : Address} {fnName : Symbol} {args : List Value}
    {pay : Option (Address × U128)} {approvals : List Approval} {v : Value}
    (ok : callWith N H env target fnName args pay approvals c = .ok (v, c')) :
    ∃ tokens before, Invoked N H env c.state.owner c.outside c'.outside
      ⟨target, fnName, args, pay, approvals⟩ tokens before := by
  rw [callWith, Tx.bind_lift_ok] at ok
  obtain ⟨tokens, htouched, ok⟩ := ok
  rw [Tx.bind_read_ok, Tx.bind_lift_ok] at ok
  obtain ⟨before, hbefore, ok⟩ := ok
  rw [Tx.bind_lift_ok] at ok
  obtain ⟨paid, hpaid, ok⟩ := ok
  rw [Tx.bind_expectTrap_ok] at ok
  obtain ⟨⟨v', y⟩, hinvoke, ok⟩ := ok
  dsimp only at ok
  rw [Tx.bind_lift_ok] at ok
  obtain ⟨after, hafter, ok⟩ := ok
  rw [Tx.bind_require_ok, Tx.bind_modify_ok, Tx.pure_ok] at ok
  obtain ⟨hsame, hdone⟩ := ok
  obtain ⟨-, hchain⟩ := Prod.mk.inj hdone
  refine ⟨tokens, before, htouched, hbefore, ?_, paid, v', ?_, ?_⟩
  · rw [hchain, ← hsame]
    exact hafter
  · cases pay with
    | none => exact (Except.ok.inj hpaid).symm
    | some p =>
      obtain ⟨value, hvalue, hpaid⟩ := Check.bind_ok.mp hpaid
      obtain ⟨hlt, rfl⟩ := toI128_ok hvalue
      exact ⟨hlt, Check.expectTrap_ok.mp hpaid⟩
  · rw [hchain]
    exact hinvoke

theorem payAndCall_ok {escrow token : Address} {fnName : Symbol} {args : List Value} {amount : U128}
    (ok : payAndCall N H env escrow fnName args token amount c = .ok ((), c')) :
    ∃ tokens before, Invoked N H env c.state.owner c.outside c'.outside
      ⟨escrow, fnName, args, some (token, amount), [pull H escrow token amount]⟩ tokens before := by
  rw [payAndCall, Tx.bind_lift_ok] at ok
  obtain ⟨value, hvalue, ok⟩ := ok
  obtain ⟨-, rfl⟩ := toI128_ok hvalue
  obtain ⟨v, c₁, hcall, hpure⟩ := Tx.bind_ok.mp ok
  obtain ⟨-, rfl⟩ := Prod.mk.inj (Tx.pure_ok.mp hpure)
  exact callWith_ok hcall

/-- Every accepted owner call goes through its invocation, and never of a token function. -/
theorem invoked_of_exec {call : Call} {r : Ret} {i : Invocation} (hcall : call.invocation H = some i)
    (ok : exec N H env call c = .ok (r, c')) : isTokenFunction i.fnName = false ∧
      ∃ owner tokens before, Invoked N H env owner c.outside c'.outside i tokens before := by
  cases call
  case createAd =>
    obtain rfl := Option.some.inj hcall
    obtain ⟨⟨⟩, hcreate, -⟩ := Tx.answer_ok.mp ok
    have hrest := of_requireTarget (of_requireOwner hcreate)
    rw [Tx.bind_lift_ok] at hrest
    obtain ⟨-, -, hpay⟩ := hrest
    have hname : isTokenFunction "create_ad" = false := by decide
    exact ⟨hname, _, payAndCall_ok hpay⟩
  case fundAd =>
    obtain rfl := Option.some.inj hcall
    obtain ⟨⟨⟩, hfund, -⟩ := Tx.answer_ok.mp ok
    have hrest := of_requireTarget (of_requireOwner hfund)
    rw [Tx.bind_view_ok] at hrest
    obtain ⟨adToken, -, hrest⟩ := hrest
    rw [Tx.bind_lift_ok] at hrest
    obtain ⟨-, -, hpay⟩ := hrest
    have hname : isTokenFunction "fund_ad" = false := by decide
    exact ⟨hname, _, payAndCall_ok hpay⟩
  case call =>
    obtain rfl := Option.some.inj hcall
    obtain ⟨v, hrun, -⟩ := Tx.answer_ok.mp ok
    have hrest := of_requireTarget (of_requireOwner hrun)
    obtain ⟨⟨⟩, c₁, hcheck, hrest⟩ := Tx.bind_ok.mp hrest
    have houtside : c₁.outside = c.outside := inside_checkOwnerCall _ _ hcheck
    rw [← houtside]
    exact ⟨(checkOwnerCall_listed hcheck).1, _, callWith_ok hrest⟩
  all_goals cases hcall

/-! ### Balances -/

theorem balancesOf_same {y y' : Y} {tokens : List Address} {before : List ℤ}
    (h : balancesOf N H y tokens = .ok before) (h' : balancesOf N H y' tokens = .ok before) :
    ∀ t ∈ tokens, ∃ b, N.balance y t H.address = some b ∧ N.balance y' t H.address = some b := by
  induction tokens generalizing before with
  | nil => exact fun t ht => absurd ht List.not_mem_nil
  | cons token rest ih =>
    rw [balancesOf, List.mapM_cons] at h h'
    obtain ⟨b, hb, h⟩ := Check.bind_ok.mp h
    obtain ⟨bs, hbs, h⟩ := Check.bind_ok.mp h
    obtain ⟨b', hb', h'⟩ := Check.bind_ok.mp h'
    obtain ⟨bs', hbs', h'⟩ := Check.bind_ok.mp h'
    obtain rfl := Check.pure_ok.mp h
    obtain ⟨rfl, rfl⟩ := List.cons.inj (Check.pure_ok.mp h')
    intro t ht
    rcases List.mem_cons.mp ht with rfl | ht
    · exact ⟨b, Check.expectTrap_ok.mp hb, Check.expectTrap_ok.mp hb'⟩
    · exact ih hbs hbs' t ht

/-- The tokens an owner call names: in the payment, and in every transfer it approves. -/
def Invocation.Names (i : Invocation) (t : Address) : Prop :=
  i.pay.map Prod.fst = some t ∨ (t, "transfer") ∈ callsOf i.approvals

theorem Invoked.named {owner : Address} {y y' : Y} {i : Invocation} {tokens : List Address}
    {before : List ℤ} (h : Invoked N H env owner y y' i tokens before) {t : Address}
    (hnames : i.Names t) : t ∈ tokens := by
  obtain ⟨happroved, hpay⟩ := touchedTokens_ok h.touched
  rcases hnames with hpaid | hcall
  · exact hpay t hpaid
  · obtain ⟨a, ha, hcall⟩ := mem_callsOf.mp hcall
    exact (happroved a ha).named hcall (by decide)

end Steps

/-! ## Honest tokens -/

section Honest

variable {Y : Type}

/-- What is assumed around the account. `ran y y' t f` says that the function `f` of the token `t` ran
as the account on the way from `y` to `y'`. -/
structure HonestTokens (N : Neighbors Y) (H : AccountHost) (outside : Y → Y → Prop)
    (ran : Y → Y → Address → Symbol → Prop) : Prop where
  /-- A transfer moves its amount from the payer to the payee, and nothing else. -/
  transfer : ∀ {y env token payer payee amount y'},
    N.transfer y env token payer payee amount = some y' → ∀ t holder b,
      N.balance y t holder = some b → N.balance y' t holder
        = some (b - (if t = token ∧ holder = payer then amount else 0)
          + if t = token ∧ holder = payee then amount else 0)
  /-- What the account holds of a token falls only where a function of the token runs as it. -/
  falls : ∀ {y y' t b}, N.balance y t H.address = some b →
    (∀ f, isTokenFunction f = true → ¬ran y y' t f) → ∃ b', N.balance y' t H.address = some b' ∧ b ≤ b'
  /-- In a call the account makes, a token function runs as it only where the account calls it or an
  approval names it. -/
  invoke : ∀ {y env approvals target fnName args v y'},
    N.invoke y env approvals target fnName args = some (v, y') → ∀ t f, ran y y' t f →
      (t = target ∧ f = fnName) ∨ (t, f) ∈ callsOf approvals
  /-- Between two calls of the account no token function runs as it. -/
  outside : ∀ {y y'}, outside y y' → ∀ t f, ¬ran y y' t f

/-- What the account holds of `t` in `y'`, with `out` more, is at least what it holds in `y`. -/
def KeepsBut (N : Neighbors Y) (H : AccountHost) (t : Address) (out : ℤ) (y y' : Y) : Prop :=
  ∀ b, N.balance y t H.address = some b → ∃ b', N.balance y' t H.address = some b' ∧ b ≤ b' + out

/-- What a call takes out of a token by a sweep. -/
def Call.swept (t : Address) : Call → ℕ
  | .sweep token _ amount => if t = token then amount.toNat else 0
  | _ => 0

/-- What the sweeps of a history took out of a token. -/
def sweptOf (t : Address) (h : History) : ℕ := (h.map fun e => e.1.2.swept t).sum

variable {N : Neighbors Y} {H : AccountHost} {env : Env} {c c' : Chain Y} {outside : Y → Y → Prop}
  {ran : Y → Y → Address → Symbol → Prop}

theorem KeepsBut.trans {t : Address} {out out' : ℤ} {y y' y'' : Y} (h : KeepsBut N H t out y y')
    (h' : KeepsBut N H t out' y' y'') : KeepsBut N H t (out' + out) y y'' := by
  intro b hb
  obtain ⟨b', hb', hle⟩ := h b hb
  obtain ⟨b'', hb'', hle'⟩ := h' b' hb'
  exact ⟨b'', hb'', by omega⟩

/-- A payment in takes nothing from the account. -/
theorem keeps_payment (honest : HonestTokens N H outside ran) {owner token : Address} {amount : ℕ}
    {y paid : Y} (hpaid : N.transfer y env token owner H.address amount = some paid)
    (t : Address) : KeepsBut N H t 0 y paid := by
  intro b hb
  refine ⟨_, honest.transfer hpaid t H.address b hb, ?_⟩
  by_cases htoken : t = token
  · by_cases howner : H.address = owner
    · rw [if_pos ⟨htoken, howner⟩, if_pos ⟨htoken, rfl⟩]
      omega
    · rw [if_neg (fun h => howner h.2), if_pos ⟨htoken, rfl⟩]
      omega
  · rw [if_neg (fun h => htoken h.1), if_neg (fun h => htoken h.1)]
    omega

/-- An owner call leaves no token lower. -/
theorem Invoked.keeps (honest : HonestTokens N H outside ran) {owner : Address} {y y' : Y}
    {i : Invocation} {tokens : List Address} {before : List ℤ}
    (h : Invoked N H env owner y y' i tokens before) (hname : isTokenFunction i.fnName = false)
    (t : Address) : KeepsBut N H t 0 y y' := by
  by_cases hmem : t ∈ tokens
  · intro b hb
    obtain ⟨b', hbefore, hafter⟩ := balancesOf_same h.recorded h.kept t hmem
    rw [hbefore, Option.some.injEq] at hb
    exact ⟨b', hafter, by omega⟩
  · obtain ⟨paid, v, hpaid, hinvoke⟩ := h.invoked
    have hpayment : KeepsBut N H t 0 y paid := by
      cases hpay : i.pay with
      | none =>
        rw [hpay] at hpaid
        rw [hpaid]
        exact fun b hb => ⟨b, hb, by omega⟩
      | some p =>
        rw [hpay] at hpaid
        exact keeps_payment honest hpaid.2 t
    -- a token function of `t` was neither called nor approved: `t` would be recorded
    have hquiet : ∀ f, isTokenFunction f = true → ¬ran paid y' t f := by
      intro f hf hran
      rcases honest.invoke hinvoke t f hran with ⟨-, rfl⟩ | hcall
      · rw [hname] at hf
        cases hf
      · obtain ⟨a, ha, hcall⟩ := mem_callsOf.mp hcall
        exact hmem (((touchedTokens_ok h.touched).1 a ha).named hcall hf)
    intro b hb
    obtain ⟨b₁, hb₁, hle⟩ := hpayment b hb
    obtain ⟨b', hb', hle'⟩ := honest.falls hb₁ hquiet
    exact ⟨b', hb', by omega⟩

theorem sweep_keeps (honest : HonestTokens N H outside ran) {token payee : Address} {amount : U128}
    {r : Ret} (ok : exec N H env (.sweep token payee amount) c = .ok (r, c')) (t : Address) :
    KeepsBut N H t (if t = token then amount.toNat else 0) c.outside c'.outside := by
  obtain ⟨⟨⟩, hsweep, -⟩ := Tx.answer_ok.mp ok
  have hrest := of_requireOwner hsweep
  obtain ⟨⟨⟩, c₁, hspend, hrest⟩ := Tx.bind_ok.mp hrest
  have houtside : c₁.outside = c.outside := frames_spendIf (fun _ => rfl) _ _ hspend
  rw [Tx.bind_lift_ok] at hrest
  obtain ⟨value, hvalue, hrest⟩ := hrest
  obtain ⟨-, rfl⟩ := toI128_ok hvalue
  rw [Tx.bind_read_ok, Tx.bind_expectTrap_ok] at hrest
  obtain ⟨y, htransfer, hrest⟩ := hrest
  obtain ⟨-, hchain⟩ := Prod.mk.inj (Tx.modify_ok.mp hrest)
  rw [houtside] at htransfer
  have hafter : c'.outside = y := congrArg Chain.outside hchain
  intro b hb
  rw [hafter]
  refine ⟨_, honest.transfer htransfer t H.address b hb, ?_⟩
  by_cases htoken : t = token
  · rw [if_pos ⟨htoken, rfl⟩, if_pos htoken]
    split <;> omega
  · rw [if_neg (fun h => htoken h.1), if_neg (fun h => htoken h.1), if_neg htoken]
    omega

/-- Every accepted call takes from a token at most what it sweeps. -/
theorem exec_keeps (honest : HonestTokens N H outside ran) {call : Call} {r : Ret}
    (ok : exec N H env call c = .ok (r, c')) (t : Address) :
    KeepsBut N H t (call.swept t) c.outside c'.outside := by
  cases hcall : call.invocation H with
  | some i =>
    obtain ⟨hname, owner, tokens, before, hinvoked⟩ := invoked_of_exec hcall ok
    have hswept : call.swept t = 0 := by
      cases call <;> first
        | rfl
        | cases hcall
    rw [hswept]
    exact hinvoked.keeps honest hname t
  | none =>
    by_cases hsweep : ∃ token payee amount, call = .sweep token payee amount
    · obtain ⟨token, payee, amount, rfl⟩ := hsweep
      have hkeeps := sweep_keeps honest ok t
      rw [Call.swept]
      split
      · next htoken => rwa [if_pos htoken] at hkeeps
      · next htoken => rwa [if_neg htoken] at hkeeps
    · have houtside := outside_of_settings hcall
        (fun token payee amount h => hsweep ⟨token, payee, amount, h⟩) ok
      have hswept : call.swept t = 0 := by
        cases call <;> first
          | rfl
          | exact absurd ⟨_, _, _, rfl⟩ hsweep
      rw [hswept, houtside]
      exact fun b hb => ⟨b, hb, by omega⟩

/-- Over a run only sweeps take a token out. -/
theorem run_keeps (honest : HonestTokens N H outside ran) {h : History} {s : Chain Y}
    (run : Run (system N H outside) c h s) (t : Address) :
    KeepsBut N H t (sweptOf t h) c.outside s.outside := by
  apply Run.invariant (I := fun h s => KeepsBut N H t (sweptOf t h) c.outside s.outside) _ _ _ run
  · exact fun b hb => ⟨b, hb, by simp [sweptOf]⟩
  · intro h s e r s' _ hkeeps _ ok
    have hnext := hkeeps.trans (exec_keeps honest ok t)
    rw [sweptOf, List.map_cons, List.sum_cons, Nat.cast_add]
    exact hnext
  · intro h s s' _ hkeeps moved b hb
    obtain ⟨y, hmoved, rfl⟩ := moved
    obtain ⟨b₁, hb₁, hle⟩ := hkeeps b hb
    obtain ⟨b', hb', hle'⟩ := honest.falls hb₁ (fun f _ => honest.outside hmoved t f)
    exact ⟨b', hb', by omega⟩

/-- Owner calls cannot move money at rest. -/
theorem owner_calls_keep_balances (honest : HonestTokens N H outside ran) :
    (∀ env call i c r c', call.invocation H = some i → exec N H env call c = .ok (r, c') →
      ∃ tokens before, touchedTokens H i.target i.approvals i.pay = .ok tokens ∧
        balancesOf N H c.outside tokens = .ok before ∧
        (∀ a ∈ i.approvals, Approved H i.target tokens a) ∧
        ∀ t, i.Names t → ∃ b, N.balance c.outside t H.address = some b ∧
          N.balance c'.outside t H.address = some b) ∧
      ∀ c h s, Run (system N H outside) c h s → ∀ t b, N.balance c.outside t H.address = some b →
        ∃ b', N.balance s.outside t H.address = some b' ∧ b ≤ b' + sweptOf t h := by
  refine ⟨fun env call i c r c' hcall ok => ?_, fun c h s run t b hb => run_keeps honest run t b hb⟩
  obtain ⟨-, owner, tokens, before, hinvoked⟩ := invoked_of_exec hcall ok
  refine ⟨tokens, before, hinvoked.touched, hinvoked.recorded,
    (touchedTokens_ok hinvoked.touched).1, fun t hnames => ?_⟩
  exact balancesOf_same hinvoked.recorded hinvoked.kept t (hinvoked.named hnames)

end Honest

/-! ## An escrow that pulls what was approved -/

/-- One approved transfer, made. -/
def pullApproved (b : Bank) (env : Env) : List Approval → Option Bank
  | [.contract c []] =>
    match c.args with
    | [.address payer, .address payee, .i128 amount] =>
      if c.fnName = "transfer" then Bank.transfer b env c.contract payer payee amount else some b
    | _ => some b
  | _ => some b

def pullingEscrow : Neighbors Bank where
  toTokens := Bank.world.toTokens
  invoke b env approvals _ _ _ := (pullApproved b env approvals).map fun b' => (.void, b')
  getAd _ _ _ := none

/-- In the sample, what ran as the account shows as a lower balance. -/
def sampleRan (b b' : Bank) (t : Address) (f : Symbol) : Prop :=
  f = "transfer" ∧ b'.balance t sampleAccountHost.address < b.balance t sampleAccountHost.address

theorem pullApproved_ran {b b' : Bank} {env : Env} {approvals : List Approval} {t : Address}
    (h : pullApproved b env approvals = some b') (hran : sampleRan b b' t "transfer") :
    (t, "transfer") ∈ callsOf approvals := by
  have hidle : b ≠ b' := by
    rintro rfl
    exact lt_irrefl _ hran.2
  unfold pullApproved at h
  split at h
  · split at h
    · split at h
      · next c _ payer payee amount _ hname =>
        obtain ⟨hamount, rfl⟩ := Bank.transfer_ok h
        rw [callsOf, Approval.calls, hname]
        have htoken : t = c.contract := by
          by_contra hother
          have hfell := hran.2
          split at hfell
          · exact lt_irrefl _ hfell
          · simp [Bank.raise, hother] at hfell
        rw [htoken]
        exact List.mem_cons_self
      · exact absurd (Option.some.inj h) hidle
    · exact absurd (Option.some.inj h) hidle
  · exact absurd (Option.some.inj h) hidle

theorem pullingEscrow_honest :
    HonestTokens pullingEscrow sampleAccountHost (fun _ _ => False) sampleRan where
  transfer {b env token payer payee amount b'} h t holder n hn := by
    obtain ⟨-, rfl⟩ := Bank.transfer_ok h
    obtain rfl : b.balance t holder = n := Option.some.inj hn
    show some _ = some _
    congr 1
    by_cases hself : payer = payee
    · rw [if_pos hself, hself]
      dsimp only
      split <;> omega
    · rw [if_neg hself]
      by_cases htoken : t = token
      · by_cases hpayer : holder = payer
        · have hpayee : holder ≠ payee := fun h => hself (hpayer.symm.trans h)
          simp [Bank.raise, htoken, hpayer, hself, Int.sub_eq_add_neg]
        · by_cases hpayee : holder = payee
          · simp [Bank.raise, htoken, hpayee, Ne.symm hself]
          · simp [Bank.raise, htoken, hpayer, hpayee]
      · simp [Bank.raise, htoken]
  falls {b b' t n} hn hquiet := by
    obtain rfl : b.balance t sampleAccountHost.address = n := Option.some.inj hn
    refine ⟨_, rfl, ?_⟩
    by_contra hfell
    exact hquiet "transfer" (by decide) ⟨rfl, not_le.mp hfell⟩
  invoke {b env approvals target fnName args v b'} h t f hran := by
    obtain ⟨b₁, hb₁, hpair⟩ := Option.map_eq_some_iff.mp h
    obtain ⟨-, rfl⟩ := Prod.mk.inj hpair
    obtain ⟨rfl, hfell⟩ := hran
    exact .inr (pullApproved_ran hb₁ ⟨rfl, hfell⟩)
  outside h := h.elim

/-- The sample account, with a thousand of every token at rest. -/
def sampleAtRest : Chain Bank where
  state := sampleNew.state
  outside := { balance := fun _ _ => 1000, unasked := fun _ _ => 0 }

/-- The owner opens an ad with fifty of the token `0x7A`. -/
def sampleOpening : Call :=
  .createAd (.contract 0xAD) (.contract 0x7A) (ascii "ad") 0x7A 50 1 0x51 0x52

theorem owner_calls_keep_balances_sample : ∃ c',
    exec pullingEscrow sampleAccountHost (sampleEnv 100) sampleOpening sampleAtRest
      = .ok (.unit, c') ∧
    pullingEscrow.balance c'.outside (.contract 0x7A) sampleAccountHost.address = some 1000 := by
  have hanswer : ((exec pullingEscrow sampleAccountHost (sampleEnv 100) sampleOpening
      sampleAtRest).toOption.map fun r => r.1 matches .unit) = some true := by
    decide +kernel
  cases hexec : exec pullingEscrow sampleAccountHost (sampleEnv 100) sampleOpening sampleAtRest with
  | error e =>
    rw [hexec] at hanswer
    cases hanswer
  | ok r =>
    obtain ⟨r, c'⟩ := r
    obtain ⟨tokens, before, -, -, -, hkept⟩ :=
      (owner_calls_keep_balances pullingEscrow_honest).1 _ _ _ _ _ _ rfl hexec
    obtain ⟨b, hbefore, hafter⟩ := hkept (.contract 0x7A) (.inl rfl)
    obtain rfl : (1000 : ℤ) = b := Option.some.inj hbefore
    refine ⟨c', ?_, hafter⟩
    rw [hexec] at hanswer
    cases r with
    | unit => rfl
    | version n => cases hanswer
    | value v => cases hanswer

end AgentAccount
end ProofBridge
