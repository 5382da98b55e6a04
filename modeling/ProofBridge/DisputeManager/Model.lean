import ProofBridge.Core.Outside
import ProofBridge.Core.Rules
import ProofBridge.Core.Timelock
import ProofBridge.Lib.Run

/-!
# The DisputeManager

The dispute lifecycle for both escrows of a chain. A module contract: the escrows read it and apply
their own half of the outcome; it never moves their funds. A filing posts a bond into the module, a
ruling opens a window, and the escrow that filed closes the record, which routes the bond to the
filer or to the fee pool. A payout the token refuses is credited instead.
-/

namespace ProofBridge
namespace DisputeManager

open ContractLib

/-- Everything the contract refuses with. -/
inductive DisputeManagerError
  | alreadyInitialized
  | notInitialized
  | notEscrow
  | disputeExists
  | notDisputed
  | arbiterCannotSettle
  | challengeClosed
  | notResponder
  | noDisputeParams
  | invalidChallengePeriod
  | invalidBondFloor
  | wrongEscrow
  | nothingToClaim
  | alreadyRuled
  | bondTransferFailed
  | responseWindowClosed
  | alreadyResponded
  | zeroResponse
  | invalidBondConfig
  | bondTransferShort
  | timelockAlreadyActive
  | timelockAlreadyProposed
  | timelockNotProposed
  | timelockTooEarly
  | timelockBadArgs
  | timelockExpired
  | timelockCancelledByBrake
  deriving DecidableEq, Repr

/-- The error's number on the wire, which the escrows relay by. -/
def DisputeManagerError.code : DisputeManagerError → ℕ
  | alreadyInitialized => 1
  | notInitialized => 2
  | notEscrow => 3
  | disputeExists => 10
  | notDisputed => 11
  | arbiterCannotSettle => 12
  | challengeClosed => 15
  | notResponder => 16
  | noDisputeParams => 17
  | invalidChallengePeriod => 18
  | invalidBondFloor => 19
  | wrongEscrow => 21
  | nothingToClaim => 22
  | alreadyRuled => 23
  | bondTransferFailed => 24
  | responseWindowClosed => 25
  | alreadyResponded => 26
  | zeroResponse => 27
  | invalidBondConfig => 28
  | bondTransferShort => 29
  | timelockAlreadyActive => 30
  | timelockAlreadyProposed => 31
  | timelockNotProposed => 32
  | timelockTooEarly => 33
  | timelockBadArgs => 34
  | timelockExpired => 35
  | timelockCancelledByBrake => 36

/-- `timelock_error`: the shared timelock's refusals as this contract's errors. -/
def timelockError : Fault → DisputeManagerError
  | .timelockAlreadyActive => .timelockAlreadyActive
  | .timelockAlreadyProposed => .timelockAlreadyProposed
  | .timelockTooEarly => .timelockTooEarly
  | .timelockBadArgs => .timelockBadArgs
  | .timelockExpired => .timelockExpired
  | .timelockCancelledByBrake => .timelockCancelledByBrake
  | _ => .timelockNotProposed

/-- What the contract publishes. -/
inductive DisputeEvent
  | escrowSet (escrow : Address) (allowed : Bool)
  | disputeParamsSet (chainId : U128) (params : DisputeParams)
  | arbiterSet (arbiter : Address)
  | protocolFeePoolSet (pool : Address)
  | bondConfigSet (token : Address) (peerChainId : U128) (config : BondConfig)
  | disputeFiled (orderHash : BytesN32) (initiator : Address) (bond challengeDeadline : ℕ)
      (evidence : BytesN32)
  | disputeResponded (orderHash : BytesN32) (responder : Address) (evidence : BytesN32)
  | disputeRuled (orderHash : BytesN32) (outcome : DisputeOutcome) (finalizeAt : ℕ)
  | bondRouted (orderHash : BytesN32) (payee : Address) (amount : ℕ) (returnedToFiler : Bool)
  | bondCredited (recipient : Address) (amount : ℕ)
  | tokenBondCredited (recipient token : Address) (amount : ℕ)
  | bondClaimed (recipient : Address) (amount : ℕ)
  | tokenBondClaimed (recipient token : Address) (amount : ℕ)
  | adminTransferStarted (fromAdmin toAdmin : Address)
  | adminTransferred (fromAdmin toAdmin : Address)
  deriving DecidableEq, Repr

/-- The contract's storage, and what it has published. -/
structure State where
  admin : Option Address
  pendingAdmin : Option Address
  arbiter : Option Address
  feePool : Option Address
  /-- The token the flat bonds are held in. -/
  wNative : Option Address
  /-- The escrows this module serves. -/
  escrows : Map Address Bool
  params : Map U128 DisputeParams
  /-- The open disputes. -/
  disputes : Map BytesN32 DisputeRecord
  /-- Credited payouts in the wrapped native token. -/
  claimable : Map Address ℕ
  bondConfigs : Map (Address × U128) BondConfig
  /-- Credited payouts in any other token. -/
  tokenClaimable : Map (Address × Address) ℕ
  timelock : Timelock
  published : List DisputeEvent

namespace State

/-- A contract just deployed. -/
def fresh : State where
  admin := none
  pendingAdmin := none
  arbiter := none
  feePool := none
  wNative := none
  escrows := ∅
  params := ∅
  disputes := ∅
  claimable := ∅
  bondConfigs := ∅
  tokenClaimable := ∅
  timelock := .fresh
  published := []

variable (s : State)

def isEscrow (who : Address) : Bool := (s.escrows.get? who).getD false

def getDispute (orderHash : BytesN32) : Option DisputeRecord := s.disputes.get? orderHash

def getClaimable (who : Address) : ℕ := (s.claimable.get? who).getD 0

def getTokenClaimable (who token : Address) : ℕ := (s.tokenClaimable.get? (who, token)).getD 0

def getBondConfig (token : Address) (peerChainId : U128) : Option BondConfig :=
  s.bondConfigs.get? (token, peerChainId)

end State

/-- The contract with the token contracts around it. -/
structure Chain (Y : Type) where
  state : State
  outside : Y

/-- `dispute::validate`'s answer: the field that failed becomes the error. -/
def validate (p : DisputeParams) : Check DisputeManagerError Unit :=
  match p.validate with
  | .ok () => .ok ()
  | .error 1 => .error (.error .invalidChallengePeriod)
  | .error _ => .error (.error .invalidBondFloor)

variable {Y : Type}

abbrev publish (e : DisputeEvent) : Tx DisputeManagerError (Chain Y) Unit :=
  Tx.modify fun c => { c with state := { c.state with published := e :: c.state.published } }

/-- A write to the contract's storage. -/
abbrev setState (f : State → State) : Tx DisputeManagerError (Chain Y) Unit :=
  Tx.modify fun c => { c with state := f c.state }

/-- A step of the shared timelock, its fault renamed. -/
abbrev onTimelock {α : Type} (x : Tx Fault Timelock α) : Tx DisputeManagerError (Chain Y) α :=
  Tx.zoom (fun c : Chain Y => c.state.timelock)
    (fun c t => { c with state := { c.state with timelock := t } }) timelockError x

/-- `get_admin`, or `NotInitialized`. -/
def getAdmin (c : Chain Y) : Check DisputeManagerError Address :=
  Check.expect c.state.admin .notInitialized

/-! ## Initialization and admin -/

section Admin

variable (H : Host) (env : Env)

/-- Wire the module, once; nobody's authorization is asked for. -/
def initializeContract (admin wNative : Address) : Tx DisputeManagerError (Chain Y) Unit := do
  let c ← Tx.read
  Tx.require (c.state.admin = none) .alreadyInitialized
  setState fun s => { s with admin := some admin, wNative := some wNative }

/-- The timelock gate for this module's admin setters. -/
def gate (fnName : Symbol) (args : List Val) : Tx DisputeManagerError (Chain Y) Unit := do
  let admin ← Tx.view getAdmin
  onTimelock (Timelock.gate H env admin fnName args)

def requireAdmin : Tx DisputeManagerError (Chain Y) Address := do
  let admin ← Tx.view getAdmin
  requireAuth env admin
  pure admin

/-- Allowing goes through the timelock; disallowing is a brake and stays instant. -/
def setEscrow (escrow : Address) (allowed : Bool) : Tx DisputeManagerError (Chain Y) Unit := do
  let admin ← Tx.view getAdmin
  onTimelock (Timelock.gateUnless H env admin (!allowed) "set_escrow"
    [.address escrow, .bool allowed] (H.brakeKey "set_escrow" (.address escrow)))
  setState fun s => { s with escrows := s.escrows.set escrow allowed }
  publish (.escrowSet escrow allowed)

/-- Per-route parameters, validated at the write. -/
def setDisputeParams (chainId : U128) (params : DisputeParams) :
    Tx DisputeManagerError (Chain Y) Unit := do
  gate H env "set_dispute_params" [.u128 chainId, .disputeParams params]
  Tx.lift (validate params)
  setState fun s => { s with params := s.params.set chainId params }
  publish (.disputeParamsSet chainId params)

/-- The only account that may rule. -/
def setArbiter (arbiter : Address) : Tx DisputeManagerError (Chain Y) Unit := do
  gate H env "set_arbiter" [.address arbiter]
  setState fun s => { s with arbiter := some arbiter }
  publish (.arbiterSet arbiter)

def setProtocolFeePool (pool : Address) : Tx DisputeManagerError (Chain Y) Unit := do
  gate H env "set_protocol_fee_pool" [.address pool]
  setState fun s => { s with feePool := some pool }
  publish (.protocolFeePoolSet pool)

/-- A route's bond in the order's own token; a cleared config is no entry. -/
def setBondConfig (token : Address) (peerChainId : U128) (config : BondConfig) :
    Tx DisputeManagerError (Chain Y) Unit := do
  gate H env "set_bond_config" [.address token, .u128 peerChainId, .bondConfig config]
  Tx.require (config.validate = true) .invalidBondConfig
  setState fun s => { s with
    bondConfigs :=
      if config.minBond = 0 then s.bondConfigs.remove (token, peerChainId)
      else s.bondConfigs.set (token, peerChainId) config }
  publish (.bondConfigSet token peerChainId config)

def activateTimelock : Tx DisputeManagerError (Chain Y) Unit := do
  let _ ← requireAdmin env
  onTimelock (Timelock.activate env)

def proposeAction (fnName : Symbol) (args : Bytes) :
    Tx DisputeManagerError (Chain Y) BytesN32 := do
  let _ ← requireAdmin env
  onTimelock (Timelock.propose H env fnName args)

def cancelAction (id : BytesN32) : Tx DisputeManagerError (Chain Y) Unit := do
  let _ ← requireAdmin env
  onTimelock (Timelock.cancel env id)

def transferAdmin (successor : Address) : Tx DisputeManagerError (Chain Y) Unit := do
  let admin ← requireAdmin env
  setState fun s => { s with pendingAdmin := some successor }
  publish (.adminTransferStarted admin successor)

/-- The pending admin takes over; the handover voids the old admin's pending proposals. -/
def acceptAdmin : Tx DisputeManagerError (Chain Y) Unit := do
  let c ← Tx.read
  let pending ← Tx.expect c.state.pendingAdmin .notInitialized
  requireAuth env pending
  let old ← Tx.view getAdmin
  setState fun s => { s with admin := some pending, pendingAdmin := none }
  onTimelock Timelock.bumpEpoch
  publish (.adminTransferred old pending)

end Admin

/-! ## The escrow-facing edge -/

section Escrows

variable (T : Tokens Y) (H : Host) (env : Env)

/-- The caller must be an escrow this module serves. -/
def requireEscrow (escrow : Address) : Tx DisputeManagerError (Chain Y) Unit := do
  requireAuth env escrow
  let c ← Tx.read
  Tx.require (c.state.isEscrow escrow = true) .notEscrow

/-- `bond_of`: the route's config in the order's token when set, else the flat floor in the wrapped
native token. -/
def bondOf (p : DisputeParams) (token : Address) (peerChainId : U128) (amount : ℕ) (s : State) :
    Check DisputeManagerError (Address × ℕ) :=
  match s.getBondConfig token peerChainId with
  | some config => do
    let bond ← routeBond config amount
    pure (token, bond)
  | none => do
    let wNative ← Check.expect s.wNative .notInitialized
    pure (wNative, bondFor p)

/-- A difference of two `i128`, as overflow checks compile it. -/
def subI128 (a b : ℤ) : Check DisputeManagerError ℤ :=
  if -(2 ^ 127) ≤ a - b ∧ a - b < 2 ^ 127 then .ok (a - b) else .error (.trap .overflow)

/-- The filer funds the bond directly into this contract; a pull that is not exact is refused. -/
def pullBond (filer token : Address) (bond : ℕ) : Tx DisputeManagerError (Chain Y) Unit := do
  let c ← Tx.read
  let before ← Tx.expectTrap (T.balance c.outside token H.address) .callFailed
  let y ← Tx.expect
    (T.transfer c.outside (env.inside H.address) token filer H.address (asI128 bond))
    .bondTransferFailed
  let balance ← Tx.expectTrap (T.balance y token H.address) .callFailed
  let credited ← Tx.lift (subI128 balance before)
  Tx.require (credited = asI128 bond) .bondTransferShort
  Tx.modify fun c => { c with outside := y }

/-- The later of the challenge period's end and the order's own `deadline + buffer`. -/
def filingDeadline (p : DisputeParams) (deadline buffer : ℕ) : Check DisputeManagerError ℕ := do
  let challengeEnd ← Check.add 64 env.now p.challengePeriod
  let windowEnd ← Check.add 64 deadline buffer
  pure (max challengeEnd windowEnd)

/-- Open a dispute on an order the escrow has already hashed and checked, taking the bond. -/
def openDispute (filing : Filing) : Tx DisputeManagerError (Chain Y) ℕ := do
  requireEscrow env filing.escrow
  let c ← Tx.read
  Tx.require (c.state.getDispute filing.orderHash = none) .disputeExists
  let p ← Tx.expect (c.state.params.get? filing.peerChainId) .noDisputeParams
  let bond ← Tx.lift (bondOf p filing.token filing.peerChainId filing.amount c.state)
  requireAuth env filing.filer
  pullBond T H env filing.filer bond.1 bond.2
  let challengeDeadline ← Tx.lift (filingDeadline env p filing.deadline filing.buffer)
  setState fun s => { s with
    disputes := s.disputes.set filing.orderHash {
      initiator := filing.filer
      bond := bond.2
      challengeDeadline
      initiatorEvidence := filing.evidence
      responderEvidence := 0
      ruling := .none
      escrow := filing.escrow
      orderDeadline := filing.deadline
      buffer := filing.buffer
      bondToken := bond.1 } }
  publish (.disputeFiled filing.orderHash filing.filer bond.2 challengeDeadline filing.evidence)
  pure bond.2

/-- Credit a payout the token refused; the wrapped native token's credits keep their own ledger. -/
def credit (payee token : Address) (amount : ℕ) : Tx DisputeManagerError (Chain Y) Unit := do
  let c ← Tx.read
  let wNative ← Tx.expect c.state.wNative .notInitialized
  if token = wNative then
    let owed ← Tx.lift (Check.add 128 (c.state.getClaimable payee) amount)
    setState fun s => { s with claimable := s.claimable.set payee owed }
    publish (.bondCredited payee amount)
  else
    let owed ← Tx.lift (Check.add 128 (c.state.getTokenClaimable payee token) amount)
    setState fun s => { s with tokenClaimable := s.tokenClaimable.set (payee, token) owed }
    publish (.tokenBondCredited payee token amount)

/-- Best effort, then credit: a recipient that cannot be paid must not brick a resolution. -/
def payOrCredit (payee token : Address) (amount : ℕ) : Tx DisputeManagerError (Chain Y) Unit := do
  let c ← Tx.read
  match T.transfer c.outside (env.inside H.address) token H.address payee (asI128 amount) with
  | some y => Tx.modify fun c => { c with outside := y }
  | none => credit payee token amount

/-- Who a closed record's bond goes to: an unset fee pool leaves it with the filer. -/
def bondPayee (d : DisputeRecord) (toFiler : Bool) (s : State) : Address :=
  if toFiler = true then d.initiator else s.feePool.getD d.initiator

/-- Settle the bond of a dispute the escrow has just finalized, and close the record. Authenticated
against the record's escrow, not the allow-list: a de-authorised escrow can still close what it
opened. -/
def settleBond (settlement : Settlement) : Tx DisputeManagerError (Chain Y) Unit := do
  requireAuth env settlement.escrow
  let c ← Tx.read
  let d ← Tx.expect (c.state.getDispute settlement.orderHash) .notDisputed
  Tx.require (d.escrow = settlement.escrow) .wrongEscrow
  setState fun s => { s with disputes := s.disputes.remove settlement.orderHash }
  if d.bond ≠ 0 then
    let toFiler := bondReturnsToFiler settlement.outcome settlement.filerIsBridger
      settlement.returnToFiler
    let payee := bondPayee d toFiler c.state
    payOrCredit T H env payee d.bondToken d.bond
    publish (.bondRouted settlement.orderHash payee d.bond toFiler)
  else pure ()

/-- Record the counterparty's evidence hash: one non-zero answer, strictly before the challenge
deadline and before any ruling. -/
def recordResponse (response : Response) : Tx DisputeManagerError (Chain Y) Unit := do
  requireAuth env response.escrow
  requireAuth env response.responder
  let c ← Tx.read
  let d ← Tx.expect (c.state.getDispute response.orderHash) .notDisputed
  Tx.require (d.escrow = response.escrow) .wrongEscrow
  Tx.require (d.initiator ≠ response.responder) .notResponder
  Tx.require (response.evidence ≠ 0) .zeroResponse
  Tx.require (d.responderEvidence = 0) .alreadyResponded
  Tx.require (d.ruling = .none) .alreadyRuled
  Tx.require (env.now < d.challengeDeadline) .responseWindowClosed
  setState fun s => { s with
    disputes := s.disputes.set response.orderHash
      { d with responderEvidence := response.evidence } }
  publish (.disputeResponded response.orderHash response.responder response.evidence)

/-- Rule the vacuum. Opens a presentation window; it does not pay. -/
def resolveDispute (orderHash : BytesN32) (outcome : DisputeOutcome) :
    Tx DisputeManagerError (Chain Y) Unit := do
  let c ← Tx.read
  let arbiter ← Tx.expect c.state.arbiter .notInitialized
  requireAuth env arbiter
  Tx.require (outcome ≠ .tradeProceeds ∧ outcome ≠ .none) .arbiterCannotSettle
  let d ← Tx.expect (c.state.getDispute orderHash) .notDisputed
  Tx.require (env.now < d.challengeDeadline) .challengeClosed
  let finalizeAt ← Tx.lift (Check.add 64 (max env.now d.orderDeadline) d.buffer)
  setState fun s => { s with
    disputes := s.disputes.set orderHash
      { d with ruling := outcome, challengeDeadline := finalizeAt } }
  publish (.disputeRuled orderHash outcome finalizeAt)

/-- Withdraw a credited bond payout. -/
def claim (recipient : Address) : Tx DisputeManagerError (Chain Y) Unit := do
  let c ← Tx.read
  let amount := c.state.getClaimable recipient
  Tx.require (amount ≠ 0) .nothingToClaim
  setState fun s => { s with claimable := s.claimable.set recipient 0 }
  let wNative ← Tx.expect c.state.wNative .notInitialized
  let y ← Tx.expect
    (T.transfer c.outside (env.inside H.address) wNative H.address recipient (asI128 amount))
    .bondTransferFailed
  Tx.modify fun c => { c with outside := y }
  publish (.bondClaimed recipient amount)

/-- Withdraw a credited token-bond payout; the wrapped native token's are `claim`'s. -/
def claimToken (recipient token : Address) : Tx DisputeManagerError (Chain Y) Unit := do
  let c ← Tx.read
  if c.state.wNative = some token then claim T H env recipient
  else
    let amount := c.state.getTokenClaimable recipient token
    Tx.require (amount ≠ 0) .nothingToClaim
    setState fun s => { s with tokenClaimable := s.tokenClaimable.set (recipient, token) 0 }
    let y ← Tx.expect
      (T.transfer c.outside (env.inside H.address) token H.address recipient (asI128 amount))
      .bondTransferFailed
    Tx.modify fun c => { c with outside := y }
    publish (.tokenBondClaimed recipient token amount)

end Escrows

/-! ## Views -/

/-- How a dispute has ended, if it has: the ruling, whether its deadline has passed, who filed. -/
def outcomeOf (env : Env) (orderHash : BytesN32) (s : State) :
    DisputeOutcome × Bool × Option Address :=
  match s.getDispute orderHash with
  | none => (.none, false, none)
  | some d => (d.ruling, d.challengeDeadline ≤ env.now, some d.initiator)

/-- Who filed, if anyone. Reads no clock. -/
def initiatorOf (orderHash : BytesN32) (s : State) : Option Address :=
  (s.getDispute orderHash).map DisputeRecord.initiator

/-- The one stored deadline, in real time; 0 when nothing is disputed. -/
def challengeDeadlineOf (orderHash : BytesN32) (s : State) : ℕ :=
  ((s.getDispute orderHash).map DisputeRecord.challengeDeadline).getD 0

/-! ## The contract as its host sees it -/

/-- The entry points that change state, with their arguments. -/
inductive Call
  | initializeContract (admin wNative : Address)
  | setEscrow (escrow : Address) (allowed : Bool)
  | setDisputeParams (chainId : U128) (params : DisputeParams)
  | setArbiter (arbiter : Address)
  | setProtocolFeePool (pool : Address)
  | setBondConfig (token : Address) (peerChainId : U128) (config : BondConfig)
  | activateTimelock
  | proposeAction (fnName : Symbol) (args : Bytes)
  | cancelAction (id : BytesN32)
  | transferAdmin (successor : Address)
  | acceptAdmin
  | openDispute (filing : Filing)
  | settleBond (settlement : Settlement)
  | recordResponse (response : Response)
  | resolveDispute (orderHash : BytesN32) (outcome : DisputeOutcome)
  | claim (recipient : Address)
  | claimToken (recipient token : Address)
  deriving DecidableEq

/-- What a call answers. -/
inductive Ret
  | unit
  /-- The id of a proposed action. -/
  | action (id : BytesN32)
  /-- The bond a filing posted. -/
  | bond (amount : ℕ)
  deriving DecidableEq

/-- A call of an entry point that answers nothing. -/
abbrev done (x : Tx DisputeManagerError (Chain Y) Unit) : Tx DisputeManagerError (Chain Y) Ret :=
  Tx.answer (fun _ => .unit) x

/-- Run a call. -/
def exec (T : Tokens Y) (H : Host) (env : Env) : Call → Tx DisputeManagerError (Chain Y) Ret
  | .initializeContract admin wNative => done (initializeContract admin wNative)
  | .setEscrow escrow allowed => done (setEscrow H env escrow allowed)
  | .setDisputeParams chainId params => done (setDisputeParams H env chainId params)
  | .setArbiter arbiter => done (setArbiter H env arbiter)
  | .setProtocolFeePool pool => done (setProtocolFeePool H env pool)
  | .setBondConfig token peerChainId config => done (setBondConfig H env token peerChainId config)
  | .activateTimelock => done (activateTimelock env)
  | .proposeAction fnName args => Tx.answer .action (proposeAction H env fnName args)
  | .cancelAction id => done (cancelAction env id)
  | .transferAdmin successor => done (transferAdmin env successor)
  | .acceptAdmin => done (acceptAdmin env)
  | .openDispute filing => Tx.answer .bond (openDispute T H env filing)
  | .settleBond settlement => done (settleBond T H env settlement)
  | .recordResponse response => done (recordResponse env response)
  | .resolveDispute orderHash outcome => done (resolveDispute env orderHash outcome)
  | .claim recipient => done (claim T H env recipient)
  | .claimToken recipient token => done (claimToken T H env recipient token)

/-- The DisputeManager with its host: nobody authorizes as the module itself, and `outside` is what
may happen around it. -/
def system (T : Tokens Y) (H : Host) (outside : Y → Y → Prop) :
    System DisputeManagerError (Chain Y) (Env × Call) Ret where
  call t := exec T H t.1 t.2
  admits _ t := t.1.authorized H.address = false
  outside c c' := ∃ y, outside c.outside y ∧ c' = { c with outside := y }

end DisputeManager
end ProofBridge
