import ProofBridge.AgentPolicy.Walk
import ProofBridge.Lib.Run

/-!
# An agent's operation

The EntryPoint asks the validator about every operation of a bundle before it runs any. An approved
operation leaves a marker in transient storage; the hook finds it by what the account is about to run,
takes it, and debits. A custody account asks for one call and runs it at once.
-/

namespace ProofBridge
namespace AgentPolicy

open ContractLib Evm

/-! ## What validation charges -/

/-- The most the operation can cost the account, or none where a gas field is past what is priced. -/
def maxCost (op : PackedUserOperation) : Check PolicyError (Option ℕ) :=
  let verificationGas := (op.accountGasLimits >>> 128).toNat
  let callGas := (op.accountGasLimits.setWidth 128).toNat
  let maxFee := (op.gasFees.setWidth 128).toNat
  if MAX_GAS_FIELD < verificationGas ∨ MAX_GAS_FIELD < callGas ∨
      MAX_GAS_FIELD < op.preVerificationGas.toNat ∨ MAX_GAS_FIELD < maxFee then pure none
  else do
    let gas ← Check.add 256 verificationGas callGas
    let gas ← Check.add 256 gas op.preVerificationGas.toNat
    let cost ← Check.mul 256 gas maxFee
    pure (some cost)

/-- Debits that from the agent's gas budget, or refuses it. -/
def chargeGas (account : EvmAddress) (aKey : BytesN32) (op : PackedUserOperation) :
    Tx PolicyError Storage Bool :=
  -- with a paymaster the account is not the payer
  if op.paymasterAndData.length ≠ 0 then pure false
  else do
    let cost ← Tx.lift (maxCost op)
    match cost with
    | none => pure false
    | some cost => do
      let s ← Tx.read
      let budget := s.gasBudget aKey account
      if budget = 0 ∨ budget.toNat < cost then pure false
      else do
        Tx.modify fun s => { s with
          gasBudget := s.gasBudget.put aKey account (BitVec.ofNat 256 (budget.toNat - cost)) }
        pure true

section Entries

variable (H : Host) (cx : Context)

/-! ## Markers -/

/-- Queues the operation's marker; false where it does not decode or one is queued already. -/
def pushMarker (account : EvmAddress) (callData : Bytes) (agentId : BytesN32) :
    Tx PolicyError Storage Bool := do
  let slot ← Tx.lift (markerSlotOf H.primitives account callData false)
  match slot with
  | none => pure false
  | some slot => do
    let s ← Tx.read
    if s.tload (slot + 1) ≠ 0 then pure false
    else do
      Tx.modify fun s => (s.tstore slot agentId).tstore (slot + 1) 1
      pure true

/-- The marker's slot for this hook call, and how many are queued there. -/
def markerAt (account : EvmAddress) (msgData : Bytes) (s : Storage) :
    Check PolicyError (BytesN32 × Uint256) := do
  let slot ← markerSlotOf H.primitives account msgData true
  match slot with
  | none => pure (0, 0)
  | some slot => pure (slot, s.tload (slot + 1))

/-- The agent the execution was approved for, zero where the validator queued none. -/
def popMarker (account : EvmAddress) (msgData : Bytes) : Tx PolicyError Storage BytesN32 := do
  let at' ← Tx.view (markerAt H account msgData)
  if at'.2 = 0 then pure 0
  else do
    let s ← Tx.read
    let agentId := s.tload at'.1
    Tx.modify fun s => (s.tstore at'.1 0).tstore (at'.1 + 1) 0
    pure agentId

/-! ## The validator -/

/-- Success, with the last second the operation may land in. -/
def packValidation (validUntil : U64) : Uint256 :=
  (if validUntil = 0 then 0 else BitVec.ofNat 256 ((validUntil.toNat - 1) % 2 ^ 48)) <<< 160
    ||| VALIDATION_SUCCESS

def validateUserOp (op : PackedUserOperation) (userOpHash : BytesN32) :
    Tx PolicyError Storage Uint256 :=
  let account := cx.msg.sender
  match H.tryRecover userOpHash op.signature with
  | none => pure VALIDATION_FAILED
  | some agent =>
    if agent = 0 then pure VALIDATION_FAILED
    else do
      let agentId := toBytes32 agent
      let s ← Tx.read
      match gate H cx account agentId .validate s with
      | .error _ => pure VALIDATION_FAILED
      | .ok gate => do
        let refused ← walkValidate H cx account gate op.callData
        match refused with
        | some _ => pure VALIDATION_FAILED
        | none => do
          let charged ← chargeGas account gate.aKey op
          if charged = false then pure VALIDATION_FAILED
          else do
            let pushed ← pushMarker H account op.callData agentId
            if pushed = false then pure VALIDATION_FAILED
            else do
              let s ← Tx.read
              let uncounted ← Tx.lift (increment (s.uncounted gate.aKey account))
              Tx.modify fun s => { s with
                uncounted := s.uncounted.put gate.aKey account uncounted }
              let validUntil := gate.policyMeta.validUntil
              if validUntil = 1 ∨ validUntil ≠ 0 ∧ 2 ^ 48 - 1 < validUntil.toNat - 1 then
                pure VALIDATION_FAILED
              else pure (packValidation validUntil)

/-! ## The hook -/

/-- The address in this call's last 20 bytes. -/
def tailAddress : EvmAddress := BitVec.ofNat 160 (Layout.ofBytes (cx.msg.data.drop (cx.msg.data.length - 20)))

/-- The account a hook call is about, and whether its caller may speak for it. -/
def getAccount (s : Storage) : EvmAddress × Bool :=
  -- an account's own word is its own: what follows its calldata is the agent's to choose
  if s.installedTypes cx.msg.sender ≠ 0 then (cx.msg.sender, true)
  else
    let account := tailAddress cx
    if cx.msg.sender ≠ 0 ∧ cx.msg.sender = s.trustedForwarder account then (account, true)
    else (cx.msg.sender, false)

def preCheck (msgData : Bytes) : Tx PolicyError Storage Unit := do
  let s ← Tx.read
  let (account, resolved) := getAccount cx s
  if resolved = false then do
    let at' ← Tx.view (markerAt H (tailAddress cx) msgData)
    Tx.require (at'.2 = 0) (.unknownHookCaller cx.msg.sender)
  else do
    let agentId ← popMarker H account msgData
    if agentId = 0 then pure ()
    else do
      let s ← Tx.read
      match gate H cx account agentId .commit s with
      | .error .noPolicy => Tx.fail .revokedBeforeExecution
      | .error refusal => Tx.fail (.refusedAtExecution NO_CALL refusal)
      | .ok gate => do
        let refused ← walkCommit H cx account gate msgData
        match refused with
        | some (refusal, callIndex) => Tx.fail (.refusedAtExecution callIndex refusal)
        | none => do
          Tx.modify fun s => { s with uncounted := s.uncounted.put gate.aKey account 0 }
          if gate.hookProven = false then
            Tx.modify fun s => { s with hookProven := s.hookProven.put gate.proofKey account true }
          else pure ()

/-! ## Direct calls -/

/-- A custody account's agent call, checked and counted in one step. -/
def authorizeDirect (agentId : BytesN32) (callData : Bytes) : Tx PolicyError Storage Unit := do
  let account := cx.msg.sender
  let s ← Tx.read
  match gate H cx account agentId .dry s with
  | .error refusal => Tx.fail (.refusedAtExecution NO_CALL refusal)
  | .ok gate => do
    let args ← Tx.lift (executeArgs callData false)
    match args with
    | none => Tx.fail (.refusedAtExecution NO_CALL .malformedRequest)
    | some (mode, _) => do
      Tx.require ((mode >>> 248).toNat = CALLTYPE_SINGLE) (.refusedAtExecution NO_CALL .malformedRequest)
      let refused ← walkCommit H cx account gate callData
      match refused with
      | some (refusal, callIndex) => Tx.fail (.refusedAtExecution callIndex refusal)
      | none => pure ()

/-! ## The module with its chain -/

end Entries

section Specs

variable {H : Host} {cx : Context} {s s' : Storage}

end Specs

/-- What an account or its EntryPoint may call. -/
inductive Entry
  | onInstall (data : Bytes)
  | onUninstall (data : Bytes)
  | setTargets (targets : List EvmAddress) (allowed : Bool)
  | setAccountLimit (token : BytesN32) (capacity refillPerSecond : Uint256)
  | setAgentGasBudget (agentId : BytesN32) (weiBudget : Uint256)
  | resetAgentTally (agentId : BytesN32)
  | setAgentPolicy (agentId : BytesN32) (policy : Bytes)
  | revokeAgent (agentId : BytesN32)
  | validateUserOp (op : PackedUserOperation) (userOpHash : BytesN32)
  | preCheck (msgData : Bytes)
  | authorizeDirect (agentId : BytesN32) (callData : Bytes)
  | setTrustedForwarder (forwarder : EvmAddress)
  | clearTrustedForwarder

/-- What a call answers. -/
inductive Answer
  | none
  | validation (data : Uint256)
  deriving DecidableEq

def exec (H : Host) (cx : Context) (entry : Entry) : Tx PolicyError Storage Answer :=
  match entry with
  | .onInstall data => Tx.answer (fun _ => .none) (onInstall H cx data)
  | .onUninstall data => Tx.answer (fun _ => .none) (onUninstall cx data)
  | .setTargets targets allowed => Tx.answer (fun _ => .none) (setTargets H cx targets allowed)
  | .setAccountLimit token capacity refillPerSecond =>
    Tx.answer (fun _ => .none) (setAccountLimit H cx token capacity refillPerSecond)
  | .setAgentGasBudget agentId weiBudget =>
    Tx.answer (fun _ => .none) (setAgentGasBudget H cx agentId weiBudget)
  | .resetAgentTally agentId => Tx.answer (fun _ => .none) (resetAgentTally H cx agentId)
  | .setAgentPolicy agentId policy => Tx.answer (fun _ => .none) (setAgentPolicy H cx agentId policy)
  | .revokeAgent agentId => Tx.answer (fun _ => .none) (revokeAgent H cx agentId)
  | .validateUserOp op userOpHash => Tx.answer .validation (validateUserOp H cx op userOpHash)
  | .preCheck msgData => Tx.answer (fun _ => .none) (preCheck H cx msgData)
  | .authorizeDirect agentId callData =>
    Tx.answer (fun _ => .none) (authorizeDirect H cx agentId callData)
  | .setTrustedForwarder forwarder => Tx.answer (fun _ => .none) (setTrustedForwarder cx forwarder)
  | .clearTrustedForwarder => Tx.answer (fun _ => .none) (clearTrustedForwarder cx)

/-- The module with its chain: a transaction may end between two calls. -/
def system (H : Host) : System PolicyError Storage (Context × Entry) Answer where
  call t := exec H t.1 t.2
  admits _ _ := True
  outside s s' := s' = { s with transient := fun _ => 0 }

abbrev History := List ((Context × Entry) × Answer)

/-! ## A mounted module

An account with both halves, one agent and one token, as calls of the module leave it. -/

section Sample

def sampleAgent : EvmAddress := 0x0b6fe046e6fd8d7a7a36d5ad1ffb82d2e3e5c3bb

theorem sampleListed {token : BytesN32} (h : token ≠ 0) : AgentPolicyCodec.Whitelist [token] where
  nonempty := List.cons_ne_nil _ _
  bounded := (by decide : 1 ≤ AgentPolicyCodec.MAX_WHITELIST_TOKENS.toNat)
  nonzero := by simpa using h
  ascending := List.pairwise_singleton _ _

theorem sampleRow_fits : ∀ row ∈ [(⟨0x22, 400, 1000, 1⟩ : AgentPolicyCodec.TokenRow)], row.Fits := by
  intro row hrow
  obtain rfl := List.mem_singleton.mp hrow
  exact ⟨by decide, by decide, by decide⟩

theorem sampleTokens_listed :
    AgentPolicyCodec.Whitelist
      ([(⟨0x22, 400, 1000, 1⟩ : AgentPolicyCodec.TokenRow)].map AgentPolicyCodec.TokenRow.token) :=
  sampleListed (by decide)

theorem sampleOrderTokens_listed : AgentPolicyCodec.Whitelist [0x11] := sampleListed (by decide)

theorem sampleSigner_nonzero : (0x51 : BytesN32) ≠ 0 := by decide

/-- At most 400 at once and 1000 in all, refilled by one a second; orders paid in `0x11`. -/
def samplePolicy : AgentPolicyCodec.Policy where
  adTokens := [⟨0x22, 400, 1000, 1⟩]
  orderTokens := [0x11]
  adScope := .all
  validUntil := 5000
  settlementSigner := 0x51
  adTokens_listed := sampleTokens_listed
  adTokens_fit := sampleRow_fits
  orderTokens_listed := sampleOrderTokens_listed
  adScope_fits := trivial
  signer_nonzero := sampleSigner_nonzero

def sampleParams : AdOrderParams where
  orderChainToken := 0x11
  adChainToken := 0x22
  amount := 300
  bridger := 0xB0
  orderChainId := 1
  srcOrderPortal := 0x50
  orderRecipient := 0x3C
  adId := [97, 100, 45, 49]
  adCreator := 0x3A
  adRecipient := 0x3B
  salt := 7
  orderDecimals := 6
  adDecimals := 6
  deadline := 9000
  adSettlementSigner := 0x51
  lpFeeBps := 10
  protocolFeeBps := 5

/-- The lock as a single execution, and the account's `execute` of it. -/
def sampleExecution : Bytes :=
  Layout.bigEndian 20 0xAD ++ encodeWord 0 ++ (LOCK_FOR_ORDER_SELECTOR ++ encodeArgs sampleParams 0)

def sampleDomain : BytesN32 := 0xef54e159edc8f6e64212dae17f7a453a163a226f31d5250e9d5030916600c766

/-- Keccak-256 on what the sample hashes; zero where it is not asked. -/
def sampleTable : List (Bytes × BytesN32) :=
  let agent : BytesN32 := 0x18c757398ebf405c41806ace09afa80278df4d29049b0aca5e622ec573246aca
  let version : BytesN32 := 0xc8476ccc8da4b651d1c7fc8e60857e4f4f2eff27e95bbd244979e1057b31eb98
  let token : BytesN32 := 0xec499dac632db01099b75e356d27df1da5c2a0e696e4d1f6e99903f5d777fe17
  let ceiling : BytesN32 := 0x07d0d0741230bcd2f304e190868a854e333f364ae703255866c80fdb5539c73b
  let pending : BytesN32 := 0x92cc544d1895d9b49b0cdb89bd02613fd0acb3451d1652b525bd279ab1fbfed9
  let pendingToken : BytesN32 :=
    0x0617269fed00442303af02cad9c7aa561f37fd51f51f8732357fba0126e2f9e5
  let pendingCeiling : BytesN32 :=
    0x64afe1b14ff36fc316c8381178eb606eed127ff307429dcfd6658a079295b1f6
  let marker : BytesN32 := 0xa0f25a09eee7f8175d28aaf2bea68582a9bca3addddf70cc8492c1f0455db1f3
  let execution : BytesN32 := 0x1ea4cf65879b325da2cc4fe9c1289c3cda8a38208c22ede763a2feb0ba96eeea
  let operation : BytesN32 := 0x668623ffc1cd394df3cf9d4a102750229989e9dc07e862d3b8ff76882256b73b
  [(bytesOf "ProofBridge.AgentPolicy.v3", sampleDomain),
    (bytesOf "ProofBridge.AgentPolicy.pending", pending),
    (bytesOf "ProofBridge.AgentPolicy.marker", marker),
    (Eip712.concat [1, toBytes32 sampleAgent], agent), (Eip712.concat [agent, 1], version),
    (labelled version "token" 0x22, token), (labelled 1 "ceiling" 0x22, ceiling),
    (labelled version "orderToken" 0x11,
      0xe23a899dfaac28b39ff90e79a6473c0f46fccbee316ac3ba0fc12daff70845b7),
    (labelled 1 "target" 0xAD,
      0xda137a0dff0d942164605cc7449adb9dc61187d05b4e88d734e62aea17714238),
    (labelled version "hook" 1,
      0x9f4eb9b4c604dfece97674449171dd642bb9ee02ddfc1579eeb66b55cbf3e496),
    (Eip712.concat [pending, token], pendingToken),
    (Eip712.concat [0x3A, pendingToken],
      0x1e9c4d40c128ae38c965416d5ef731bf75ec05abff3e05f4ee962054a4b2b5bd),
    (Eip712.concat [pending, ceiling], pendingCeiling),
    (Eip712.concat [0x3A, pendingCeiling],
      0xc2582fa989b359c602589d69789cfea13cd7fbfc887bdc584b6300590f415d9e),
    (encodeArgs sampleParams 0,
      0x9e5045a0f74231e4d28ea5b0cd39443f8d781380f69015b4aed9eaec2f685a0e),
    (sampleExecution, execution), (Eip712.concat [marker, 0, execution], operation),
    (Eip712.concat [0x3A, operation],
      0x6fc9b884ecd030f5ca9f4e8b01f7228ff83b6b0e26113a3ff6c123c986977391),
    (AgentPolicyCodec.encode ⟨fun _ => sampleDomain, fun _ => 0, fun _ _ => 0⟩ samplePolicy,
      0xbe09df9d47b6ffaf7eb26e19c1bb6f477e187a922edd15ba5e3e656139a54f3c)]

def samplePrimitives : Primitives where
  keccak256 b := ((sampleTable.find? fun e => e.1 = b).map Prod.snd).getD 0
  efficientHash _ := 0
  toTypedDataHash _ _ := 0

/-- The agent's signature of the operation hashed to 1. -/
def sampleSignature : Bytes :=
  encodeWord 0xd47644539acec3da5e3ecf5fe8863c628a9c97e8b71e9ea9167a6f4f83c03c32 ++
    encodeWord 0x2f3e8ab94759cdc0e3eec07a5abc0441eb62e335bea2d6658f0e3ac7761dddd3 ++ [27]

def sampleHost : Host where
  primitives := samplePrimitives
  this := 0x99
  tryRecover userOpHash signature :=
    if userOpHash = 1 ∧ signature = sampleSignature then some sampleAgent else none

/-- A call of `sender` at `timestamp`; the account reports the module as its hook. -/
def sampleContext (timestamp : Uint256) (sender : EvmAddress) : Context where
  msg := ⟨timestamp, sender, []⟩
  isModuleInstalled _ := some (encodeWord 1)
  validationConfig _ := none

/-- The account mounts both halves, pins the escrow, and admits the agent. -/
def sampleSetup : List (Context × Entry) :=
  [.onInstall (Eip712.concat [1, 0x20, 1, 0xAD]), .onInstall (Eip712.concat [4]),
    .setAccountLimit 0x22 1500 1, .setAgentGasBudget (toBytes32 sampleAgent) 1000000,
    .setAgentPolicy (toBytes32 sampleAgent) (AgentPolicyCodec.encode samplePrimitives samplePolicy)].map
    fun entry => (sampleContext 1000 0x3A, entry)

end Sample

end AgentPolicy
end ProofBridge
