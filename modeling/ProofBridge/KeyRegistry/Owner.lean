import ProofBridge.Core.Keys

/-!
# The owner's key messages

One owner signature names every registry it is for. A secp256k1 owner signs the EIP-712 form of a
message, an ed25519 owner its fixed text. What the registry then checks: exactly one leg of the
signature is this registry's and carries the nonce the message needs, and the account made the
signature over this message.
-/

namespace ProofBridge
namespace KeyRegistry

open ContractLib

/-- Everything the registry refuses with. -/
inductive RegistryError
  | alreadyInitialized
  | notInitialized
  | badNonce
  | identityKey
  | invalidPop
  | ownerMismatch
  | accountInFlight
  | contractPaused
  | notPendingAdmin
  | registryFull
  | noSuchSlot
  | slotExpired
  | keyPreviouslyUsed
  | badValidUntil
  | proofRegistrationDisabled
  | rootNotAnchored
  | invalidLeafProof
  | sourceNotAllowed
  | proofRegistrationRefsUnset
  | legMismatch
  | deadlineExpired
  | deadlineTooFar
  | badEnv
  | guardsUnset
  | timelockAlreadyActive
  | timelockAlreadyProposed
  | timelockNotProposed
  | timelockTooEarly
  | timelockBadArgs
  | timelockExpired
  | timelockCancelledByBrake
  deriving DecidableEq, Repr

/-- keccak256("KeyLeg(uint256 chainId,bytes32 registry,uint256 nonce)") -/
def KEY_LEG_TYPEHASH : BytesN32 :=
  0xfa75af9d4f7f233233f7046e929ef40cd6d17ee3c0f579aeae91b2c8697b9599

def REGISTER_KEY_TYPEHASH : BytesN32 :=
  0x86b4f5a5d0735e9a7a9eb9dfa32f81364b1602f5098d95182da506eef7027c92

def CANCEL_PENDING_TYPEHASH : BytesN32 :=
  0x3528ec7f948a36baeb9610767aa9f05922e7e14d2eabe51142e58c743778d12f

def REVOKE_KEYS_TYPEHASH : BytesN32 :=
  0xd2cc9644d4c5bccccd706cafc58d84449d6f6d113297aa878f49d24ac672a825

def RETIRE_KEY_TYPEHASH : BytesN32 :=
  0x1abc6df038c182ce0998121f306e7bd9a9f4b4a010fc40d909308c8e77cb90fd

def APPROVE_MAKER_TYPEHASH : BytesN32 :=
  0x1acb1f6ffc960ff061d0ad70e584831841b1fa26815ced608b798b3b50d0ab72

def REPIN_ORDER_TYPEHASH : BytesN32 :=
  0xf41df3e8e10a8c2c5347b10a398ea576045b4b3f01c43233858369db38d512c5

def SEP53_PREFIX : Bytes := ascii "Stellar Signed Message:\n"

/-- A deadline may sit at most this far past ledger time: 7 days. -/
def MAX_REGISTER_TTL : ℕ := 7 * 24 * 3600

/-- The environments a registry is initialized for. -/
def KEYS_ENVS : List Bytes := [ascii "local", ascii "testnet", ascii "mainnet"]

def REGISTER_HEADING : Bytes := ascii "ProofBridge: register a settlement key"
def REVOKE_HEADING : Bytes := ascii "ProofBridge: remove every settlement key"
def CANCEL_HEADING : Bytes := ascii "ProofBridge: cancel a pending key registration"
def RETIRE_HEADING : Bytes := ascii "ProofBridge: retire a settlement key"
def APPROVE_MAKER_HEADING : Bytes :=
  ascii "ProofBridge: allow a maker to name this account as settlement signer"
def WITHDRAW_MAKER_HEADING : Bytes :=
  ascii "ProofBridge: withdraw a maker's permission to name this account as settlement signer"
def REPIN_HEADING : Bytes := ascii "ProofBridge: move an order's settlement key to another slot"

/-- One registry a signature is for: its chain, its id and its nonce. -/
structure KeyLeg where
  chainId : U128
  registry : BytesN32
  nonce : U64
  deriving DecidableEq, Repr

inductive OwnerSig
  /-- `r ‖ s ‖ v` over the EIP-712 digest. -/
  | secp256k1 (sig : BytesN 65)
  /-- Over the SHA-256 of the prefixed text; the account is the key. -/
  | sep53 (sig : BytesN 64)
  deriving DecidableEq

/-- The signed form. A retirement names no registry. -/
structure SignedOwner where
  legs : List KeyLeg
  sig : OwnerSig
  deriving DecidableEq

/-- How the account owner authorized a state change. -/
inductive OwnerAuth
  /-- `require_auth`; covers this registry only. -/
  | stellar (addr : Address)
  | signed (s : SignedOwner)
  deriving DecidableEq

/-- The message a state change needs signed. The nonce of `approveMaker` and of `repin` is the
pair's, not the account's. -/
inductive KeyMessage
  | register (keyCommitment : BytesN32) (nonce deadline : U64)
  | revoke (nonce : U64)
  | cancel (nonce : U64)
  | retire (keyCommitment : BytesN32) (validUntil : U64)
  | approveMaker (maker : BytesN32) (approved : Bool) (nonce deadline : U64)
  | repin (orderHash : BytesN32) (fromSlot toSlot : U32) (nonce : U64)
  deriving DecidableEq, Repr

/-- What `initialize` fixes beside the admin. -/
structure KeysConfig where
  chainId : U128
  /-- The environment, salted into the domain and named in the text. -/
  keysEnv : Bytes
  domain : BytesN32
  deriving DecidableEq, Repr

/-- `keys_domain_separator`: refuses any other environment. -/
def keysDomainSeparator (H : Host) (name : Bytes) : Check RegistryError BytesN32 := do
  Check.require (name ∈ KEYS_ENVS) .badEnv
  pure (H.keccak256 (Eip712.concat
    [H.keccak256 (ascii "EIP712Domain(string name,string version,bytes32 salt)"),
      H.keccak256 (ascii "ProofBridge Keys"), H.keccak256 (ascii "2"),
      H.keccak256 (ascii "proofbridge:" ++ name)]))

/-! ## EIP-712 -/

section StructHash

variable (H : Host)

/-- One leg's preimage. -/
def KeyLeg.words (l : KeyLeg) : List BytesN32 :=
  [KEY_LEG_TYPEHASH, Eip712.abiEncodeUint256 l.chainId, l.registry,
    Eip712.abiEncodeUint256 l.nonce]

def legsHash (legs : List KeyLeg) : BytesN32 :=
  H.keccak256 (Eip712.concat (legs.map fun l => H.keccak256 (Eip712.concat l.words)))

/-- The words of a message's struct. -/
def KeyMessage.words (account : BytesN32) (legs : List KeyLeg) : KeyMessage → List BytesN32
  | .register keyCommitment _ deadline =>
    [REGISTER_KEY_TYPEHASH, account, keyCommitment, legsHash H legs,
      Eip712.abiEncodeUint256 deadline]
  | .revoke _ => [REVOKE_KEYS_TYPEHASH, account, legsHash H legs]
  | .cancel _ => [CANCEL_PENDING_TYPEHASH, account, legsHash H legs]
  | .approveMaker maker approved _ deadline =>
    [APPROVE_MAKER_TYPEHASH, account, maker, Eip712.abiEncodeUint256 (BitVec.ofBool approved),
      legsHash H legs, Eip712.abiEncodeUint256 deadline]
  | .repin orderHash fromSlot toSlot _ =>
    [REPIN_ORDER_TYPEHASH, account, orderHash, Eip712.abiEncodeUint256 fromSlot,
      Eip712.abiEncodeUint256 toSlot, legsHash H legs]
  | .retire keyCommitment validUntil =>
    [RETIRE_KEY_TYPEHASH, account, keyCommitment, Eip712.abiEncodeUint256 validUntil]

def structHash (account : BytesN32) (legs : List KeyLeg) (msg : KeyMessage) : BytesN32 :=
  H.keccak256 (Eip712.concat (msg.words H account legs))

/-- What a secp256k1 owner signs the hash of. -/
def typedKeyData (domain account : BytesN32) (legs : List KeyLeg) (msg : KeyMessage) : Bytes :=
  0x19 :: 0x01 :: Eip712.concat [domain, structHash H account legs msg]

end StructHash

/-! ## The fixed text -/

/-- `push_decimal`: digits from the last one up, into a buffer of 39 bytes. -/
def decimalLoop : ℕ → ℕ → Bytes → Bytes
  | 0, _, buf => buf
  | i + 1, v, buf =>
    let buf := UInt8.ofNat (48 + v % 10) :: buf
    if v / 10 = 0 then buf else decimalLoop i (v / 10) buf

def pushDecimal (v : ℕ) : Bytes := decimalLoop 39 v []

/-- The zeros `push_padded` puts before a number of fewer digits; `p` starts at `10^k`. -/
def paddingLoop : ℕ → ℕ → Bytes
  | 0, _ => []
  | k + 1, v => if v < 10 ^ (k + 1) then 48 :: paddingLoop k v else []

def pushPadded (v width : ℕ) : Bytes := paddingLoop (width - 1) v ++ pushDecimal v

/-- `push_utc`: unix seconds as "YYYY-MM-DD HH:MM:SS UTC", by the civil calendar of days. -/
def pushUtc (unix : ℕ) : Bytes :=
  let days := unix / 86400
  let sod := unix % 86400
  let z := days + 719468
  let era := z / 146097
  let doe := z - era * 146097
  let yoe := (doe - doe / 1460 + doe / 36524 - doe / 146096) / 365
  let doy := doe - (365 * yoe + yoe / 4 - yoe / 100)
  let mp := (5 * doy + 2) / 153
  let d := doy - (153 * mp + 2) / 5 + 1
  let mo := if mp < 10 then mp + 3 else mp - 9
  let y := yoe + era * 400 + if mo ≤ 2 then 1 else 0
  pushPadded y 4 ++ ascii "-" ++ pushPadded mo 2 ++ ascii "-" ++ pushPadded d 2 ++ ascii " " ++
    pushPadded (sod / 3600) 2 ++ ascii ":" ++ pushPadded (sod % 3600 / 60) 2 ++ ascii ":" ++
    pushPadded (sod % 60) 2 ++ ascii " UTC"

/-- A lowercase hex digit. -/
def hexDigit (n : ℕ) : UInt8 := if n < 10 then UInt8.ofNat (48 + n) else UInt8.ofNat (87 + n)

/-- `hex_0x_lower`: "0x" and 64 digits. -/
def hex0xLower (b : BytesN32) : Bytes :=
  ascii "0x" ++ (Eip712.toArray b).flatMap fun byte =>
    [hexDigit (byte.toNat / 16), hexDigit (byte.toNat % 16)]

namespace KeyMessage

def heading : KeyMessage → Bytes
  | register .. => REGISTER_HEADING
  | revoke .. => REVOKE_HEADING
  | cancel .. => CANCEL_HEADING
  | retire .. => RETIRE_HEADING
  | approveMaker _ true _ _ => APPROVE_MAKER_HEADING
  | approveMaker _ false _ _ => WITHDRAW_MAKER_HEADING
  | repin .. => REPIN_HEADING

/-- The lines that name what the message is about. -/
def subjectLines : KeyMessage → Bytes
  | register keyCommitment _ _ | retire keyCommitment _ =>
    ascii "\nKey fingerprint: " ++ hex0xLower keyCommitment
  | approveMaker maker _ _ _ => ascii "\nMaker: " ++ hex0xLower maker
  | repin orderHash fromSlot toSlot _ =>
    ascii "\nOrder: " ++ hex0xLower orderHash ++
      (ascii "\nFrom slot: " ++ pushDecimal fromSlot.toNat) ++
      (ascii "\nTo slot: " ++ pushDecimal toSlot.toNat)
  | revoke .. | cancel .. => []

/-- The deadline's line, for the messages that have one. -/
def deadlineLine : KeyMessage → Bytes
  | register _ _ deadline | approveMaker _ _ _ deadline =>
    ascii "\nValid until: " ++ pushUtc deadline.toNat ++
      (ascii " (" ++ pushDecimal deadline.toNat ++ ascii ")")
  | _ => []

end KeyMessage

def KeyLeg.line (l : KeyLeg) : Bytes :=
  ascii "\nChain " ++ pushDecimal l.chainId.toNat ++
    (ascii ", registry " ++ hex0xLower l.registry) ++
    (ascii ", nonce " ++ pushDecimal l.nonce.toNat)

/-- After the blank line: the new date of a retirement, or every registry named. -/
def KeyMessage.tail (legs : List KeyLeg) : KeyMessage → Bytes
  | .retire _ validUntil => ascii "\nValid until: " ++ pushDecimal validUntil.toNat
  | _ => legs.flatMap KeyLeg.line

/-- Lines joined by a line feed. -/
def text (keysEnv : Bytes) (account : BytesN32) (legs : List KeyLeg) (msg : KeyMessage) : Bytes :=
  msg.heading ++ (ascii "\n\nNetwork: " ++ keysEnv) ++ (ascii "\nAccount: " ++ hex0xLower account)
    ++ msg.subjectLines ++ msg.deadlineLine ++ ascii "\n" ++ msg.tail legs

/-! ## The checks -/

section Checks

variable (H : KeyHost) (config : KeysConfig)

/-- The nonce a message needs its own leg to carry; a retirement has none. -/
def KeyMessage.nonce? : KeyMessage → Option U64
  | register _ nonce _ | revoke nonce | cancel nonce | approveMaker _ _ nonce _
  | repin _ _ _ nonce => some nonce
  | retire .. => none

/-- A leg that names this registry, whatever its nonce. -/
def KeyLeg.isMine (l : KeyLeg) : Bool :=
  l.chainId = config.chainId && l.registry = H.contractId

/-- `check_legs`: exactly one entry names this registry, and it carries the current nonce; a
retirement names none. -/
def checkLegs (legs : List KeyLeg) (msg : KeyMessage) : Check RegistryError Unit :=
  match msg.nonce? with
  | none => Check.require (legs = []) .legMismatch
  | some nonce =>
    match legs.filter (KeyLeg.isMine H config) with
    | [l] => Check.require (l.nonce = nonce) .legMismatch
    | _ => .error (.error .legMismatch)

/-- `account` must be 12 zero bytes and the address recovered from the EIP-712 digest. -/
def checkSecp256k1 (account : BytesN32) (legs : List KeyLeg) (msg : KeyMessage)
    (sig : BytesN 65) : Check RegistryError Unit := do
  Check.require (account >>> 160 = 0) .ownerMismatch
  let digest := H.keccak256 (typedKeyData H.toHost config.domain account legs msg)
  let rs : BytesN 64 := ⟨sig.1.take 64, by rw [List.length_take, sig.2]; rfl⟩
  let recovered ← recoverEvmAddress H digest rs (sig.1.getD 64 0).toNat
  let addr ← Check.expect recovered .ownerMismatch
  Check.require (addr = account.setWidth 160) .ownerMismatch

/-- `account` is the raw ed25519 key, never a padded EVM shape; a wrong signature stops the call
in the host. -/
def checkSep53 (account : BytesN32) (legs : List KeyLeg) (msg : KeyMessage)
    (sig : BytesN 64) : Check RegistryError Unit := do
  Check.require (account >>> 160 ≠ 0) .ownerMismatch
  let payload := H.sha256 (SEP53_PREFIX ++ text config.keysEnv account legs msg)
  Check.demand (H.ed25519Verify account (Eip712.toArray payload) sig = true) .callFailed

def checkOwner (env : Env) (account : BytesN32) (owner : OwnerAuth) (msg : KeyMessage) :
    Check RegistryError Unit :=
  match owner with
  | .stellar addr => do
    Check.demand (env.authorized addr = true) .unauthorized
    Check.require (addressToBytes32 addr = account) .ownerMismatch
  | .signed s => do
    checkLegs H config s.legs msg
    match s.sig with
    | .secp256k1 sig => checkSecp256k1 H config account s.legs msg sig
    | .sep53 sig => checkSep53 H config account s.legs msg sig

end Checks

end KeyRegistry
end ProofBridge
