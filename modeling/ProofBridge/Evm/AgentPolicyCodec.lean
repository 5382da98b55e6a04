import ProofBridge.Evm.Calldata

/-!
# The canonical bytes of an agent policy

The EVM module never stores a policy: it derives every row from the owner's bytes and keeps their
hash, so the bytes of a policy must be one string. `parse` walks them once by position. A `Policy`
carries what makes it one (bounds, order, widths); `encode` is its layout, and the two sections at the
end say that `parse` takes exactly what `encode` gives and `decode` gives the policy back.
-/

namespace ProofBridge
namespace Evm
namespace AgentPolicyCodec

open ContractLib
open ContractLib.Layout (At bigEndian ofBytes)

inductive CodecError
  | badDomain
  | badTokenCount (count : UInt8)
  | badOrderTokenCount (count : UInt8)
  | zeroToken
  | badAdScope
  | notAscending
  | trailingBytes (got want : ℕ)
  | limitTooWide
  | unknownAction (id : UInt8)
  | zeroSettlementSigner
  deriving DecidableEq, Repr

def DOMAIN (P : Primitives) : BytesN32 := P.keccak256 (bytesOf "ProofBridge.AgentPolicy.v3")

def ACTION_LOCK_FOR_ORDER : UInt8 := 1
def MAX_WHITELIST_TOKENS : UInt8 := 16
def MAX_AD_SCOPE : UInt8 := 16
def MAX_AD_ID_BYTES : ℕ := 512
def ROW_BYTES : ℕ := 128

structure TokenRow where
  token : BytesN32
  maxPerOrder : Uint256
  capacity : Uint256
  refillPerSecond : Uint256
  deriving DecidableEq, Repr

/-- A policy, decoded whole. -/
structure Decoded where
  settlementSigner : BytesN32
  validUntil : U64
  adScopeAll : Bool
  actionId : UInt8
  adTokens : List TokenRow
  orderTokens : List BytesN32
  adScopeHashes : List BytesN32
  deriving DecidableEq, Repr

/-- Where each section starts. -/
structure View where
  actionId : UInt8
  tokensAt : ℕ
  tokenCount : UInt8
  orderTokensAt : ℕ
  orderTokenCount : UInt8
  adScopeAll : Bool
  adScopeCount : UInt8
  adScopeAt : ℕ
  validUntil : U64
  settlementSigner : BytesN32
  deriving DecidableEq, Repr

/-! ## The order of ad ids -/

/-- `bytes32(a[i:i + 32 > a.length ? a.length : i + 32])`, a short end padded with zeros. -/
def paddedWord (a : Bytes) (i : ℕ) : ℕ :=
  let x := (a.drop i).take (min (i + 32) a.length - i)
  ofBytes (x ++ List.replicate (32 - x.length) 0)

/-- The loop of `_lessThan`; `rounds` is as many words as may still be looked at. -/
def lessThanLoop (a b : Bytes) : (rounds i : ℕ) → Bool
  | 0, _ => a.length < b.length
  | rounds + 1, i =>
    if i < min a.length b.length then
      if paddedWord a i ≠ paddedWord b i then paddedWord a i < paddedWord b i
      else lessThanLoop a b rounds (i + 32)
    else a.length < b.length

def lessThan (a b : Bytes) : Bool := lessThanLoop a b (min a.length b.length) 0

/-! ## `parse` -/

section Parse

variable (P : Primitives) (policy : Bytes)

/-- Non-zero, and strictly above the previous entry of the same list. -/
def checkToken (token prevToken : BytesN32) (i : ℕ) : Check CodecError Unit := do
  Check.require (token ≠ 0) .zeroToken
  Check.require (¬(i > 0 ∧ token ≤ prevToken)) .notAscending

/-- A row's limits, from field `f` on. -/
def limitLoop (rowAt : ℕ) : (fields f : ℕ) → Check CodecError Unit
  | 0, _ => pure ()
  | fields + 1, f => do
    let limit ← wordAt policy (rowAt + f * 32)
    Check.require (limit.toNat < 2 ^ 128) .limitTooWide
    limitLoop rowAt fields (f + 1)

/-- The ad tokens' rows, from row `i` on. -/
def adTokenLoop (pos : ℕ) : (rows i : ℕ) → (prevToken : BytesN32) → Check CodecError Unit
  | 0, _, _ => pure ()
  | rows + 1, i, prevToken => do
    let token ← wordAt policy (pos + i * ROW_BYTES)
    checkToken token prevToken i
    limitLoop policy (pos + i * ROW_BYTES) 3 1
    adTokenLoop pos rows (i + 1) token

/-- The order tokens, from entry `i` on. -/
def orderTokenLoop (pos : ℕ) : (entries i : ℕ) → (prevToken : BytesN32) → Check CodecError Unit
  | 0, _, _ => pure ()
  | entries + 1, i, prevToken => do
    let token ← wordAt policy (pos + i * 32)
    checkToken token prevToken i
    orderTokenLoop pos entries (i + 1) token

/-- A scope names every ad, or says how many it lists. -/
def checkScope (kind count : UInt8) : Check CodecError Bool :=
  if kind = 0 then do
    Check.require (count = 0) .badAdScope
    pure true
  else if kind = 1 then do
    Check.require (count ≠ 0 ∧ count ≤ MAX_AD_SCOPE) .badAdScope
    pure false
  else .error (.error .badAdScope)

/-- An id after the first is above the one before it. -/
def checkAscending (i prevAt prevLen pos len : ℕ) : Check CodecError Unit :=
  if i > 0 then do
    let previous ← sliceOf policy prevAt (prevAt + prevLen)
    let id ← sliceOf policy pos (pos + len)
    Check.require (lessThan previous id = true) .notAscending
  else pure ()

/-- The ids of a scope, from entry `i` on; where the last one ends. -/
def adScopeLoop : (entries i pos prevAt prevLen : ℕ) → Check CodecError ℕ
  | 0, _, pos, _, _ => pure pos
  | entries + 1, i, pos, prevAt, prevLen => do
    let len ← numberAt policy pos 2
    Check.require (len ≠ 0 ∧ len ≤ MAX_AD_ID_BYTES) .badAdScope
    checkAscending policy i prevAt prevLen (pos + 2) len
    adScopeLoop entries (i + 1) (pos + 2 + len) (pos + 2) len

/-- Walk the policy once, checking every bound and the order of every list. -/
def parse : Check CodecError View := do
  Check.require (32 ≤ policy.length) .badDomain
  let domain ← wordAt policy 0
  Check.require (domain = DOMAIN P) .badDomain
  let actionId ← byteAt policy 32
  Check.require (actionId = ACTION_LOCK_FOR_ORDER) (.unknownAction actionId)
  let tokenCount ← byteAt policy 33
  Check.require (tokenCount ≠ 0 ∧ tokenCount ≤ MAX_WHITELIST_TOKENS) (.badTokenCount tokenCount)
  let tokensAt := 34
  adTokenLoop policy tokensAt tokenCount.toNat 0 0
  let pos := tokensAt + tokenCount.toNat * ROW_BYTES
  let orderTokenCount ← byteAt policy pos
  Check.require (orderTokenCount ≠ 0 ∧ orderTokenCount ≤ MAX_WHITELIST_TOKENS)
    (.badOrderTokenCount orderTokenCount)
  let orderTokensAt := pos + 1
  orderTokenLoop policy orderTokensAt orderTokenCount.toNat 0 0
  let pos := orderTokensAt + orderTokenCount.toNat * 32
  let kind ← byteAt policy pos
  let adScopeCount ← byteAt policy (pos + 1)
  let adScopeAt := pos + 2
  let adScopeAll ← checkScope kind adScopeCount
  let pos ← adScopeLoop policy adScopeCount.toNat 0 adScopeAt 0 0
  let validUntil ← numberAt policy pos 8
  let settlementSigner ← wordAt policy (pos + 8)
  Check.require (settlementSigner ≠ 0) .zeroSettlementSigner
  Check.require (pos + 8 + 32 = policy.length) (.trailingBytes policy.length (pos + 8 + 32))
  pure
    { actionId, tokensAt, tokenCount, orderTokensAt, orderTokenCount, adScopeAll, adScopeCount,
      adScopeAt, validUntil := BitVec.ofNat 64 validUntil, settlementSigner }

/-! ## `decode` -/

def tokenRowAt (v : View) (i : ℕ) : Check CodecError TokenRow := do
  let token ← wordAt policy (v.tokensAt + i * ROW_BYTES)
  let maxPerOrder ← wordAt policy (v.tokensAt + i * ROW_BYTES + 32)
  let capacity ← wordAt policy (v.tokensAt + i * ROW_BYTES + 64)
  let refillPerSecond ← wordAt policy (v.tokensAt + i * ROW_BYTES + 96)
  pure { token, maxPerOrder, capacity, refillPerSecond }

def orderTokenAt (v : View) (i : ℕ) : Check CodecError BytesN32 :=
  wordAt policy (v.orderTokensAt + i * 32)

/-- The hashes of the ids of a scope whose next entry is at `pos`. -/
def adScopeHashLoop : (entries pos : ℕ) → Check CodecError (List BytesN32)
  | 0, _ => pure []
  | entries + 1, pos => do
    let len ← numberAt policy pos 2
    let id ← sliceOf policy (pos + 2) (pos + 2 + len)
    let rest ← adScopeHashLoop entries (pos + 2 + len)
    pure (P.keccak256 id :: rest)

def adScopeHashes (v : View) : Check CodecError (List BytesN32) :=
  adScopeHashLoop P policy v.adScopeCount.toNat v.adScopeAt

/-- What `read` gives from `i` on, in order. -/
def readFrom {α : Type} (read : ℕ → Check CodecError α) : (entries i : ℕ) → Check CodecError (List α)
  | 0, _ => pure []
  | entries + 1, i => do
    let a ← read i
    let rest ← readFrom read entries (i + 1)
    pure (a :: rest)

def decode : Check CodecError Decoded := do
  let v ← parse P policy
  let adTokens ← readFrom (tokenRowAt policy v) v.tokenCount.toNat 0
  let orderTokens ← readFrom (orderTokenAt policy v) v.orderTokenCount.toNat 0
  let hashes ← adScopeHashes P policy v
  pure
    { settlementSigner := v.settlementSigner, validUntil := v.validUntil,
      adScopeAll := v.adScopeAll, actionId := v.actionId, adTokens, orderTokens,
      adScopeHashes := hashes }

end Parse

/-! ## A policy and its layout -/

/-- The limits are the other chain's 128-bit ones. -/
structure TokenRow.Fits (row : TokenRow) : Prop where
  maxPerOrder : row.maxPerOrder.toNat < 2 ^ 128
  capacity : row.capacity.toNat < 2 ^ 128
  refillPerSecond : row.refillPerSecond.toNat < 2 ^ 128

/-- Every ad of the account, or the ads listed. -/
inductive AdScope
  | all
  | only (ids : List Bytes)
  deriving DecidableEq, Repr

namespace AdScope

def ids : AdScope → List Bytes
  | all => []
  | only ids => ids

def isAll : AdScope → Bool
  | all => true
  | only _ => false

/-- A list names at least one ad and at most sixteen, each id in its bounds, in ascending order. -/
def Fits : AdScope → Prop
  | all => True
  | only ids => ids ≠ [] ∧ ids.length ≤ MAX_AD_SCOPE.toNat ∧
      (∀ id ∈ ids, id ≠ [] ∧ id.length ≤ MAX_AD_ID_BYTES) ∧ ids.Pairwise (· < ·)

end AdScope

/-- A list of tokens: some but not too many, none of them zero, in ascending order. -/
structure Whitelist (tokens : List BytesN32) : Prop where
  nonempty : tokens ≠ []
  bounded : tokens.length ≤ MAX_WHITELIST_TOKENS.toNat
  nonzero : ∀ token ∈ tokens, token ≠ 0
  ascending : tokens.Pairwise (· < ·)

/-- A policy whose owner can state it in one way only. -/
structure Policy where
  adTokens : List TokenRow
  orderTokens : List BytesN32
  adScope : AdScope
  validUntil : U64
  settlementSigner : BytesN32
  adTokens_listed : Whitelist (adTokens.map TokenRow.token)
  adTokens_fit : ∀ row ∈ adTokens, row.Fits
  orderTokens_listed : Whitelist orderTokens
  adScope_fits : adScope.Fits
  signer_nonzero : settlementSigner ≠ 0

def encodeRow (row : TokenRow) : Bytes :=
  encodeWord row.token ++ encodeWord row.maxPerOrder ++ encodeWord row.capacity ++
    encodeWord row.refillPerSecond

def encodeId (id : Bytes) : Bytes := bigEndian 2 id.length ++ id

def encodeScope : AdScope → Bytes
  | .all => [0, 0]
  | .only ids => [1, UInt8.ofNat ids.length] ++ ids.flatMap encodeId

/-- The layout: big-endian, no padding. -/
def encode (P : Primitives) (p : Policy) : Bytes :=
  encodeWord (DOMAIN P) ++ [ACTION_LOCK_FOR_ORDER] ++
    [UInt8.ofNat p.adTokens.length] ++ p.adTokens.flatMap encodeRow ++
    [UInt8.ofNat p.orderTokens.length] ++ p.orderTokens.flatMap encodeWord ++
    encodeScope p.adScope ++ bigEndian 8 p.validUntil.toNat ++ encodeWord p.settlementSigner

/-- Where the sections of a policy's bytes start. -/
def view (p : Policy) : View where
  actionId := ACTION_LOCK_FOR_ORDER
  tokensAt := 34
  tokenCount := UInt8.ofNat p.adTokens.length
  orderTokensAt := 34 + p.adTokens.length * ROW_BYTES + 1
  orderTokenCount := UInt8.ofNat p.orderTokens.length
  adScopeAll := p.adScope.isAll
  adScopeCount := UInt8.ofNat p.adScope.ids.length
  adScopeAt := 34 + p.adTokens.length * ROW_BYTES + 1 + p.orderTokens.length * 32 + 2
  validUntil := p.validUntil
  settlementSigner := p.settlementSigner

/-- The policy as the module takes it: of an ad id it keeps the hash. -/
def Policy.decoded (P : Primitives) (p : Policy) : Decoded where
  settlementSigner := p.settlementSigner
  validUntil := p.validUntil
  adScopeAll := p.adScope.isAll
  actionId := ACTION_LOCK_FOR_ORDER
  adTokens := p.adTokens
  orderTokens := p.orderTokens
  adScopeHashes := p.adScope.ids.map P.keccak256

@[simp] theorem length_encodeRow {row : TokenRow} : (encodeRow row).length = ROW_BYTES := by
  simp only [encodeRow, List.length_append, length_encodeWord]
  rfl

/-! ## The order of ad ids is the lexicographic one -/

section Order

variable {a b : Bytes} {i : ℕ}

theorem paddedWord_eq (h : i < a.length) : paddedWord a i = Layout.wordFrom a i 32 := by
  unfold paddedWord Layout.wordFrom
  dsimp only
  congr 1
  apply List.ext_getElem
  · simp only [List.length_append, List.length_take, List.length_drop, List.length_replicate,
      List.length_map, List.length_range]
    omega
  · intro k hk hk'
    rw [List.length_map, List.length_range] at hk'
    rw [List.getElem_map, List.getElem_range, List.getElem_append]
    split
    · next hin =>
      rw [List.length_take, List.length_drop] at hin
      rw [List.getElem_take, List.getElem_drop, List.getD_eq_getElem]
    · next hout =>
      rw [List.length_take, List.length_drop] at hout
      rw [List.getElem_replicate, List.getD_eq_default _ _ (by omega)]

/-- The loop goes on where the strings have not differed yet. -/
theorem lessThanLoop_iff {rounds : ℕ} (h : min a.length b.length ≤ i + 32 * rounds) :
    lessThanLoop a b rounds i = true ↔
      Layout.Before i a b ∨ Layout.Same i a b ∧ a.length < b.length := by
  induction rounds generalizing i with
  | zero =>
    rw [Layout.before_or_same_iff (by omega)]
    exact decide_eq_true_iff
  | succ rounds ih =>
    unfold lessThanLoop
    split
    · next hi =>
      rw [paddedWord_eq (by omega), paddedWord_eq (by omega), Layout.before_iff (m := 32),
        Layout.same_iff (m := 32)]
      split
      · next hne => simp [hne]
      · next heq =>
        rw [not_not] at heq
        rw [ih (by omega)]
        simp [heq]
    · next hi =>
      rw [Layout.before_or_same_iff (by omega)]
      exact decide_eq_true_iff

/-- `_lessThan` is the strict lexicographic order, whatever the lengths and the bytes. -/
theorem lessThan_iff : lessThan a b = true ↔ a < b := by
  rw [lessThan, lessThanLoop_iff (by omega), ← Layout.lt_iff_before]

end Order

/-! ## What each section takes -/

section Sections

variable {policy : Bytes} {pos i n : ℕ}

/-- With the zero a list starts from, non-zero is above the previous entry too. -/
theorem checkToken_ok {token prevToken : BytesN32} {u : Unit} (hfirst : i = 0 → prevToken = 0) :
    checkToken token prevToken i = .ok u ↔ prevToken < token := by
  rw [checkToken, Check.bind_ok]
  simp only [Check.require_ok, exists_const]
  rcases Nat.eq_zero_or_pos i with hzero | hpos
  · have hpositive : (0 : BytesN32) < token ↔ token ≠ 0 := BitVec.pos_iff_ne_zero token
    rw [hfirst hzero, hpositive, and_iff_left_iff_imp]
    rintro - ⟨hi, -⟩
    omega
  · rw [BitVec.lt_def, BitVec.le_def]
    constructor
    · rintro ⟨-, habove⟩
      by_contra hnot
      exact habove ⟨hpos, by omega⟩
    · intro hlt
      refine ⟨?_, fun ⟨_, hle⟩ => absurd hle (by omega)⟩
      rintro rfl
      exact absurd hlt (Nat.not_lt_zero _)

theorem limitLoop_ok {u : Unit} : limitLoop policy pos 3 1 = .ok u ↔
    ∃ maxPerOrder capacity refillPerSecond : Uint256,
      (maxPerOrder.toNat < 2 ^ 128 ∧ capacity.toNat < 2 ^ 128 ∧ refillPerSecond.toNat < 2 ^ 128) ∧
        At policy (pos + 32) (encodeWord maxPerOrder) ∧
        At policy (pos + 64) (encodeWord capacity) ∧
        At policy (pos + 96) (encodeWord refillPerSecond) := by
  simp only [limitLoop, Check.bind_ok, wordAt_ok, Check.require_ok, Check.pure_ok, exists_const]
  constructor
  · rintro ⟨m, hm, hmFits, c, hc, hcFits, r, hr, hrFits, -⟩
    exact ⟨m, c, r, ⟨hmFits, hcFits, hrFits⟩, hm, hc, hr⟩
  · rintro ⟨m, c, r, ⟨hmFits, hcFits, hrFits⟩, hm, hc, hr⟩
    exact ⟨m, hm, hmFits, c, hc, hcFits, r, hr, hrFits, trivial⟩

theorem at_encodeRow {row : TokenRow} : At policy pos (encodeRow row) ↔
    At policy pos (encodeWord row.token) ∧ At policy (pos + 32) (encodeWord row.maxPerOrder) ∧
      At policy (pos + 64) (encodeWord row.capacity) ∧
      At policy (pos + 96) (encodeWord row.refillPerSecond) := by
  simp only [encodeRow, Layout.at_append, List.length_append, length_encodeWord, and_assoc]

theorem adTokenLoop_ok {prevToken : BytesN32} {u : Unit} (hfirst : i = 0 → prevToken = 0) :
    adTokenLoop policy pos n i prevToken = .ok u ↔ ∃ rows : List TokenRow, rows.length = n ∧
      (prevToken :: rows.map TokenRow.token).IsChain (· < ·) ∧ (∀ row ∈ rows, row.Fits) ∧
      At policy (pos + i * ROW_BYTES) (rows.flatMap encodeRow) := by
  induction n generalizing i prevToken with
  | zero =>
    refine ⟨fun _ => ⟨[], rfl, List.isChain_singleton _, ?_, Layout.at_nil⟩, fun _ => rfl⟩
    intro row hrow
    cases hrow
  | succ n ih =>
    have hnext : pos + i * ROW_BYTES + ROW_BYTES = pos + (i + 1) * ROW_BYTES := by ring
    rw [adTokenLoop]
    simp only [Check.bind_ok, wordAt_ok, checkToken_ok hfirst, limitLoop_ok, exists_const,
      ih (i := i + 1) (fun h => absurd h i.succ_ne_zero)]
    constructor
    · rintro ⟨token, htoken, habove, ⟨m, c, r, ⟨hm, hc, hr⟩, hlimits⟩, rows, rfl, hchain, hfits,
        hat⟩
      refine ⟨⟨token, m, c, r⟩ :: rows, rfl, ?_, ?_, ?_⟩
      · exact List.isChain_cons_cons.mpr ⟨habove, hchain⟩
      · exact List.forall_mem_cons.mpr ⟨⟨hm, hc, hr⟩, hfits⟩
      · rw [List.flatMap_cons, Layout.at_append, length_encodeRow, hnext]
        exact ⟨at_encodeRow.mpr ⟨htoken, hlimits⟩, hat⟩
    · rintro ⟨rows, hlen, hchain, hfits, hat⟩
      cases rows with
      | nil => cases hlen
      | cons row rows =>
        rw [List.flatMap_cons, Layout.at_append, length_encodeRow, hnext] at hat
        obtain ⟨habove, hchain⟩ := List.isChain_cons_cons.mp hchain
        obtain ⟨hrow, hfits⟩ := List.forall_mem_cons.mp hfits
        obtain ⟨htoken, hlimits⟩ := at_encodeRow.mp hat.1
        exact ⟨row.token, htoken, habove,
          ⟨_, _, _, ⟨hrow.maxPerOrder, hrow.capacity, hrow.refillPerSecond⟩, hlimits⟩,
          rows, Nat.succ.inj hlen, hchain, hfits, hat.2⟩

theorem orderTokenLoop_ok {prevToken : BytesN32} {u : Unit} (hfirst : i = 0 → prevToken = 0) :
    orderTokenLoop policy pos n i prevToken = .ok u ↔ ∃ tokens : List BytesN32,
      tokens.length = n ∧ (prevToken :: tokens).IsChain (· < ·) ∧
      At policy (pos + i * 32) (tokens.flatMap encodeWord) := by
  induction n generalizing i prevToken with
  | zero =>
    exact ⟨fun _ => ⟨[], rfl, List.isChain_singleton _, Layout.at_nil⟩, fun _ => rfl⟩
  | succ n ih =>
    have hnext : pos + i * 32 + 32 = pos + (i + 1) * 32 := by ring
    rw [orderTokenLoop]
    simp only [Check.bind_ok, wordAt_ok, checkToken_ok hfirst, exists_const,
      ih (i := i + 1) (fun h => absurd h i.succ_ne_zero)]
    constructor
    · rintro ⟨token, htoken, habove, tokens, rfl, hchain, hat⟩
      refine ⟨token :: tokens, rfl, List.isChain_cons_cons.mpr ⟨habove, hchain⟩, ?_⟩
      rw [List.flatMap_cons, Layout.at_append, length_encodeWord, hnext]
      exact ⟨htoken, hat⟩
    · rintro ⟨tokens, hlen, hchain, hat⟩
      cases tokens with
      | nil => cases hlen
      | cons token tokens =>
        rw [List.flatMap_cons, Layout.at_append, length_encodeWord, hnext] at hat
        obtain ⟨habove, hchain⟩ := List.isChain_cons_cons.mp hchain
        exact ⟨token, hat.1, habove, tokens, Nat.succ.inj hlen, hchain, hat.2⟩

theorem checkScope_ok {kind count : UInt8} {all : Bool} : checkScope kind count = .ok all ↔
    kind = 0 ∧ count = 0 ∧ all = true ∨
      kind = 1 ∧ (count ≠ 0 ∧ count ≤ MAX_AD_SCOPE) ∧ all = false := by
  unfold checkScope
  split
  · next hkind =>
    simp only [Check.bind_ok, Check.require_ok, Check.pure_ok, exists_const, hkind]
    simp
  · next hkind =>
    split
    · next hone =>
      simp only [Check.bind_ok, Check.require_ok, Check.pure_ok, exists_const, hone]
      simp
    · next hone => simp [hkind, hone]

/-- With the empty string a scope starts from, an id that is not empty is above the previous one. -/
theorem checkAscending_ok {prevAt prevLen : ℕ} {previous id : Bytes} {u : Unit}
    (hfirst : i = 0 → previous = []) (hid : id ≠ []) (hat : At policy pos id)
    (hprevious : i > 0 → prevLen = previous.length ∧ previous ≠ [] ∧ At policy prevAt previous) :
    checkAscending policy i prevAt prevLen pos id.length = .ok u ↔ previous < id := by
  unfold checkAscending
  split
  · next hi =>
    obtain ⟨rfl, hne, hprevAt⟩ := hprevious hi
    have hread : (sliceOf policy prevAt (prevAt + previous.length) : Check CodecError Bytes) = .ok previous :=
      sliceOf_ok.mpr ⟨rfl, hprevAt, hprevAt.le_length hne⟩
    have hread' : (sliceOf policy pos (pos + id.length) : Check CodecError Bytes) = .ok id :=
      sliceOf_ok.mpr ⟨rfl, hat, hat.le_length hid⟩
    rw [hread, Check.ok_bind, hread', Check.ok_bind, Check.require_ok, lessThan_iff]
  · next hi =>
    rw [hfirst (by omega)]
    obtain ⟨b, l, rfl⟩ := List.exists_cons_of_ne_nil hid
    exact ⟨fun _ => List.nil_lt_cons b l, fun _ => rfl⟩

theorem adScopeLoop_le {prevAt prevLen next : ℕ}
    (h : adScopeLoop policy n i pos prevAt prevLen = .ok next) : pos ≤ next := by
  induction n generalizing i pos prevAt prevLen with
  | zero =>
    obtain rfl := Check.pure_ok.mp h
    exact le_rfl
  | succ n ih =>
    rw [adScopeLoop] at h
    simp only [Check.bind_ok] at h
    obtain ⟨len, -, -, -, -, -, hrest⟩ := h
    have := ih hrest
    omega

theorem length_encodeId {id : Bytes} : (encodeId id).length = 2 + id.length := by
  rw [encodeId, List.length_append, Layout.length_bigEndian]

/-- The ids of a scope, once it is known that the bytes do not end before they do: nothing else looks
at the bytes of a first id. -/
theorem adScopeLoop_ok {prevAt prevLen next : ℕ} {p : Bytes} (hnext : next ≤ policy.length)
    (hfirst : i = 0 → p = [])
    (hprevious : i > 0 → prevLen = p.length ∧ p ≠ [] ∧ At policy prevAt p) :
    adScopeLoop policy n i pos prevAt prevLen = .ok next ↔ ∃ ids : List Bytes, ids.length = n ∧
      (p :: ids).IsChain (· < ·) ∧ (∀ id ∈ ids, id ≠ [] ∧ id.length ≤ MAX_AD_ID_BYTES) ∧
      At policy pos (ids.flatMap encodeId) ∧ next = pos + (ids.flatMap encodeId).length := by
  induction n generalizing i pos prevAt prevLen p with
  | zero =>
    rw [adScopeLoop, Check.pure_ok]
    constructor
    · rintro rfl
      refine ⟨[], rfl, List.isChain_singleton _, ?_, Layout.at_nil, rfl⟩
      intro id hid
      cases hid
    · rintro ⟨ids, hlen, -, -, -, hend⟩
      rw [List.eq_nil_of_length_eq_zero hlen] at hend
      exact hend
  | succ n ih =>
    rw [adScopeLoop]
    simp only [Check.bind_ok, Check.require_ok, exists_const, numberAt_ok two_pos]
    constructor
    · rintro ⟨len, ⟨-, hlen⟩, ⟨hpos, hmax⟩, _, hascending, hrest⟩
      have hle := adScopeLoop_le hrest
      -- the bytes go on past this id, so it can be cut out
      obtain ⟨id, hid⟩ : ∃ id, Layout.slice policy (pos + 2) (pos + 2 + len) = some id := by
        unfold Layout.slice
        rw [if_pos (by omega)]
        exact ⟨_, rfl⟩
      obtain ⟨rfl, hat⟩ := (Layout.slice_eq_some (Nat.pos_of_ne_zero hpos)).mp hid
      have hne : id ≠ [] := fun hnil => hpos (by rw [hnil]; rfl)
      have habove := (checkAscending_ok hfirst hne hat hprevious).mp hascending
      obtain ⟨ids, rfl, hchain, hfits, hats, rfl⟩ :=
        (ih (fun h => absurd h i.succ_ne_zero) fun _ => ⟨rfl, hne, hat⟩).mp hrest
      refine ⟨id :: ids, rfl, List.isChain_cons_cons.mpr ⟨habove, hchain⟩,
        List.forall_mem_cons.mpr ⟨⟨hne, hmax⟩, hfits⟩, ?_, ?_⟩
      · rw [List.flatMap_cons, Layout.at_append, length_encodeId, encodeId, Layout.at_append,
          Layout.length_bigEndian, ← Nat.add_assoc]
        exact ⟨⟨hlen, hat⟩, hats⟩
      · rw [List.flatMap_cons, List.length_append, length_encodeId]
        ring
    · rintro ⟨ids, hlen, hchain, hfits, hat, hend⟩
      cases ids with
      | nil => cases hlen
      | cons id ids =>
        rw [List.flatMap_cons, Layout.at_append, length_encodeId, encodeId, Layout.at_append,
          Layout.length_bigEndian, ← Nat.add_assoc] at hat
        obtain ⟨habove, hchain⟩ := List.isChain_cons_cons.mp hchain
        obtain ⟨⟨hne, hmax⟩, hfits⟩ := List.forall_mem_cons.mp hfits
        obtain ⟨⟨hlenAt, hidAt⟩, hats⟩ := hat
        have hpos := List.length_pos_of_ne_nil hne
        refine ⟨id.length, ⟨?_, hlenAt⟩, ⟨hpos.ne', hmax⟩, (), ?_, ?_⟩
        · exact lt_of_le_of_lt hmax (by decide)
        · exact (checkAscending_ok hfirst hne hidAt hprevious).mpr habove
        · refine (ih (fun h => absurd h i.succ_ne_zero) fun _ => ⟨rfl, hne, hidAt⟩).mpr
            ⟨ids, Nat.succ.inj hlen, hchain, hfits, hats, ?_⟩
          rw [hend, List.flatMap_cons, List.length_append, length_encodeId]
          ring

end Sections

/-! ## What `parse` takes -/

section Canonical

variable {P : Primitives} {policy : Bytes} {v : View}

theorem toNat_count {n : ℕ} (h : n ≤ 16) : (UInt8.ofNat n).toNat = n := by
  rw [UInt8.toNat_ofNat']
  omega

theorem ofNat_count {n : ℕ} {count : UInt8} (h : n = count.toNat) : UInt8.ofNat n = count := by
  rw [h, UInt8.ofNat_toNat]

theorem Whitelist.of_chain {tokens : List BytesN32} {count : UInt8}
    (hlen : tokens.length = count.toNat) (hcount : count ≠ 0 ∧ count ≤ MAX_WHITELIST_TOKENS)
    (hchain : ((0 : BytesN32) :: tokens).IsChain (· < ·)) : Whitelist tokens := by
  obtain ⟨hzero, hascending⟩ := List.pairwise_cons.mp (List.isChain_iff_pairwise.mp hchain)
  constructor
  · rintro rfl
    exact hcount.1 (UInt8.toNat_inj.mp hlen.symm)
  · rw [hlen]
    exact hcount.2
  · intro token htoken
    exact (BitVec.pos_iff_ne_zero token).mp (hzero token htoken)
  · exact hascending

theorem Whitelist.chain {tokens : List BytesN32} (h : Whitelist tokens) :
    ((0 : BytesN32) :: tokens).IsChain (· < ·) := by
  apply List.isChain_iff_pairwise.mpr
  refine List.pairwise_cons.mpr ⟨fun token htoken => ?_, h.ascending⟩
  exact (BitVec.pos_iff_ne_zero token).mpr (h.nonzero token htoken)

/-- A list in bounds is counted by a byte. -/
theorem count_listed {n : ℕ} (hpos : n ≠ 0) (hmax : n ≤ 16) :
    UInt8.ofNat n ≠ 0 ∧ UInt8.ofNat n ≤ 16 := by
  have hcount := toNat_count hmax
  constructor
  · intro hzero
    rw [hzero] at hcount
    exact hpos hcount.symm
  · rw [UInt8.le_iff_toNat_le, hcount]
    exact hmax

theorem Whitelist.count {tokens : List BytesN32} (h : Whitelist tokens) :
    UInt8.ofNat tokens.length ≠ 0 ∧ UInt8.ofNat tokens.length ≤ MAX_WHITELIST_TOKENS :=
  count_listed (fun hnil => h.nonempty (List.eq_nil_of_length_eq_zero hnil)) h.bounded

/-- The scope two bytes and a list of ids spell. -/
theorem AdScope.of_checked {kind count : UInt8} {all : Bool} {ids : List Bytes}
    (hcheck : checkScope kind count = .ok all) (hlen : ids.length = count.toNat)
    (hchain : ([] :: ids).IsChain (· < ·))
    (hids : ∀ id ∈ ids, id ≠ [] ∧ id.length ≤ MAX_AD_ID_BYTES) :
    ∃ scope : AdScope, scope.Fits ∧ scope.ids = ids ∧ scope.isAll = all ∧
      encodeScope scope = [kind, count] ++ ids.flatMap encodeId := by
  rcases checkScope_ok.mp hcheck with ⟨rfl, rfl, rfl⟩ | ⟨rfl, hcount, rfl⟩
  · obtain rfl := List.eq_nil_of_length_eq_zero hlen
    exact ⟨.all, trivial, rfl, rfl, rfl⟩
  · refine ⟨.only ids, ⟨?_, ?_, hids, ?_⟩, rfl, rfl, ?_⟩
    · rintro rfl
      exact hcount.1 (UInt8.toNat_inj.mp hlen.symm)
    · rw [hlen]
      exact hcount.2
    · exact (List.pairwise_cons.mp (List.isChain_iff_pairwise.mp hchain)).2
    · rw [encodeScope, ofNat_count hlen]

/-- A scope's two bytes pass the check, and its ids the loop. -/
theorem AdScope.Fits.checked {scope : AdScope} (h : scope.Fits) :
    ∃ kind, checkScope kind (UInt8.ofNat scope.ids.length) = .ok scope.isAll ∧
      encodeScope scope = [kind, UInt8.ofNat scope.ids.length] ++ scope.ids.flatMap encodeId ∧
      scope.ids.length ≤ 16 ∧ ([] :: scope.ids).IsChain (· < ·) ∧
      ∀ id ∈ scope.ids, id ≠ [] ∧ id.length ≤ MAX_AD_ID_BYTES := by
  cases scope with
  | all =>
    refine ⟨0, rfl, rfl, Nat.zero_le _, List.isChain_singleton _, fun id hid => ?_⟩
    cases hid
  | only ids =>
    obtain ⟨hne, hmax, hids, hascending⟩ := h
    refine ⟨1, checkScope_ok.mpr (.inr ⟨rfl, ?_, rfl⟩), rfl, hmax, ?_, hids⟩
    · exact count_listed (fun hnil => hne (List.eq_nil_of_length_eq_zero hnil)) hmax
    · refine List.isChain_iff_pairwise.mpr (List.pairwise_cons.mpr ⟨fun id hid => ?_, hascending⟩)
      obtain ⟨b, l, rfl⟩ := List.exists_cons_of_ne_nil (hids id hid).1
      exact List.nil_lt_cons b l

theorem length_rows {rows : List TokenRow} :
    (rows.flatMap encodeRow).length = rows.length * ROW_BYTES :=
  Layout.length_flatMap fun _ => length_encodeRow

theorem length_tokens {tokens : List BytesN32} :
    (tokens.flatMap encodeWord).length = tokens.length * 32 :=
  Layout.length_flatMap fun _ => length_encodeWord

/-- The sections of a policy's bytes, one behind the other. -/
theorem at_encode {p : Policy} : At policy 0 (encode P p) ↔
    At policy 0 (encodeWord (DOMAIN P)) ∧ At policy 32 [ACTION_LOCK_FOR_ORDER] ∧
      At policy 33 [UInt8.ofNat p.adTokens.length] ∧ At policy 34 (p.adTokens.flatMap encodeRow) ∧
      At policy (34 + p.adTokens.length * ROW_BYTES) [UInt8.ofNat p.orderTokens.length] ∧
      At policy (view p).orderTokensAt (p.orderTokens.flatMap encodeWord) ∧
      At policy ((view p).orderTokensAt + p.orderTokens.length * 32) (encodeScope p.adScope) ∧
      At policy ((view p).orderTokensAt + p.orderTokens.length * 32 + (encodeScope p.adScope).length)
        (bigEndian 8 p.validUntil.toNat) ∧
      At policy
        ((view p).orderTokensAt + p.orderTokens.length * 32 + (encodeScope p.adScope).length + 8)
        (encodeWord p.settlementSigner) := by
  unfold encode view
  simp only [Layout.at_append, List.length_append, length_encodeWord, length_rows, length_tokens,
    List.length_singleton, Layout.length_bigEndian, Nat.zero_add, Nat.reduceAdd, and_assoc,
    ← Nat.add_assoc]

theorem length_encode {p : Policy} : (encode P p).length
    = (view p).orderTokensAt + p.orderTokens.length * 32 + (encodeScope p.adScope).length + 8 + 32 := by
  simp only [encode, view, List.length_append, length_encodeWord, length_rows, length_tokens,
    List.length_singleton, Layout.length_bigEndian, Nat.reduceAdd]

theorem ofNat_lt {value : ℕ} (h : value < 256 ^ 8) : (BitVec.ofNat 64 value).toNat = value := by
  rw [BitVec.toNat_ofNat]
  exact Nat.mod_eq_of_lt (lt_of_lt_of_eq h (by norm_num))

/-- What `parse` accepts is the bytes of a policy. -/
theorem parse_sound (h : parse P policy = .ok v) : ∃ p : Policy, encode P p = policy ∧ v = view p := by
  unfold parse at h
  simp only [Check.bind_ok, wordAt_ok, byteAt_ok, Check.require_ok, Check.pure_ok, exists_const,
    numberAt_ok (by norm_num : 0 < 8)] at h
  obtain ⟨hlong, _, hdomain, rfl, _, haction, rfl, adCount, hadCount, hadBound, _, hrows, orderCount,
    horderCount, horderBound, _, htokens, kind, hkind, scopeCount, hscopeCount, all, hcheck, next,
    hscope, validUntil, ⟨huntil, huntilAt⟩, signer, hsigner, hnonzero, hend, rfl⟩ := h
  obtain ⟨rows, hrowsLen, hrowsChain, hrowsFit, hrowsAt⟩ := (adTokenLoop_ok fun _ => rfl).mp hrows
  obtain ⟨tokens, htokensLen, htokensChain, htokensAt⟩ :=
    (orderTokenLoop_ok fun _ => rfl).mp htokens
  obtain ⟨ids, hidsLen, hidsChain, hidsFit, hidsAt, hidsEnd⟩ :=
    (adScopeLoop_ok (p := []) (by omega) (fun _ => rfl)
      (fun hpos => absurd hpos (lt_irrefl 0))).mp hscope
  obtain ⟨scope, hscopeFits, hscopeIds, hscopeAll, hscopeBytes⟩ :=
    AdScope.of_checked hcheck hidsLen hidsChain hidsFit
  let p : Policy :=
    { adTokens := rows
      orderTokens := tokens
      adScope := scope
      validUntil := BitVec.ofNat 64 validUntil
      settlementSigner := signer
      adTokens_listed := Whitelist.of_chain (by rw [List.length_map, hrowsLen]) hadBound hrowsChain
      adTokens_fit := hrowsFit
      orderTokens_listed := Whitelist.of_chain htokensLen horderBound htokensChain
      adScope_fits := hscopeFits
      signer_nonzero := hnonzero }
  have hrowsEnd : 34 + rows.length * ROW_BYTES + 1 = (view p).orderTokensAt := rfl
  have hscopeLen : (encodeScope scope).length = 2 + (ids.flatMap encodeId).length := by
    rw [hscopeBytes, List.length_append]
    rfl
  rw [← hrowsLen] at horderCount htokensAt hkind hscopeCount hidsAt hidsEnd
  rw [← htokensLen] at hkind hscopeCount hidsAt hidsEnd
  rw [hrowsEnd] at htokensAt hkind hscopeCount hidsAt hidsEnd
  have hnext : next
      = (view p).orderTokensAt + tokens.length * 32 + (encodeScope scope).length := by
    rw [hidsEnd, hscopeLen]
    ring
  refine ⟨p, (Layout.at_zero.mp ⟨at_encode.mpr ⟨hdomain, haction, ?_, ?_, ?_, ?_, ?_, ?_, ?_⟩, ?_⟩).symm,
    ?_⟩
  · rw [ofNat_count hrowsLen]
    exact hadCount
  · exact hrowsAt
  · rw [ofNat_count htokensLen]
    exact horderCount
  · exact htokensAt
  · rw [hscopeBytes, Layout.at_append]
    exact ⟨(Layout.at_append (x := [kind])).mpr ⟨hkind, hscopeCount⟩, hidsAt⟩
  · rw [← hnext, ofNat_lt huntil]
    exact huntilAt
  · rw [← hnext]
    exact hsigner
  · rw [length_encode, ← hnext]
    exact hend
  · simp only [view, p, hscopeAll, hscopeIds, hrowsLen, htokensLen, hidsLen, UInt8.ofNat_toNat]

/-- The bytes of a policy parse, and `parse` sees each section where it is. -/
theorem parse_encode {p : Policy} : parse P (encode P p) = .ok (view p) := by
  obtain ⟨hdomain, haction, hadCount, hrowsAt, horderCount, htokensAt, hscopeAt, huntilAt, hsigner⟩ :=
    (at_encode (P := P) (p := p)).mp (Layout.at_zero.mpr rfl).1
  obtain ⟨kind, hcheck, hscopeBytes, hscopeMax, hidsChain, hidsFit⟩ := p.adScope_fits.checked
  have hadBound := p.adTokens_listed.count
  have hadMax := p.adTokens_listed.bounded
  rw [List.length_map] at hadBound hadMax
  have hadCountNat : (UInt8.ofNat p.adTokens.length).toNat = p.adTokens.length :=
    toNat_count hadMax
  have horderCountNat : (UInt8.ofNat p.orderTokens.length).toNat = p.orderTokens.length :=
    toNat_count p.orderTokens_listed.bounded
  have hidsCountNat := toNat_count hscopeMax
  have hlen := length_encode (P := P) (p := p)
  have hscopeLen : (encodeScope p.adScope).length
      = 2 + (p.adScope.ids.flatMap encodeId).length := by
    rw [hscopeBytes, List.length_append]
    rfl
  rw [hscopeBytes, Layout.at_append] at hscopeAt
  obtain ⟨hkind, hidsAt⟩ := hscopeAt
  obtain ⟨hkind, hscopeCount⟩ := (Layout.at_append (x := [kind])).mp hkind
  unfold parse
  simp only [Check.bind_ok, wordAt_ok, byteAt_ok, Check.require_ok, Check.pure_ok, exists_const,
    numberAt_ok (by norm_num : 0 < 8)]
  have hnext : (view p).orderTokensAt + p.orderTokens.length * 32 + (encodeScope p.adScope).length
      = (view p).adScopeAt + (p.adScope.ids.flatMap encodeId).length := by
    rw [hscopeLen, ← Nat.add_assoc]
    rfl
  rw [hnext] at huntilAt hsigner hlen
  refine ⟨by omega, DOMAIN P, hdomain, rfl, _, haction, rfl, _, hadCount, hadBound, (), ?_, _, ?_,
    p.orderTokens_listed.count, (), ?_, kind, ?_, _, ?_, p.adScope.isAll, hcheck, _, ?_, _,
    ⟨lt_of_lt_of_eq p.validUntil.isLt (by norm_num), huntilAt⟩, _, hsigner, p.signer_nonzero,
    hlen.symm, ?_⟩
  · rw [hadCountNat]
    exact (adTokenLoop_ok fun _ => rfl).mpr
      ⟨p.adTokens, rfl, p.adTokens_listed.chain, p.adTokens_fit, hrowsAt⟩
  · rw [hadCountNat]
    exact horderCount
  · rw [hadCountNat, horderCountNat]
    exact (orderTokenLoop_ok fun _ => rfl).mpr
      ⟨p.orderTokens, rfl, p.orderTokens_listed.chain, htokensAt⟩
  · rw [hadCountNat, horderCountNat]
    exact hkind
  · rw [hadCountNat, horderCountNat]
    exact hscopeCount
  · rw [hadCountNat, horderCountNat, hidsCountNat]
    exact (adScopeLoop_ok (p := []) (by omega) (fun _ => rfl)
      (fun hpos => absurd hpos (lt_irrefl 0))).mpr
      ⟨p.adScope.ids, rfl, hidsChain, hidsFit, hidsAt, rfl⟩
  · rw [hadCountNat, horderCountNat, BitVec.ofNat_toNat]
    rfl

/-! ## What `decode` gives -/

theorem readFrom_ok {α : Type} {read : ℕ → Check CodecError α} {l : List α} {i : ℕ}
    (h : ∀ k a, l[k]? = some a → read (i + k) = .ok a) : readFrom read l.length i = .ok l := by
  induction l generalizing i with
  | nil => rfl
  | cons a l ih =>
    have hhead : read i = .ok a := h 0 a rfl
    have htail : readFrom read l.length (i + 1) = .ok l := ih fun k b hb => by
      have hnext : i + 1 + k = i + (k + 1) := by ring
      rw [hnext]
      exact h (k + 1) b hb
    rw [List.length_cons, readFrom, hhead, Check.ok_bind, htail]
    rfl

theorem tokenRowAt_ok {i : ℕ} {row : TokenRow}
    (h : At policy (v.tokensAt + i * ROW_BYTES) (encodeRow row)) :
    tokenRowAt policy v i = .ok row := by
  obtain ⟨htoken, hmax, hcapacity, hrefill⟩ := at_encodeRow.mp h
  rw [tokenRowAt, wordAt_ok.mpr htoken, Check.ok_bind, wordAt_ok.mpr hmax, Check.ok_bind,
    wordAt_ok.mpr hcapacity, Check.ok_bind, wordAt_ok.mpr hrefill]
  rfl

theorem adScopeHashLoop_ok {ids : List Bytes} {pos : ℕ}
    (hids : ∀ id ∈ ids, id ≠ [] ∧ id.length ≤ MAX_AD_ID_BYTES)
    (h : At policy pos (ids.flatMap encodeId)) :
    adScopeHashLoop P policy ids.length pos = .ok (ids.map P.keccak256) := by
  induction ids generalizing pos with
  | nil => rfl
  | cons id ids ih =>
    obtain ⟨⟨hne, hmax⟩, hids⟩ := List.forall_mem_cons.mp hids
    rw [List.flatMap_cons, Layout.at_append, length_encodeId, encodeId, Layout.at_append,
      Layout.length_bigEndian, ← Nat.add_assoc] at h
    obtain ⟨⟨hlen, hid⟩, hrest⟩ := h
    have hread : (numberAt policy pos 2 : Check CodecError ℕ) = .ok id.length :=
      (numberAt_ok two_pos).mpr ⟨lt_of_le_of_lt hmax (by decide), hlen⟩
    have hslice : (sliceOf policy (pos + 2) (pos + 2 + id.length) : Check CodecError Bytes) = .ok id :=
      sliceOf_ok.mpr ⟨rfl, hid, hid.le_length hne⟩
    rw [List.length_cons, adScopeHashLoop, hread, Check.ok_bind, hslice, Check.ok_bind,
      ih hids hrest]
    rfl

/-- `decode` gives the policy whose bytes it read. -/
theorem decode_encode {p : Policy} : decode P (encode P p) = .ok (p.decoded P) := by
  obtain ⟨-, -, -, hrowsAt, -, htokensAt, hscopeAt, -, -⟩ :=
    (at_encode (P := P) (p := p)).mp (Layout.at_zero.mpr rfl).1
  obtain ⟨kind, -, hscopeBytes, hscopeMax, -, hidsFit⟩ := p.adScope_fits.checked
  have hadMax := p.adTokens_listed.bounded
  rw [List.length_map] at hadMax
  have hadCount : (view p).tokenCount.toNat = p.adTokens.length := toNat_count hadMax
  have horderCount : (view p).orderTokenCount.toNat = p.orderTokens.length :=
    toNat_count p.orderTokens_listed.bounded
  have hidsCount : (view p).adScopeCount.toNat = p.adScope.ids.length := toNat_count hscopeMax
  rw [hscopeBytes, Layout.at_append] at hscopeAt
  have hrows : readFrom (tokenRowAt (encode P p) (view p)) p.adTokens.length 0 = .ok p.adTokens :=
    readFrom_ok fun k row hrow => by
      rw [Nat.zero_add]
      exact tokenRowAt_ok (hrowsAt.flatMap (fun _ => length_encodeRow) hrow)
  have htokens : readFrom (orderTokenAt (encode P p) (view p)) p.orderTokens.length 0
      = .ok p.orderTokens :=
    readFrom_ok fun k token htoken => by
      rw [Nat.zero_add, orderTokenAt, wordAt_ok]
      exact htokensAt.flatMap (fun _ => length_encodeWord) htoken
  have hhashes : adScopeHashes P (encode P p) (view p) = .ok (p.adScope.ids.map P.keccak256) := by
    rw [adScopeHashes, hidsCount]
    exact adScopeHashLoop_ok hidsFit hscopeAt.2
  rw [decode, parse_encode, Check.ok_bind, hadCount, hrows, Check.ok_bind, horderCount, htokens,
    Check.ok_bind, hhashes]
  rfl

theorem parse_iff : (∃ v, parse P policy = .ok v) ↔ ∃ p : Policy, encode P p = policy := by
  constructor
  · rintro ⟨v, h⟩
    obtain ⟨p, hp, -⟩ := parse_sound h
    exact ⟨p, hp⟩
  · rintro ⟨p, rfl⟩
    exact ⟨view p, parse_encode⟩

/-! ## One policy, one byte string -/

theorem ids_unique {ids ids' : List Bytes} {pos : ℕ} (hlen : ids.length = ids'.length)
    (hids : ∀ id ∈ ids, id ≠ [] ∧ id.length ≤ MAX_AD_ID_BYTES)
    (hids' : ∀ id ∈ ids', id ≠ [] ∧ id.length ≤ MAX_AD_ID_BYTES)
    (h : At policy pos (ids.flatMap encodeId)) (h' : At policy pos (ids'.flatMap encodeId)) :
    ids = ids' := by
  induction ids generalizing ids' pos with
  | nil => exact (List.eq_nil_of_length_eq_zero hlen.symm).symm
  | cons id ids ih =>
    cases ids' with
    | nil => cases hlen
    | cons id' ids' =>
      obtain ⟨⟨-, hmax⟩, hids⟩ := List.forall_mem_cons.mp hids
      obtain ⟨⟨-, hmax'⟩, hids'⟩ := List.forall_mem_cons.mp hids'
      rw [List.flatMap_cons, Layout.at_append, length_encodeId, encodeId, Layout.at_append,
        Layout.length_bigEndian] at h h'
      obtain ⟨⟨hwidth, hid⟩, hrest⟩ := h
      obtain ⟨⟨hwidth', hid'⟩, hrest'⟩ := h'
      have hsame : id.length = id'.length :=
        Layout.bigEndian_inj (lt_of_le_of_lt hmax (by decide)) (lt_of_le_of_lt hmax' (by decide))
          (hwidth.unique hwidth' rfl)
      rw [← hsame] at hrest'
      rw [hid.unique hid' hsame, ih (Nat.succ.inj hlen) hids hids' hrest hrest']

theorem encodeRow_injective : Function.Injective encodeRow := by
  intro row row' h
  unfold encodeRow at h
  obtain ⟨h, hrefill⟩ := List.append_inj h (by simp)
  obtain ⟨h, hcapacity⟩ := List.append_inj h (by simp)
  obtain ⟨htoken, hmax⟩ := List.append_inj h (by simp)
  cases row
  cases row'
  simp only [TokenRow.mk.injEq]
  exact ⟨encodeWord_injective htoken, encodeWord_injective hmax, encodeWord_injective hcapacity,
    encodeWord_injective hrefill⟩

/-- Lists of equally long entries are told apart by their bytes. -/
theorem flatMap_injective {α : Type} {enc : α → Bytes} {width : ℕ}
    (hwidth : ∀ a, (enc a).length = width) (henc : Function.Injective enc) {l l' : List α}
    (hlen : l.length = l'.length) (h : l.flatMap enc = l'.flatMap enc) : l = l' := by
  induction l generalizing l' with
  | nil => exact (List.eq_nil_of_length_eq_zero hlen.symm).symm
  | cons a l ih =>
    cases l' with
    | nil => cases hlen
    | cons a' l' =>
      obtain ⟨hhead, htail⟩ := List.append_inj h (by rw [hwidth, hwidth])
      rw [henc hhead, ih (Nat.succ.inj hlen) htail]

theorem AdScope.eq_of_ids {scope scope' : AdScope} (hall : scope.isAll = scope'.isAll)
    (hids : scope.ids = scope'.ids) : scope = scope' := by
  cases scope with
  | all =>
    cases scope' with
    | all => rfl
    | only ids' => cases hall
  | only ids =>
    cases scope' with
    | all => cases hall
    | only ids' => exact congrArg AdScope.only hids

theorem Policy.eq_of_parts {p p' : Policy} (had : p.adTokens = p'.adTokens)
    (horder : p.orderTokens = p'.orderTokens) (hall : p.adScope.isAll = p'.adScope.isAll)
    (hids : p.adScope.ids = p'.adScope.ids) (huntil : p.validUntil = p'.validUntil)
    (hsigner : p.settlementSigner = p'.settlementSigner) : p = p' := by
  cases p
  cases p'
  simp only [Policy.mk.injEq]
  exact ⟨had, horder, AdScope.eq_of_ids hall hids, huntil, hsigner⟩

/-- The layout loses nothing. -/
theorem encode_injective : Function.Injective (encode P) := by
  intro p p' h
  have hview : view p = view p' := by
    have hparse := parse_encode (P := P) (p := p)
    rw [h, parse_encode] at hparse
    exact (Except.ok.inj hparse).symm
  obtain ⟨-, -, -, hrowsAt, -, htokensAt, hscopeAt, -, -⟩ :=
    (at_encode (P := P) (p := p)).mp (Layout.at_zero.mpr rfl).1
  obtain ⟨-, -, -, hrowsAt', -, htokensAt', hscopeAt', -, -⟩ :=
    (at_encode (P := P) (p := p')).mp (Layout.at_zero.mpr rfl).1
  rw [← h] at hrowsAt' htokensAt' hscopeAt'
  obtain ⟨kind, -, hscopeBytes, hscopeMax, -, hidsFit⟩ := p.adScope_fits.checked
  obtain ⟨kind', -, hscopeBytes', hscopeMax', -, hidsFit'⟩ := p'.adScope_fits.checked
  rw [hscopeBytes, Layout.at_append] at hscopeAt
  rw [hscopeBytes', Layout.at_append] at hscopeAt'
  have hadMax := p.adTokens_listed.bounded
  have hadMax' := p'.adTokens_listed.bounded
  rw [List.length_map] at hadMax hadMax'
  have hadLen : p.adTokens.length = p'.adTokens.length := by
    rw [← toNat_count hadMax, ← toNat_count hadMax']
    exact congrArg (fun v => v.tokenCount.toNat) hview
  have horderLen : p.orderTokens.length = p'.orderTokens.length := by
    rw [← toNat_count p.orderTokens_listed.bounded, ← toNat_count p'.orderTokens_listed.bounded]
    exact congrArg (fun v => v.orderTokenCount.toNat) hview
  have hidsLen : p.adScope.ids.length = p'.adScope.ids.length := by
    rw [← toNat_count hscopeMax, ← toNat_count hscopeMax']
    exact congrArg (fun v => v.adScopeCount.toNat) hview
  rw [← hview] at htokensAt' hscopeAt'
  rw [← horderLen] at hscopeAt'
  refine Policy.eq_of_parts ?_ ?_ (congrArg View.adScopeAll hview) ?_
    (congrArg View.validUntil hview) (congrArg View.settlementSigner hview)
  · exact flatMap_injective (fun _ => length_encodeRow) encodeRow_injective hadLen
      (hrowsAt.unique hrowsAt' (by rw [length_rows, length_rows, hadLen]))
  · exact flatMap_injective (fun _ => length_encodeWord) encodeWord_injective horderLen
      (htokensAt.unique htokensAt' (by rw [length_tokens, length_tokens, horderLen]))
  · exact ids_unique hidsLen hidsFit hidsFit' hscopeAt.2 hscopeAt'.2

/-- Hashes that do not collide tell the ids. -/
theorem map_inj_of_injOn {hash : Bytes → BytesN32} {ids ids' : List Bytes}
    (hinj : Set.InjOn hash {id | id ∈ ids ∨ id ∈ ids'}) (h : ids.map hash = ids'.map hash) :
    ids = ids' := by
  induction ids generalizing ids' with
  | nil => exact (List.map_eq_nil_iff.mp h.symm).symm
  | cons id ids ih =>
    cases ids' with
    | nil => cases h
    | cons id' ids' =>
      obtain ⟨hhead, htail⟩ := List.cons.inj h
      rw [hinj (.inl List.mem_cons_self) (.inr List.mem_cons_self) hhead]
      refine congrArg _ (ih (hinj.mono fun x hx => ?_) htail)
      exact hx.imp (List.mem_cons_of_mem _) (List.mem_cons_of_mem _)

end Canonical

/-- The bytes of a policy are one string. -/
theorem policy_bytes_canonical (P : Primitives) :
    (∀ policy, (∃ v, parse P policy = .ok v) ↔ ∃ p : Policy, encode P p = policy) ∧
      (∀ p : Policy, decode P (encode P p) = .ok (p.decoded P)) ∧
      (∀ policy d, decode P policy = .ok d →
        ∃ p : Policy, d = p.decoded P ∧ encode P p = policy ∧ ∀ p', encode P p' = policy → p' = p) ∧
      (∀ policy policy' d, decode P policy = .ok d → decode P policy' = .ok d →
        (∀ p p' : Policy, encode P p = policy → encode P p' = policy' →
          Set.InjOn P.keccak256 {id | id ∈ p.adScope.ids ∨ id ∈ p'.adScope.ids}) →
        policy = policy') ∧
      (∀ p p' : Policy, Set.InjOn P.keccak256 {encode P p, encode P p'} →
        P.keccak256 (encode P p) = P.keccak256 (encode P p') → p = p') ∧
      (∀ a b, lessThan a b = true ↔ a < b) ∧
      (∀ a b, b ≠ [] → lessThan a (a ++ b) = true) := by
  have hsound : ∀ {policy d}, decode P policy = .ok d →
      ∃ p : Policy, d = p.decoded P ∧ encode P p = policy := by
    intro policy d h
    obtain ⟨v, hparse, -⟩ := Check.bind_ok.mp h
    obtain ⟨p, rfl, -⟩ := parse_sound hparse
    rw [decode_encode] at h
    exact ⟨p, (Except.ok.inj h).symm, rfl⟩
  refine ⟨fun _ => parse_iff, fun p => decode_encode, ?_, ?_, ?_, fun a b => lessThan_iff, ?_⟩
  · intro policy d h
    obtain ⟨p, hd, rfl⟩ := hsound h
    exact ⟨p, hd, rfl, fun p' hp' => encode_injective hp'⟩
  · intro policy policy' d h h' hinj
    obtain ⟨p, rfl, rfl⟩ := hsound h
    obtain ⟨p', hd, rfl⟩ := hsound h'
    have hids : p.adScope.ids = p'.adScope.ids :=
      map_inj_of_injOn (hinj p p' rfl rfl) (congrArg Decoded.adScopeHashes hd)
    exact congrArg (encode P) (Policy.eq_of_parts (congrArg Decoded.adTokens hd)
      (congrArg Decoded.orderTokens hd) (congrArg Decoded.adScopeAll hd) hids
      (congrArg Decoded.validUntil hd) (congrArg Decoded.settlementSigner hd))
  · intro p p' hinj h
    exact encode_injective (hinj (.inl rfl) (.inr rfl) h)
  · intro a b hb
    obtain ⟨c, l, rfl⟩ := List.exists_cons_of_ne_nil hb
    exact lessThan_iff.mpr (List.lt_iff_exists.mpr (.inl ⟨by rw [List.take_left], by simp⟩))

end AgentPolicyCodec
end Evm
end ProofBridge
