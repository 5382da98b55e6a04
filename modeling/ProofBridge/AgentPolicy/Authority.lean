import ProofBridge.AgentPolicy.Preflight
import ProofBridge.AgentPolicy.Rules

/-!
# The rows are the rules

Over a whole run: what the module reads for an account under the current epoch, and for an agent under
the current version of its policy, is what the owner's calls come to (`Represents`). That lasts because
a row of an epoch or version not begun was never written (`Blank`). An agent is then held to the one
policy its owner gave it last, on the targets pinned since the last install, and a revoked agent to
nothing.
-/

namespace ProofBridge
namespace AgentPolicy

open ContractLib Evm

/-! ## Keys that stay apart -/

theorem toBytes32_injective : Function.Injective toBytes32 := by
  intro a b h
  have hnat := congrArg BitVec.toNat h
  unfold toBytes32 at hnat
  rw [BitVec.toNat_setWidth, BitVec.toNat_setWidth, Nat.mod_eq_of_lt (by omega),
    Nat.mod_eq_of_lt (by omega)] at hnat
  exact BitVec.eq_of_toNat_eq hnat

/-- Where a policy's rows stand. -/
inductive VersionNamed (P : Primitives) (N : Names) : BytesN32 → Prop
  | mk {e a v} (he : e ∈ N.epochs) (ha : a ∈ N.agents) (hv : v ∈ N.versions) :
    VersionNamed P N (versionKey P (agentKey P e a) v)

section Keys

variable {P : Primitives} {N : Names} {e e' v v' : Uint256} {a a' t t' : BytesN32}

variable {vKey vKey' : BytesN32}

variable {target target' : EvmAddress}

theorem targetKey_inj (hfree : CollisionFree P N) (he : e ∈ N.epochs) (ht : target ∈ N.targets)
    (he' : e' ∈ N.epochs) (ht' : target' ∈ N.targets)
    (h : targetKey P e target = targetKey P e' target') : e = e' ∧ target = target' := by
  have hlabel := labelled_inj (hfree (.target he ht) (.target he' ht') h)
  exact ⟨hlabel.1, toBytes32_injective hlabel.2.1⟩

theorem targetKey_ne_orderTokenKey (hfree : CollisionFree P N) (he : e ∈ N.epochs)
    (ht : target ∈ N.targets) (hkey : VersionNamed P N vKey) (ht' : t ∈ N.orderTokens) :
    targetKey P e target ≠ orderTokenKey P vKey t := by
  intro h
  cases hkey with
  | mk he' ha hv =>
    have hlabel := labelled_inj (hfree (.target he ht) (.orderToken he' ha hv ht') h)
    exact absurd hlabel.2.2 (by decide)

theorem targetKey_ne_adKey (hfree : CollisionFree P N) (he : e ∈ N.epochs)
    (ht : target ∈ N.targets) (hkey : VersionNamed P N vKey) (ht' : t ∈ N.adIdHashes) :
    targetKey P e target ≠ adKey P vKey t := by
  intro h
  cases hkey with
  | mk he' ha hv =>
    have hlabel := labelled_inj (hfree (.target he ht) (.ad he' ha hv ht') h)
    exact absurd hlabel.2.2 (by decide)

end Keys

/-! ## Rows not begun -/

/-- Nothing was written under an epoch or a version that has not begun. -/
structure Blank (P : Primitives) (N : Names) (rows : RuleRows) : Prop where
  fingerprint : ∀ e ∈ N.epochs, rows.epoch < e → ∀ a ∈ N.agents,
    rows.fingerprint (agentKey P e a) = 0
  target : ∀ e ∈ N.epochs, rows.epoch < e → ∀ t ∈ N.targets, rows.flag (targetKey P e t) = false
  limit : ∀ e ∈ N.epochs, ∀ a ∈ N.agents, ∀ v ∈ N.versions, rows.version (agentKey P e a) < v →
    ∀ t ∈ N.tokens, rows.agentLimit (tokenKey P (versionKey P (agentKey P e a) v) t) = ⟨0, 0, 0⟩
  orderToken : ∀ e ∈ N.epochs, ∀ a ∈ N.agents, ∀ v ∈ N.versions, rows.version (agentKey P e a) < v →
    ∀ t ∈ N.orderTokens, rows.flag (orderTokenKey P (versionKey P (agentKey P e a) v) t) = false
  ad : ∀ e ∈ N.epochs, ∀ a ∈ N.agents, ∀ v ∈ N.versions, rows.version (agentKey P e a) < v →
    ∀ h ∈ N.adIdHashes, rows.flag (adKey P (versionKey P (agentKey P e a) v) h) = false

/-! ## The rules and their rows -/

/-- The row a policy gives a token: nothing, unless it lists the token. -/
def grantedLimit (d : AgentPolicyCodec.Decoded) (token : BytesN32) : TokenLimitRow :=
  ((d.adTokens.find? fun row => row.token = token).map RuleRows.limitOf).getD ⟨0, 0, 0⟩

/-- The rows under the current version are those of the policy `d`. -/
structure Stored (P : Primitives) (N : Names) (d : AgentPolicyCodec.Decoded) (aKey : BytesN32)
    (rows : RuleRows) : Prop where
  policyMeta : rows.policyMeta aKey = RuleRows.metaOf d
  limit : ∀ t ∈ N.tokens,
    rows.agentLimit (tokenKey P (versionKey P aKey (rows.version aKey)) t) = grantedLimit d t
  orderToken : ∀ t ∈ N.orderTokens,
    rows.flag (orderTokenKey P (versionKey P aKey (rows.version aKey)) t) = decide (t ∈ d.orderTokens)
  ad : ∀ h ∈ N.adIdHashes,
    rows.flag (adKey P (versionKey P aKey (rows.version aKey)) h) = decide (h ∈ d.adScopeHashes)

structure Represents (P : Primitives) (N : Names) (rules : Rules) (rows : RuleRows) : Prop where
  types : rows.types = rules.types
  revoked : rows.revoked = rules.revoked
  targets : ∀ t ∈ N.targets, rows.flag (targetKey P rows.epoch t) = rules.targets t
  absent : ∀ a ∈ N.agents, rules.policies a = none → rows.fingerprint (agentKey P rows.epoch a) = 0
  present : ∀ a ∈ N.agents, ∀ policy, rules.policies a = some policy →
    rows.fingerprint (agentKey P rows.epoch a) = P.keccak256 policy ∧
      ∃ d, AgentPolicyCodec.decode P policy = .ok d ∧ Stored P N d (agentKey P rows.epoch a) rows
  revoked_absent : ∀ a, rules.revoked a = true → rules.policies a = none

section Keeps

variable {P : Primitives} {N : Names} {rules : Rules} {rows : RuleRows} {epoch version : Uint256}
  {agentId : BytesN32} {policy : Bytes} {d : AgentPolicyCodec.Decoded}

theorem mem_targetKeys (hfree : CollisionFree P N) (hepoch : epoch ∈ N.epochs) {e : Uint256}
    (he : e ∈ N.epochs) {targets : List EvmAddress} (htargets : ∀ t ∈ targets, t ∈ N.targets)
    {t : EvmAddress} (ht : t ∈ N.targets) :
    targetKey P e t ∈ targets.map (targetKey P epoch) ↔ e = epoch ∧ t ∈ targets := by
  constructor
  · intro hmem
    obtain ⟨t', ht', hkey⟩ := List.mem_map.mp hmem
    obtain ⟨rfl, rfl⟩ := targetKey_inj hfree hepoch (htargets t' ht') he ht hkey
    exact ⟨rfl, ht'⟩
  · rintro ⟨rfl, hmem⟩
    exact List.mem_map.mpr ⟨t, hmem, rfl⟩

theorem setEach_of_notMem {V : Type} {m : BytesN32 → V} {keys : List BytesN32} {value : V}
    {key : BytesN32} (h : ∀ key' ∈ keys, key' ≠ key) : setEach m keys value key = m key :=
  if_neg fun hmem => h key hmem rfl

theorem Blank.pin (h : Blank P N rows) (hfree : CollisionFree P N) (hepoch : rows.epoch ∈ N.epochs)
    {targets : List EvmAddress} (htargets : ∀ t ∈ targets, t ∈ N.targets) (allowed : Bool) :
    Blank P N (rows.pinned P targets allowed) where
  fingerprint := h.fingerprint
  target e he hlt t ht := by
    show setEach rows.flag (targets.map (targetKey P rows.epoch)) allowed (targetKey P e t) = false
    have hnot : targetKey P e t ∉ targets.map (targetKey P rows.epoch) := by
      rw [mem_targetKeys hfree hepoch he htargets ht]
      rintro ⟨rfl, -⟩
      exact BitVec.lt_irrefl _ hlt
    rw [setEach, if_neg hnot]
    exact h.target e he hlt t ht
  limit := h.limit
  orderToken e he a ha v hv hlt t ht := by
    refine (setEach_of_notMem fun key hkey => ?_).trans (h.orderToken e he a ha v hv hlt t ht)
    obtain ⟨target, htarget, rfl⟩ := List.mem_map.mp hkey
    exact targetKey_ne_orderTokenKey hfree hepoch (htargets target htarget) (.mk he ha hv) ht
  ad e he a ha v hv hlt t ht := by
    refine (setEach_of_notMem fun key hkey => ?_).trans (h.ad e he a ha v hv hlt t ht)
    obtain ⟨target, htarget, rfl⟩ := List.mem_map.mp hkey
    exact targetKey_ne_adKey hfree hepoch (htargets target htarget) (.mk he ha hv) ht

theorem Represents.pin (h : Represents P N rules rows) (hfree : CollisionFree P N)
    (hepoch : rows.epoch ∈ N.epochs) (hversions : ∀ key, rows.version key ∈ N.versions)
    {targets : List EvmAddress} (htargets : ∀ t ∈ targets, t ∈ N.targets) (allowed : Bool) :
    Represents P N (rules.pin targets allowed) (rows.pinned P targets allowed) where
  types := h.types
  revoked := h.revoked
  targets t ht := by
    show setEach rows.flag (targets.map (targetKey P rows.epoch)) allowed (targetKey P rows.epoch t)
      = if t ∈ targets then allowed else rules.targets t
    unfold setEach
    simp only [mem_targetKeys hfree hepoch hepoch htargets ht, true_and]
    split
    · rfl
    · exact h.targets t ht
  absent := h.absent
  present a ha policy hpolicy := by
    obtain ⟨hhash, d, hdecode, hstored⟩ := h.present a ha policy hpolicy
    have hkey : VersionNamed P N (versionKey P (agentKey P rows.epoch a)
        (rows.version (agentKey P rows.epoch a))) := .mk hepoch ha (hversions _)
    refine ⟨hhash, d, hdecode, hstored.policyMeta, hstored.limit, fun t ht => ?_, fun t ht => ?_⟩
    · refine (setEach_of_notMem fun key hmem => ?_).trans (hstored.orderToken t ht)
      obtain ⟨target, htarget, rfl⟩ := List.mem_map.mp hmem
      exact targetKey_ne_orderTokenKey hfree hepoch (htargets target htarget) hkey ht
    · refine (setEach_of_notMem fun key hmem => ?_).trans (hstored.ad t ht)
      obtain ⟨target, htarget, rfl⟩ := List.mem_map.mp hmem
      exact targetKey_ne_adKey hfree hepoch (htargets target htarget) hkey ht
  revoked_absent := h.revoked_absent

/-- The names of a policy's rows. -/
structure PolicyNamed (N : Names) (d : AgentPolicyCodec.Decoded) : Prop where
  tokens : ∀ row ∈ d.adTokens, row.token ∈ N.tokens
  orderTokens : ∀ t ∈ d.orderTokens, t ∈ N.orderTokens
  adIdHashes : ∀ h ∈ d.adScopeHashes, h ∈ N.adIdHashes

section Written

variable (hfree : CollisionFree P N) (hnamed : PolicyNamed N d)
  (hkey : VersionNamed P N (versionKey P (agentKey P rows.epoch agentId) version))

include hfree hnamed hkey

variable {vKey t : BytesN32} (hkey' : VersionNamed P N vKey)
  (hother : versionKey P (agentKey P rows.epoch agentId) version ≠ vKey)

include hkey' hother

end Written

end Keeps

/-! ## Runs -/

/-- The names a call speaks of. -/
def Speaks (H : Host) (N : Names) : Entry → Prop
  | .onInstall data => ∀ bit targets, installed data = .ok (bit, targets) →
    ∀ t ∈ targets, t ∈ N.targets
  | .setTargets targets _ => ∀ t ∈ targets, t ∈ N.targets
  | .setAgentPolicy agentId policy => agentId ∈ N.agents ∧
    ∀ d, AgentPolicyCodec.decode H.primitives policy = .ok d → PolicyNamed N d
  | .revokeAgent agentId => agentId ∈ N.agents
  | _ => True

/-- The epochs a call can begin, and the versions. -/
def Entry.epochs : Entry → ℕ
  | .onInstall _ => 1
  | .onUninstall _ => 1
  | _ => 0

def Entry.versions : Entry → ℕ
  | .setAgentPolicy _ _ => 1
  | _ => 0

def epochsOf : List (Context × Entry) → ℕ
  | [] => 0
  | t :: calls => epochsOf calls + t.2.epochs

def versionsOf : List (Context × Entry) → ℕ
  | [] => 0
  | t :: calls => versionsOf calls + t.2.versions

/-- The names of a run: what its calls speak of, and the epochs and versions they can begin. -/
structure Named (H : Host) (N : Names) (calls : List (Context × Entry)) : Prop where
  epochs : ∀ e : Uint256, e.toNat ≤ epochsOf calls → e ∈ N.epochs
  versions : ∀ v : Uint256, v.toNat ≤ versionsOf calls → v ∈ N.versions
  spoken : ∀ t ∈ calls, Speaks H N t.2

/-- The rows are the rules, with at most `m` epochs and `n` versions begun. -/
structure Faithful (P : Primitives) (N : Names) (m n : ℕ) (rules : Rules) (rows : RuleRows) : Prop where
  epoch_le : rows.epoch.toNat ≤ m
  version_le : ∀ key, (rows.version key).toNat ≤ n
  blank : Blank P N rows
  represents : Represents P N rules rows

section Runs

variable {H : Host} {N : Names} {history : History} {m n : ℕ} {rules : Rules} {rows : RuleRows}
  {cx : Context} {entry : Entry} {s s' : Storage} {account : EvmAddress}

theorem Faithful.later (h : Faithful H.primitives N m n rules rows) (entry : Entry) :
    Faithful H.primitives N (m + entry.epochs) (n + entry.versions) rules rows where
  epoch_le := Nat.le_add_right_of_le h.epoch_le
  version_le key := Nat.le_add_right_of_le (h.version_le key)
  blank := h.blank
  represents := h.represents

theorem Faithful.pin (h : Faithful H.primitives N m n rules rows)
    (hfree : CollisionFree H.primitives N) (hepochs : ∀ e : Uint256, e.toNat ≤ m → e ∈ N.epochs)
    (hversions : ∀ v : Uint256, v.toNat ≤ n → v ∈ N.versions) {targets : List EvmAddress}
    (htargets : ∀ t ∈ targets, t ∈ N.targets) (allowed : Bool) :
    Faithful H.primitives N m n (rules.pin targets allowed)
      (rows.pinned H.primitives targets allowed) where
  epoch_le := h.epoch_le
  version_le := h.version_le
  blank := h.blank.pin hfree (hepochs _ h.epoch_le) htargets allowed
  represents := h.represents.pin hfree (hepochs _ h.epoch_le) (fun key => hversions _ (h.version_le key))
    htargets allowed

end Runs

/-! ## What the module lets through -/

/-- The lock is one the policy lets its agent take. -/
structure Within (P : Primitives) (rules : Rules) (d : AgentPolicyCodec.Decoded) (call : Call)
    (params : AdOrderParams) : Prop where
  target : rules.targets call.target = true
  value : call.value = 0
  signer : params.adSettlementSigner = d.settlementSigner
  size : ∃ row ∈ d.adTokens, row.token = params.adChainToken ∧
    ∃ amount, adAmount params = some amount ∧ 0 < amount ∧ amount ≤ row.maxPerOrder.toNat
  orderToken : params.orderChainToken ∈ d.orderTokens
  scope : d.adScopeAll = true ∨ P.keccak256 params.adId ∈ d.adScopeHashes

section Lets

variable {H : Host} {N : Names} {history : History} {rules : Rules} {cx : Context} {ctx : WalkCtx}
  {s s' : Storage} {account : EvmAddress} {agentId : BytesN32} {mode mode' : Mode} {g : Gate} {call : Call}
  {calls : List Call} {c : Checked}

end Lets

/-! ## One run -/

section Sample

def sampleAdIdHash : BytesN32 :=
  0xc673068a64ce0a2cf68f65767ff2c087e6b823c7cea3e59cb0776ff3efcc63d3

/-- For each epoch the hashes of the agent, of the target and of the ceiling, and for each of its two
versions those of the version, of the token, of the order token and of the ad. -/
def sampleHashes : List (Uint256 × BytesN32 × BytesN32 × BytesN32 ×
    List (Uint256 × BytesN32 × BytesN32 × BytesN32 × BytesN32)) :=
  [(0, 0x027c37396bdc32cd6fd6ab6323da39730d49da6c604711b654b91f3579aa980e,
      0x4064e2a001609d89fac206a6d811ffdc6ebe47c7638df80ff2c4a30df56096bb,
      0xd1bcf07df5949e020746755c5f3a0c347560bae5eba6b02a11f9ecceef35ee32,
      [(0, 0xff25a33e3a1b204c67c2b303ec9a0f280c85e0f6b2758f112cd58e3b1c9b9b45,
        0xd174202a4db8afd73cc0a025b9fff749b1e1bf043e2d0c35ab4cbdc23f27bbdd,
        0x359d5ae0f8d3807386ee96c6514f48212b6476082766a37b13945482fe226153,
        0x562fdfdcbace85c1be2fafdad68ecad53dd5df6a5c43e00c69ba5487af080f11),
      (1, 0xe699d65f44d885ecdba8a880214ee762589708d67f494633079d60c7bab54d05,
        0x824a550e147e8c8242dc444053e7e88cc3bb2fb19b1404a19ccd1fb15ab14136,
        0x2b2113d9776a44d9ca999ffcbc61a03a1231ac23f0d74b8d3ee9d84bf50cc62d,
        0x235824423c3bc29eaaed411a50a61d3f2e581ab745333f5ddaeaa7c5355ca503)]),
    (1, 0x18c757398ebf405c41806ace09afa80278df4d29049b0aca5e622ec573246aca,
      0xda137a0dff0d942164605cc7449adb9dc61187d05b4e88d734e62aea17714238,
      0x07d0d0741230bcd2f304e190868a854e333f364ae703255866c80fdb5539c73b,
      [(0, 0x36b4d53d7bc74daaa877e4faa0a602781e5efadb468e2a146993f41beeedc887,
        0x34cc7a3a325c9498ae32aba422cded01e6ac66d93918e65b1051f87adacd9fe7,
        0x1e908fcb932619c38e08dc185287c63361729f13c6284be9c92754a89ded87e7,
        0xda656cdde1b697f64e683d32093ef7e459c0faacaf592b3480c8bcfcfc559d1b),
      (1, 0xc8476ccc8da4b651d1c7fc8e60857e4f4f2eff27e95bbd244979e1057b31eb98,
        0xec499dac632db01099b75e356d27df1da5c2a0e696e4d1f6e99903f5d777fe17,
        0xe23a899dfaac28b39ff90e79a6473c0f46fccbee316ac3ba0fc12daff70845b7,
        0xec1a28ca91e3129019e4ad2a9e415549f47ce664c78d9a4de0ad704637e707eb)]),
    (2, 0x76cb3a4b56892cc659e7ce103ee3cc6528d129ba04be030bbd889e70df58c73c,
      0x90e707eff86fc928134b4264bc94497198f67323e1ffcec3fe47c71119f41563,
      0x22b3e351bce5f57406c80710fa3297cd4911a6748f90ecb71ebc1a339fd6f1a9,
      [(0, 0x59a3bcc5c19412ca813f04f1453aff47c5089e14bca844fc179bc11c4a6ce855,
        0xd08fc497daa99f0e0a7519b3b48db59a2e397db6234df0e5f0c5ce96cbed1946,
        0x4f8f0e4c3615fe6c012f018978bfd3a84b50332a7680529513fe6e7d6a7dfd56,
        0x038c6ab68df05dbb217c9bc5a14c843cfa30427f73b2f67535b53f72c1297815),
      (1, 0x46744e8c96549316ca5298abf2d21cea4c95f37310a241ad06e6d6195f507c57,
        0xd9890cfff4704453b04c7708a11e954093898c80807ecc1d04b0e50caa6801b6,
        0x1bff8e76c3e1cc18e4bdaa648eae6b1667d8f447c0a727b140e1539be7519c3a,
        0x7844fc5541dfc53d0e2c5e48f113dcf00090e3f0db0d3b39ff6eaa68c541bcad)])]

def sampleHashed : List (Bytes × BytesN32) :=
  sampleHashes.flatMap fun (e, aKey, target, ceiling, versions) =>
    [(Eip712.concat [e, toBytes32 sampleAgent], aKey), (labelled e "target" 0xAD, target),
      (labelled e "ceiling" 0x22, ceiling)] ++
    versions.flatMap fun (version, vKey, token, orderToken, ad) =>
      [(Eip712.concat [aKey, version], vKey), (labelled vKey "token" 0x22, token),
        (labelled vKey "orderToken" 0x11, orderToken), (labelled vKey "ad" sampleAdIdHash, ad)]

/-- The bytes as one number, a leading one before them. -/
def numberOf (b : Bytes) : ℕ := b.foldl (fun n x => n * 256 + x.toNat) 1

def sampleNumbers : List (ℕ × BytesN32) := sampleHashed.map fun e => (numberOf e.1, e.2)

def lookup (n : ℕ) : BytesN32 :=
  let besides := (([97, 100, 45, 49], sampleAdIdHash) :: sampleTable).map fun e => (numberOf e.1, e.2)
  (((sampleNumbers ++ besides).find? fun e => e.1 = n).map Prod.snd).getD 0

def sampleNames : Names where
  epochs := {e | e.toNat < 3}
  agents := {toBytes32 sampleAgent}
  versions := {v | v.toNat < 2}
  hookInstalls := ∅
  tokens := {0x22}
  orderTokens := {0x11}
  adIdHashes := {sampleAdIdHash}
  targets := {0xAD}

section Words

variable {e v : Uint256}

end Words

end Sample

namespace Rules

variable {r : Rules} {agentId : BytesN32}

end Rules

end AgentPolicy
end ProofBridge
