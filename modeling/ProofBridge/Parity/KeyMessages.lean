import ProofBridge.Evm.KeyMessages
import ProofBridge.KeyRegistry.Owner

/-!
# The key messages of both registries

Every message the Soroban registry can be shown is one the EVM registry can, and both build the same
bytes of it: the fixed text, and what keccak reads for the struct hash. So what the EVM forms say is
what the Soroban forms say: two messages of one text, or of one struct hash, agree on everything
their kind signs. The nonce a message needs is no part of it; the legs carry theirs.
-/

namespace ProofBridge
namespace Parity

open ContractLib
open KeyRegistry (KeyMessage KeyLeg decimalLoop paddingLoop pushDecimal pushPadded pushUtc
  hex0xLower hexDigit)
open Evm.KeyMessages (TypeHashes SaysSame pad padLoop hex32 utc)

/-! ## Numbers and dates -/

theorem decimalLoop_eq {i v : ℕ} {buf : Bytes} (hi : 0 < i) (h : v < 10 ^ i) :
    decimalLoop i v buf = Text.decimal v ++ buf := by
  induction i generalizing v buf with
  | zero => exact absurd hi (lt_irrefl 0)
  | succ i ih =>
    unfold decimalLoop
    dsimp only
    split
    · next hlast =>
      have hlt : v < 10 := by omega
      rw [Text.decimal_of_lt hlt, Nat.mod_eq_of_lt hlt]
      rfl
    · next hmore =>
      have hlt : v / 10 < 10 ^ i := by
        rw [Nat.div_lt_iff_lt_mul (by norm_num), ← pow_succ]
        exact h
      have hpos : 0 < i := by
        rcases Nat.eq_zero_or_pos i with rfl | hpos
        · rw [pow_zero] at hlt
          omega
        · exact hpos
      rw [ih hpos hlt, Text.decimal_step hmore, List.append_assoc]
      rfl

theorem pushDecimal_eq {v : ℕ} (h : v < 10 ^ 39) : pushDecimal v = Text.decimal v := by
  rw [pushDecimal, decimalLoop_eq (by norm_num) h, List.append_nil]

theorem paddingLoop_eq {k v : ℕ} :
    paddingLoop k v = List.replicate (k + 1 - (Text.decimal v).length) 48 := by
  have hpos : 0 < (Text.decimal v).length := by
    by_contra hnil
    have hlt := (Text.length_decimal_le (n := v) (k := 1) (by norm_num)).mp (by omega)
    rw [Text.decimal_of_lt (by omega)] at hnil
    exact hnil Nat.one_pos
  induction k with
  | zero =>
    have hnone : 0 + 1 - (Text.decimal v).length = 0 := by omega
    rw [hnone]
    rfl
  | succ k ih =>
    unfold paddingLoop
    split
    · next hlt =>
      have hshort := (Text.length_decimal_le (by omega)).mpr hlt
      have hmore : k + 1 + 1 - (Text.decimal v).length
          = (k + 1 - (Text.decimal v).length) + 1 := by omega
      rw [hmore, List.replicate_succ, ih]
    · next hlong =>
      have hfull : ¬(Text.decimal v).length ≤ k + 1 := fun hle =>
        hlong ((Text.length_decimal_le (by omega)).mp hle)
      have hnone : k + 1 + 1 - (Text.decimal v).length = 0 := by omega
      rw [hnone]
      rfl

theorem padLoop_eq {width n : ℕ} {out : Bytes} (h : width ≤ out.length + n) :
    padLoop width n out = List.replicate (width - out.length) 48 ++ out := by
  induction n generalizing out with
  | zero =>
    have hnone : width - out.length = 0 := by omega
    rw [hnone]
    rfl
  | succ n ih =>
    unfold padLoop
    split
    · next hshort =>
      have hmore : width - out.length = (width - (out.length + 1)) + 1 := by omega
      have hzero : Evm.bytesOf "0" ++ out = 48 :: out := rfl
      rw [hzero, ih (by rw [List.length_cons]; omega), List.length_cons, hmore,
        List.replicate_succ', List.append_assoc]
      rfl
    · next hfull =>
      have hnone : width - out.length = 0 := by omega
      rw [hnone]
      rfl

/-- Both pad a number with the same zeros, one from the width down, the other until it is reached. -/
theorem pushPadded_eq {v width : ℕ} (hwidth : 0 < width) (h : v < 10 ^ 39) :
    pushPadded v width = pad v width := by
  have hone : width - 1 + 1 = width := by omega
  rw [pushPadded, paddingLoop_eq, pushDecimal_eq h, hone, pad, padLoop_eq (by omega)]

/-- The parts of a moment, padded alike. -/
theorem moment_eq {y mo d hh mi ss : ℕ} (hy : y < 10 ^ 39) (hmo : mo < 10 ^ 39) (hd : d < 10 ^ 39)
    (hhh : hh < 10 ^ 39) (hmi : mi < 10 ^ 39) (hss : ss < 10 ^ 39) :
    pushPadded y 4 ++ ascii "-" ++ pushPadded mo 2 ++ ascii "-" ++ pushPadded d 2 ++ ascii " " ++
        pushPadded hh 2 ++ ascii ":" ++ pushPadded mi 2 ++ ascii ":" ++ pushPadded ss 2 ++
        ascii " UTC"
      = pad y 4 ++ ascii "-" ++ pad mo 2 ++ ascii "-" ++ pad d 2 ++ ascii " " ++ pad hh 2 ++
        ascii ":" ++ pad mi 2 ++ ascii ":" ++ pad ss 2 ++ ascii " UTC" := by
  rw [pushPadded_eq (by norm_num) hy, pushPadded_eq (by norm_num) hmo,
    pushPadded_eq (by norm_num) hd, pushPadded_eq (by norm_num) hhh,
    pushPadded_eq (by norm_num) hmi, pushPadded_eq (by norm_num) hss]

theorem ite_le_one {p : Prop} [Decidable p] : (if p then 1 else 0 : ℕ) ≤ 1 := by
  split <;> omega

theorem pushUtc_eq {t : ℕ} (h : t < 2 ^ 64) : pushUtc t = utc t := by
  unfold pushUtc utc Evm.KeyMessages.date
  apply moment_eq
  · apply lt_of_le_of_lt (Nat.add_le_add_left ite_le_one _)
    omega
  · split <;> omega
  · omega
  · omega
  · omega
  · omega

theorem hexDigit_eq : ∀ n < 16, hexDigit n = Evm.KeyMessages.HEX_ALPHABET.getD n 0 := by
  decide

theorem hex0xLower_eq (b : BytesN32) : hex0xLower b = hex32 b := by
  unfold hex0xLower hex32
  congr 1
  apply List.flatMap_congr
  intro byte _
  obtain ⟨hhigh, hlow⟩ := Evm.KeyMessages.hexDigit_lt byte
  rw [hexDigit_eq _ hhigh, hexDigit_eq _ hlow]

/-! ## One message on both chains -/

/-- A leg whose chain id and nonce are as wide as EVM's. -/
def widen (l : KeyLeg) : Evm.KeyRegistry.KeyLeg where
  chainId := l.chainId.setWidth 256
  registry := l.registry
  nonce := l.nonce.setWidth 256

/-- `uint64(fromSlot) << 32 | toSlot`. -/
def packSlots (fromSlot toSlot : U32) : U64 := fromSlot.setWidth 64 <<< 32 ||| toSlot.setWidth 64

/-- A message of the Soroban registry, as the EVM registry asks for it. -/
def toEvm (account : BytesN32) (legs : List KeyLeg) (msg : KeyMessage) : Evm.KeyMessages.Message :=
  let legs := legs.map widen
  match msg with
  | .register keyCommitment _ deadline => ⟨.register, account, keyCommitment, legs, deadline, false⟩
  | .revoke _ => ⟨.revoke, account, 0, legs, 0, false⟩
  | .cancel _ => ⟨.cancel, account, 0, legs, 0, false⟩
  | .retire keyCommitment validUntil =>
    ⟨.retire, account, keyCommitment, legs, validUntil, false⟩
  | .approveMaker maker approved _ deadline =>
    ⟨.approveMaker, account, maker, legs, deadline, approved⟩
  | .repin orderHash fromSlot toSlot _ =>
    ⟨.repin, account, orderHash, legs, packSlots fromSlot toSlot, false⟩

theorem fromSlot_pack (f t : U32) : Evm.KeyMessages.fromSlot (packSlots f t) = f := by
  apply BitVec.eq_of_getLsbD_eq
  intro i hi
  have hsum : 32 + i < 64 := by omega
  simp [Evm.KeyMessages.fromSlot, packSlots, hi, hsum]

theorem toSlot_pack (f t : U32) : Evm.KeyMessages.toSlot (packSlots f t) = t := by
  apply BitVec.eq_of_getLsbD_eq
  intro i hi
  simp [Evm.KeyMessages.toSlot, packSlots, hi]

theorem legLine_eq (l : KeyLeg) : l.line = Evm.KeyMessages.legLine (widen l) := by
  have hchain : (l.chainId.setWidth 256).toNat = l.chainId.toNat := by
    rw [BitVec.toNat_setWidth]
    exact Nat.mod_eq_of_lt (lt_trans l.chainId.isLt (by norm_num))
  have hnonce : (l.nonce.setWidth 256).toNat = l.nonce.toNat := by
    rw [BitVec.toNat_setWidth]
    exact Nat.mod_eq_of_lt (lt_trans l.nonce.isLt (by norm_num))
  unfold KeyLeg.line Evm.KeyMessages.legLine widen
  rw [hchain, hnonce, hex0xLower_eq, pushDecimal_eq (lt_trans l.chainId.isLt (by norm_num)),
    pushDecimal_eq (lt_trans l.nonce.isLt (by norm_num))]
  simp only [List.append_assoc]
  rfl

theorem legLines_eq (legs : List KeyLeg) :
    legs.flatMap KeyLeg.line = (legs.map widen).flatMap Evm.KeyMessages.legLine := by
  rw [List.flatMap_map]
  exact List.flatMap_congr fun l _ => legLine_eq l

theorem pushDecimal_u64 (v : U64) : pushDecimal v.toNat = Text.decimal v.toNat :=
  pushDecimal_eq (lt_trans v.isLt (by norm_num))

theorem pushDecimal_u32 (v : U32) : pushDecimal v.toNat = Text.decimal v.toNat :=
  pushDecimal_eq (lt_trans v.isLt (by norm_num))

/-- The fixed texts are the same bytes. -/
theorem text_eq (keysEnv : Bytes) (account : BytesN32) (legs : List KeyLeg) (msg : KeyMessage) :
    KeyRegistry.text keysEnv account legs msg
      = Evm.KeyMessages.text keysEnv (toEvm account legs msg) := by
  unfold KeyRegistry.text Evm.KeyMessages.text
  cases msg with
  | register keyCommitment nonce deadline =>
    simp only [KeyMessage.heading, KeyMessage.subjectLines, KeyMessage.deadlineLine,
      KeyMessage.tail, Evm.KeyMessages.heading, Evm.KeyMessages.subjectLines,
      Evm.KeyMessages.deadlineLine, Evm.KeyMessages.tail, toEvm, legLines_eq, hex0xLower_eq,
      pushUtc_eq deadline.isLt, pushDecimal_u64, List.append_assoc]
    rfl
  | revoke nonce =>
    simp only [KeyMessage.heading, KeyMessage.subjectLines, KeyMessage.deadlineLine,
      KeyMessage.tail, Evm.KeyMessages.heading, Evm.KeyMessages.subjectLines,
      Evm.KeyMessages.deadlineLine, Evm.KeyMessages.tail, toEvm, legLines_eq, hex0xLower_eq,
      List.append_assoc]
    rfl
  | cancel nonce =>
    simp only [KeyMessage.heading, KeyMessage.subjectLines, KeyMessage.deadlineLine,
      KeyMessage.tail, Evm.KeyMessages.heading, Evm.KeyMessages.subjectLines,
      Evm.KeyMessages.deadlineLine, Evm.KeyMessages.tail, toEvm, legLines_eq, hex0xLower_eq,
      List.append_assoc]
    rfl
  | retire keyCommitment validUntil =>
    simp only [KeyMessage.heading, KeyMessage.subjectLines, KeyMessage.deadlineLine,
      KeyMessage.tail, Evm.KeyMessages.heading, Evm.KeyMessages.subjectLines,
      Evm.KeyMessages.deadlineLine, Evm.KeyMessages.tail, toEvm, hex0xLower_eq,
      pushDecimal_u64, List.append_assoc]
    rfl
  | approveMaker maker approved nonce deadline =>
    cases approved <;>
    · simp only [KeyMessage.heading, KeyMessage.subjectLines, KeyMessage.deadlineLine,
        KeyMessage.tail, Evm.KeyMessages.heading, Evm.KeyMessages.subjectLines,
        Evm.KeyMessages.deadlineLine, Evm.KeyMessages.tail, toEvm, legLines_eq, hex0xLower_eq,
        pushUtc_eq deadline.isLt, pushDecimal_u64, List.append_assoc]
      rfl
  | repin orderHash fromSlot toSlot nonce =>
    simp only [KeyMessage.heading, KeyMessage.subjectLines, KeyMessage.deadlineLine,
      KeyMessage.tail, Evm.KeyMessages.heading, Evm.KeyMessages.subjectLines,
      Evm.KeyMessages.deadlineLine, Evm.KeyMessages.tail, toEvm, legLines_eq, hex0xLower_eq,
      pushDecimal_u32, fromSlot_pack, toSlot_pack, List.append_assoc]
    rfl

/-! ## One struct hash on both chains -/

section StructHash

variable {P : Evm.Primitives} {H : Host}

theorem legWords_eq (htypes : TypeHashes P) (l : KeyLeg) :
    l.words = Evm.KeyMessages.legWords P (widen l) := by
  unfold KeyLeg.words Evm.KeyMessages.legWords
  rw [htypes.keyLeg]
  rfl

/-- The legs' hashes: what keccak reads for the array. -/
theorem legHashes_eq (hkeccak : H.keccak256 = P.keccak256) (htypes : TypeHashes P)
    (legs : List KeyLeg) :
    (legs.map fun l => H.keccak256 (Eip712.concat l.words))
      = Evm.KeyMessages.legHashes P (legs.map widen) := by
  unfold Evm.KeyMessages.legHashes
  rw [List.map_map, hkeccak]
  apply List.map_congr_left
  intro l _
  rw [legWords_eq htypes]
  rfl

theorem legsHash_eq (hkeccak : H.keccak256 = P.keccak256) (htypes : TypeHashes P)
    (legs : List KeyLeg) :
    KeyRegistry.legsHash H legs = Evm.KeyMessages.legsHash P (legs.map widen) := by
  unfold KeyRegistry.legsHash Evm.KeyMessages.legsHash
  rw [legHashes_eq hkeccak htypes, hkeccak]

/-- The words of the structs are the same. -/
theorem words_eq (hkeccak : H.keccak256 = P.keccak256) (htypes : TypeHashes P) (account : BytesN32)
    (legs : List KeyLeg) (msg : KeyMessage) :
    msg.words H account legs = Evm.KeyMessages.words P (toEvm account legs msg) := by
  have hlegs := legsHash_eq hkeccak htypes legs
  cases msg with
  | register keyCommitment nonce deadline =>
    simp only [KeyMessage.words, Evm.KeyMessages.words, toEvm, hlegs, htypes.registerKey]
    rfl
  | revoke nonce =>
    simp only [KeyMessage.words, Evm.KeyMessages.words, toEvm, hlegs, htypes.revokeKeys]
    rfl
  | cancel nonce =>
    simp only [KeyMessage.words, Evm.KeyMessages.words, toEvm, hlegs, htypes.cancelPending]
    rfl
  | retire keyCommitment validUntil =>
    simp only [KeyMessage.words, Evm.KeyMessages.words, toEvm, htypes.retireKey]
    rfl
  | approveMaker maker approved nonce deadline =>
    simp only [KeyMessage.words, Evm.KeyMessages.words, toEvm, hlegs, htypes.approveMaker]
    rfl
  | repin orderHash fromSlot toSlot nonce =>
    simp only [KeyMessage.words, Evm.KeyMessages.words, toEvm, hlegs, htypes.repinOrder,
      fromSlot_pack, toSlot_pack]
    rfl

theorem structHash_eq (hkeccak : H.keccak256 = P.keccak256) (htypes : TypeHashes P)
    (account : BytesN32) (legs : List KeyLeg) (msg : KeyMessage) :
    KeyRegistry.structHash H account legs msg
      = Evm.KeyMessages.structHash P (toEvm account legs msg) := by
  unfold KeyRegistry.structHash Evm.KeyMessages.structHash
  rw [words_eq hkeccak htypes, hkeccak]

end StructHash

/-! ## What a Soroban message says -/

/-- The message without the nonce its registry needs: what is signed beside the legs. -/
def signed : KeyMessage → KeyMessage
  | .register keyCommitment _ deadline => .register keyCommitment 0 deadline
  | .revoke _ => .revoke 0
  | .cancel _ => .cancel 0
  | .retire keyCommitment validUntil => .retire keyCommitment validUntil
  | .approveMaker maker approved _ deadline => .approveMaker maker approved 0 deadline
  | .repin orderHash fromSlot toSlot _ => .repin orderHash fromSlot toSlot 0

/-- The messages that sign no legs. -/
def signsNoLegs : KeyMessage → Bool
  | .retire .. => true
  | _ => false

theorem widen_injective : Function.Injective widen := by
  intro l l' h
  obtain ⟨chainId, registry, nonce⟩ := l
  obtain ⟨chainId', registry', nonce'⟩ := l'
  simp only [widen, Evm.KeyRegistry.KeyLeg.mk.injEq] at h
  obtain ⟨hchain, rfl, hnonce⟩ := h
  rw [Evm.KeyMessages.word_inj (by norm_num) hchain, Evm.KeyMessages.word_inj (by norm_num) hnonce]

/-- Two Soroban messages say the same: one account, one message, and the same legs where the message
signs them. -/
structure SaysSameOnSoroban (account : BytesN32) (legs : List KeyLeg) (msg : KeyMessage)
    (account' : BytesN32) (legs' : List KeyLeg) (msg' : KeyMessage) : Prop where
  account : account = account'
  message : signed msg = signed msg'
  legs : signsNoLegs msg = false → legs = legs'

theorem saysSame_of_toEvm {account account' : BytesN32} {legs legs' : List KeyLeg}
    {msg msg' : KeyMessage} (h : SaysSame (toEvm account legs msg) (toEvm account' legs' msg')) :
    SaysSameOnSoroban account legs msg account' legs' msg' := by
  obtain ⟨hkind, haccount, hsubject, hlegs, htime, happroved⟩ := h
  have hwide : legs.map widen = legs'.map widen → legs = legs' :=
    fun heq => List.map_injective_iff.mpr widen_injective heq
  cases msg <;> cases msg' <;>
    simp only [toEvm, ne_eq, reduceCtorEq, not_true_eq_false, not_false_eq_true, forall_const,
      false_implies, implies_true] at hkind haccount hsubject hlegs htime happroved
  case register.register =>
    exact ⟨haccount, by rw [signed, hsubject, htime]; rfl, fun _ => hwide hlegs⟩
  case revoke.revoke => exact ⟨haccount, rfl, fun _ => hwide hlegs⟩
  case cancel.cancel => exact ⟨haccount, rfl, fun _ => hwide hlegs⟩
  case retire.retire =>
    exact ⟨haccount, by rw [hsubject, htime], fun hsigns => by cases hsigns⟩
  case approveMaker.approveMaker =>
    exact ⟨haccount, by rw [signed, hsubject, htime, happroved]; rfl, fun _ => hwide hlegs⟩
  case repin.repin _ f t _ _ f' t' _ =>
    have hfrom := congrArg Evm.KeyMessages.fromSlot htime
    have hto := congrArg Evm.KeyMessages.toSlot htime
    rw [fromSlot_pack, fromSlot_pack] at hfrom
    rw [toSlot_pack, toSlot_pack] at hto
    exact ⟨haccount, by rw [signed, hsubject, hfrom, hto]; rfl, fun _ => hwide hlegs⟩

/-- Key messages say one thing, and the same thing on both chains. -/
theorem keyMessages_say_one_thing {P : Evm.Primitives} {H : Host}
    (hkeccak : H.keccak256 = P.keccak256) (htypes : TypeHashes P) (keysEnv : Bytes) :
    (∀ m m', Evm.KeyMessages.text keysEnv m = Evm.KeyMessages.text keysEnv m' → SaysSame m m') ∧
      (∀ m m', Set.InjOn P.keccak256
          (Evm.KeyMessages.preimages P m ∪ Evm.KeyMessages.preimages P m') →
        Evm.KeyMessages.structHash P m = Evm.KeyMessages.structHash P m' → SaysSame m m') ∧
      (∀ account legs msg account' legs' msg',
        KeyRegistry.text keysEnv account legs msg = KeyRegistry.text keysEnv account' legs' msg' →
          SaysSameOnSoroban account legs msg account' legs' msg') ∧
      (∀ account legs msg account' legs' msg', Set.InjOn H.keccak256
          (Evm.KeyMessages.preimages P (toEvm account legs msg) ∪
            Evm.KeyMessages.preimages P (toEvm account' legs' msg')) →
        KeyRegistry.structHash H account legs msg = KeyRegistry.structHash H account' legs' msg' →
          SaysSameOnSoroban account legs msg account' legs' msg') ∧
      ∀ account legs msg,
        KeyRegistry.text keysEnv account legs msg
            = Evm.KeyMessages.text keysEnv (toEvm account legs msg) ∧
          Eip712.concat (KeyMessage.words H account legs msg)
            = Eip712.concat (Evm.KeyMessages.words P (toEvm account legs msg)) ∧
          Eip712.concat (legs.map fun l => H.keccak256 (Eip712.concat l.words))
            = Eip712.concat (Evm.KeyMessages.legHashes P (legs.map widen)) ∧
          ∀ l : KeyLeg, Eip712.concat l.words
            = Eip712.concat (Evm.KeyMessages.legWords P (widen l)) := by
  refine ⟨fun m m' => Evm.KeyMessages.text_inj, fun m m' => Evm.KeyMessages.structHash_inj htypes,
    ?_, ?_, ?_⟩
  · intro account legs msg account' legs' msg' h
    rw [text_eq, text_eq] at h
    exact saysSame_of_toEvm (Evm.KeyMessages.text_inj h)
  · intro account legs msg account' legs' msg' hinj h
    rw [hkeccak] at hinj
    rw [structHash_eq hkeccak htypes, structHash_eq hkeccak htypes] at h
    exact saysSame_of_toEvm (Evm.KeyMessages.structHash_inj htypes hinj h)
  · intro account legs msg
    exact ⟨text_eq keysEnv account legs msg, congrArg _ (words_eq hkeccak htypes account legs msg),
      congrArg _ (legHashes_eq hkeccak htypes legs), fun l => congrArg _ (legWords_eq htypes l)⟩

/-! ## Two accounts that register one key -/

/-- Keccak-256 on the type strings, and on what hashing the two sample registrations reads. -/
def messageKeccak (b : Bytes) : BytesN32 :=
  match b.length with
  | 54 => 0xfa75af9d4f7f233233f7046e929ef40cd6d17ee3c0f579aeae91b2c8697b9599
  | 134 => Evm.KeyMessages.typeLiteral .register
  | 95 => Evm.KeyMessages.typeLiteral .revoke
  | 98 => Evm.KeyMessages.typeLiteral .cancel
  | 66 => Evm.KeyMessages.typeLiteral .retire
  | 141 => Evm.KeyMessages.typeLiteral .approveMaker
  | 143 => Evm.KeyMessages.typeLiteral .repin
  | 128 => 0xf2f92c1ae605fdb48d082b5750e99f0c3ac204ef2eb04547b7b98baf19c1e0ab
  | 32 => 0xccba04794cd96f4a7f5c16baad86cf5bdaaec26fb569bb15904c92de164741f4
  | _ =>
    if b.getD 63 0 = 1 then 0x465b0e262b14136d895d3d31e7ec23754e9e977f21b7c2be1e1948f2aad31b41
    else 0x882e9faee3a104e1e71ad6f3ec076f1bbbef5a22e0728be742606f20cfbda1f2

def messagePrimitives : Evm.Primitives where
  keccak256 := messageKeccak
  efficientHash words := messageKeccak (Eip712.concat words)
  toTypedDataHash domainSeparator word :=
    messageKeccak (0x19 :: 0x01 :: Eip712.concat [domainSeparator, word])

theorem messagePrimitives_types : TypeHashes messagePrimitives where
  keyLeg := by decide +kernel
  registerKey := by decide +kernel
  revokeKeys := by decide +kernel
  retireKey := by decide +kernel
  cancelPending := by decide +kernel
  approveMaker := by decide +kernel
  repinOrder := by decide +kernel

def messageHost : Host where
  contractId := 0x4B
  keccak256 := messageKeccak
  actionId _ _ := 1
  brakeKey _ _ := 2
  argsFromXdr _ := none

/-- One registry on chain 1, at nonce 3. -/
def sampleLegs : List KeyLeg := [⟨1, 0x22, 3⟩]

def sampleRegister : KeyMessage := .register 7 3 1700000000

/-- What both registrations hash. -/
def sampleRead : List Bytes :=
  [Eip712.concat (Evm.KeyMessages.words messagePrimitives (toEvm 1 sampleLegs sampleRegister)),
    Eip712.concat (Evm.KeyMessages.words messagePrimitives (toEvm 2 sampleLegs sampleRegister)),
    Eip712.concat (Evm.KeyMessages.legHashes messagePrimitives (sampleLegs.map widen)),
    Eip712.concat (Evm.KeyMessages.legWords messagePrimitives (widen ⟨1, 0x22, 3⟩))]

theorem messageKeccak_injOn : Set.InjOn messageKeccak
    (Evm.KeyMessages.preimages messagePrimitives (toEvm 1 sampleLegs sampleRegister) ∪
      Evm.KeyMessages.preimages messagePrimitives (toEvm 2 sampleLegs sampleRegister)) := by
  have hread : (sampleRead.map messageKeccak).Nodup := by decide +kernel
  have hmem : ∀ b, b ∈ Evm.KeyMessages.preimages messagePrimitives
        (toEvm 1 sampleLegs sampleRegister) ∪
      Evm.KeyMessages.preimages messagePrimitives (toEvm 2 sampleLegs sampleRegister) →
      b ∈ sampleRead := by
    rintro b (((rfl | rfl) | ⟨l, hl, rfl⟩) | ((rfl | rfl) | ⟨l, hl, rfl⟩))
    · simp [sampleRead]
    · simp [sampleRead, toEvm, sampleRegister]
    · rw [List.mem_singleton.mp (hl : l ∈ [widen ⟨1, 0x22, 3⟩])]
      simp [sampleRead]
    · simp [sampleRead]
    · simp [sampleRead, toEvm, sampleRegister]
    · rw [List.mem_singleton.mp (hl : l ∈ [widen ⟨1, 0x22, 3⟩])]
      simp [sampleRead]
  intro a ha b hb h
  exact List.inj_on_of_nodup_map hread (hmem a ha) (hmem b hb) h

/-- One key registered by two accounts: two texts and two struct hashes, on each chain. -/
theorem keyMessages_say_one_thing_sample :
    (KeyRegistry.text (ascii "test") 1 sampleLegs sampleRegister
        ≠ KeyRegistry.text (ascii "test") 2 sampleLegs sampleRegister ∧
      KeyRegistry.structHash messageHost 1 sampleLegs sampleRegister
        ≠ KeyRegistry.structHash messageHost 2 sampleLegs sampleRegister) ∧
    Evm.KeyMessages.text (ascii "test") (toEvm 1 sampleLegs sampleRegister)
        ≠ Evm.KeyMessages.text (ascii "test") (toEvm 2 sampleLegs sampleRegister) ∧
      Evm.KeyMessages.structHash messagePrimitives (toEvm 1 sampleLegs sampleRegister)
        ≠ Evm.KeyMessages.structHash messagePrimitives (toEvm 2 sampleLegs sampleRegister) := by
  obtain ⟨htext, hhash, htext', hhash', -⟩ :=
    keyMessages_say_one_thing (H := messageHost) rfl messagePrimitives_types (ascii "test")
  have hother : (1 : BytesN32) ≠ 2 := by decide
  refine ⟨⟨fun h => ?_, fun h => ?_⟩, fun h => ?_, fun h => ?_⟩
  · exact hother (htext' _ _ _ _ _ _ h).account
  · exact hother (hhash' _ _ _ _ _ _ messageKeccak_injOn h).account
  · exact hother (htext _ _ h).account
  · exact hother (hhash _ _ messageKeccak_injOn h).account

end Parity
end ProofBridge
