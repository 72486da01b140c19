/-
How bodies of any length lie in blocks. A body takes as many blocks as it is cut into messages,
and the empty body takes one; a key whose blocks have no room for a byte seals nothing. What is to
be opened has to be some whole blocks, and either all of them are opened and the messages follow
one another in the same order, or nothing comes out.
-/

import Metering.Proofs.Cipher.Envelope

namespace Metering.Rsa

/-! ### Sealing -/

/-- A body is cut into as many messages as are needed to hold it, the empty one into one. -/
theorem length_messages {key : PublicKey} (room : key.longestMessage ≠ 0) (body : Bytes) :
    (key.messages body).length = max 1 (body.length ⌈/⌉ key.longestMessage) := by
  have some : 0 < (key.messages body).length := List.length_pos_iff.mpr (messages_ne_nil key body)
  rw [PublicKey.messages] at some ⊢
  split at some
  · next empty =>
    rw [if_pos empty, List.isEmpty_iff.mp empty, List.length_nil, zero_ceilDiv]
    rfl
  · next more =>
    have count := length_chunksOf (Nat.pos_of_ne_zero room) body
    rw [if_neg more, ← count, Nat.max_eq_right some]

/-- The length of a sealed body. -/
theorem length_of_seal {key : PublicKey} (room : key.longestMessage ≠ 0) {seeds : Nat → Oaep.Seed}
    {body sealedBody : Bytes} (isSealed : key.seal seeds body = .ok sealedBody) :
    sealedBody.length = max 1 (body.length ⌈/⌉ key.longestMessage) * key.blockSize := by
  rw [seal_eq key room] at isSealed
  rw [← Except.ok.inj isSealed, length_flatten_blocks, length_messages room]

/-! ### Opening -/

variable (key : PrivateKey)

theorem openBlock_of_some {block message : Bytes} (opened : key.openBlock? block = some message) :
    key.openBlock block = .ok message := by
  rw [PrivateKey.openBlock, opened]

theorem openBlock_of_none {block : Bytes} (damaged : key.openBlock? block = none) :
    key.openBlock block = .error .damagedBlock := by
  rw [PrivateKey.openBlock, damaged]

/-- Blocks that can all be opened give their messages in the same order. -/
theorem mapM_openBlock_of_opened {blocks messages : List Bytes}
    (opened : List.Forall₂ (fun block message => key.openBlock? block = some message) blocks
      messages) :
    blocks.mapM key.openBlock = .ok messages := by
  induction opened with
  | nil => rfl
  | cons first _ inductionHypothesis =>
    rw [List.mapM_cons, openBlock_of_some key first, inductionHypothesis]
    rfl

/-- One block that cannot be opened is enough for nothing to come out. -/
theorem mapM_openBlock_of_damaged {blocks : List Bytes} {block : Bytes} (member : block ∈ blocks)
    (damaged : key.openBlock? block = none) :
    blocks.mapM key.openBlock = .error .damagedBlock := by
  induction blocks with
  | nil => cases member
  | cons first rest inductionHypothesis =>
    rw [List.mapM_cons]
    cases opened : key.openBlock? first with
    | none =>
      rw [openBlock_of_none key opened]
      rfl
    | some message =>
      have later : block ∈ rest := by
        refine (List.mem_cons.mp member).resolve_left fun same => ?_
        rw [← same, damaged] at opened
        cases opened
      rw [openBlock_of_some key opened, inductionHypothesis later]
      rfl

/-- Whatever is a whole number of blocks can be cut into them. -/
theorem exists_isCut {sealedBody : Bytes} (some : sealedBody ≠ [])
    (whole : key.blockSize ∣ sealedBody.length) : ∃ blocks, key.IsCut sealedBody blocks :=
  ⟨chunksOf key.blockSize sealedBody, some, fun _ member => length_of_mem_chunksOf whole member,
    flatten_chunksOf key.blockSize sealedBody⟩

theorem unseal_of_not_whole {sealedBody : Bytes}
    (notWhole : sealedBody.length = 0 ∨ ¬ key.blockSize ∣ sealedBody.length) :
    key.unseal sealedBody = .error (.wrongLength sealedBody.length key.blockSize) := by
  have wrong : sealedBody.isEmpty ∨ sealedBody.length % key.blockSize ≠ 0 := by
    rw [List.isEmpty_iff, ← List.length_eq_zero_iff]
    exact notWhole.imp_right fun rest isWhole => rest (Nat.dvd_of_mod_eq_zero isWhole)
  rw [PrivateKey.unseal, if_pos wrong]
  rfl

/-! ### Lengths -/

theorem length_le_of_openBlock? {block message : Bytes}
    (opened : key.openBlock? block = some message) : message.length ≤ key.blockSize := by
  rw [PrivateKey.openBlock?] at opened
  split at opened
  · have short := Oaep.length_le_of_unpad? opened
    rwa [Bytes.length_bigEndian] at short
  · cases opened

theorem length_flatten_le_of_mapM {blocks messages : List Bytes}
    (opened : blocks.mapM key.openBlock = .ok messages) :
    messages.flatten.length ≤ blocks.length * key.blockSize := by
  induction blocks generalizing messages with
  | nil =>
    obtain rfl := Except.ok.inj opened
    exact Nat.zero_le _
  | cons block rest inductionHypothesis =>
    rw [List.mapM_cons] at opened
    cases isMessage : key.openBlock? block with
    | none =>
      rw [openBlock_of_none key isMessage] at opened
      cases opened
    | some message =>
      rw [openBlock_of_some key isMessage] at opened
      cases isRest : rest.mapM key.openBlock with
      | error problem =>
        rw [isRest] at opened
        cases opened
      | ok others =>
        rw [isRest] at opened
        obtain rfl := Except.ok.inj opened
        have short := length_le_of_openBlock? key isMessage
        have shortRest := inductionHypothesis isRest
        rw [List.flatten_cons, List.length_append, List.length_cons, Nat.succ_mul]
        omega

/-- What is opened is no longer than what was sealed. -/
theorem length_le_of_unseal {sealedBody body : Bytes} (opened : key.unseal sealedBody = .ok body) :
    body.length ≤ sealedBody.length := by
  by_cases notWhole : sealedBody.length = 0 ∨ ¬ key.blockSize ∣ sealedBody.length
  · rw [unseal_of_not_whole key notWhole] at opened
    cases opened
  · rw [not_or, not_not] at notWhole
    obtain ⟨some, whole⟩ := notWhole
    obtain ⟨blocks, cut⟩ := exists_isCut key (mt List.length_eq_zero_iff.mpr some) whole
    rw [unseal_of_isCut cut] at opened
    cases isMessages : blocks.mapM key.openBlock with
    | error problem =>
      rw [isMessages] at opened
      cases opened
    | ok messages =>
      rw [isMessages] at opened
      obtain rfl := Except.ok.inj opened
      have lengths : blocks.map List.length = List.replicate blocks.length key.blockSize :=
        List.map_eq_replicate_iff.mpr cut.sizes
      have size : sealedBody.length = blocks.length * key.blockSize := by
        rw [← cut.whole, List.length_flatten, lengths, List.sum_replicate, smul_eq_mul]
      rw [size]
      exact length_flatten_le_of_mapM key isMessages

/-! ### Bodies of any length -/

/-- Keys of at least 67 bytes that open single blocks seal bodies of every length to so many blocks
and open them again, and smaller keys seal nothing. Whatever is opened is some whole blocks; one
that is damaged spoils all, and otherwise the messages follow one another. -/
theorem sealed_in_blocks (key : PrivateKey) :
    (67 ≤ key.blockSize → key.OpensBlocks → ∀ seeds body, ∃ sealedBody,
      key.publicKey.seal seeds body = .ok sealedBody ∧
        sealedBody.length = max 1 (body.length ⌈/⌉ (key.blockSize - 66)) * key.blockSize ∧
        key.unseal sealedBody = .ok body) ∧
    (∀ small : PublicKey, small.blockSize < 67 → ∀ seeds body,
      small.seal seeds body = .error .keyTooSmall) ∧
    (∀ input : Bytes, (input.length = 0 ∨ ¬ key.blockSize ∣ input.length) →
      key.unseal input = .error (.wrongLength input.length key.blockSize)) ∧
    ∀ input : Bytes, input.length ≠ 0 → key.blockSize ∣ input.length →
      ∃ blocks, key.IsCut input blocks ∧
        ((∃ block ∈ blocks, key.openBlock? block = none) →
          key.unseal input = .error .damagedBlock) ∧
        ∀ messages, List.Forall₂ (fun block message => key.openBlock? block = some message) blocks
          messages → key.unseal input = .ok messages.flatten := by
  have overhead : Oaep.overhead = 66 := rfl
  refine ⟨fun large opens seeds body => ?_, fun small tooSmall seeds body => ?_,
    fun input notWhole => unseal_of_not_whole key notWhole, fun input some whole => ?_⟩
  · have room : key.publicKey.longestMessage ≠ 0 := by
      rw [PrivateKey.blockSize] at large
      rw [PublicKey.longestMessage, overhead]
      omega
    obtain ⟨sealedBody, isSealed, -, -, opened⟩ := unseal_seal opens room seeds body
    exact ⟨sealedBody, isSealed, length_of_seal room isSealed, opened⟩
  · have noRoom : small.longestMessage = 0 := by
      rw [PublicKey.longestMessage, overhead]
      omega
    rw [PublicKey.seal, if_pos noRoom]
  · obtain ⟨blocks, cut⟩ := exists_isCut key (mt List.length_eq_zero_iff.mpr some) whole
    refine ⟨blocks, cut, ?_, fun messages opened => ?_⟩
    · rintro ⟨block, member, damaged⟩
      rw [unseal_of_isCut cut, mapM_openBlock_of_damaged key member damaged]
      rfl
    · rw [unseal_of_isCut cut, mapM_openBlock_of_opened key opened]
      rfl

/-- A key of 81 bytes puts fifteen bytes in a block, and sixteen in two. -/
theorem sealed_in_blocks_sixteen_bytes :
    let key := PrivateKey.mersenne
    let body : Bytes := List.replicate 16 7
    67 ≤ key.blockSize ∧ key.OpensBlocks ∧
      ∃ sealedBody, key.publicKey.seal (fun _ => Vector.replicate 32 0) body = .ok sealedBody ∧
        sealedBody.length = 162 ∧ key.unseal sealedBody = .ok body := by
  intro key body
  have large : 67 ≤ key.blockSize := by decide +kernel
  have size : key.blockSize = 81 := by decide +kernel
  have opens : key.OpensBlocks :=
    PrivateKey.matched_mersenne.opensBlocks (by decide +kernel)
  obtain ⟨sealedBody, isSealed, length, opened⟩ :=
    (sealed_in_blocks key).1 large opens (fun _ => Vector.replicate 32 0) body
  refine ⟨large, opens, sealedBody, isSealed, ?_, opened⟩
  rw [length, size]
  decide

end Metering.Rsa
