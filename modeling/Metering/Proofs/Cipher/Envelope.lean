/-
Bodies of any length are opened again. A sealed body is a positive number of whole blocks, one
for each message that the body was cut into, and the messages are the body again.
-/

import Metering.Proofs.Cipher.Rsa

namespace Metering.Rsa

/-- What is sealed in a block under the public key is opened with the private one. -/
def PrivateKey.OpensBlocks (key : PrivateKey) : Prop :=
  ∀ seed message, message.length ≤ key.publicKey.longestMessage →
    key.openBlock? (key.publicKey.sealBlock seed message) = some message

variable {key : PrivateKey}

/-- Keys that belong together open blocks, if a block has room for a message at all. -/
theorem PrivateKey.Matched.opensBlocks (matched : key.Matched)
    (room : key.publicKey.longestMessage ≠ 0) : key.OpensBlocks := by
  intro seed message short
  refine openBlock?_sealBlock matched ?_ seed
  rw [PublicKey.longestMessage] at short room
  rw [PrivateKey.blockSize]
  omega

/-! ### The messages of a body -/

theorem flatten_messages (key : PublicKey) (body : Bytes) : (key.messages body).flatten = body := by
  rw [PublicKey.messages]
  split
  · next empty => rw [List.isEmpty_iff.mp empty]; rfl
  · exact flatten_chunksOf key.longestMessage body

theorem messages_ne_nil (key : PublicKey) (body : Bytes) : key.messages body ≠ [] := by
  rw [PublicKey.messages]
  split
  · exact List.cons_ne_nil [] []
  · next more =>
    cases body with
    | nil => exact absurd rfl more
    | cons byte rest => rw [chunksOf]; exact List.cons_ne_nil _ _

theorem length_le_of_mem_messages {key : PublicKey} (room : key.longestMessage ≠ 0)
    {body message : Bytes} (member : message ∈ key.messages body) :
    message.length ≤ key.longestMessage := by
  rw [PublicKey.messages] at member
  split at member
  · rw [List.mem_singleton.mp member]
    exact Nat.zero_le _
  · exact length_le_of_mem_chunksOf (Nat.pos_of_ne_zero room) member

/-! ### The blocks of a body -/

/-- The blocks of messages, the first of which has a number. -/
def PublicKey.blocks (key : PublicKey) (seeds : Nat → Oaep.Seed) (messages : List Bytes)
    (first : Nat) : List Bytes :=
  (messages.zipIdx first).map fun (message, block) => key.sealBlock (seeds block) message

theorem length_of_mem_blocks {key : PublicKey} {seeds : Nat → Oaep.Seed} {messages : List Bytes}
    {first : Nat} {block : Bytes} (member : block ∈ key.blocks seeds messages first) :
    block.length = key.blockSize := by
  obtain ⟨entry, _, rfl⟩ := List.mem_map.mp member
  exact length_sealBlock key (seeds entry.2) entry.1

theorem length_blocks (key : PublicKey) (seeds : Nat → Oaep.Seed) (messages : List Bytes)
    (first : Nat) : (key.blocks seeds messages first).length = messages.length := by
  rw [PublicKey.blocks, List.length_map, List.length_zipIdx]

theorem length_flatten_blocks (key : PublicKey) (seeds : Nat → Oaep.Seed)
    (messages : List Bytes) (first : Nat) :
    (key.blocks seeds messages first).flatten.length = messages.length * key.blockSize := by
  have lengths : (key.blocks seeds messages first).map List.length =
      List.replicate messages.length key.blockSize := by
    refine List.eq_replicate_iff.mpr ⟨by rw [List.length_map, length_blocks], fun size member => ?_⟩
    obtain ⟨block, inBlocks, rfl⟩ := List.mem_map.mp member
    exact length_of_mem_blocks inBlocks
  rw [List.length_flatten, lengths, List.sum_replicate_nat]

theorem mapM_openBlock_blocks (opens : key.OpensBlocks) (seeds : Nat → Oaep.Seed)
    {messages : List Bytes}
    (short : ∀ message ∈ messages, message.length ≤ key.publicKey.longestMessage) (first : Nat) :
    (key.publicKey.blocks seeds messages first).mapM key.openBlock = .ok messages := by
  induction messages generalizing first with
  | nil => rfl
  | cons message rest inductionHypothesis =>
    obtain ⟨isShort, restShort⟩ := List.forall_mem_cons.mp short
    have opened : key.openBlock (key.publicKey.sealBlock (seeds first) message) = .ok message := by
      rw [PrivateKey.openBlock, opens _ _ isShort]
    have others := inductionHypothesis restShort (first + 1)
    rw [PublicKey.blocks] at others ⊢
    rw [List.zipIdx_cons, List.map_cons, List.mapM_cons, opened, others]
    rfl

theorem seal_eq (key : PublicKey) (room : key.longestMessage ≠ 0) (seeds : Nat → Oaep.Seed)
    (body : Bytes) :
    key.seal seeds body = .ok (key.blocks seeds (key.messages body) 0).flatten := by
  rw [PublicKey.seal, if_neg room, PublicKey.blocks, List.flatMap_def]

/-- No body is longer than what it is sealed to. -/
theorem length_le_flatten_blocks {key : PublicKey} (room : key.longestMessage ≠ 0)
    (seeds : Nat → Oaep.Seed) (body : Bytes) :
    body.length ≤ (key.blocks seeds (key.messages body) 0).flatten.length := by
  have short : ∀ size ∈ (key.messages body).map List.length, size ≤ key.blockSize := by
    intro size member
    obtain ⟨message, inMessages, rfl⟩ := List.mem_map.mp member
    exact (length_le_of_mem_messages room inMessages).trans (Nat.sub_le ..)
  have total := List.sum_le_card_nsmul _ _ short
  rw [List.length_map, nsmul_eq_mul, Nat.cast_id, ← List.length_flatten, flatten_messages] at total
  rwa [length_flatten_blocks]

/-! ### Opening -/

/-- A sealed body with the blocks that it is opened by: each has the size of the modulus, and the
body is not empty. -/
structure PrivateKey.IsCut (key : PrivateKey) (sealedBody : Bytes) (blocks : List Bytes) :
    Prop where
  some : sealedBody ≠ []
  sizes : ∀ block ∈ blocks, block.length = key.blockSize
  whole : blocks.flatten = sealedBody

theorem PrivateKey.IsCut.dvd {sealedBody : Bytes} {blocks : List Bytes}
    (cut : key.IsCut sealedBody blocks) : key.blockSize ∣ sealedBody.length := by
  rw [← cut.whole, List.length_flatten]
  refine List.dvd_sum fun size member => ?_
  obtain ⟨block, inBlocks, rfl⟩ := List.mem_map.mp member
  rw [cut.sizes block inBlocks]

/-- What is cut into blocks is opened block by block. -/
theorem unseal_of_isCut {sealedBody : Bytes} {blocks : List Bytes}
    (cut : key.IsCut sealedBody blocks) :
    key.unseal sealedBody = (blocks.mapM key.openBlock).map List.flatten := by
  have positive : 0 < key.blockSize :=
    Nat.pos_of_dvd_of_pos cut.dvd (List.length_pos_iff.mpr cut.some)
  have pieces : chunksOf key.blockSize sealedBody = blocks := by
    rw [← cut.whole]
    exact chunksOf_flatten positive cut.sizes
  have whole : ¬ (sealedBody.isEmpty ∨ sealedBody.length % key.blockSize ≠ 0) := by
    rw [List.isEmpty_iff, not_or, not_not]
    exact ⟨cut.some, Nat.mod_eq_zero_of_dvd cut.dvd⟩
  rw [PrivateKey.unseal, if_neg whole, pieces]
  cases blocks.mapM key.openBlock <;> rfl

/-- A body that was sealed has not become shorter, nor is it empty, and opened it is the body
again. -/
theorem unseal_seal (opens : key.OpensBlocks) (room : key.publicKey.longestMessage ≠ 0)
    (seeds : Nat → Oaep.Seed) (body : Bytes) :
    ∃ sealedBody, key.publicKey.seal seeds body = .ok sealedBody ∧
      body.length ≤ sealedBody.length ∧ sealedBody.isEmpty = false ∧
      key.unseal sealedBody = .ok body := by
  have positive : 0 < key.publicKey.blockSize := by
    rw [PublicKey.longestMessage] at room
    omega
  have some : 0 < (key.publicKey.messages body).length :=
    List.length_pos_iff.mpr (messages_ne_nil key.publicKey body)
  have size := length_flatten_blocks key.publicKey seeds (key.publicKey.messages body) 0
  have notEmpty : (key.publicKey.blocks seeds (key.publicKey.messages body) 0).flatten ≠ [] := by
    rw [← List.length_pos_iff, size]
    exact Nat.mul_pos some positive
  have cut : key.IsCut (key.publicKey.blocks seeds (key.publicKey.messages body) 0).flatten
      (key.publicKey.blocks seeds (key.publicKey.messages body) 0) :=
    ⟨notEmpty, fun _ member => length_of_mem_blocks member, rfl⟩
  have opened := mapM_openBlock_blocks opens seeds
    (fun _ member => length_le_of_mem_messages room member : ∀ message ∈
      key.publicKey.messages body, message.length ≤ key.publicKey.longestMessage) 0
  refine ⟨_, seal_eq key.publicKey room seeds body, length_le_flatten_blocks room seeds body,
    List.isEmpty_eq_false_iff.mpr notEmpty, ?_⟩
  rw [unseal_of_isCut cut, opened]
  exact congrArg Except.ok (flatten_messages key.publicKey body)

end Metering.Rsa
