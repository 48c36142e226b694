import Lamb.Arena.Queue
import Mathlib.Data.List.TakeDrop

/-!
What the slots hold while producer and consumer interleave. The published
slots are a list of blocks, one for each sequence number; the producer only
ever writes the slot after the last block, and only while the consumer is
fewer than all slots behind, so no block changes before it has been read.
-/

namespace Lamb.Arena

open Lamb.Lib

variable {α : Type}

def IngressSlot.Holds (slot : IngressSlot α) (channels : ℕ) (block : List α) : Prop :=
  slot.frames * channels = block.length ∧
    ∀ j, j < block.length → block[j]? = some (slot.samples j)

/-- The published blocks, by sequence number. -/
structure IngressQueue.Stores (queue : IngressQueue α) (blocks : List (List α)) : Prop where
  length : blocks.length = queue.publishedSequence
  consumed_le : queue.consumedSequence ≤ queue.publishedSequence
  held : ∀ sequence block, queue.consumedSequence ≤ sequence →
    blocks[sequence]? = some block →
    (queue.slots (queue.slotOf sequence)).Holds queue.cfg.channels block

/-- What the consumer has delivered, by where it stands. -/
def ConsumePc.Delivered (pc : ConsumePc) (queue : IngressQueue α) (blocks : List (List α))
    (delivered : List α) : Prop :=
  match pc with
  | .idle => delivered = (blocks.take queue.consumedSequence).flatten
  | .loadPublished consumed =>
      consumed = queue.consumedSequence ∧ delivered = (blocks.take consumed).flatten
  | .loadFrames consumed =>
      consumed = queue.consumedSequence ∧ consumed < queue.publishedSequence ∧
        delivered = (blocks.take consumed).flatten
  | .readSample consumed frames index =>
      consumed = queue.consumedSequence ∧ consumed < queue.publishedSequence ∧
        ∃ block, blocks[consumed]? = some block ∧
          frames * queue.cfg.channels = block.length ∧ index ≤ block.length ∧
          delivered = (blocks.take consumed).flatten ++ block.take index
  | .storeConsumed consumed =>
      consumed = queue.consumedSequence ∧ consumed < queue.publishedSequence ∧
        delivered = (blocks.take (consumed + 1)).flatten

def Push.Shaped (push : Push α) (cfg : QueueConfig) : Prop :=
  push.channels = cfg.channels ∧ push.channels ≠ 0 ∧ push.samples.length % push.channels = 0

/-- The producer owns the slot after the last block and has copied `index`
samples into it. -/
structure Push.Fills (push : Push α) (queue : IngressQueue α) (published index : ℕ) : Prop where
  published_eq : published = queue.publishedSequence
  room : published < queue.consumedSequence + queue.cfg.slotCount
  source_lt : push.sourceFrame < push.totalFrames
  copied : ∀ j, j < index →
    push.samples[push.sourceFrame * push.channels + j]? =
      some ((queue.slots (queue.slotOf published)).samples j)

def Push.At (push : Push α) (queue : IngressQueue α) : Prop :=
  match push.pc with
  | .enter => push.sourceFrame = 0
  | .loop => push.Shaped queue.cfg
  | .loadConsumed published =>
      push.Shaped queue.cfg ∧ published = queue.publishedSequence ∧
        push.sourceFrame < push.totalFrames
  | .checkExhausted _ => push.Shaped queue.cfg
  | .addCumulative _ => push.Shaped queue.cfg
  | .addDropped _ => push.Shaped queue.cfg
  | .markExhausted _ => push.Shaped queue.cfg
  | .addEnqueued published => push.Shaped queue.cfg ∧ push.Fills queue published 0
  | .copySample published index => push.Shaped queue.cfg ∧ push.Fills queue published index
  | .storeFrames published =>
      push.Shaped queue.cfg ∧ push.Fills queue published (push.slotFrames queue * push.channels)
  | .storePublished published =>
      push.Shaped queue.cfg ∧
        push.Fills queue published (push.slotFrames queue * push.channels) ∧
        (queue.slots (queue.slotOf published)).frames = push.slotFrames queue

/-! ### Slots -/

section Slots

variable {queue : IngressQueue α} {blocks : List (List α)}

/-- A slot that is being filled is not one of the slots still to be read. -/
theorem IngressQueue.Stores.slotOf_ne (h : queue.Stores blocks) {sequence : ℕ}
    (hroom : queue.publishedSequence < queue.consumedSequence + queue.cfg.slotCount)
    (hlow : queue.consumedSequence ≤ sequence) (hhigh : sequence < blocks.length) :
    queue.slotOf sequence ≠ queue.slotOf queue.publishedSequence := by
  have hlength := h.length
  exact mod_ne_of_lt (by omega) (by omega)

theorem IngressQueue.Stores.writeSlot (h : queue.Stores blocks)
    (hroom : queue.publishedSequence < queue.consumedSequence + queue.cfg.slotCount)
    (slot : IngressSlot α) : (queue.writeSlot queue.publishedSequence slot).Stores blocks where
  length := h.length
  consumed_le := h.consumed_le
  held sequence block hlow hblock := by
    have hhigh := (List.getElem?_eq_some_iff.mp hblock).1
    have hne := h.slotOf_ne hroom hlow hhigh
    have hheld := h.held sequence block hlow hblock
    simp only [IngressQueue.writeSlot, IngressQueue.slotOf] at hne hheld ⊢
    rw [Function.update_of_ne hne]
    exact hheld

theorem IngressQueue.Stores.publish (h : queue.Stores blocks) {block : List α}
    (hholds : (queue.slots (queue.slotOf queue.publishedSequence)).Holds queue.cfg.channels
      block) :
    IngressQueue.Stores { queue with publishedSequence := queue.publishedSequence + 1 }
      (blocks ++ [block]) where
  length := by
    simp only [List.length_append, List.length_singleton, h.length]
  consumed_le := by
    have := h.consumed_le
    simp only
    omega
  held sequence other hlow hother := by
    rw [List.getElem?_append] at hother
    split at hother
    · exact h.held sequence other hlow hother
    · rename_i hnot
      rw [List.getElem?_singleton] at hother
      split at hother
      · obtain rfl := Option.some.inj hother
        obtain rfl : sequence = queue.publishedSequence := by
          have := h.length
          omega
        exact hholds
      · exact absurd hother (by simp)

end Slots

/-! ### The producer -/

section Produce

variable {queue : IngressQueue α} {push : Push α}

theorem Push.accepted_le (queue : IngressQueue α)
    (hlt : push.sourceFrame < push.totalFrames) :
    push.sourceFrame * push.channels + push.slotFrames queue * push.channels ≤
      push.samples.length := by
  have htotal := Nat.div_mul_le_self push.samples.length push.channels
  have hframes : push.sourceFrame + push.slotFrames queue ≤ push.totalFrames := by
    simp only [Push.slotFrames]
    omega
  calc
    push.sourceFrame * push.channels + push.slotFrames queue * push.channels =
        (push.sourceFrame + push.slotFrames queue) * push.channels := (Nat.add_mul _ _ _).symm
    _ ≤ push.totalFrames * push.channels := Nat.mul_le_mul_right _ hframes
    _ ≤ push.samples.length := htotal

/-- The block the producer is about to publish. -/
def Push.block (push : Push α) (queue : IngressQueue α) : List α :=
  (push.samples.drop (push.sourceFrame * push.channels)).take
    (push.slotFrames queue * push.channels)

theorem Push.Fills.holds (hshaped : push.Shaped queue.cfg) {published : ℕ}
    (h : push.Fills queue published (push.slotFrames queue * push.channels))
    (hframes : (queue.slots (queue.slotOf published)).frames = push.slotFrames queue) :
    (queue.slots (queue.slotOf published)).Holds queue.cfg.channels (push.block queue) := by
  have hfits := Push.accepted_le queue h.source_lt
  have hlength : (push.block queue).length = push.slotFrames queue * push.channels := by
    simp only [Push.block, List.length_take, List.length_drop]
    omega
  refine ⟨?_, fun j hj => ?_⟩
  · rw [hframes, hlength, hshaped.1]
  · rw [hlength] at hj
    rw [Push.block, List.getElem?_take_of_lt hj, List.getElem?_drop]
    exact h.copied j hj

theorem Push.Fills.copySample {published index : ℕ}
    (h : push.Fills queue published index)
    (hlt : index < push.slotFrames queue * push.channels) :
    let slot := queue.slots (queue.slotOf published)
    let sample := push.samples.getD (push.sourceFrame * push.channels + index)
      (slot.samples index)
    push.Fills (queue.writeSlot published
      { slot with samples := Function.update slot.samples index sample }) published
      (index + 1) := by
  intro slot sample
  have hfits := Push.accepted_le queue h.source_lt
  have hsample : push.samples[push.sourceFrame * push.channels + index]? = some sample := by
    simp only [sample]
    rw [List.getD_eq_getElem?_getD, List.getElem?_eq_getElem (by omega), Option.getD_some]
  refine ⟨h.published_eq, h.room, h.source_lt, fun j hj => ?_⟩
  simp only [IngressQueue.writeSlot, IngressQueue.slotOf, Function.update_self]
  rcases Nat.lt_succ_iff_lt_or_eq.mp hj with hold | rfl
  · rw [Function.update_of_ne hold.ne]
    exact h.copied j hold
  · rw [Function.update_self]
    exact hsample

/-- What one step of `try_push` does to the slots: nothing that is published
changes, and the step that publishes appends the block it accepted. -/
theorem Push.At.tryPush (hat : push.At queue) {blocks : List (List α)}
    (hstores : queue.Stores blocks) :
    ∃ added : List (List α),
      (queue.tryPush push).1.Stores (blocks ++ added) ∧
      (queue.tryPush push).1.cfg = queue.cfg ∧
      (queue.tryPush push).1.consumedSequence = queue.consumedSequence ∧
      match (queue.tryPush push).2 with
      | .running push' =>
          push'.At (queue.tryPush push).1 ∧
            push'.acceptedSamples = push.acceptedSamples ++ added.flatten
      | .done _ => added = [] := by
  have hnone : blocks ++ [] = blocks := List.append_nil _
  obtain ⟨samples, channels, sourceFrame, enqueuedFrames, pc, before⟩ := push
  cases pc with
  | enter =>
      refine ⟨[], ?_⟩
      simp only [IngressQueue.tryPush, hnone]
      split
      · exact ⟨hstores, rfl, rfl, trivial⟩
      split
      · exact ⟨hstores, rfl, rfl, trivial⟩
      split
      · exact ⟨hstores, rfl, rfl, trivial⟩
      · rename_i hchannels hwhole
        push Not at hchannels hwhole
        exact ⟨hstores, rfl, rfl, ⟨hchannels, hwhole.1, hwhole.2⟩, by simp [Push.acceptedSamples]⟩
  | loop =>
      refine ⟨[], ?_⟩
      simp only [IngressQueue.tryPush, hnone]
      split
      · exact ⟨hstores, rfl, rfl, ⟨hat, rfl, ‹_›⟩, by simp [Push.acceptedSamples]⟩
      · exact ⟨hstores, rfl, rfl, trivial⟩
  | loadConsumed published =>
      refine ⟨[], ?_⟩
      obtain ⟨hshaped, heq, hlt⟩ := hat
      simp only [IngressQueue.tryPush, hnone]
      split
      · exact ⟨hstores, rfl, rfl, trivial⟩
      split
      · exact ⟨hstores, rfl, rfl, hshaped, by simp [Push.acceptedSamples]⟩
      split
      · exact ⟨hstores, rfl, rfl, trivial⟩
      · have hroom : published < queue.consumedSequence + queue.cfg.slotCount := by omega
        refine ⟨hstores, rfl, rfl, ⟨hshaped, heq, hroom, hlt, by simp⟩, ?_⟩
        simp [Push.acceptedSamples]
  | checkExhausted published =>
      refine ⟨[], ?_⟩
      simp only [IngressQueue.tryPush, hnone]
      split
      · exact ⟨hstores, rfl, rfl, trivial⟩
      · exact ⟨hstores, rfl, rfl, hat, by simp [Push.acceptedSamples]⟩
  | addCumulative published =>
      refine ⟨[], ?_⟩
      simp only [IngressQueue.tryPush, hnone]
      split
      · exact ⟨hstores, rfl, rfl, hat, by simp [Push.acceptedSamples]⟩
      · exact ⟨⟨hstores.length, hstores.consumed_le, hstores.held⟩, rfl, rfl, hat,
          by simp [Push.acceptedSamples]⟩
  | addDropped published =>
      refine ⟨[], ?_⟩
      simp only [IngressQueue.tryPush, hnone]
      split
      · exact ⟨hstores, rfl, rfl, hat, by simp [Push.acceptedSamples]⟩
      · exact ⟨⟨hstores.length, hstores.consumed_le, hstores.held⟩, rfl, rfl, trivial⟩
  | markExhausted message =>
      refine ⟨[], ?_⟩
      rw [hnone]
      exact ⟨⟨hstores.length, hstores.consumed_le, hstores.held⟩, rfl, rfl, rfl⟩
  | addEnqueued published =>
      refine ⟨[], ?_⟩
      obtain ⟨hshaped, hfills⟩ := hat
      simp only [IngressQueue.tryPush, hnone]
      split
      · exact ⟨hstores, rfl, rfl, trivial⟩
      · refine ⟨⟨hstores.length, hstores.consumed_le, hstores.held⟩, rfl, rfl,
          ⟨hshaped, hfills.published_eq, hfills.room, hfills.source_lt, by simp⟩, ?_⟩
        simp [Push.acceptedSamples]
  | copySample published index =>
      refine ⟨[], ?_⟩
      obtain ⟨hshaped, hfills⟩ := hat
      have heq := hfills.published_eq
      simp only [IngressQueue.tryPush, hnone]
      split
      · rename_i hlt
        have hcopied := hfills.copySample hlt
        refine ⟨?_, rfl, rfl, ⟨hshaped, ?_⟩, by simp [Push.acceptedSamples]⟩
        · rw [heq]
          exact hstores.writeSlot (heq ▸ hfills.room) _
        · exact ⟨hcopied.published_eq, hcopied.room, hcopied.source_lt, hcopied.copied⟩
      · rename_i hdone
        refine ⟨hstores, rfl, rfl, ⟨hshaped, hfills.published_eq, hfills.room, hfills.source_lt,
          fun j hj => hfills.copied j ?_⟩, by simp [Push.acceptedSamples]⟩
        exact lt_of_lt_of_le hj (Nat.not_lt.mp hdone)
  | storeFrames published =>
      refine ⟨[], ?_⟩
      obtain ⟨hshaped, hfills⟩ := hat
      have heq := hfills.published_eq
      simp only [IngressQueue.tryPush, hnone]
      refine ⟨?_, rfl, rfl, ⟨hshaped, ⟨hfills.published_eq, hfills.room, hfills.source_lt,
        fun j hj => ?_⟩, ?_⟩, by simp [Push.acceptedSamples]⟩
      · rw [heq]
        exact hstores.writeSlot (heq ▸ hfills.room) _
      · simp only [IngressQueue.writeSlot, IngressQueue.slotOf, Function.update_self]
        exact hfills.copied j hj
      · simp only [IngressQueue.writeSlot, IngressQueue.slotOf, Function.update_self]
        rfl
  | storePublished published =>
      obtain ⟨hshaped, hfills, hframes⟩ := hat
      have hholds := hfills.holds hshaped hframes
      obtain rfl := hfills.published_eq
      refine ⟨[Push.block _ queue], hstores.publish hholds, rfl, rfl, hshaped, ?_⟩
      simp only [Push.acceptedSamples, Push.block, List.flatten_singleton, Nat.add_mul,
        List.take_add]

end Produce

/-! ### The consumer -/

theorem flatten_take_succ {blocks : List (List α)} {index : ℕ} {block : List α}
    (h : blocks[index]? = some block) :
    (blocks.take (index + 1)).flatten = (blocks.take index).flatten ++ block := by
  simp [List.take_add_one, h]

theorem ConsumePc.Delivered.append {pc : ConsumePc} {queue queue' : IngressQueue α}
    {blocks : List (List α)} {delivered : List α} (h : pc.Delivered queue blocks delivered)
    (hstores : queue.Stores blocks) (added : List (List α)) (hcfg : queue'.cfg = queue.cfg)
    (hconsumed : queue'.consumedSequence = queue.consumedSequence)
    (hpublished : queue.publishedSequence ≤ queue'.publishedSequence) :
    pc.Delivered queue' (blocks ++ added) delivered := by
  have hlength := hstores.length
  have hle := hstores.consumed_le
  cases pc with
  | idle =>
      simp only [ConsumePc.Delivered, hconsumed] at h ⊢
      rw [List.take_append_of_le_length (by omega)]
      exact h
  | loadPublished consumed =>
      obtain ⟨rfl, h⟩ := h
      refine ⟨hconsumed.symm, ?_⟩
      rw [List.take_append_of_le_length (by omega)]
      exact h
  | loadFrames consumed =>
      obtain ⟨rfl, hlt, h⟩ := h
      refine ⟨hconsumed.symm, by omega, ?_⟩
      rw [List.take_append_of_le_length (by omega)]
      exact h
  | readSample consumed frames index =>
      obtain ⟨rfl, hlt, block, hblock, hframes, hindex, h⟩ := h
      refine ⟨hconsumed.symm, by omega, block, ?_, hcfg ▸ hframes, hindex, ?_⟩
      · rw [List.getElem?_append_left (by omega)]
        exact hblock
      · rw [List.take_append_of_le_length (by omega)]
        exact h
  | storeConsumed consumed =>
      obtain ⟨rfl, hlt, h⟩ := h
      refine ⟨hconsumed.symm, by omega, ?_⟩
      rw [List.take_append_of_le_length (by omega)]
      exact h

/-- What one step of `consume_next` does: the slots stay as they are and the
callback reads the next sample of the oldest block. -/
theorem ConsumePc.Delivered.consumeNext {pc : ConsumePc} {queue : IngressQueue α}
    {blocks : List (List α)} {delivered : List α} (h : pc.Delivered queue blocks delivered)
    (hstores : queue.Stores blocks) :
    (queue.consumeNext pc).1.Stores blocks ∧
      (queue.consumeNext pc).2.1.Delivered (queue.consumeNext pc).1 blocks
        (delivered ++ (queue.consumeNext pc).2.2.toList) := by
  have hlength := hstores.length
  cases pc with
  | idle =>
      exact ⟨hstores, rfl, by simpa [IngressQueue.consumeNext, ConsumePc.Delivered] using h⟩
  | loadPublished consumed =>
      obtain ⟨rfl, h⟩ := h
      simp only [IngressQueue.consumeNext]
      split
      · exact ⟨hstores, by simpa [ConsumePc.Delivered] using h⟩
      · exact ⟨hstores, rfl, Nat.not_le.mp ‹_›, by simpa using h⟩
  | loadFrames consumed =>
      obtain ⟨rfl, hlt, h⟩ := h
      have hblock := List.getElem?_eq_getElem (hlength.symm ▸ hlt)
      have hheld := hstores.held _ _ le_rfl hblock
      exact ⟨hstores, rfl, hlt, _, hblock, hheld.1, Nat.zero_le _,
        by simpa [IngressQueue.consumeNext] using h⟩
  | readSample consumed frames index =>
      obtain ⟨rfl, hlt, block, hblock, hframes, hindex, h⟩ := h
      simp only [IngressQueue.consumeNext, hframes]
      split
      · rename_i hmore
        have hsample := (hstores.held _ _ le_rfl hblock).2 index hmore
        refine ⟨hstores, rfl, hlt, block, hblock, hframes, hmore, ?_⟩
        rw [h, List.append_assoc, List.take_add_one, hsample]
      · rename_i hdone
        refine ⟨hstores, rfl, hlt, ?_⟩
        rw [h, flatten_take_succ hblock, List.take_of_length_le (Nat.not_lt.mp hdone)]
        simp
  | storeConsumed consumed =>
      obtain ⟨rfl, hlt, h⟩ := h
      refine ⟨⟨hlength, hlt, fun sequence block hlow => hstores.held sequence block ?_⟩, ?_⟩
      · exact Nat.le_of_succ_le hlow
      · simpa [IngressQueue.consumeNext, ConsumePc.Delivered] using h

end Lamb.Arena
