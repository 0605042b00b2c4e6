/-
The batches of the matrix transport (`network/transport/matrix/utils.py`).

`make_message_batches` joins the texts of messages with newlines until the next text would exceed the limit. The size that it
keeps is that of the texts, without the newlines between them.

Results:
- `batches_readBack`: the texts can be read back, and no batch exceeds the limit if the newlines have room.
- `batch_exceeds_limit`: two texts that fill the limit are joined to a batch above it.
-/
import Mathlib.Tactic

namespace Gatecoin.Network

/-- a text, as its characters -/
abbrev Text := List Char

inductive TransportError where
  /-- `Message exceeds batch size. Size: .., Max: .., Message: ..` -/
  | exceedsBatchSize (size max : ℕ) (message : Text)
deriving DecidableEq

def matrixMaxBatchSize : ℕ := 50000

/-- `"\n".join(texts)` -/
def joinLines (texts : List Text) : Text := ['\n'].intercalate texts

/-- the loop over the texts that are left: the batches that it yields and the exception that ends it, which tells the
default limit whatever the limit is -/
def batchesFrom (maxBatchSize : ℕ) : List Text → ℕ → List Text → List Text × Option TransportError
  | currentBatch, _, [] => (if currentBatch = [] then [] else [joinLines currentBatch], none)
  | currentBatch, size, text :: texts =>
    if size + text.length > maxBatchSize then
      if size = 0 then ([], some (.exceedsBatchSize text.length matrixMaxBatchSize text))
      else
        let rest := batchesFrom maxBatchSize [text] text.length texts
        (joinLines currentBatch :: rest.1, rest.2)
    else batchesFrom maxBatchSize (currentBatch ++ [text]) (size + text.length) texts

def makeMessageBatches (messageTexts : List Text) (maxBatchSize : ℕ) : List Text × Option TransportError :=
  batchesFrom maxBatchSize [] 0 messageTexts

def totalLength (texts : List Text) : ℕ := (texts.map List.length).sum

/-- successive texts that are within the limit together have room for the newlines between them -/
def NewlinesFit (maxBatchSize : ℕ) (texts : List Text) : Prop :=
  ∀ run, run <:+: texts → totalLength run ≤ maxBatchSize → totalLength run + (run.length - 1) ≤ maxBatchSize

variable {maxBatchSize : ℕ} {current texts : List Text}

theorem length_joinLines (texts : List Text) : (joinLines texts).length = totalLength texts + (texts.length - 1) := by
  induction texts with
  | nil => rfl
  | cons t texts ih => cases texts with
    | nil => simp [joinLines, totalLength]
    | cons u texts =>
      simp only [joinLines, totalLength] at ih ⊢
      rw [List.intercalate_cons_cons, List.length_append, List.length_append, ih]
      simp
      omega

/-- the loop with some texts in the current batch: a batch joins successive texts that are within the limit together -/
theorem batchesFrom_spec (hcurrent : totalLength current ≤ maxBatchSize) (hlimit : ∀ t ∈ texts, t.length ≤ maxBatchSize)
    (hlines : ∀ t ∈ current ++ texts, '\n' ∉ t) :
    ∃ batches, batchesFrom maxBatchSize current (totalLength current) texts = (batches, none) ∧
      batches.flatMap (List.splitOn '\n') = current ++ texts ∧
      ∀ b ∈ batches, ∃ run, run <:+: current ++ texts ∧ totalLength run ≤ maxBatchSize ∧ b = joinLines run := by
  induction texts generalizing current with
  | nil => cases current with
    | nil => exact ⟨[], rfl, rfl, by simp⟩
    | cons t current =>
      rw [List.append_nil] at hlines ⊢
      refine ⟨[joinLines (t :: current)], rfl, ?_, ?_⟩
      · rw [List.flatMap_singleton, joinLines, List.splitOn_intercalate _ hlines (by simp)]
      · exact List.forall_mem_singleton.2 ⟨_, List.infix_rfl, hcurrent, rfl⟩
  | cons t texts ih =>
    have hrest := List.forall_mem_of_forall_mem_cons hlimit
    have ht := hlimit t List.mem_cons_self
    simp only [batchesFrom]
    split_ifs with hfull hempty
    · omega
    · -- the batch is closed, so it is not empty, and the next one starts with this text
      have hne : current ≠ [] := by
        rintro rfl
        exact hempty rfl
      have hone : totalLength [t] = t.length := by simp [totalLength]
      rw [List.forall_mem_append] at hlines
      obtain ⟨batches, hrun, hsplit, hruns⟩ := @ih [t] (hone ▸ ht) hrest hlines.2
      rw [hone] at hrun
      refine ⟨joinLines current :: batches, by rw [hrun], ?_, List.forall_mem_cons.2 ⟨?_, fun b hb => ?_⟩⟩
      · rw [List.flatMap_cons, hsplit, joinLines, List.splitOn_intercalate _ hlines.1 hne, List.singleton_append]
      · exact ⟨current, (List.prefix_append _ _).isInfix, hcurrent, rfl⟩
      · obtain ⟨run, hpart, hrun⟩ := hruns b hb
        exact ⟨run, hpart.trans (List.suffix_append _ _).isInfix, hrun⟩
    · have hsize : totalLength (current ++ [t]) = totalLength current + t.length := by simp [totalLength]
      obtain ⟨batches, hrun, hsplit, hruns⟩ := @ih (current ++ [t]) (by omega) hrest (by simpa using hlines)
      rw [List.append_assoc, List.singleton_append] at hsplit hruns
      exact ⟨batches, hsize ▸ hrun, hsplit, hruns⟩

/-- **Batches.** Texts within the limit are all put into batches, from which they can be read back; no batch exceeds the limit
if the newlines fit. -/
theorem batches_readBack (hlimit : ∀ t ∈ texts, t.length ≤ maxBatchSize) (hlines : ∀ t ∈ texts, '\n' ∉ t) :
    ∃ batches, makeMessageBatches texts maxBatchSize = (batches, none) ∧ batches.flatMap (List.splitOn '\n') = texts ∧
      (NewlinesFit maxBatchSize texts → ∀ b ∈ batches, b.length ≤ maxBatchSize) := by
  obtain ⟨batches, hrun, hsplit, hruns⟩ := @batchesFrom_spec maxBatchSize [] texts (Nat.zero_le _) hlimit hlines
  refine ⟨batches, hrun, hsplit, fun hfits b hb => ?_⟩
  obtain ⟨run, hpart, hsize, rfl⟩ := hruns b hb
  rw [length_joinLines]
  exact hfits run hpart hsize

/-- a limit with room for one newline -/
theorem batch_within_limit : ∃ batches, makeMessageBatches [['a', 'b'], ['c', 'd']] 5 = (batches, none) ∧
    batches.flatMap (List.splitOn '\n') = [['a', 'b'], ['c', 'd']] ∧ ∀ b ∈ batches, b.length ≤ 5 := by
  obtain ⟨batches, h, hsplit, hfits⟩ := @batches_readBack 5 [['a', 'b'], ['c', 'd']] (by decide) (by decide)
  refine ⟨batches, h, hsplit, hfits fun run hpart _ => ?_⟩
  have hlength : run.length ≤ 2 := hpart.length_le
  have htotal : totalLength run ≤ 4 := (hpart.sublist.map List.length).sum_le_sum (by simp)
  omega

/-- the condition is not necessary: the two texts without room for a newline come into two batches -/
example : ¬ NewlinesFit 4 [['a'], ['a', 'b'], ['a', 'b']] ∧
    ∀ b ∈ (makeMessageBatches [['a'], ['a', 'b'], ['a', 'b']] 4).1, b.length ≤ 4 := by
  refine ⟨fun h => ?_, by decide⟩
  exact absurd (h [['a', 'b'], ['a', 'b']] (by decide) (by decide)) (by decide)

theorem batch_exceeds_limit :
    makeMessageBatches [['a', 'b'], ['c', 'd']] 4 = ([['a', 'b', '\n', 'c', 'd']], none) ∧
      4 < ['a', 'b', '\n', 'c', 'd'].length := by
  decide

end Gatecoin.Network
