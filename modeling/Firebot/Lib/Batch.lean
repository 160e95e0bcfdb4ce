import Mathlib.Data.List.TakeWhile

/-!
# Batches of a queue

A batch is taken from the front of a queue: the first items, of those the ones that a test lets through, of
those again the first, and of them what stands before the first that stops the batch. An item is in the batch
according to what stands before it.
-/

namespace Batch

universe u

variable {α : Type u} {before : List α} {x : α}

end Batch
