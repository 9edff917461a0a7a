/-
A queue with room for a fixed number of items.  Putting into a full queue
fails, and whoever drops what does not fit loses exactly the newest item.
-/
import Mathlib.Data.List.Basic
import Mathlib.Order.Lattice

namespace BoundedQueue

universe u

variable {E : Type u} {maxsize : Nat}

/-- `Queue.put_nowait`; `none` is `QueueFull`. -/
def putNowait (maxsize : Nat) (queue : List E) (item : E) : Option (List E) :=
  if maxsize ≤ queue.length then none else some (queue ++ [item])

/-- Put an item, and drop it if there is no room. -/
def offer (maxsize : Nat) (queue : List E) (item : E) : List E :=
  (putNowait maxsize queue item).getD queue

/-- `Queue.get_nowait`: the oldest item and the rest; `none` is `QueueEmpty`. -/
def getNowait : List E → Option (E × List E)
  | [] => none
  | item :: rest => some (item, rest)

theorem offer_of_room {queue : List E} (hroom : queue.length < maxsize)
    (item : E) : offer maxsize queue item = queue ++ [item] := by
  rw [offer, putNowait, if_neg (not_le.mpr hroom), Option.getD_some]

theorem offer_of_full {queue : List E} (hfull : maxsize ≤ queue.length)
    (item : E) : offer maxsize queue item = queue := by
  rw [offer, putNowait, if_pos hfull, Option.getD_none]

/-- A queue never outgrows its room. -/
theorem length_offer_le {queue : List E} (hle : queue.length ≤ maxsize)
    (item : E) : (offer maxsize queue item).length ≤ maxsize := by
  rcases lt_or_ge queue.length maxsize with hroom | hfull
  · rw [offer_of_room hroom, List.length_append]
    exact hroom
  · rw [offer_of_full hfull]
    exact hle

theorem length_getNowait_le {queue rest : List E} {item : E}
    (hle : queue.length ≤ maxsize)
    (hget : getNowait queue = some (item, rest)) : rest.length ≤ maxsize := by
  cases queue with
  | nil => cases hget
  | cons head tail =>
      cases hget
      exact le_trans (Nat.le_succ _) hle

/-- What is in a queue after an offer: what was there, and the item if there
was room for it. -/
theorem exists_mem_offer_iff (P : E → Prop) {queue : List E}
    (hle : queue.length ≤ maxsize) {item : E} (hitem : P item) :
    (∃ found ∈ offer maxsize queue item, P found) ↔
      ¬(queue.length = maxsize ∧ ∀ found ∈ queue, ¬P found) := by
  rcases lt_or_eq_of_le hle with hroom | hfull
  · rw [offer_of_room hroom]
    refine iff_of_true ⟨item, by simp, hitem⟩ ?_
    rintro ⟨heq, _⟩
    exact absurd heq hroom.ne
  · rw [offer_of_full hfull.ge]
    simp [hfull]

end BoundedQueue
