/-
# The priority table

`priority-table.c` is not in the sources.  The spec (§4.1) describes it: an array of
doubly-linked lists indexed by priority `0..max_priority`; `priority_table_enqueue`
appends to the list of its priority, `priority_table_dequeue` takes the head of the
highest non-empty list, `priority_table_remove` unlinks an entry and does nothing to an
entry on no list; ties within a bucket are first in, first out.

The table is kept here as its entries `(priority, slab number)` in the order they were
enqueued: a bucket is the sublist of one priority, in order, so the head of the highest
bucket is the first entry of the highest priority present (`priorityTableDequeue`).
-/

import Kvdo.Vdo.SlabPriority

namespace Kvdo

/-- Modelled from the spec: `priority_table_enqueue`, to the tail of its bucket. -/
def priorityTableEnqueue (table : List (Nat × Nat)) (priority slab : Nat) :
    List (Nat × Nat) :=
  table ++ [(priority, slab)]

/-- The highest priority on the table, `0` for an empty table. -/
def topPriority : List (Nat × Nat) → Nat
  | [] => 0
  | e :: es => max e.1 (topPriority es)

/-- The first entry of priority `p`, and the table without it. -/
def takeEntry (p : Nat) : List (Nat × Nat) → Option (Nat × List (Nat × Nat))
  | [] => none
  | e :: es => if e.1 = p then some (e.2, es) else (takeEntry p es).map fun r => (r.1, e :: r.2)

/-- Modelled from the spec: `priority_table_dequeue`, the head of the highest non-empty
bucket; `none` for an empty table, where the C function returns `NULL`. -/
def priorityTableDequeue (table : List (Nat × Nat)) : Option (Nat × List (Nat × Nat)) :=
  takeEntry (topPriority table) table

/-- Modelled from the spec: `priority_table_remove`, which unlinks the slab's entry and
leaves a table that does not hold the slab as it is. -/
def priorityTableRemove (table : List (Nat × Nat)) (slab : Nat) : List (Nat × Nat) :=
  table.filter fun e => e.2 ≠ slab

/-- Modelled from the spec: `is_priority_table_empty`. -/
def isPriorityTableEmpty (table : List (Nat × Nat)) : Bool := table.isEmpty

theorem le_topPriority {table : List (Nat × Nat)} {e : Nat × Nat} (h : e ∈ table) :
    e.1 ≤ topPriority table := by
  induction table with
  | nil => cases h
  | cons e' es ih =>
    rcases List.mem_cons.1 h with rfl | h
    · exact le_max_left _ _
    · exact (ih h).trans (le_max_right _ _)

theorem exists_mem_topPriority {table : List (Nat × Nat)} (h : table ≠ []) :
    ∃ e ∈ table, e.1 = topPriority table := by
  induction table with
  | nil => exact absurd rfl h
  | cons e es ih =>
    by_cases hes : es = []
    · subst hes; exact ⟨e, List.mem_singleton_self e, by simp [topPriority]⟩
    · obtain ⟨e', he', htop⟩ := ih hes
      rcases le_total e.1 (topPriority es) with hle | hle
      · exact ⟨e', List.mem_cons_of_mem _ he', by simp [topPriority, max_eq_right hle, htop]⟩
      · exact ⟨e, List.mem_cons_self _ _, by simp [topPriority, max_eq_left hle]⟩

/-- What `takeEntry` takes was on the table, at priority `p`, and nothing else moves. -/
theorem takeEntry_perm {p slab : Nat} {table rest : List (Nat × Nat)}
    (h : takeEntry p table = some (slab, rest)) : table.Perm ((p, slab) :: rest) := by
  induction table generalizing rest with
  | nil => cases h
  | cons e es ih =>
    unfold takeEntry at h
    split_ifs at h with he
    · obtain ⟨rfl, rfl⟩ := Option.some.inj h
      obtain ⟨_, _⟩ := e
      simp_all
    · obtain ⟨⟨_, rest'⟩, hr, heq⟩ := Option.map_eq_some'.1 h
      obtain ⟨rfl, rfl⟩ := Prod.mk.inj heq
      exact ((ih hr).cons e).trans (List.Perm.swap _ _ _)

theorem takeEntry_isSome {p : Nat} {table : List (Nat × Nat)} (h : ∃ e ∈ table, e.1 = p) :
    (takeEntry p table).isSome := by
  induction table with
  | nil => simp at h
  | cons e es ih =>
    unfold takeEntry
    split_ifs with he
    · rfl
    · obtain ⟨e', he', rfl⟩ := h
      rcases List.mem_cons.1 he' with rfl | he'
      · exact absurd rfl he
      · simpa using ih ⟨e', he', rfl⟩

/-- A non-empty table always gives up a slab. -/
theorem priorityTableDequeue_isSome {table : List (Nat × Nat)} (h : table ≠ []) :
    (priorityTableDequeue table).isSome :=
  takeEntry_isSome (exists_mem_topPriority h)

/-- **`priority_table_dequeue` takes a highest entry.**  The slab it returns was on the
table at its top priority, every entry left is at most that priority, and the table
without the slab's entry is what is left. -/
theorem priorityTableDequeue_spec {table rest : List (Nat × Nat)} {slab : Nat}
    (h : priorityTableDequeue table = some (slab, rest)) :
    table.Perm ((topPriority table, slab) :: rest) ∧ ∀ e ∈ rest, e.1 ≤ topPriority table := by
  have hp := takeEntry_perm h
  exact ⟨hp, fun e he => le_topPriority (hp.mem_iff.2 (List.mem_cons_of_mem _ he))⟩

theorem priorityTableDequeue_nil : priorityTableDequeue [] = none := rfl

end Kvdo
