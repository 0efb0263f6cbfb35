/-!
# Results in order

Work that is done on many parts at the same time finishes in any order. Each result carries the index of
its part and is stored there; `collate_perm` says that the order of arrival cannot be seen afterwards, and
`collate_mapIdx` that one result for each part gives back all of them.
-/

namespace Memoryless

variable {α β : Type}

/-- Stores a result under the index of its part. -/
def store (slots : Array (Option α)) (arrival : Nat × α) : Array (Option α) :=
  slots.setIfInBounds arrival.1 (some arrival.2)

/-- The results for `n` parts in the order of the parts. -/
def collate (n : Nat) (arrivals : List (Nat × α)) : List α :=
  (arrivals.foldl store (Array.replicate n none)).toList.filterMap id

/-- Results for different parts may be stored in either order. -/
theorem store_comm (slots : Array (Option α)) {a b : Nat × α} (apart : a.1 ≠ b.1) :
    store (store slots a) b = store (store slots b) a := by
  unfold store
  exact Array.setIfInBounds_comm _ _ apart

/-- The order in which results arrive does not matter, as long as there is one for each part. -/
theorem collate_perm {n : Nat} {first second : List (Nat × α)} (same : first.Perm second)
    (distinct : (first.map Prod.fst).Nodup) : collate n first = collate n second := by
  suffices stored : ∀ slots : Array (Option α), first.foldl store slots = second.foldl store slots by
    simp only [collate, stored]
  induction same with
  | nil => exact fun _ => rfl
  | cons a _ ih =>
      intro slots
      simp only [List.map_cons, List.nodup_cons] at distinct
      exact ih distinct.2 _
  | swap a b rest =>
      intro slots
      simp only [List.map_cons, List.nodup_cons, List.mem_cons, not_or] at distinct
      simp only [List.foldl_cons, store_comm slots distinct.1.1]
  | trans one _ ihOne ihTwo =>
      intro slots
      exact (ihOne distinct slots).trans
        (ihTwo ((one.map Prod.fst).nodup_iff.mp distinct) slots)

/-- The slots while results arrive in the order of the parts: those of `done` are filled. -/
theorem foldl_store_mapIdx (f : β → α) (done : List α) (rest : List β) :
    (rest.mapIdx fun i part => (done.length + i, f part)).foldl store
        (done.map some ++ List.replicate rest.length none).toArray =
      ((done ++ rest.map f).map some).toArray := by
  induction rest generalizing done with
  | nil => simp
  | cons part rest ih =>
      have stored : store (done.map some ++ List.replicate (part :: rest).length none).toArray
          (done.length, f part) =
            ((done ++ [f part]).map some ++ List.replicate rest.length none).toArray := by
        simp [store, List.replicate_succ]
      have later := ih (done ++ [f part])
      rw [List.length_append, List.length_singleton, List.append_assoc] at later
      rw [List.mapIdx_cons, List.foldl_cons, Nat.add_zero, stored]
      simpa only [Nat.add_assoc, Nat.add_comm 1, List.map_cons, List.singleton_append] using later

/-- Results that arrive in the order of the parts stay as they are. -/
theorem collate_mapIdx (f : β → α) (parts : List β) :
    collate parts.length (parts.mapIdx fun i part => (i, f part)) = parts.map f := by
  have slots := foldl_store_mapIdx f [] parts
  simp only [List.map_nil, List.nil_append, List.length_nil, Nat.zero_add] at slots
  have empty : Array.replicate parts.length (none : Option α) =
      (List.replicate parts.length none).toArray := by
    simp
  rw [collate, empty, slots]
  simp

end Memoryless
