import ArdopMeshChat.Python.Value

/-!
# Iterating a dict while another thread writes it

`_cleanup_loop` collects the keys to delete with comprehensions over
`d.items()`.  CPython's dict iterator keeps the size the dict had when the
iterator was made, and its `next()` raises `RuntimeError("dictionary changed
size during iteration")` once the size differs; the interpreter may switch
threads between two iterations of a comprehension.  This module models the
iterator, one iteration of a comprehension and `del d[key]`, and what they
compute on a dict no other thread writes (`PyDict.sweep_lookup`).  The races
with the RX thread are in `Mesh.CleanupThread`.

A dict here is a `PyDict`: its items in insertion order.  The RX thread only
inserts, and only the cleanup thread deletes, so an iterator's position is the
index of an item.
-/

namespace ArdopMeshChat

namespace PyDict

variable {κ α : Type} [DecidableEq κ]

/-- A dict iterator: the index of the next item and the size of the dict when
the iterator was made (CPython's `di_pos` and `di_used`). -/
structure Iter where
  pos : Nat
  used : Nat

/-- `iter(d.items())`. -/
def iter (d : PyDict κ α) : Iter := ⟨0, d.items.length⟩

/-- `next()` on an items iterator: `RuntimeError` once the dict's size is not
the one the iterator was made with, else the next item, or `none` past the
last one. -/
def next (d : PyDict κ α) (it : Iter) : Except PyError (Option ((κ × α) × Iter)) :=
  if it.used ≠ d.items.length then .error (.runtimeError "dictionary changed size during iteration")
  else .ok ((d.items.get? it.pos).map fun item => (item, ⟨it.pos + 1, it.used⟩))

/-- `[key for key, value in d.items() if dead(value)]` part way: its iterator
and the keys kept so far. -/
structure Collecting (κ : Type) where
  iter : Iter
  kept : List κ

/-- The comprehension before its first `next()`. -/
def collecting (d : PyDict κ α) : Collecting κ := ⟨d.iter, []⟩

/-- One iteration of the comprehension: the comprehension part way, or its
list once the iterator is exhausted. -/
def collectStep (dead : α → Bool) (d : PyDict κ α) (state : Collecting κ) :
    Except PyError (Collecting κ ⊕ List κ) :=
  (d.next state.iter).map fun next => next.elim (.inr state.kept) fun step =>
    .inl ⟨step.2, if dead step.1.2 then state.kept ++ [step.1.1] else state.kept⟩

/-- `steps` iterations on a dict no other thread touches. -/
def collectSteps (dead : α → Bool) (d : PyDict κ α) : Nat → Collecting κ →
    Except PyError (Collecting κ ⊕ List κ)
  | 0, state => .ok (.inl state)
  | steps + 1, state => do
      let next ← d.collectStep dead state
      next.elim (d.collectSteps dead steps) fun kept => .ok (.inr kept)

/-- `del d[key]`; the `KeyError` carries the key's text. -/
def delItem [ToString κ] (d : PyDict κ α) (key : κ) : Except PyError (PyDict κ α) :=
  if (d.lookup key).isSome then .ok (d.erase key) else .error (.keyError (toString key))

/-! ## The comprehension and the deletions, left alone -/

/-- The keys of `items` whose value is dead, in order. -/
def keysWhere {κ α : Type} (dead : α → Bool) (items : List (κ × α)) : List κ :=
  (items.filter (dead ·.2)).map (·.1)

theorem keysWhere_cons {κ α : Type} (dead : α → Bool) (item : κ × α) (items : List (κ × α)) :
    keysWhere dead (item :: items) = keysWhere dead [item] ++ keysWhere dead items := by
  unfold keysWhere
  by_cases kept : dead item.2 <;> simp [List.filter_cons, kept]

variable (dead : α → Bool) (d : PyDict κ α)

theorem collectStep_of_lt {pos : Nat} (kept : List κ) (inside : pos < d.items.length) :
    d.collectStep dead ⟨⟨pos, d.items.length⟩, kept⟩ =
      .ok (.inl ⟨⟨pos + 1, d.items.length⟩, kept ++ keysWhere dead [d.items[pos]]⟩) := by
  by_cases isDead : dead d.items[pos].2 <;>
    simp [collectStep, next, List.getElem?_eq_getElem inside, keysWhere, isDead, Except.map]

theorem collectStep_of_exhausted (kept : List κ) :
    d.collectStep dead ⟨⟨d.items.length, d.items.length⟩, kept⟩ = .ok (.inr kept) := by
  simp [collectStep, next, Except.map]

/-- Once the dict's size changed, the next iteration raises. -/
theorem collectStep_of_resized {state : Collecting κ} (resized : state.iter.used ≠ d.items.length) :
    d.collectStep dead state =
      .error (.runtimeError "dictionary changed size during iteration") := by
  rw [collectStep, next, if_pos resized]
  rfl

/-- Left alone, `steps` iterations from `pos` keep the iterator valid and keep
the dead keys among the next `steps` items. -/
theorem collectSteps_of_le (pos : Nat) {steps : Nat} (kept : List κ) (fits : pos + steps ≤ d.items.length) :
    d.collectSteps dead steps ⟨⟨pos, d.items.length⟩, kept⟩ =
      .ok (.inl ⟨⟨pos + steps, d.items.length⟩,
        kept ++ keysWhere dead ((d.items.drop pos).take steps)⟩) := by
  induction steps generalizing pos kept with
  | zero => simp [collectSteps, keysWhere]
  | succ steps ih =>
      rw [collectSteps, collectStep_of_lt dead d kept (by omega), ok_bind, Sum.elim_inl,
        ih _ _ (by omega), List.drop_eq_getElem_cons (by omega : pos < d.items.length),
        List.take_succ_cons, keysWhere_cons dead _ (List.take steps _), List.append_assoc,
        Nat.add_right_comm pos 1, Nat.add_assoc]

/-- Left alone, the comprehension's first `steps` iterations, up to one per
item, keep its iterator valid. -/
theorem collectSteps_collecting {steps : Nat} (partWay : steps ≤ d.items.length) :
    d.collectSteps dead steps d.collecting =
      .ok (.inl ⟨⟨steps, d.items.length⟩, keysWhere dead (d.items.take steps)⟩) := by
  simpa using d.collectSteps_of_le dead 0 [] (by omega)

/-- Left alone, the iterations from `pos` end one after the last item, with
the dead keys among the items from `pos` on. -/
theorem collectSteps_to_end {pos steps : Nat} (kept : List κ) (fits : pos + steps = d.items.length) :
    d.collectSteps dead (steps + 1) ⟨⟨pos, d.items.length⟩, kept⟩ =
      .ok (.inr (kept ++ keysWhere dead (d.items.drop pos))) := by
  induction steps generalizing pos kept with
  | zero =>
      obtain rfl : pos = d.items.length := by omega
      simp [collectSteps, collectStep_of_exhausted, keysWhere]
  | succ steps ih =>
      rw [collectSteps, collectStep_of_lt dead d kept (by omega), ok_bind, Sum.elim_inl,
        ih _ (by omega), List.drop_eq_getElem_cons (by omega : pos < d.items.length),
        keysWhere_cons dead _ (List.drop _ _), List.append_assoc]

/-- An iteration that goes on keeps the keys it had and at most one more, the
key of an item of the dict whose value is dead. -/
theorem kept_of_collectStep {state state' : Collecting κ}
    (stepped : d.collectStep dead state = .ok (.inl state')) :
    ∃ item ∈ d.items, state'.kept = state.kept ++ keysWhere dead [item] := by
  unfold collectStep next at stepped
  split at stepped
  · cases stepped
  · cases found : d.items.get? state.iter.pos with
    | none =>
        simp only [found, Except.map, Option.map_none', Option.elim] at stepped
        cases stepped
    | some item =>
        simp only [found, Except.map, Option.map_some', Option.elim, Except.ok.injEq,
          Sum.inl.injEq] at stepped
        refine ⟨item, List.get?_mem found, ?_⟩
        rw [← stepped]
        by_cases isDead : dead item.2 <;> simp [keysWhere, isDead]

/-- The iteration that ends the comprehension returns the keys it kept. -/
theorem kept_of_collectStep_done {state : Collecting κ} {kept : List κ}
    (stepped : d.collectStep dead state = .ok (.inr kept)) : kept = state.kept := by
  unfold collectStep next at stepped
  split at stepped
  · cases stepped
  · cases found : d.items.get? state.iter.pos <;>
      simp only [found, Except.map, Option.map_none', Option.map_some', Option.elim] at stepped <;>
      cases stepped
    rfl

/-- Deleting keys leaves every other key as it was. -/
theorem lookup_foldlM_delItem_of_not_mem [ToString κ] {keys : List κ} {swept : PyDict κ α}
    (deleted : keys.foldlM delItem d = .ok swept) {key : κ} (kept : key ∉ keys) :
    swept.lookup key = d.lookup key := by
  induction keys generalizing d with
  | nil => cases deleted; rfl
  | cons first keys ih =>
      rw [List.foldlM_cons] at deleted
      obtain ⟨d', first', rest⟩ := bind_eq_ok deleted
      unfold delItem at first'
      split at first'
      · cases first'
        rw [ih _ rest (fun member => kept (List.mem_cons_of_mem _ member)), lookup_erase,
          if_neg (by rintro rfl; exact kept (List.mem_cons_self _ _))]
      · cases first'

theorem mem_keysWhere {key : κ} :
    key ∈ keysWhere dead d.items ↔ ∃ value, d.lookup key = some value ∧ dead value = true := by
  simp [keysWhere, lookup_eq_some_iff_mem]

theorem nodup_keysWhere : (keysWhere dead d.items).Nodup :=
  d.distinct.sublist ((List.filter_sublist _).map _)

/-- Deleting distinct keys the dict has never raises, and leaves every other
key as it was. -/
theorem foldlM_delItem [ToString κ] {keys : List κ} (distinct : keys.Nodup)
    (present : ∀ key ∈ keys, (d.lookup key).isSome) :
    ∃ swept, keys.foldlM delItem d = .ok swept ∧
      ∀ key, swept.lookup key = if key ∈ keys then none else d.lookup key := by
  induction keys generalizing d with
  | nil => exact ⟨d, rfl, by simp⟩
  | cons first keys ih =>
      obtain ⟨fresh, distinct⟩ := List.nodup_cons.mp distinct
      have stillThere : ∀ key ∈ keys, ((d.erase first).lookup key).isSome := fun key member => by
        rw [lookup_erase, if_neg (by rintro rfl; exact fresh member)]
        exact present key (List.mem_cons_of_mem _ member)
      obtain ⟨swept, deleted, looked⟩ := ih (d.erase first) distinct stillThere
      refine ⟨swept, ?_, fun key => ?_⟩
      · rw [List.foldlM_cons, delItem, if_pos (present first (List.mem_cons_self _ _))]
        exact deleted
      · rw [looked, lookup_erase]
        by_cases same : key = first <;> simp [same]

/-- Left alone, the comprehension runs to its end and the deletions leave
every key whose value is not dead, and only those. -/
theorem sweep_lookup [ToString κ] :
    ∃ swept, d.collectSteps dead (d.items.length + 1) d.collecting =
        .ok (.inr (keysWhere dead d.items)) ∧
      (keysWhere dead d.items).foldlM delItem d = .ok swept ∧
      ∀ key, swept.lookup key = (d.lookup key).filter fun value => !dead value := by
  obtain ⟨swept, deleted, looked⟩ := d.foldlM_delItem (nodup_keysWhere dead d)
    fun key member => by
      obtain ⟨value, found, -⟩ := (mem_keysWhere dead d).mp member
      simp [found]
  refine ⟨swept, by simpa using d.collectSteps_to_end dead [] (Nat.zero_add _), deleted,
    fun key => ?_⟩
  rw [looked]
  cases found : d.lookup key with
  | none => simp [mem_keysWhere, found]
  | some value => by_cases isDead : dead value <;> simp [mem_keysWhere, found, isDead, Option.filter]

end PyDict

end ArdopMeshChat
