import Mathlib
import Montage.Media.Cache

/-!
# Entries and flights

What the sections of the cache under its lock do to its entries and to the flights they
point to.  Storing takes the place of every entry for the path, so that there is never more
than one, and a flight is only ever added or ended.
-/

namespace Montage

/-- Keys that are the same have the same path. -/
theorem ProbeKey.path_eq_of_same {α : Type} [Scalar α] {left right : ProbeKey α}
    (same : left.same right = true) : left.path = right.path := by
  rw [ProbeKey.same, Bool.and_eq_true, beq_iff_eq] at same
  exact same.1

namespace ProbeCache

variable {α : Type} {cache : ProbeCache α} {key : ProbeKey α} {flight : ℕ}
  {entry : ProbeKey α × ℕ} {result : Result α (MediaInfo α)}
  {ending : Option (Result α (MediaInfo α))}

/-! ## Flights -/

/-- The flight has begun and not ended. -/
def UnderWay (cache : ProbeCache α) (flight : ℕ) : Prop :=
  cache.flights[flight]? = some none

theorem result?_eq_some_iff :
    cache.result? flight = some result ↔ cache.flights[flight]? = some (some result) := by
  rw [result?, Option.join_eq_some_iff]

theorem UnderWay.lt (underWay : cache.UnderWay flight) : flight < cache.flights.length :=
  (List.getElem?_eq_some_iff.mp underWay).choose

@[simp]
theorem flights_launch : (cache.launch key ending).flights = cache.flights ++ [ending] :=
  rfl

@[simp]
theorem entries_finish : (cache.finish flight result).entries = cache.entries :=
  rfl

theorem flights_launch_of_lt (earlier : flight < cache.flights.length) :
    (cache.launch key ending).flights[flight]? = cache.flights[flight]? :=
  List.getElem?_append_left earlier

/-! ## Entries -/

theorem mem_store :
    entry ∈ (cache.store key flight).entries ↔
      entry ∈ cache.entries ∧ entry.1.path ≠ key.path ∨ entry = (key, flight) := by
  simp [store]

theorem mem_launch :
    entry ∈ (cache.launch key ending).entries ↔
      entry ∈ cache.entries ∧ entry.1.path ≠ key.path ∨
        entry = (key, cache.flights.length) := by
  rw [launch, mem_store]

theorem mem_discard [Scalar α] :
    entry ∈ (cache.discard key).entries ↔
      entry ∈ cache.entries ∧ entry.1.same key = false := by
  simp [discard]

/-- There is at most one entry for a path. -/
def OnePerPath (cache : ProbeCache α) : Prop :=
  (cache.entries.map fun entry => entry.1.path).Nodup

theorem onePerPath_empty : (empty : ProbeCache α).OnePerPath :=
  List.nodup_nil

theorem OnePerPath.finish (one : cache.OnePerPath) : (cache.finish flight result).OnePerPath :=
  one

theorem OnePerPath.store (one : cache.OnePerPath) : (cache.store key flight).OnePerPath := by
  rw [OnePerPath, ProbeCache.store, List.map_append, List.nodup_append]
  refine ⟨one.sublist (List.filter_sublist.map _), List.nodup_singleton _, ?_⟩
  intro path kept stored storedMem
  rcases List.mem_map.mp kept with ⟨entry, entryMem, rfl⟩
  rw [List.map_singleton, List.mem_singleton] at storedMem
  rw [storedMem]
  simpa using (List.mem_filter.mp entryMem).2

theorem OnePerPath.launch (one : cache.OnePerPath) : (cache.launch key ending).OnePerPath :=
  OnePerPath.store one

theorem OnePerPath.discard [Scalar α] (one : cache.OnePerPath) :
    (cache.discard key).OnePerPath :=
  List.Nodup.sublist (List.filter_sublist.map _) one

/-- Two entries for one path are the same. -/
theorem OnePerPath.eq (one : cache.OnePerPath) {first second : ProbeKey α × ℕ}
    (firstMem : first ∈ cache.entries) (secondMem : second ∈ cache.entries)
    (samePath : first.1.path = second.1.path) : first = second :=
  List.inj_on_of_nodup_map one firstMem secondMem samePath

/-! ## Requests -/

variable [Scalar α] {found : ProbeCache α}

/-- A flight that is found is stored under the same key. -/
theorem exists_mem_of_flight? (stored : cache.flight? key = some flight) :
    ∃ under, (under, flight) ∈ cache.entries ∧ under.same key = true := by
  rcases Option.map_eq_some_iff.mp stored with ⟨entry, found, rfl⟩
  have same := List.find?_some found
  exact ⟨entry.1, List.mem_of_find?_eq_some found, same⟩

theorem request_joins_iff :
    cache.request key = (.joined flight, found) ↔
      cache.flight? key = some flight ∧ found = cache := by
  cases stored : cache.flight? key <;> simp [request, stored, @eq_comm _ found]

theorem request_owns_iff :
    cache.request key = (.owned flight, found) ↔
      cache.flight? key = none ∧ flight = cache.flights.length ∧
        found = cache.launch key none := by
  cases stored : cache.flight? key <;>
    simp [request, stored, @eq_comm _ found, @eq_comm _ flight]

/-- What the owner of a flight does with a result, entry by entry. -/
theorem mem_settle :
    entry ∈ (cache.settle key flight result).entries ↔
      entry ∈ cache.entries ∧ (result.toBool = false → entry.1.same key = false) := by
  cases result with
  | ok info => simp [settle, Except.toBool]
  | error fault => simp [settle, Except.toBool, mem_discard]

theorem flights_settle :
    (cache.settle key flight result).flights = cache.flights.set flight (some result) := by
  cases result <;> rfl

theorem OnePerPath.settle (one : cache.OnePerPath) :
    (cache.settle key flight result).OnePerPath := by
  cases result with
  | ok info => exact one
  | error fault => exact one.discard

end ProbeCache

end Montage
