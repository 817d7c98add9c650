import Formulary.Cache.Basic
import Formulary.Proofs.Evaluation.Outcome

/-!
# Proofs/Cache/Serve — what a cache hands out

A cache is asked for a value with a build that does not use it: `serve` is that request as a function
of the cache. `Holds` says of all values in a cache that they belong to their keys. Whatever is
evicted, rebuilt or taken out, `serve` keeps it and hands out nothing else (`serve_eq`).
-/

namespace Formulary.Cache

variable {K V : Type}

/-! ## Values of their keys -/

/-- Every value in a cache belongs to its key. -/
def Holds (P : K → V → Prop) (c : Cache K V) : Prop :=
  ∀ key slot value, (key, slot) ∈ c.slots → slot.value? = some value → P key value

variable {P : K → V → Prop} {c : Cache K V}

/-- Slots that were there, and slots without a value, do no harm. -/
theorem Holds.of_slots {c' : Cache K V} (h : Holds P c)
    (hslots : ∀ p ∈ c'.slots, p ∈ c.slots ∨ p.2.value? = none) : Holds P c' := by
  intro key slot value hmem hvalue
  rcases hslots _ hmem with hold | hnone
  · exact h key slot value hold hvalue
  · rw [hvalue] at hnone
    cases hnone

theorem holds_empty (capacity : Option Capacity) : Holds P (empty capacity) :=
  fun _ _ _ hmem => (List.not_mem_nil hmem).elim

theorem holds_clear (c : Cache K V) : Holds P c.clear :=
  fun _ _ _ hmem => (List.not_mem_nil hmem).elim

theorem Holds.countHit (h : Holds P c) : Holds P c.countHit := h

theorem Holds.countMiss (h : Holds P c) : Holds P c.countMiss := h

variable [DecidableEq K] {key : K}

theorem mem_of_slot? {slot : Slot V} (h : c.slot? key = some slot) : (key, slot) ∈ c.slots := by
  obtain ⟨⟨found, slot⟩, hfind, rfl⟩ := Option.map_eq_some_iff.1 h
  have hkey : found = key := by simpa using List.find?_some hfind
  subst hkey
  exact List.mem_of_find?_eq_some hfind

theorem Holds.touch {slot : Slot V} (h : Holds P c) (hslot : c.slot? key = some slot) :
    Holds P (c.touch key slot) := by
  refine h.of_slots fun p hp => .inl ?_
  rcases List.mem_cons.1 hp with rfl | hrest
  · exact mem_of_slot? hslot
  · exact (List.mem_filter.1 hrest).1

omit [DecidableEq K] in
theorem Holds.addSlot (h : Holds P c) : Holds P (c.addSlot key) := by
  refine h.of_slots fun p hp => ?_
  unfold Cache.addSlot at hp
  split at hp
  · rcases List.mem_cons.1 hp with rfl | hrest
    · exact .inr rfl
    · exact .inl ((List.dropLast_sublist _).subset hrest)
  · rcases List.mem_cons.1 hp with rfl | hrest
    · exact .inr rfl
    · exact .inl hrest

/-- A request finds a slot of the key, or makes one without a value. -/
theorem Holds.request (h : Holds P c) (key : K) : Holds P (c.request key).2 ∧
    ∀ value, (c.request key).1.value? = some value → P key value := by
  unfold Cache.request
  split
  · next slot hslot => exact ⟨h.touch hslot, fun value => h key slot value (mem_of_slot? hslot)⟩
  · exact ⟨h.addSlot, nofun⟩

theorem Holds.fill {value : V} (h : Holds P c) (serial : Nat) (hvalue : P key value) :
    Holds P (c.fill key serial value) := by
  intro k slot found hmem hfound
  obtain ⟨⟨k', slot'⟩, hmem', heq⟩ := List.mem_map.1 hmem
  simp only at heq
  split at heq
  · next hfill =>
    cases heq
    cases hfound
    rw [hfill.1]
    exact hvalue
  · cases heq
    exact h k slot found hmem' hfound

theorem Holds.discard (h : Holds P c) (key : K) (serial : Nat) : Holds P (c.discard key serial) :=
  h.of_slots fun _ hp => .inl ((List.mem_filter.1 hp).1)

/-! ## Serving -/

/-- A request with a build that does not use the cache: its outcome, and the cache after it. -/
def serve (c : Cache K V) (key : K) (build : Except FormulaError V) :
    Except FormulaError V × Cache K V :=
  let slot := (c.request key).1
  let requested := (c.request key).2
  match slot.value? with
  | some value => (.ok value, requested.countHit)
  | none =>
    match build with
    | .ok value => (.ok value, requested.countMiss.fill key slot.serial value)
    | .error error => (.error error, requested.countMiss.discard key slot.serial)

/-- **Serving is what `getOrBuild` does** with such a build. -/
theorem value_getOrBuild {T : Type} (c : Cache K V) (key : K) (build : Eval T V) :
    ((getOrBuild key (ExceptT.mk (liftM build.run) :
      ExceptT FormulaError (StateT (Cache K V) (Traced T)) V)).run.run c).value =
        c.serve key build.result := by
  unfold serve getOrBuild Eval.result
  cases hslot : (c.request key).1.value? with
  | some value => simp [hslot]
  | none =>
    cases hbuild : build.run.value with
    | ok value => simp [hslot, hbuild]
    | error error => simp [hslot, hbuild]

theorem Holds.serve {build : Except FormulaError V} (h : Holds P c)
    (hbuild : ∀ value, build = .ok value → P key value) : Holds P (c.serve key build).2 := by
  obtain ⟨hrequest, _⟩ := h.request key
  simp only [Cache.serve]
  cases (c.request key).1.value? with
  | some value => exact hrequest.countHit
  | none =>
    cases build with
    | ok value => exact hrequest.countMiss.fill _ (hbuild value rfl)
    | error error => exact hrequest.countMiss.discard _ _

/-- **A cache hands out what a build would yield**, if that is what its values belong to. -/
theorem serve_eq {build : Except FormulaError V} (h : Holds P c)
    (hbuild : ∀ value, P key value → build = .ok value) : (c.serve key build).1 = build := by
  obtain ⟨_, hvalue⟩ := h.request key
  simp only [Cache.serve]
  cases hslot : (c.request key).1.value? with
  | some value => exact (hbuild value (hvalue value hslot)).symm
  | none => cases build <;> rfl

end Formulary.Cache
