import Formulary.Proofs.Cache.Serve
import Mathlib.Data.List.Nodup

/-!
# Proofs/Cache/Slots — what each operation does to the slots

A request for a key brings its slot to the front and keeps the others in order (`keys_touch`), or makes
a slot and lets the last one go if there is no room (`addSlot_eq`, `length_kept`). A build that ends
changes its own slot and no other (`filter_serial_settle`). All of it rests on two facts about a cache:
no key has two slots and no two slots share a serial number.
-/

namespace Formulary.Cache

variable {K V E : Type} {c : Cache K V} {key : K} {serial : Nat}

/-- The serial numbers of the slots, the most recently requested first. -/
def serials (c : Cache K V) : List Nat :=
  c.slots.map (·.2.serial)

theorem mem_keys {p : K × Slot V} (h : p ∈ c.slots) : p.1 ∈ c.keys :=
  List.mem_map_of_mem h

theorem mem_serials {p : K × Slot V} (h : p ∈ c.slots) : p.2.serial ∈ c.serials :=
  List.mem_map_of_mem h

theorem length_keys (c : Cache K V) : c.keys.length = c.size :=
  List.length_map _

/-! ## Making a slot -/

/-- The slots that stay when one more is made. -/
def kept (c : Cache K V) : List (K × Slot V) :=
  if c.isFull = true then c.slots.dropLast else c.slots

theorem kept_sublist (c : Cache K V) : c.kept.Sublist c.slots := by
  rw [kept]
  split
  · exact List.dropLast_sublist _
  · exact List.Sublist.refl _

theorem addSlot_eq (c : Cache K V) (key : K) :
    c.addSlot key = { c with
      slots := (key, ⟨c.nextSerial, none⟩) :: c.kept
      nextSerial := c.nextSerial + 1
      evictions := c.evictions + if c.isFull = true then 1 else 0 } := by
  rw [addSlot, kept]
  split
  · rfl
  · rfl

/-- **A full cache lets one slot go**, for it has at least one. -/
theorem length_kept (c : Cache K V) :
    c.kept.length + (if c.isFull = true then 1 else 0) = c.size := by
  rw [kept]
  split
  · next hfull =>
    have hpos : 0 < c.slots.length := by
      unfold isFull at hfull
      split at hfull
      · next limit _ => exact Nat.lt_of_lt_of_le limit.2 (of_decide_eq_true hfull)
      · cases hfull
    rw [List.length_dropLast, size]
    omega
  · rfl

theorem isFull_iff {limit : Capacity} (hlimit : c.capacity = some limit) :
    c.isFull = true ↔ limit.val ≤ c.size := by
  rw [isFull, hlimit]
  exact decide_eq_true_iff

/-- A new slot stays within the limit. -/
theorem length_kept_lt {limit : Capacity} (hlimit : c.capacity = some limit)
    (hsize : c.size ≤ limit.val) : c.kept.length < limit.val := by
  have hkept := length_kept c
  by_cases hfull : c.isFull = true
  · rw [if_pos hfull] at hkept
    omega
  · rw [if_neg hfull] at hkept
    rw [isFull_iff hlimit] at hfull
    omega

/-- The slots that stay are the first ones, as many as leave room for one more. -/
theorem keys_kept {limit : Capacity} (hlimit : c.capacity = some limit)
    (hsize : c.size ≤ limit.val) : c.kept.map (·.1) = c.keys.take (limit.val - 1) := by
  rw [kept]
  by_cases hfull : c.isFull = true
  · have hlength : c.keys.length = limit.val :=
      (length_keys c).trans (Nat.le_antisymm hsize ((isFull_iff hlimit).1 hfull))
    rw [if_pos hfull, List.map_dropLast, List.dropLast_eq_take, ← hlength]
    rfl
  · have hlength : c.keys.length ≤ limit.val - 1 := by
      rw [isFull_iff hlimit] at hfull
      rw [length_keys]
      omega
    rw [if_neg hfull, List.take_of_length_le hlength]
    rfl

/-! ## Finding a slot -/

section Requests

variable [DecidableEq K]

theorem slot?_eq_none_iff : c.slot? key = none ↔ key ∉ c.keys := by
  rw [slot?, Option.map_eq_none_iff, List.find?_eq_none, keys, List.mem_map]
  simp only [decide_eq_true_eq, not_exists, not_and]

theorem exists_slot?_of_mem (h : key ∈ c.keys) : ∃ slot, c.slot? key = some slot := by
  cases hslot : c.slot? key with
  | some slot => exact ⟨slot, rfl⟩
  | none => exact absurd h (slot?_eq_none_iff.1 hslot)

/-- Where every slot has a value, the keys are those with one. -/
theorem contains_of_filled (h : ∀ p ∈ c.slots, p.2.value? ≠ none) (key : K) :
    c.contains key = decide (key ∈ c.keys) := by
  by_cases hkey : key ∈ c.keys
  · obtain ⟨slot, hslot⟩ := exists_slot?_of_mem hkey
    obtain ⟨value, hvalue⟩ := Option.ne_none_iff_exists'.1 (h _ (mem_of_slot? hslot))
    rw [decide_eq_true hkey, contains, hslot, Option.bind_some, hvalue, Option.isSome_some]
  · rw [decide_eq_false hkey, contains, slot?_eq_none_iff.2 hkey]
    rfl

theorem keys_touch (c : Cache K V) (key : K) (slot : Slot V) :
    (c.touch key slot).keys = key :: c.keys.filter (· ≠ key) := by
  rw [touch, keys, List.map_cons, keys, List.filter_map]
  rfl

/-- Bringing a slot to the front loses none. -/
theorem perm_slots_touch {slot : Slot V} (hkeys : c.keys.Nodup) (hslot : c.slot? key = some slot) :
    (c.touch key slot).slots.Perm c.slots := by
  obtain ⟨before, after, hsplit⟩ := List.append_of_mem (mem_of_slot? hslot)
  have hothers : ∀ p ∈ before ++ after, decide (p.1 ≠ key) = true := by
    intro p hp
    rw [keys, hsplit, List.map_append, List.map_cons, List.nodup_middle, List.nodup_cons,
      ← List.map_append] at hkeys
    exact decide_eq_true fun hkey => hkeys.1 (List.mem_map.2 ⟨p, hp, hkey⟩)
  have hrest : c.slots.filter (·.1 ≠ key) = before ++ after := by
    have hfront : decide (key ≠ key) = false := decide_eq_false fun h => h rfl
    rw [hsplit, List.filter_append, List.filter_cons_of_neg (by rw [hfront]; exact Bool.false_ne_true),
      ← List.filter_append, List.filter_eq_self.2 hothers]
  change ((key, slot) :: c.slots.filter (·.1 ≠ key)).Perm c.slots
  rw [hrest, hsplit]
  exact List.perm_middle.symm

theorem perm_keys_touch {slot : Slot V} (hkeys : c.keys.Nodup) (hslot : c.slot? key = some slot) :
    (c.touch key slot).keys.Perm c.keys :=
  (perm_slots_touch hkeys hslot).map _

theorem perm_serials_touch {slot : Slot V} (hkeys : c.keys.Nodup)
    (hslot : c.slot? key = some slot) : (c.touch key slot).serials.Perm c.serials :=
  (perm_slots_touch hkeys hslot).map _

theorem request_of_slot? {slot : Slot V} (h : c.slot? key = some slot) :
    c.request key = (slot, c.touch key slot) := by
  rw [request, h]

theorem request_of_none (h : c.slot? key = none) :
    c.request key = (⟨c.nextSerial, none⟩, c.addSlot key) := by
  rw [request, h]

/-- A request counts nothing but an eviction. -/
theorem hits_request (c : Cache K V) (key : K) : (c.request key).2.hits = c.hits := by
  rw [request]
  split
  · rfl
  · rw [addSlot_eq]

theorem misses_request (c : Cache K V) (key : K) : (c.request key).2.misses = c.misses := by
  rw [request]
  split
  · rfl
  · rw [addSlot_eq]

/-! ## The end of a build -/

/-- The cache after a build for a slot. -/
def settle (c : Cache K V) (key : K) (serial : Nat) : Except E V → Cache K V
  | .ok value => c.fill key serial value
  | .error _ => c.discard key serial

/-- The slot that a build was started for, still without a value. -/
def IsOwn (key : K) (serial : Nat) (p : K × Slot V) : Prop :=
  p.1 = key ∧ p.2.serial = serial ∧ p.2.value?.isNone = true

instance (key : K) (serial : Nat) (p : K × Slot V) : Decidable (IsOwn key serial p) :=
  inferInstanceAs (Decidable (_ ∧ _ ∧ _))

theorem slots_fill (c : Cache K V) (key : K) (serial : Nat) (value : V) :
    (c.fill key serial value).slots =
      c.slots.map fun p => if IsOwn key serial p then (p.1, ⟨serial, some value⟩) else p :=
  rfl

theorem slots_discard (c : Cache K V) (key : K) (serial : Nat) :
    (c.discard key serial).slots = c.slots.filter fun p => !decide (IsOwn key serial p) :=
  rfl

theorem keys_fill (c : Cache K V) (key : K) (serial : Nat) (value : V) :
    (c.fill key serial value).keys = c.keys := by
  rw [keys, slots_fill, keys, List.map_map]
  refine List.map_congr_left fun p _ => ?_
  rw [Function.comp_apply]
  split
  · rfl
  · rfl

theorem serials_fill (c : Cache K V) (key : K) (serial : Nat) (value : V) :
    (c.fill key serial value).serials = c.serials := by
  rw [serials, slots_fill, serials, List.map_map]
  refine List.map_congr_left fun p _ => ?_
  rw [Function.comp_apply]
  split
  · next hown => exact hown.2.1.symm
  · rfl

theorem keys_settle_sublist (c : Cache K V) (key : K) (serial : Nat) (outcome : Except E V) :
    (c.settle key serial outcome).keys.Sublist c.keys := by
  cases outcome with
  | ok value => rw [settle, keys_fill]
  | error error => exact List.filter_sublist.map _

theorem serials_settle_sublist (c : Cache K V) (key : K) (serial : Nat) (outcome : Except E V) :
    (c.settle key serial outcome).serials.Sublist c.serials := by
  cases outcome with
  | ok value => rw [settle, serials_fill]
  | error error => exact List.filter_sublist.map _

/-- A build leaves the other slots alone, those of its own key among them. -/
theorem filter_serial_settle (c : Cache K V) (key : K) (serial : Nat) (outcome : Except E V) :
    (c.settle key serial outcome).slots.filter (·.2.serial ≠ serial) =
      c.slots.filter (·.2.serial ≠ serial) := by
  cases outcome with
  | ok value =>
    rw [settle, slots_fill, List.filter_map]
    have hsame : (c.slots.filter ((fun p => decide (p.2.serial ≠ serial)) ∘ fun p : K × Slot V =>
        if IsOwn key serial p then (p.1, ⟨serial, some value⟩) else p)) =
          c.slots.filter (·.2.serial ≠ serial) := by
      refine List.filter_congr fun p _ => ?_
      rw [Function.comp_apply]
      split
      · next hown => rw [hown.2.1]
      · rfl
    rw [hsame]
    refine (List.map_congr_left fun p hp => ?_).trans (List.map_id _)
    have hserial : p.2.serial ≠ serial := of_decide_eq_true (List.mem_filter.1 hp).2
    exact if_neg fun hown => hserial hown.2.1
  | error error =>
    rw [settle, slots_discard, List.filter_filter]
    refine List.filter_congr fun p _ => ?_
    by_cases hserial : p.2.serial = serial
    · rw [decide_eq_false (not_not.2 hserial), Bool.false_and]
    · have hown : ¬IsOwn key serial p := fun hown => hserial hown.2.1
      rw [decide_eq_false hown, decide_eq_true hserial]
      rfl

theorem mem_slots_settle_iff {outcome : Except E V} {p : K × Slot V} (hp : p.2.serial ≠ serial) :
    p ∈ (c.settle key serial outcome).slots ↔ p ∈ c.slots := by
  have hmem : p ∈ (c.settle key serial outcome).slots.filter (·.2.serial ≠ serial) ↔
      p ∈ c.slots.filter (·.2.serial ≠ serial) := by
    rw [filter_serial_settle]
  simpa only [List.mem_filter, decide_eq_true hp, and_true] using hmem

/-- A build whose slot has gone changes nothing. -/
theorem settle_of_not_mem_serials {outcome : Except E V} (h : serial ∉ c.serials) :
    c.settle key serial outcome = c := by
  have hother : ∀ p ∈ c.slots, ¬IsOwn key serial p :=
    fun p hp hown => h (hown.2.1 ▸ mem_serials hp)
  cases outcome with
  | ok value =>
    have hslots : (c.fill key serial value).slots = c.slots :=
      (List.map_congr_left fun p hp => if_neg (hother p hp)).trans (List.map_id _)
    exact congrArg (fun slots => { c with slots := slots }) hslots
  | error error =>
    have hslots : (c.discard key serial).slots = c.slots :=
      (slots_discard c key serial).trans (List.filter_eq_self.2 fun p hp => by
        rw [decide_eq_false (hother p hp)]
        rfl)
    exact congrArg (fun slots => { c with slots := slots }) hslots

/-- The slot with a serial number, if it is there, belongs to a key and waits for a value. -/
def Awaits (c : Cache K V) (key : K) (serial : Nat) : Prop :=
  ∀ p ∈ c.slots, p.2.serial = serial → IsOwn key serial p

theorem Awaits.value?_of_mem_fill {value : V} (h : c.Awaits key serial) {p : K × Slot V}
    (hp : p ∈ (c.fill key serial value).slots) (hserial : p.2.serial = serial) :
    p.2.value? = some value := by
  rw [slots_fill] at hp
  obtain ⟨q, hq, rfl⟩ := List.mem_map.1 hp
  split at hserial
  · next hown => rw [if_pos hown]
  · next hown => exact absurd (h q hq hserial) hown

theorem Awaits.not_mem_serials_discard (h : c.Awaits key serial) :
    serial ∉ (c.discard key serial).serials := by
  intro hmem
  obtain ⟨p, hp, hserial⟩ := List.mem_map.1 hmem
  rw [slots_discard] at hp
  obtain ⟨hslot, hkeep⟩ := List.mem_filter.1 hp
  rw [decide_eq_true (h p hslot hserial)] at hkeep
  cases hkeep

/-- A build that fails takes out its own slot and no other. -/
theorem Awaits.size_discard (h : c.Awaits key serial) (hserials : c.serials.Nodup) :
    (c.discard key serial).size + (if serial ∈ c.serials then 1 else 0) = c.size := by
  have hown : c.slots.countP (fun p => decide (IsOwn key serial p)) = c.serials.count serial := by
    rw [serials, List.count, List.countP_map]
    refine List.countP_congr fun p hp => ?_
    rw [decide_eq_true_eq, Function.comp_apply, beq_iff_eq]
    exact ⟨fun hown => hown.2.1, h p hp⟩
  have hsplit := List.length_eq_countP_add_countP (l := c.slots)
    fun p => decide (IsOwn key serial p)
  simp only [decide_not, Bool.decide_eq_true] at hsplit
  rw [← hserials.count, ← hown, size, slots_discard, ← List.countP_eq_length_filter, size, hsplit,
    Nat.add_comm]

end Requests

/-! ## Whole requests -/

section WholeRequests

variable [DecidableEq K] {m : Type → Type} [Monad m] [LawfulMonad m]
  {build : ExceptT E (StateT (Cache K V) m) V}

/-- A request for a value that is there. -/
theorem getOrBuild_of_some {slot : Slot V} {value : V} (hslot : c.slot? key = some slot)
    (hvalue : slot.value? = some value) :
    (getOrBuild key build).run.run c = pure (.ok value, (c.touch key slot).countHit) := by
  have hrequest := request_of_slot? hslot
  simp [getOrBuild, hrequest, hvalue]

/-- A request for a key without a slot runs its build once. -/
theorem getOrBuild_of_none (hslot : c.slot? key = none) :
    (getOrBuild key build).run.run c = (do
      let built ← build.run.run (c.addSlot key).countMiss
      pure (built.1, built.2.settle key c.nextSerial built.1)) := by
  have hrequest := request_of_none hslot
  simp only [getOrBuild, ExceptT.run_mk, StateT.run_bind, StateT.run_modifyGet, pure_bind, hrequest,
    StateT.run_modify]
  congr
  funext built
  obtain ⟨outcome, c'⟩ := built
  cases outcome with
  | ok value => simp [settle]
  | error error => simp [settle]

end WholeRequests

/-! ## Tidy caches -/

/-- No key has two slots, and every slot has a serial number of its own that was given out. -/
structure Tidy (c : Cache K V) : Prop where
  keys_nodup : c.keys.Nodup
  serials_nodup : c.serials.Nodup
  serial_lt : ∀ n ∈ c.serials, n < c.nextSerial

namespace Tidy

theorem empty (capacity : Option Capacity) : (Cache.empty capacity : Cache K V).Tidy :=
  ⟨List.nodup_nil, List.nodup_nil, fun _ h => (List.not_mem_nil h).elim⟩

theorem clear (c : Cache K V) : c.clear.Tidy :=
  ⟨List.nodup_nil, List.nodup_nil, fun _ h => (List.not_mem_nil h).elim⟩

theorem countHit (h : c.Tidy) : c.countHit.Tidy :=
  ⟨h.keys_nodup, h.serials_nodup, h.serial_lt⟩

theorem countMiss (h : c.Tidy) : c.countMiss.Tidy :=
  ⟨h.keys_nodup, h.serials_nodup, h.serial_lt⟩

variable [DecidableEq K]

theorem touch {slot : Slot V} (h : c.Tidy) (hslot : c.slot? key = some slot) :
    (c.touch key slot).Tidy := by
  have hkeys := perm_keys_touch h.keys_nodup hslot
  have hserials := perm_serials_touch h.keys_nodup hslot
  exact ⟨hkeys.nodup_iff.2 h.keys_nodup, hserials.nodup_iff.2 h.serials_nodup,
    fun n hn => h.serial_lt n (hserials.mem_iff.1 hn)⟩

theorem addSlot (h : c.Tidy) (hslot : c.slot? key = none) : (c.addSlot key).Tidy := by
  have hkeys : (c.kept.map (·.1)).Sublist c.keys := (kept_sublist c).map _
  have hserials : (c.kept.map (·.2.serial)).Sublist c.serials := (kept_sublist c).map _
  rw [addSlot_eq]
  refine ⟨List.nodup_cons.2 ⟨?_, h.keys_nodup.sublist hkeys⟩,
    List.nodup_cons.2 ⟨?_, h.serials_nodup.sublist hserials⟩, List.forall_mem_cons.2 ⟨?_, ?_⟩⟩
  · exact fun hmem => slot?_eq_none_iff.1 hslot (hkeys.subset hmem)
  · exact fun hmem => Nat.lt_irrefl _ (h.serial_lt _ (hserials.subset hmem))
  · exact Nat.lt_succ_self _
  · exact fun n hn => Nat.lt_succ_of_lt (h.serial_lt n (hserials.subset hn))

theorem settle (h : c.Tidy) (key : K) (serial : Nat) (outcome : Except E V) :
    (c.settle key serial outcome).Tidy := by
  have hserials := serials_settle_sublist c key serial outcome
  refine ⟨h.keys_nodup.sublist (keys_settle_sublist c key serial outcome),
    h.serials_nodup.sublist hserials, fun n hn => ?_⟩
  have hlt := h.serial_lt n (hserials.subset hn)
  cases outcome with
  | ok value => exact hlt
  | error error => exact hlt

end Tidy

end Formulary.Cache
