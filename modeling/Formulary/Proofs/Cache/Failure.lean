import Formulary.Cache.Formula
import Formulary.Number.Fixed.Instance
import Formulary.Proofs.Cache.Accounting

/-!
# Proofs/Cache/Failure — what a failed build costs

A slot is made before it is known how its build will end. A build that fails takes its slot out again,
but in a full cache another slot has given way to it: the key requested least recently is lost, and
nothing else (`undo`). After that there is room, so any number of failed builds costs one key at most
(`Costs`): the one that gives way to the first request that does not find its key (`leavingAfter?`).
-/

namespace Formulary.Cache

variable {K V : Type} {c c' c'' : Cache K V} {lost : Option K}

theorem isFull_congr (hcapacity : c'.capacity = c.capacity) (hsize : c'.size = c.size) :
    c'.isFull = c.isFull := by
  unfold size at hsize
  rw [isFull, isFull, hcapacity, hsize]

/-- The key that gives way to one more slot: without room, the one requested least recently. -/
def leaving? (c : Cache K V) : Option K :=
  if c.isFull = true then c.keys.getLast? else none

theorem leaving?_of_room (h : c.isFull = false) : c.leaving? = none := by
  rw [leaving?, if_neg (by rw [h]; exact Bool.false_ne_true)]

/-- Without its last element a list without repetitions has all the others. -/
theorem mem_dropLast_iff {keys : List K} (hkeys : keys.Nodup) {key : K} :
    key ∈ keys.dropLast ↔ key ∈ keys ∧ keys.getLast? ≠ some key := by
  rcases List.eq_nil_or_concat keys with rfl | ⟨front, last, rfl⟩
  · simp
  · rw [List.concat_eq_append] at hkeys ⊢
    rw [List.dropLast_concat, List.getLast?_concat, List.mem_append, List.mem_singleton, ne_eq,
      Option.some.injEq]
    have hlast : last ∉ front := fun hmem =>
      List.disjoint_of_nodup_append hkeys hmem (List.mem_singleton_self last)
    constructor
    · exact fun hmem => ⟨.inl hmem, fun heq => hlast (heq ▸ hmem)⟩
    · rintro ⟨hmem | rfl, hne⟩
      · exact hmem
      · exact absurd rfl hne

theorem mem_keys_kept_iff (h : c.keys.Nodup) {key : K} :
    key ∈ c.kept.map (·.1) ↔ key ∈ c.keys ∧ c.leaving? ≠ some key := by
  rw [kept, leaving?]
  split
  · rw [List.map_dropLast]
    exact mem_dropLast_iff h
  · exact (and_iff_left (Option.some_ne_none key).symm).symm

/-- A full cache lets one key go, and it has one. -/
theorem length_leaving? (c : Cache K V) :
    c.leaving?.toList.length = if c.isFull = true then 1 else 0 := by
  have hkept := length_kept c
  rw [leaving?]
  split
  · next hfull =>
    rw [if_pos hfull, ← length_keys] at hkept
    have hkeys : c.keys ≠ [] := List.ne_nil_of_length_pos (hkept ▸ Nat.succ_pos _)
    rw [List.getLast?_eq_some_getLast hkeys]
    rfl
  · rfl

/-! ## Caches between requests -/

/-- A cache while no build is in progress: every slot has a value, and there are no more than fit. -/
structure Idle (c : Cache K V) : Prop where
  tidy : c.Tidy
  size_le : ∀ limit, c.capacity = some limit → c.size ≤ limit.val
  filled : ∀ p ∈ c.slots, p.2.value? ≠ none

theorem Machine.Sound.idle {E : Type} {capacity : Option Capacity} {s : Machine K V E}
    (h : Machine.Sound capacity s) (hframes : s.frames = []) : s.cache.Idle :=
  ⟨h.tidy, fun limit hlimit => h.accounted.size_le limit (h.capacity_eq.symm.trans hlimit),
    h.filled hframes⟩

/-! ## One failed build -/

/-- A cache after a request for a key without a slot, whose build failed. -/
def undo (c : Cache K V) : Cache K V :=
  { c with
    slots := c.kept
    nextSerial := c.nextSerial + 1
    misses := c.misses + 1
    evictions := c.evictions + if c.isFull = true then 1 else 0 }

theorem Idle.undo (h : c.Idle) : c.undo.Idle := by
  have hslots : c.undo.slots.Sublist c.slots := kept_sublist c
  have hserials : c.undo.serials.Sublist c.serials := hslots.map _
  refine ⟨⟨h.tidy.keys_nodup.sublist (hslots.map _), h.tidy.serials_nodup.sublist hserials, ?_⟩,
    fun limit hlimit => Nat.le_of_lt (length_kept_lt hlimit (h.size_le limit hlimit)),
    fun p hp => h.filled p (hslots.subset hp)⟩
  exact fun n hn => Nat.lt_succ_of_lt (h.tidy.serial_lt n (hserials.subset hn))

/-- **After a failed build there is room**, whether there was before or not. -/
theorem Idle.isFull_undo (h : c.Idle) : c.undo.isFull = false := by
  cases hcapacity : c.capacity with
  | none =>
    have hundo : c.undo.capacity = none := hcapacity
    rw [isFull, hundo]
  | some limit =>
    have hroom : c.undo.size < limit.val := length_kept_lt hcapacity (h.size_le limit hcapacity)
    have hlimit : c.undo.capacity = some limit := hcapacity
    exact Bool.eq_false_iff.2 fun hfull => Nat.not_le_of_lt hroom ((isFull_iff hlimit).1 hfull)

variable [DecidableEq K] {key : K}

namespace Idle

theorem contains_eq (h : c.Idle) (key : K) : c.contains key = decide (key ∈ c.keys) :=
  contains_of_filled h.filled key

theorem slot?_eq_none (h : c.Idle) (hcontains : c.contains key = false) : c.slot? key = none := by
  rw [h.contains_eq, decide_eq_false_iff_not] at hcontains
  exact slot?_eq_none_iff.2 hcontains

theorem touch {slot : Slot V} (h : c.Idle) (hslot : c.slot? key = some slot) :
    (c.touch key slot).countHit.Idle := by
  have hperm := perm_slots_touch h.tidy.keys_nodup hslot
  refine ⟨(h.tidy.touch hslot).countHit, fun limit hlimit => ?_, fun p hp => h.filled p (hperm.subset hp)⟩
  exact Nat.le_trans (Nat.le_of_eq hperm.length_eq) (h.size_le limit hlimit)

end Idle

/-- Making a slot and taking it out again leaves the slots that had room beside it. -/
theorem discard_addSlot (h : c.Tidy) (key : K) :
    (c.addSlot key).countMiss.discard key c.nextSerial = c.undo := by
  have hown : IsOwn (V := V) key c.nextSerial (key, ⟨c.nextSerial, none⟩) := ⟨rfl, rfl, rfl⟩
  have hothers : ∀ p ∈ c.kept, (!decide (IsOwn key c.nextSerial p)) = true := by
    intro p hp
    have hserial : p.2.serial < c.nextSerial :=
      h.serial_lt _ (mem_serials ((kept_sublist c).subset hp))
    rw [decide_eq_false fun hown => Nat.ne_of_lt hserial hown.2.1]
    rfl
  have hslots : ((c.addSlot key).countMiss.discard key c.nextSerial).slots = c.kept := by
    rw [slots_discard, addSlot_eq]
    change List.filter _ ((key, ⟨c.nextSerial, none⟩) :: c.kept) = c.kept
    rw [List.filter_cons_of_neg (by rw [decide_eq_true hown]; exact Bool.false_ne_true),
      List.filter_eq_self.2 hothers]
  rw [addSlot_eq] at hslots ⊢
  exact congrArg (fun slots => { c.undo with slots }) hslots

/-- A request whose build would fail: its key is there, or the build does fail. -/
theorem Idle.serve_error (h : c.Idle) (key : K) (error : FormulaError) :
    (∃ slot value, c.slot? key = some slot ∧
      c.serve key (.error error) = (.ok value, (c.touch key slot).countHit)) ∨
      c.slot? key = none ∧ c.serve key (.error error) = (.error error, c.undo) := by
  cases hslot : c.slot? key with
  | some slot =>
    obtain ⟨value, hvalue⟩ := Option.ne_none_iff_exists'.1 (h.filled _ (mem_of_slot? hslot))
    have hvalue' : slot.value? = some value := hvalue
    refine .inl ⟨slot, value, rfl, ?_⟩
    simp only [serve, request_of_slot? hslot, hvalue']
  | none =>
    refine .inr ⟨rfl, ?_⟩
    rw [← discard_addSlot h.tidy key]
    simp only [serve, request_of_none hslot]

theorem Idle.eq_undo_of_serve (h : c.Idle) {build : Except FormulaError V} {error : FormulaError}
    (hserve : c.serve key build = (.error error, c')) : c' = c.undo := by
  cases build with
  | ok value =>
    unfold serve at hserve
    cases hvalue : (c.request key).1.value? with
    | some found => simp [hvalue] at hserve
    | none => simp [hvalue] at hserve
  | error other =>
    rcases h.serve_error key other with ⟨slot, value, -, hhit⟩ | ⟨-, hundo⟩
    · rw [hhit] at hserve
      cases hserve
    · rw [hundo] at hserve
      cases hserve
      rfl

/-! ## What failed builds cost -/

/-- The key that is lost when keys are requested and builds fail. A request that finds its key only
moves it to the front; the first one that does not costs the key that is last by then. -/
def leavingAfter? (c : Cache K V) : List K → Option K
  | [] => none
  | key :: rest =>
    match c.slot? key with
    | some slot => (c.touch key slot).countHit.leavingAfter? rest
    | none => c.leaving?

theorem leavingAfter?_of_none (h : c.slot? key = none) (rest : List K) :
    c.leavingAfter? (key :: rest) = c.leaving? := by
  simp only [leavingAfter?, h]

theorem leavingAfter?_of_slot? {slot : Slot V} (h : c.slot? key = some slot) (rest : List K) :
    c.leavingAfter? (key :: rest) = (c.touch key slot).countHit.leavingAfter? rest := by
  simp only [leavingAfter?, h]

/-- A cache before and after requests that cost it one key at most. -/
structure Costs (lost : Option K) (c c' : Cache K V) : Prop where
  contains_eq : ∀ key, c'.contains key = (c.contains key && decide (lost ≠ some key))
  evictions_eq : c'.evictions = c.evictions + lost.toList.length

namespace Costs

theorem refl (c : Cache K V) : Costs none c c := by
  refine ⟨fun key => ?_, rfl⟩
  rw [decide_eq_true nofun, Bool.and_true]

theorem trans_none (h : Costs lost c c') (h' : Costs none c' c'') : Costs lost c c'' := by
  refine ⟨fun key => ?_, h'.evictions_eq.trans h.evictions_eq⟩
  rw [h'.contains_eq, decide_eq_true nofun, Bool.and_true, h.contains_eq]

theorem none_trans (h : Costs none c c') (h' : Costs lost c' c'') : Costs lost c c'' := by
  refine ⟨fun key => ?_, ?_⟩
  · rw [h'.contains_eq, h.contains_eq, decide_eq_true (p := none ≠ some key) nofun, Bool.and_true]
  · rw [h'.evictions_eq, h.evictions_eq]
    rfl

end Costs

/-- **A failed build costs the key requested least recently** if the cache is full, and no key if
not. -/
theorem Idle.costs_undo (h : c.Idle) : Costs c.leaving? c c.undo := by
  refine ⟨fun key => ?_, congrArg (c.evictions + ·) (length_leaving? c).symm⟩
  rw [h.undo.contains_eq, h.contains_eq, ← Bool.decide_and, decide_eq_decide]
  exact mem_keys_kept_iff h.tidy.keys_nodup

theorem Idle.costs_touch {slot : Slot V} (h : c.Idle) (hslot : c.slot? key = some slot) :
    Costs none c (c.touch key slot).countHit := by
  have hkeys : (c.touch key slot).countHit.keys.Perm c.keys :=
    perm_keys_touch h.tidy.keys_nodup hslot
  refine ⟨fun k => ?_, rfl⟩
  rw [(h.touch hslot).contains_eq, h.contains_eq, decide_eq_true (p := none ≠ some k) nofun,
    Bool.and_true, decide_eq_decide]
  exact hkeys.mem_iff

theorem Idle.isFull_touch {slot : Slot V} (h : c.Idle) (hslot : c.slot? key = some slot) :
    (c.touch key slot).countHit.isFull = c.isFull :=
  isFull_congr rfl (perm_slots_touch h.tidy.keys_nodup hslot).length_eq

/-- With room, no key is lost. -/
theorem Idle.leavingAfter?_of_room (h : c.Idle) (hroom : c.isFull = false) (keys : List K) :
    c.leavingAfter? keys = none := by
  induction keys generalizing c with
  | nil => rfl
  | cons key rest ih =>
    cases hslot : c.slot? key with
    | none =>
      rw [leavingAfter?_of_none hslot]
      exact leaving?_of_room hroom
    | some slot =>
      rw [leavingAfter?_of_slot? hslot]
      exact ih (h.touch hslot) ((h.isFull_touch hslot).trans hroom)

/-- **Any number of failed builds costs one key at most.** By induction on the requests: one that finds
its key costs nothing, and the first failed build makes room for all later ones. -/
theorem Idle.costs_foldl (h : c.Idle) {requests : List (K × Except FormulaError V)}
    (hfail : ∀ r ∈ requests, ∃ error, r.2 = .error error) :
    Costs (c.leavingAfter? (requests.map (·.1))) c
      (requests.foldl (fun c r => (c.serve r.1 r.2).2) c) := by
  induction requests generalizing c with
  | nil => exact .refl c
  | cons r rest ih =>
    obtain ⟨key, build⟩ := r
    obtain ⟨⟨error, rfl⟩, hrest⟩ := List.forall_mem_cons.1 hfail
    rw [List.foldl_cons, List.map_cons]
    rcases h.serve_error key error with ⟨slot, value, hslot, hserve⟩ | ⟨hslot, hserve⟩
    · rw [hserve, leavingAfter?_of_slot? hslot]
      exact (h.costs_touch hslot).none_trans (ih (h.touch hslot) hrest)
    · rw [hserve, leavingAfter?_of_none hslot]
      have hcosts := ih h.undo hrest
      rw [h.undo.leavingAfter?_of_room h.isFull_undo] at hcosts
      exact h.costs_undo.trans_none hcosts

/-! ## Requests -/

variable {T : Type}

/-- `getOrBuild` with a build that does not use the cache: its outcome, and the cache after it. -/
def getApart (c : Cache K V) (key : K) (build : Eval T V) : Except FormulaError V × Cache K V :=
  let lifted : ExceptT FormulaError (StateT (Cache K V) (Traced T)) V :=
    ExceptT.mk (liftM build.run)
  ((getOrBuild key lifted).run.run c).value

/-- A cache after such requests. -/
def afterAll (c : Cache K V) : List (K × Eval T V) → Cache K V
  | [] => c
  | (key, build) :: rest => (c.getApart key build).2.afterAll rest

theorem afterAll_eq (c : Cache K V) (requests : List (K × Eval T V)) :
    c.afterAll requests = (requests.map fun r => (r.1, r.2.result)).foldl
      (fun c r => (c.serve r.1 r.2).2) c := by
  induction requests generalizing c with
  | nil => rfl
  | cons r rest ih => rw [afterAll, getApart, value_getOrBuild, ih, List.map_cons, List.foldl_cons]

open Machine in
/-- **The cost of failed builds.** Between requests, whatever was done with a cache before, a request
whose build fails leaves the cache as it was but for its counters, and but for the key requested least
recently, which has given way if the cache was full. Any number of failed builds costs one key at most:
none if there is room, and the key requested least recently if the first of them does not find its own
key. -/
theorem failure_costs_one_key {capacity : Option Capacity} {script : Script K V FormulaError}
    {s : Machine K V FormulaError} (hsteps : Steps (script.start capacity) s) (hframes : s.frames = []) :
    (∀ (key : K) (build : Eval T V) error c', s.cache.getApart key build = (.error error, c') →
      c' = s.cache.undo ∧ Costs s.cache.leaving? s.cache c') ∧
    ∀ requests : List (K × Eval T V), (∀ r ∈ requests, ∃ error, r.2.result = .error error) →
      let lost := s.cache.leavingAfter? (requests.map (·.1))
      (s.cache.isFull = false → lost = none) ∧
        (∀ r ∈ requests.head?, s.cache.contains r.1 = false → lost = s.cache.leaving?) ∧
        Costs lost s.cache (s.cache.afterAll requests) := by
  have hidle : s.cache.Idle := (sound_of_steps hsteps).idle hframes
  refine ⟨fun key build error c' hrequest => ?_, fun requests hfail => ⟨?_, ?_, ?_⟩⟩
  · rw [getApart, value_getOrBuild] at hrequest
    obtain rfl := hidle.eq_undo_of_serve hrequest
    exact ⟨rfl, hidle.costs_undo⟩
  · exact fun hroom => hidle.leavingAfter?_of_room hroom _
  · intro r hr hcontains
    obtain ⟨rest, rfl⟩ := List.head?_eq_some_iff.1 hr
    exact leavingAfter?_of_none (hidle.slot?_eq_none hcontains) _
  · have hkeys : requests.map (·.1) = (requests.map fun r => (r.1, r.2.result)).map (·.1) := by
      rw [List.map_map]
      rfl
    rw [afterAll_eq, hkeys]
    refine hidle.costs_foldl fun r hr => ?_
    obtain ⟨r, hmem, rfl⟩ := List.mem_map.1 hr
    exact hfail r hmem

open Machine in
/-- In a full cache with one key a failed build costs that key, and a second one costs nothing more. -/
theorem failure_costs_one_key_full :
    let script : Script Nat Nat FormulaError := .getOrBuild 1 (.done (.ok 10)) .done
    let failing : Eval Fixed Nat := throw .emptyFormula
    ∃ s, Steps (script.start (some ⟨1, Nat.one_pos⟩)) s ∧ s.frames = [] ∧
      (s.cache.getApart 2 failing).1 = .error .emptyFormula ∧
      Costs (some 1) s.cache (s.cache.getApart 2 failing).2 ∧
      Costs (some 1) s.cache (s.cache.afterAll [(2, failing), (3, failing)]) := by
  intro script failing
  have hsteps : Steps (script.start (some ⟨1, Nat.one_pos⟩)) _ := .tail (.single (.miss rfl)) .finish
  obtain ⟨hone, hmany⟩ := failure_costs_one_key (T := Fixed) hsteps rfl
  have hfail : ∀ r ∈ [(2, failing), (3, failing)], ∃ error, r.2.result = .error error := by
    simp only [List.forall_mem_cons]
    exact ⟨⟨_, rfl⟩, ⟨_, rfl⟩, nofun⟩
  obtain ⟨-, hlost, hcosts⟩ := hmany _ hfail
  rw [hlost _ rfl rfl] at hcosts
  exact ⟨_, hsteps, rfl, rfl, (hone 2 failing _ _ rfl).2, hcosts⟩

/-- A formula that was built is no longer cached after another one failed to build. -/
theorem failure_displaces :
    let formula : Formula Fixed := .ofEvaluator fun _ => pure Numeric.one
    let c := (Cache.empty (some ⟨1, Nat.one_pos⟩) : FormulaCache Fixed)
    let built := c.getApart (.source "a") (pure formula : Eval Fixed (Formula Fixed))
    let failed := built.2.getApart (.source "b")
      (throw (.unknownFunction "boom") : Eval Fixed (Formula Fixed))
    failed.1 = .error (.unknownFunction "boom") ∧
      built.2.contains (.source "a") = true ∧ failed.2.contains (.source "a") = false ∧
      built.2.evictions = 0 ∧ failed.2.evictions = 1 := by
  intro formula c built failed
  exact ⟨rfl, rfl, rfl, rfl, rfl⟩

end Formulary.Cache
