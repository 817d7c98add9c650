import Formulary.Proofs.Cache.Slots

/-!
# Proofs/Cache/Recency — a bounded cache keeps the keys requested last

Where builds succeed and leave the cache alone, a history of uses says what a bounded cache holds: the
keys requested last (`recent`), each with the value of its last build. A `Journal` is a cache with the
builds that were run for it, and `Journal.Current` compares it with the history. Every use keeps them in
step (`Journal.Current.step`); looking at the cache is no use of a key.
-/

namespace Formulary.Cache

/-! ## Histories -/

/-- A use of a cache. A request comes with the value that a build would yield. -/
inductive Use (K V : Type) where
  | get (key : K) (value : V)
  | contains (key : K)
  | size
  | stats
  | clear

/-- The keys requested since the cache was cleared last. Histories have the latest use first. -/
def requested {K V : Type} : List (Use K V) → List K
  | [] => []
  | .get key _ :: earlier => key :: requested earlier
  | .clear :: _ => []
  | .contains _ :: earlier | .size :: earlier | .stats :: earlier => requested earlier

/-- As many different keys as fit, those requested last. -/
def recent {K V : Type} [DecidableEq K] (limit : Capacity) (history : List (Use K V)) : List K :=
  (requested history).eraseDups.take limit.val

/-! ## Lists without repetitions -/

section Lists

variable {K : Type} [DecidableEq K] {key : K}

theorem filter_eraseDups (p : K → Bool) (keys : List K) :
    keys.eraseDups.filter p = (keys.filter p).eraseDups := by
  induction h : keys.length using Nat.strongRecOn generalizing keys with
  | ind n ih =>
    cases keys with
    | nil => rfl
    | cons key rest =>
      have hshorter : (rest.filter fun k => !k == key).length < n := by
        have hle := List.length_filter_le (fun k => !k == key) rest
        rw [List.length_cons] at h
        omega
      rw [List.eraseDups_cons]
      cases hp : p key with
      | true =>
        rw [List.filter_cons_of_pos hp, List.filter_cons_of_pos hp, List.eraseDups_cons,
          ih _ hshorter _ rfl, List.filter_filter, List.filter_filter]
        simp only [Bool.and_comm]
      | false =>
        have hp' : ¬p key = true := by rw [hp]; exact Bool.false_ne_true
        rw [List.filter_cons_of_neg hp', List.filter_cons_of_neg hp', ih _ hshorter _ rfl,
          List.filter_filter]
        congr 1
        refine List.filter_congr fun k _ => ?_
        by_cases hk : k = key
        · rw [hk, hp, Bool.false_and]
        · rw [beq_false_of_ne hk, Bool.not_false, Bool.and_true]

theorem eraseDups_cons_eq (key : K) (keys : List K) :
    (key :: keys).eraseDups = key :: keys.eraseDups.filter (· ≠ key) := by
  rw [List.eraseDups_cons, filter_eraseDups]
  congr 2
  refine List.filter_congr fun k _ => ?_
  by_cases hk : k = key
  · rw [beq_iff_eq.2 hk, decide_eq_false (not_not.2 hk)]
    rfl
  · rw [beq_false_of_ne hk, decide_eq_true hk]
    rfl

theorem nodup_eraseDups (keys : List K) : keys.eraseDups.Nodup := by
  induction keys with
  | nil => exact List.nodup_nil
  | cons key keys ih =>
    rw [eraseDups_cons_eq]
    exact List.nodup_cons.2 ⟨fun hmem => of_decide_eq_true (List.mem_filter.1 hmem).2 rfl, ih.filter _⟩

/-- What is left of the first `n` keys without one of them are the first `n - 1` of the others. -/
theorem take_filter_take (n : Nat) {keys : List K} (hkeys : keys.Nodup) :
    ((keys.take n).filter (· ≠ key)).take (n - 1) = (keys.filter (· ≠ key)).take (n - 1) := by
  rcases Nat.le_total keys.length n with hfits | hmore
  · rw [List.take_of_length_le hfits]
  · have hothers : n - 1 ≤ ((keys.take n).filter (· ≠ key)).length := by
      have herase := ((List.take_sublist n keys).nodup hkeys).erase_eq_filter key
      have hlength := List.le_length_erase (a := key) (l := keys.take n)
      rw [List.length_take, Nat.min_eq_left hmore, herase] at hlength
      simp only [ne_eq, decide_not]
      exact hlength
    conv => rhs; rw [← List.take_append_drop n keys]
    rw [List.filter_append, List.take_append_of_le_length hothers]

omit [DecidableEq K] in
/-- As many keys as leave room for one more are all of them but perhaps the last. -/
theorem take_eq_dropLast {limit : Capacity} {keys : List K} (hlength : keys.length ≤ limit.val) :
    keys.take (limit.val - 1) = if keys.length = limit.val then keys.dropLast else keys := by
  split
  · next hfull => rw [List.dropLast_eq_take, hfull]
  · next hroom => exact List.take_of_length_le (by omega)

end Lists

variable {K V : Type} [DecidableEq K] {limit : Capacity} {key : K} {value : V}
  {history : List (Use K V)}

theorem nodup_recent (limit : Capacity) (history : List (Use K V)) :
    (recent limit history).Nodup :=
  (List.take_sublist _ _).nodup (nodup_eraseDups _)

theorem length_recent_le (limit : Capacity) (history : List (Use K V)) :
    (recent limit history).length ≤ limit.val :=
  List.length_take_le _ _

theorem recent_eq_nil (limit : Capacity) (h : requested history = []) : recent limit history = [] := by
  rw [recent, h, List.eraseDups_nil, List.take_nil]

/-- **A request puts its key before the others**, as many as still fit. -/
theorem recent_get (limit : Capacity) (key : K) (value : V) (history : List (Use K V)) :
    recent limit (.get key value :: history) =
      key :: ((recent limit history).filter (· ≠ key)).take (limit.val - 1) := by
  have hlimit : limit.val = limit.val - 1 + 1 := (Nat.sub_add_cancel limit.2).symm
  rw [recent, requested, eraseDups_cons_eq, hlimit, List.take_succ_cons, ← hlimit, recent,
    take_filter_take _ (nodup_eraseDups _)]

/-! ## Requests -/

/-- The others of a key that is there leave room for it. -/
theorem length_others_lt {keys : List K} (hkey : key ∈ keys) (hlength : keys.length ≤ limit.val) :
    (keys.filter (· ≠ key)).length < limit.val :=
  Nat.lt_of_lt_of_le (List.length_filter_lt_length_iff_exists.2
    ⟨key, hkey, by rw [decide_eq_false (not_not.2 rfl)]; exact Bool.false_ne_true⟩) hlength

theorem filter_of_not_mem {keys : List K} (hkey : key ∉ keys) : keys.filter (· ≠ key) = keys :=
  List.filter_eq_self.2 fun _ hk => decide_eq_true fun heq => hkey (heq ▸ hk)

/-- A request puts its key before the others, as many as still fit. -/
theorem keys_request {c : Cache K V} (hlimit : c.capacity = some limit)
    (hsize : c.size ≤ limit.val) :
    (c.request key).2.keys = key :: (c.keys.filter (· ≠ key)).take (limit.val - 1) := by
  rw [← length_keys] at hsize
  cases hslot : c.slot? key with
  | some slot =>
    have hkey : key ∈ c.keys := mem_keys (mem_of_slot? hslot)
    have hothers : (c.keys.filter (· ≠ key)).length ≤ limit.val - 1 :=
      Nat.le_sub_one_of_lt (length_others_lt hkey hsize)
    rw [request_of_slot? hslot, keys_touch, List.take_of_length_le hothers]
  | none =>
    have hkey : key ∉ c.keys := slot?_eq_none_iff.1 hslot
    rw [length_keys] at hsize
    rw [request_of_none hslot, addSlot_eq, filter_of_not_mem hkey, ← keys_kept hlimit hsize]
    rfl

/-! ## Journals -/

/-- A cache with the builds that were run for it, the latest first. -/
structure Journal (K V : Type) where
  cache : Cache K V
  builds : List (K × V)

/-- A build that succeeds and enters itself among the builds. -/
def entered (key : K) (value : V) :
    ExceptT FormulaError (StateT (Cache K V) (StateM (List (K × V)))) V :=
  ExceptT.mk do
    StateT.lift (modify fun builds => (key, value) :: builds)
    pure (.ok value)

theorem lookup_cons_of_ne {k : K} (h : k ≠ key) (builds : List (K × V)) :
    ((key, value) :: builds).lookup k = builds.lookup k := by
  rw [List.lookup_cons, beq_false_of_ne h]

namespace Journal

/-- A request, and the journal after it. -/
def get (j : Journal K V) (key : K) (value : V) : Except FormulaError V × Journal K V :=
  let ((outcome, cache), builds) :=
    (((getOrBuild key (entered key value)).run.run j.cache).run j.builds).run
  (outcome, ⟨cache, builds⟩)

/-- The journal after one more use. -/
def next (j : Journal K V) : Use K V → Journal K V
  | .get key value => (j.get key value).2
  | .clear => ⟨j.cache.clear, j.builds⟩
  | .contains _ | .size | .stats => j

/-- The journal after a history. -/
def after (limit : Capacity) : List (Use K V) → Journal K V
  | [] => ⟨empty (some limit), []⟩
  | use :: earlier => (after limit earlier).next use

variable {j : Journal K V}

theorem get_of_some {slot : Slot V} {found : V} (hslot : j.cache.slot? key = some slot)
    (hfound : slot.value? = some found) :
    j.get key value = (.ok found, ⟨(j.cache.touch key slot).countHit, j.builds⟩) := by
  simp [get, getOrBuild_of_some hslot hfound]

theorem get_of_none (hslot : j.cache.slot? key = none) :
    j.get key value = (.ok value,
      ⟨(j.cache.addSlot key).countMiss.fill key j.cache.nextSerial value, (key, value) :: j.builds⟩) := by
  simp [get, getOrBuild_of_none hslot, entered, settle]

/-- A journal is up to date with a history. -/
structure Current (limit : Capacity) (history : List (Use K V)) (j : Journal K V) : Prop where
  capacity_eq : j.cache.capacity = some limit
  tidy : j.cache.Tidy
  keys_eq : j.cache.keys = recent limit history
  /-- Every slot has the value of the last build for its key. -/
  values : ∀ p ∈ j.cache.slots, ∃ value, p.2.value? = some value ∧ j.builds.lookup p.1 = some value

namespace Current

theorem size_eq (h : Current limit history j) : j.cache.size = (recent limit history).length := by
  rw [← length_keys, h.keys_eq]

theorem size_le (h : Current limit history j) : j.cache.size ≤ limit.val :=
  h.size_eq ▸ length_recent_le limit history

theorem mem_recent_iff (h : Current limit history j) :
    key ∈ recent limit history ↔ ∃ slot, j.cache.slot? key = some slot := by
  rw [← h.keys_eq]
  refine ⟨exists_slot?_of_mem, fun ⟨slot, hslot⟩ => mem_keys (mem_of_slot? hslot)⟩

theorem slot?_eq_none (h : Current limit history j) (hkey : key ∉ recent limit history) :
    j.cache.slot? key = none :=
  slot?_eq_none_iff.2 (h.keys_eq ▸ hkey)

theorem contains_eq (h : Current limit history j) (key : K) :
    j.cache.contains key = decide (key ∈ recent limit history) := by
  have hfilled : ∀ p ∈ j.cache.slots, p.2.value? ≠ none := by
    intro p hp hnone
    obtain ⟨value, hvalue, -⟩ := h.values p hp
    rw [hnone] at hvalue
    cases hvalue
  rw [contains_of_filled hfilled, h.keys_eq]

/-- After a request, as after any other, its key comes first. -/
theorem keys_eq_recent {c : Cache K V} (h : Current limit history j)
    (hkeys : c.keys = (j.cache.request key).2.keys) :
    c.keys = recent limit (.get key value :: history) := by
  rw [hkeys, keys_request h.capacity_eq h.size_le, h.keys_eq, recent_get]

/-- A request for a key that is there. -/
theorem get_of_mem (h : Current limit history j) (hkey : key ∈ recent limit history) (value : V) :
    ∃ slot found, j.cache.slot? key = some slot ∧ j.builds.lookup key = some found ∧
      j.get key value = (.ok found, ⟨(j.cache.touch key slot).countHit, j.builds⟩) := by
  obtain ⟨slot, hslot⟩ := h.mem_recent_iff.1 hkey
  obtain ⟨found, hfound, hlookup⟩ := h.values _ (mem_of_slot? hslot)
  exact ⟨slot, found, hslot, hlookup, get_of_some hslot hfound⟩

/-- Every slot of the cache has a value after a request for a key that was not there. -/
theorem values_fill (h : Current limit history j) (hkey : key ∉ recent limit history) :
    ∀ p ∈ ((j.cache.addSlot key).countMiss.fill key j.cache.nextSerial value).slots,
      ∃ v, p.2.value? = some v ∧ ((key, value) :: j.builds).lookup p.1 = some v := by
  intro p hp
  rw [slots_fill] at hp
  obtain ⟨q, hq, rfl⟩ := List.mem_map.1 hp
  rw [addSlot_eq] at hq
  rcases List.mem_cons.1 hq with rfl | hkept
  · have hown : IsOwn (V := V) key j.cache.nextSerial (key, ⟨j.cache.nextSerial, none⟩) :=
      ⟨rfl, rfl, rfl⟩
    rw [if_pos hown]
    exact ⟨value, rfl, List.lookup_cons_self⟩
  · have hold := (kept_sublist j.cache).subset hkept
    have hne : q.1 ≠ key := fun heq => hkey (h.keys_eq ▸ heq ▸ mem_keys hold)
    rw [if_neg fun hown => hne hown.1, lookup_cons_of_ne hne]
    exact h.values q hold

theorem get (h : Current limit history j) (key : K) (value : V) :
    Current limit (.get key value :: history) (j.get key value).2 := by
  by_cases hkey : key ∈ recent limit history
  · obtain ⟨slot, found, hslot, -, hget⟩ := h.get_of_mem hkey value
    have hperm := perm_slots_touch h.tidy.keys_nodup hslot
    have hkeys : (j.cache.touch key slot).countHit.keys = (j.cache.request key).2.keys := by
      rw [request_of_slot? hslot]
      rfl
    rw [hget]
    exact ⟨h.capacity_eq, (h.tidy.touch hslot).countHit, h.keys_eq_recent hkeys,
      fun p hp => h.values p (hperm.subset hp)⟩
  · have hslot := h.slot?_eq_none hkey
    have hkeys : ((j.cache.addSlot key).countMiss.fill key j.cache.nextSerial value).keys =
        (j.cache.request key).2.keys := by
      rw [keys_fill, request_of_none hslot]
      rfl
    have htidy : ((j.cache.addSlot key).countMiss.fill key j.cache.nextSerial value).Tidy :=
      (h.tidy.addSlot hslot).countMiss.settle key j.cache.nextSerial (.ok value : Except Empty V)
    have hcapacity : (j.cache.addSlot key).capacity = some limit := by
      rw [addSlot_eq]
      exact h.capacity_eq
    rw [get_of_none hslot]
    exact ⟨hcapacity, htidy, h.keys_eq_recent hkeys, h.values_fill hkey⟩

/-- **Every use keeps the journal up to date.** -/
theorem next (h : Current limit history j) (use : Use K V) :
    Current limit (use :: history) (j.next use) := by
  cases use with
  | get key value => exact h.get key value
  | clear => exact ⟨h.capacity_eq, .clear _, (recent_eq_nil limit rfl).symm, nofun⟩
  | contains key => exact ⟨h.capacity_eq, h.tidy, h.keys_eq, h.values⟩
  | size => exact ⟨h.capacity_eq, h.tidy, h.keys_eq, h.values⟩
  | stats => exact ⟨h.capacity_eq, h.tidy, h.keys_eq, h.values⟩

end Current

/-- A journal is up to date after any history, by induction on the history. -/
theorem current_after (limit : Capacity) (history : List (Use K V)) :
    Current limit history (after limit history) := by
  induction history with
  | nil => exact ⟨rfl, .empty _, (recent_eq_nil limit rfl).symm, nofun⟩
  | cons use earlier ih => exact ih.next use

/-! ## What a request does -/

/-- What a request does to a cache with some keys, the one requested last first. -/
structure Served (keys : List K) (limit : Capacity) (key : K) (value : V) (j : Journal K V)
    (outcome : Except FormulaError V) (j' : Journal K V) : Prop where
  /-- A build is run for a key that is not there, and no other. -/
  builds_eq : j'.builds = if key ∈ keys then j.builds else (key, value) :: j.builds
  /-- The answer is the value of the last build for the key. -/
  outcome_eq : ∃ last, outcome = .ok last ∧ j'.builds.lookup key = some last
  /-- The key comes first, and the last of the others gives way if they leave no room. -/
  keys_eq : j'.cache.keys = key ::
    if (keys.filter (· ≠ key)).length = limit.val then (keys.filter (· ≠ key)).dropLast
    else keys.filter (· ≠ key)
  evictions_eq : j'.cache.evictions = j.cache.evictions +
    if (keys.filter (· ≠ key)).length = limit.val then 1 else 0

theorem Current.served (h : Current limit history j) (key : K) (value : V) :
    Served (recent limit history) limit key value j (j.get key value).1 (j.get key value).2 := by
  have hlength := length_recent_le limit history
  have hothers : ((recent limit history).filter (· ≠ key)).length ≤ limit.val :=
    Nat.le_trans (List.length_filter_le _ _) hlength
  have hkeys := (h.get key value).keys_eq
  rw [recent_get, take_eq_dropLast hothers] at hkeys
  by_cases hkey : key ∈ recent limit history
  · obtain ⟨slot, found, hslot, hlookup, hget⟩ := h.get_of_mem hkey value
    have hroom : ((recent limit history).filter (· ≠ key)).length ≠ limit.val :=
      Nat.ne_of_lt (length_others_lt hkey hlength)
    refine ⟨?_, ?_, hkeys, ?_⟩
    · rw [hget, if_pos hkey]
    · rw [hget]
      exact ⟨found, rfl, hlookup⟩
    · rw [hget, if_neg hroom]
      rfl
  · have hfull : j.cache.isFull = true ↔ (recent limit history).length = limit.val := by
      rw [isFull_iff h.capacity_eq, h.size_eq]
      exact ⟨Nat.le_antisymm hlength, Nat.le_of_eq ∘ Eq.symm⟩
    refine ⟨?_, ?_, hkeys, ?_⟩
    · rw [get_of_none (h.slot?_eq_none hkey), if_neg hkey]
    · rw [get_of_none (h.slot?_eq_none hkey)]
      exact ⟨value, rfl, List.lookup_cons_self⟩
    · rw [get_of_none (h.slot?_eq_none hkey), filter_of_not_mem hkey, addSlot_eq]
      simp only [hfull]
      rfl

end Journal

/-- Only the journal after a history matters for what comes later. -/
theorem Journal.after_append (limit : Capacity) (later history : List (Use K V)) :
    after limit (later ++ history) = later.foldr (fun use j => j.next use) (after limit history) := by
  induction later with
  | nil => rfl
  | cons use later ih => exact congrArg (fun j : Journal K V => j.next use) ih

/-- To look at the cache changes nothing, now or later. -/
theorem Journal.after_look (limit : Capacity) (later history : List (Use K V)) :
    (∀ key, after limit (later ++ .contains key :: history) = after limit (later ++ history)) ∧
      after limit (later ++ .size :: history) = after limit (later ++ history) ∧
        after limit (later ++ .stats :: history) = after limit (later ++ history) := by
  refine ⟨fun key => ?_, ?_, ?_⟩
  · rw [after_append, after_append]
    rfl
  · rw [after_append, after_append]
    rfl
  · rw [after_append, after_append]
    rfl

open Journal in
/-- **A bounded cache keeps the keys requested last.** After any history it holds as many different
keys as fit, those requested last since it was cleared; a request after it runs a build only for a key
that is not among them, answers with the last value built for its key and makes only the key give way
whose request is the longest ago; and looking at the cache tells what it holds and changes nothing, now
or later. -/
theorem keys_are_recent (limit : Capacity) (history : List (Use K V)) :
    (after limit history).cache.keys = recent limit history ∧
    (∀ key value, (after limit history).Served (recent limit history) limit key value
      ((after limit history).get key value).1 ((after limit history).get key value).2) ∧
    (∀ key, (after limit history).cache.contains key = decide (key ∈ recent limit history)) ∧
    (after limit history).cache.size = (recent limit history).length ∧
    ∀ later,
      (∀ key, after limit (later ++ .contains key :: history) = after limit (later ++ history)) ∧
        after limit (later ++ .size :: history) = after limit (later ++ history) ∧
          after limit (later ++ .stats :: history) = after limit (later ++ history) := by
  have hcurrent := current_after limit history
  exact ⟨hcurrent.keys_eq, hcurrent.served, hcurrent.contains_eq, hcurrent.size_eq,
    fun later => after_look limit later history⟩

end Formulary.Cache
