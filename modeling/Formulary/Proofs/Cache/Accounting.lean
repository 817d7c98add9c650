import Formulary.Proofs.Cache.Script

/-!
# Proofs/Cache/Accounting — the books of a cache

Builds may request other keys, clear the cache or push their own slot out of it. Between any two
operations the counters still say what happened (`Accounted`): a slot without a value always waits for a
build in progress, and a build that ends changes no slot but the one it was started for (`Concluded`).
The books hold at the start and each operation keeps them (`Sound.step`).
-/

namespace Formulary.Cache

variable {K V E : Type}

/-- What the users of a cache may rely on between two operations. -/
structure Accounted (capacity : Option Capacity) (s : Machine K V E) : Prop where
  size_le : ∀ limit, capacity = some limit → s.cache.size ≤ limit.val
  /-- The misses are the builds started. -/
  misses_eq : s.cache.misses = s.tally.started
  /-- Every request is counted once: as a miss when its build starts, or as a hit when it is answered. -/
  requests_eq : s.cache.hits + s.cache.misses = s.tally.answered + s.frames.length
  /-- Only slots of builds in progress have no value. -/
  pending : ∀ p ∈ s.cache.slots, p.2.value? = none →
    ∃ frame ∈ s.frames, frame.key = p.1 ∧ frame.serial = p.2.serial
  /-- No slot is lost: each is still there, was evicted, was taken out or was dropped. -/
  inserted_eq : s.turnover.inserted =
    s.cache.size + s.cache.evictions + s.turnover.discarded + s.turnover.dropped

/-- A cache before and after the end of a build. -/
structure Concluded (serial : Nat) (outcome : Except E V) (c c' : Cache K V) : Prop where
  /-- Other slots stay as they are and where they are, a newer one for the same key among them. -/
  others : c'.slots.filter (·.2.serial ≠ serial) = c.slots.filter (·.2.serial ≠ serial)
  /-- A build that succeeds fills its own slot in its place. -/
  filled : ∀ value, outcome = .ok value → c'.keys = c.keys ∧
    ∀ p ∈ c'.slots, p.2.serial = serial → p.2.value? = some value
  /-- A build that fails takes it out. -/
  discarded : ∀ error, outcome = .error error → serial ∉ c'.serials
  /-- Neither matters if the slot has gone meanwhile. -/
  gone : serial ∉ c.serials → c' = c

/-! ## Builds in progress -/

/-- The slots of builds in progress: each build has its own, which waits for a value or has gone. -/
structure Attended (c : Cache K V) (frames : List (Frame K V E)) : Prop where
  nodup : (frames.map Frame.serial).Nodup
  serial_lt : ∀ frame ∈ frames, frame.serial < c.nextSerial
  awaits : ∀ frame ∈ frames, c.Awaits frame.key frame.serial
  pending : ∀ p ∈ c.slots, p.2.value? = none →
    ∃ frame ∈ frames, frame.key = p.1 ∧ frame.serial = p.2.serial

namespace Attended

variable {c c' : Cache K V} {frames : List (Frame K V E)} {key : K}

/-- Slots may move or go. -/
theorem of_subset (h : Attended c frames) (hserial : c'.nextSerial = c.nextSerial)
    (hslots : c'.slots ⊆ c.slots) : Attended c' frames :=
  ⟨h.nodup, fun frame hframe => hserial ▸ h.serial_lt frame hframe,
    fun frame hframe p hp => h.awaits frame hframe p (hslots hp), fun p hp => h.pending p (hslots hp)⟩

/-- A new slot waits for the new build. -/
theorem addSlot (h : Attended c frames) (htidy : c.Tidy) (key : K)
    (next : Except E V → Script K V E) :
    Attended (c.addSlot key) (⟨key, c.nextSerial, next⟩ :: frames) := by
  have hkept : c.kept ⊆ c.slots := (kept_sublist c).subset
  rw [addSlot_eq]
  refine ⟨List.nodup_cons.2 ⟨?_, h.nodup⟩, List.forall_mem_cons.2 ⟨?_, ?_⟩,
    List.forall_mem_cons.2 ⟨List.forall_mem_cons.2 ⟨?_, ?_⟩, ?_⟩, List.forall_mem_cons.2 ⟨?_, ?_⟩⟩
  · intro hmem
    obtain ⟨frame, hframe, hserial⟩ := List.mem_map.1 hmem
    exact Nat.ne_of_lt (h.serial_lt frame hframe) hserial
  · exact Nat.lt_succ_self _
  · exact fun frame hframe => Nat.lt_succ_of_lt (h.serial_lt frame hframe)
  · exact fun _ => ⟨rfl, rfl, rfl⟩
  · exact fun p hp hserial =>
      absurd hserial (Nat.ne_of_lt (htidy.serial_lt _ (mem_serials (hkept hp))))
  · refine fun frame hframe => List.forall_mem_cons.2 ⟨fun hserial => ?_, fun p hp => ?_⟩
    · exact absurd hserial.symm (Nat.ne_of_lt (h.serial_lt frame hframe))
    · exact h.awaits frame hframe p (hkept hp)
  · exact fun _ => ⟨_, List.mem_cons_self, rfl, rfl⟩
  · intro p hp hvalue
    obtain ⟨frame, hframe, hown⟩ := h.pending p (hkept hp) hvalue
    exact ⟨frame, List.mem_cons_of_mem _ hframe, hown⟩

variable [DecidableEq K]

/-- The slot of a build that ends has a value then, or has gone. -/
theorem value?_ne_none {frame : Frame K V E} {outcome : Except E V}
    (h : c.Awaits frame.key frame.serial) {p : K × Slot V}
    (hp : p ∈ (c.settle frame.key frame.serial outcome).slots) (hserial : p.2.serial = frame.serial) :
    p.2.value? ≠ none := by
  cases outcome with
  | ok value =>
    rw [h.value?_of_mem_fill hp hserial]
    exact nofun
  | error error =>
    have hmem : p.2.serial ∈ (c.discard frame.key frame.serial).serials := mem_serials hp
    exact absurd (hserial ▸ hmem) h.not_mem_serials_discard

theorem settle {frame : Frame K V E} (h : Attended c (frame :: frames)) (outcome : Except E V) :
    Attended (c.settle frame.key frame.serial outcome) frames := by
  obtain ⟨hfresh, hnodup⟩ := List.nodup_cons.1 h.nodup
  obtain ⟨hawaits, hothers⟩ := List.forall_mem_cons.1 h.awaits
  have hnext : (c.settle frame.key frame.serial outcome).nextSerial = c.nextSerial := by
    cases outcome with
    | ok value => rfl
    | error error => rfl
  refine ⟨hnodup, fun other hother => ?_, fun other hother p hp hserial => ?_, fun p hp hvalue => ?_⟩
  · exact hnext ▸ h.serial_lt other (List.mem_cons_of_mem _ hother)
  · have hne : other.serial ≠ frame.serial := fun heq => hfresh (heq ▸ List.mem_map_of_mem hother)
    exact hothers other hother p ((mem_slots_settle_iff (hserial ▸ hne)).1 hp) hserial
  · have hne : p.2.serial ≠ frame.serial := fun hserial => value?_ne_none hawaits hp hserial hvalue
    obtain ⟨other, hother, hkey, hserial⟩ := h.pending p ((mem_slots_settle_iff hne).1 hp) hvalue
    rcases List.mem_cons.1 hother with rfl | hother
    · exact absurd hserial.symm hne
    · exact ⟨other, hother, hkey, hserial⟩

end Attended

/-- How a build that is in progress ends. -/
theorem Awaits.concluded [DecidableEq K] {c : Cache K V} {key : K} {serial : Nat}
    (h : c.Awaits key serial) (outcome : Except E V) : Concluded serial outcome c (c.settle key serial outcome) where
  others := filter_serial_settle c key serial outcome
  filled := by
    rintro value rfl
    exact ⟨keys_fill c key serial value, fun p hp => h.value?_of_mem_fill hp⟩
  discarded := by
    rintro error rfl
    exact h.not_mem_serials_discard
  gone := settle_of_not_mem_serials

/-! ## The books -/

namespace Machine

/-- The key of a build in progress is requested while the slot of that build is in the cache. -/
def Reenters (s : Machine K V E) : Prop :=
  ∃ frame ∈ s.frames, frame.serial ∈ s.cache.serials ∧
    ∃ build next, s.script = .getOrBuild frame.key build next

/-- Everything that operations keep. -/
structure Sound (capacity : Option Capacity) (s : Machine K V E) : Prop where
  capacity_eq : s.cache.capacity = capacity
  tidy : s.cache.Tidy
  attended : Attended s.cache s.frames
  accounted : Accounted capacity s

variable {capacity : Option Capacity} {s s' : Machine K V E}

theorem sound_start (capacity : Option Capacity) (script : Script K V E) :
    Sound capacity (script.start capacity) where
  capacity_eq := rfl
  tidy := .empty capacity
  attended := ⟨List.nodup_nil, nofun, nofun, nofun⟩
  accounted := ⟨fun _ _ => Nat.zero_le _, rfl, rfl, nofun, rfl⟩

namespace Sound

variable {c : Cache K V} {t : Tally} {u : Turnover} {frames : List (Frame K V E)} {key : K}

theorem clear {next script : Script K V E} (h : Sound capacity ⟨c, t, u, frames, next⟩) :
    Sound capacity ⟨c.clear, t, u.drop c, frames, script⟩ := by
  have hattended : Attended c.clear frames := h.attended.of_subset rfl (List.nil_subset _)
  have hinserted : u.inserted = c.size + c.evictions + u.discarded + u.dropped :=
    h.accounted.inserted_eq
  refine ⟨h.capacity_eq, .clear c, hattended, fun _ _ => Nat.zero_le _, h.accounted.misses_eq,
    h.accounted.requests_eq, nofun, ?_⟩
  change u.inserted = 0 + c.evictions + u.discarded + (u.dropped + c.size)
  omega

/-- Operations that only look change nothing. -/
theorem look {script next : Script K V E} (h : Sound capacity ⟨c, t, u, frames, script⟩) :
    Sound capacity ⟨c, t, u, frames, next⟩ :=
  ⟨h.capacity_eq, h.tidy, h.attended, h.accounted.size_le, h.accounted.misses_eq,
    h.accounted.requests_eq, h.accounted.pending, h.accounted.inserted_eq⟩

variable [DecidableEq K]

theorem hit {build script : Script K V E} {next : Except E V → Script K V E} {slot : Slot V}
    (h : Sound capacity ⟨c, t, u, frames, .getOrBuild key build next⟩) (hslot : c.slot? key = some slot) :
    Sound capacity ⟨(c.touch key slot).countHit, t.countAnswer, u, frames, script⟩ := by
  have hperm := perm_slots_touch h.tidy.keys_nodup hslot
  have htidy : (c.touch key slot).Tidy := h.tidy.touch hslot
  have hsize : (c.touch key slot).countHit.size = c.size := hperm.length_eq
  have hattended : Attended (c.touch key slot).countHit frames := h.attended.of_subset rfl hperm.subset
  have hrequests : c.hits + c.misses = t.answered + frames.length := h.accounted.requests_eq
  refine ⟨h.capacity_eq, htidy.countHit, hattended, ?_, h.accounted.misses_eq, ?_,
    hattended.pending, ?_⟩
  · exact fun limit hlimit => Nat.le_trans (Nat.le_of_eq hsize) (h.accounted.size_le limit hlimit)
  · change c.hits + 1 + c.misses = t.answered + 1 + frames.length
    omega
  · change u.inserted = (c.touch key slot).countHit.size + c.evictions + u.discarded + u.dropped
    rw [hsize]
    exact h.accounted.inserted_eq

theorem miss {build : Script K V E} {next : Except E V → Script K V E}
    (h : Sound capacity ⟨c, t, u, frames, .getOrBuild key build next⟩) (hslot : c.slot? key = none) :
    Sound capacity ⟨(c.addSlot key).countMiss, t.countStart, u.insert,
      ⟨key, c.nextSerial, next⟩ :: frames, build⟩ := by
  have hattended : Attended (c.addSlot key).countMiss (⟨key, c.nextSerial, next⟩ :: frames) :=
    (h.attended.addSlot h.tidy key next).of_subset rfl (List.Subset.refl _)
  have htidy : (c.addSlot key).countMiss.Tidy := (h.tidy.addSlot hslot).countMiss
  have hkept := length_kept c
  have hmisses : c.misses = t.started := h.accounted.misses_eq
  have hrequests : c.hits + c.misses = t.answered + frames.length := h.accounted.requests_eq
  have hinserted : u.inserted = c.size + c.evictions + u.discarded + u.dropped :=
    h.accounted.inserted_eq
  have hcapacity : c.capacity = capacity := h.capacity_eq
  rw [addSlot_eq] at hattended htidy ⊢
  refine ⟨hcapacity, htidy, hattended, ?_, ?_, ?_, hattended.pending, ?_⟩
  · exact fun limit hlimit =>
      length_kept_lt (hcapacity.trans hlimit) (h.accounted.size_le limit hlimit)
  · exact congrArg (· + 1) hmisses
  · change c.hits + (c.misses + 1) = t.answered + (frames.length + 1)
    omega
  · change u.inserted + 1 = c.kept.length + 1 + (c.evictions + if c.isFull = true then 1 else 0) +
      u.discarded + u.dropped
    omega

theorem finish {frame : Frame K V E} {outcome : Except E V} {script : Script K V E}
    (h : Sound capacity ⟨c, t, u, frame :: frames, .done outcome⟩) :
    Sound capacity ⟨c.settle frame.key frame.serial outcome, t.countAnswer,
      u.settle c frame.serial outcome, frames, script⟩ := by
  have hattended := h.attended.settle outcome
  have htidy := h.tidy.settle frame.key frame.serial outcome
  have hawaits := h.attended.awaits frame List.mem_cons_self
  have hsize : (c.settle frame.key frame.serial outcome).size ≤ c.size := by
    rw [← length_keys, ← length_keys]
    exact (keys_settle_sublist c frame.key frame.serial outcome).length_le
  have hrequests : c.hits + c.misses = t.answered + (frames.length + 1) := h.accounted.requests_eq
  have hinserted : u.inserted = c.size + c.evictions + u.discarded + u.dropped :=
    h.accounted.inserted_eq
  have hanswered : c.hits + c.misses = t.answered + 1 + frames.length := by omega
  have hbound : ∀ limit, capacity = some limit →
      (c.settle frame.key frame.serial outcome).size ≤ limit.val :=
    fun limit hlimit => Nat.le_trans hsize (h.accounted.size_le limit hlimit)
  cases outcome with
  | ok value =>
    have hfill : (c.fill frame.key frame.serial value).size = c.size := by
      rw [← length_keys, keys_fill, length_keys]
    refine ⟨h.capacity_eq, htidy, hattended, hbound, h.accounted.misses_eq, hanswered,
      hattended.pending, ?_⟩
    change u.inserted = (c.fill frame.key frame.serial value).size + c.evictions + u.discarded + u.dropped
    rw [hfill]
    exact hinserted
  | error error =>
    have hdiscard : (c.discard frame.key frame.serial).size +
        (if frame.serial ∈ c.serials then 1 else 0) = c.size :=
      hawaits.size_discard h.tidy.serials_nodup
    refine ⟨h.capacity_eq, htidy, hattended, hbound, h.accounted.misses_eq, hanswered,
      hattended.pending, ?_⟩
    change u.inserted = (c.discard frame.key frame.serial).size + c.evictions +
      (u.discarded + if frame.serial ∈ c.serials then 1 else 0) + u.dropped
    omega

/-- **Every operation keeps the books.** -/
theorem step (h : Sound capacity s) (hstep : Step s s') : Sound capacity s' := by
  cases hstep with
  | hit hslot _ => exact h.hit hslot
  | miss hslot => exact h.miss hslot
  | finish => exact h.finish
  | clear => exact h.clear
  | contains => exact h.look
  | size => exact h.look
  | stats => exact h.look

omit [DecidableEq K] in
/-- Once the outermost request has returned, every slot has a value. -/
theorem filled (h : Sound capacity s) (hframes : s.frames = []) :
    ∀ p ∈ s.cache.slots, p.2.value? ≠ none := by
  intro p hp hvalue
  obtain ⟨frame, hframe, -⟩ := h.attended.pending p hp hvalue
  rw [hframes] at hframe
  cases hframe

theorem contains_of_mem_keys (h : Sound capacity s) (hframes : s.frames = []) {key : K}
    (hkey : key ∈ s.cache.keys) : s.cache.contains key = true := by
  rw [contains_of_filled (h.filled hframes), decide_eq_true hkey]

/-- A request waits for nothing but a build that it is part of. -/
theorem reenters (h : Sound capacity s) (hwaiting : s.Waiting) : s.Reenters := by
  obtain ⟨key, build, next, slot, hscript, hslot, hvalue⟩ := hwaiting
  have hmem := mem_of_slot? hslot
  obtain ⟨frame, hframe, hkey, hserial⟩ := h.attended.pending _ hmem hvalue
  exact ⟨frame, hframe, hserial ▸ mem_serials hmem, build, next, hkey ▸ hscript⟩

end Sound

/-- **What holds between any two operations of a script**, by induction on the operations so far. -/
theorem sound_of_steps [DecidableEq K] {script : Script K V E} (h : Steps (script.start capacity) s) :
    Sound capacity s := by
  induction h with
  | refl => exact sound_start capacity script
  | tail _ hstep ih => exact ih.step hstep

end Machine

open Machine in
/-- **The books of a cache.** Whatever a script does with a cache of any capacity, the books hold
between any two operations, every key has a value once no build is in progress, and a build that ends
answers its own request with its own outcome and leaves other slots alone. All this happens on the way
to one end, the one that `getOrBuild` brings the script to, unless a build in progress is requested
again. -/
theorem accounted_of_steps [DecidableEq K] (capacity : Option Capacity) (script : Script K V E) :
    (∀ s, Steps (script.start capacity) s →
      Accounted capacity s ∧
      (s.frames = [] → ∀ key ∈ s.cache.keys, s.cache.contains key = true) ∧
      ∀ frame frames outcome, s.frames = frame :: frames → s.script = .done outcome →
        ∃ s', Step s s' ∧ s'.frames = frames ∧ s'.script = frame.next outcome ∧
          Concluded frame.serial outcome s.cache s'.cache) ∧
    ∃ s, Steps (script.start capacity) s ∧ (∀ s', Steps (script.start capacity) s' → Steps s' s) ∧
      (s.Reenters ∨ s.frames = [] ∧ ∃ outcome, s.script = .done outcome ∧
        script.run (empty capacity) ⟨0, 0⟩ = ((outcome, s.cache), s.tally)) := by
  refine ⟨fun s hsteps => ?_, ?_⟩
  · have hsound := sound_of_steps hsteps
    refine ⟨hsound.accounted, fun hframes key => hsound.contains_of_mem_keys hframes, ?_⟩
    intro frame frames outcome hframes hscript
    have hawaits := hsound.attended.awaits frame (hframes ▸ List.mem_cons_self)
    obtain ⟨c, t, u, frames', script'⟩ := s
    obtain rfl : frames' = frame :: frames := hframes
    obtain rfl : script' = .done outcome := hscript
    exact ⟨_, .finish, rfl, rfl, hawaits.concluded outcome⟩
  · obtain ⟨s, hsteps, hlast, hend⟩ := exists_end capacity script
    exact ⟨s, hsteps, hlast, hend.imp_left fun hwaiting => (sound_of_steps hsteps).reenters hwaiting⟩

open Machine in
/-- A build that pushed the slot of the build around it out of the cache. -/
theorem accounted_of_steps_pushed_out :
    let inner : Script Nat Nat String := .getOrBuild 2 (.done (.ok 20)) fun _ => .done (.ok 10)
    ∃ s, Steps (Script.start (some ⟨1, Nat.one_pos⟩) (.getOrBuild 1 inner .done)) s ∧
      s.frames.map Frame.key = [2, 1] ∧ s.cache.keys = [2] ∧ Accounted (some ⟨1, Nat.one_pos⟩) s := by
  intro inner
  have hbooks := (accounted_of_steps (some ⟨1, Nat.one_pos⟩) (.getOrBuild 1 inner .done)).1
  exact ⟨_, .tail (.single (.miss rfl)) (.miss rfl), rfl, rfl,
    (hbooks _ (.tail (.single (.miss rfl)) (.miss rfl))).1⟩

end Formulary.Cache
