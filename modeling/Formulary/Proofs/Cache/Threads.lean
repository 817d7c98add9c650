import Formulary.Proofs.Cache.Serve
import Formulary.Proofs.Cache.Slots
import Mathlib.Data.Fintype.BigOperators
import Mathlib.Logic.Relation

/-!
# Proofs/Cache/Threads — a cache shared by threads

Every thread makes one request, and the threads take their steps in any order. The lock of the cache is
held only to find a slot or to take one out, so a slot may have left the cache while threads still hold
it. What they share then is the cell of that slot: it lets one thread at a time build, keeps the others
waiting, and is filled once. Three things hold between any two steps. A cell is busy exactly while its
builder is at work (`Owned`), the counters say how far the threads have come (`Booked`), and the cells
agree with the cache (`Mirrored`). Some thread can always go on (`exists_step`), and each step brings
its thread closer to the end (`Step.rank_lt`). A thread that nobody interrupts does what `getOrBuild`
does (`steps_serve`).
-/

namespace Formulary.Cache

/-! ## Threads -/

/-- What all holders of a slot share. -/
inductive Cell (ι V : Type) where
  | empty
  /-- One thread may build; the others wait. -/
  | busy (builder : ι)
  | full (value : V)

/-- How far a thread has come with its request. -/
inductive Phase (V : Type) where
  | start
  /-- It holds a slot and has not yet looked into the cell. -/
  | slotted (serial : Nat)
  /-- There was no value: it asks to build. -/
  | queued (serial : Nat)
  /-- It may build. -/
  | entered (serial : Nat)
  /-- It builds, and has counted that. -/
  | building (serial : Nat)
  /-- It has a value that another thread has built, and has not yet counted that. -/
  | found (value : V)
  /-- Its build has failed, and its slot may still be in the cache. -/
  | failed (serial : Nat) (error : FormulaError)
  | returned (outcome : Except FormulaError V)

/-- A cache and the threads that share it. -/
structure Threads (ι K V : Type) where
  cache : Cache K V
  /-- The cells by the serial numbers of their slots. -/
  cells : Nat → Cell ι V
  phases : ι → Phase V
  /-- The threads whose builds have run, the latest first. -/
  runs : List ι

variable {ι K V : Type}

namespace Cell

def value? : Cell ι V → Option V
  | full value => some value
  | _ => none

theorem eq_full {cell : Cell ι V} {value : V} (h : cell.value? = some value) : cell = full value := by
  cases cell with
  | full found => rw [Option.some.inj h]
  | _ => cases h

theorem eq_empty {cell : Cell ι V} (h : cell.value? = none) (hfree : ∀ i, cell ≠ busy i) :
    cell = empty := by
  cases cell with
  | empty => rfl
  | busy i => exact absurd rfl (hfree i)
  | full value => cases h

end Cell

namespace Phase

/-- The serial number of the slot that a thread holds. -/
def serial? : Phase V → Option Nat
  | slotted serial | queued serial | entered serial | building serial | failed serial _ => some serial
  | _ => none

/-- The serial number of the slot that a thread builds for. -/
def builds? : Phase V → Option Nat
  | entered serial | building serial => some serial
  | _ => none

/-- How often the request has been counted, as a hit or as a miss. -/
def counted : Phase V → Nat
  | building _ | failed _ _ | returned _ => 1
  | _ => 0

/-- How many builds are in progress and have been counted. -/
def inBuild : Phase V → Nat
  | building _ => 1
  | _ => 0

/-- How many steps are left at most. -/
def rank : Phase V → Nat
  | start => 6
  | slotted _ => 5
  | queued _ => 4
  | entered _ => 3
  | building _ => 2
  | found _ | failed _ _ => 1
  | returned _ => 0

end Phase

namespace Threads

/-- Threads before their requests. -/
def start (capacity : Option Capacity) : Threads ι K V :=
  ⟨empty capacity, fun _ => .empty, fun _ => .start, []⟩

/-- All threads have returned. -/
def Finished (s : Threads ι K V) : Prop :=
  ∀ i, ∃ outcome, s.phases i = .returned outcome

/-! ## What holds between any two steps -/

/-- A cell is busy exactly while its builder is at work. -/
def Owned (s : Threads ι K V) : Prop :=
  ∀ n j, s.cells n = .busy j ↔ (s.phases j).builds? = some n

/-- A measure of phases, summed up over the threads. -/
def total [Fintype ι] (f : Phase V → Nat) (s : Threads ι K V) : Nat :=
  ∑ i, f (s.phases i)

/-- What the counters say about the threads. -/
structure Booked [Fintype ι] (s : Threads ι K V) : Prop where
  /-- Every request is counted once. -/
  requests_eq : s.cache.hits + s.cache.misses = s.total Phase.counted
  /-- A miss is a build. -/
  misses_eq : s.cache.misses = s.runs.length + s.total Phase.inBuild

/-- The cells agree with the cache. -/
structure Mirrored (key : ι → K) (s : Threads ι K V) : Prop where
  tidy : s.cache.Tidy
  value?_eq : ∀ p ∈ s.cache.slots, (s.cells p.2.serial).value? = p.2.value?
  /-- The slot that a thread holds belongs to its key, if it is still in the cache. -/
  key_eq : ∀ j n, (s.phases j).serial? = some n → ∀ p ∈ s.cache.slots, p.2.serial = n → p.1 = key j
  serial_lt : ∀ j n, (s.phases j).serial? = some n → n < s.cache.nextSerial
  fresh : ∀ n, s.cache.nextSerial ≤ n → s.cells n = .empty

variable {i : ι} {s s' : Threads ι K V} {serial : Nat}

/-- **No two threads build for one cell.** -/
theorem Owned.eq_of_builds? (h : s.Owned) {j : ι} (hi : (s.phases i).builds? = some serial)
    (hj : (s.phases j).builds? = some serial) : i = j :=
  Cell.busy.inj (((h serial i).2 hi).symm.trans ((h serial j).2 hj))

theorem Owned.start (capacity : Option Capacity) :
    (Threads.start capacity : Threads ι K V).Owned :=
  fun _ _ => iff_of_false nofun nofun

theorem Booked.start [Fintype ι] (capacity : Option Capacity) :
    (Threads.start capacity : Threads ι K V).Booked :=
  ⟨Finset.sum_const_zero.symm, Finset.sum_const_zero.symm.trans (Nat.zero_add _).symm⟩

/-- **In the end every request has been counted once, and the misses are the builds.** -/
theorem Booked.of_finished [Fintype ι] (h : s.Booked) (hs : s.Finished) :
    s.cache.hits + s.cache.misses = Fintype.card ι ∧ s.cache.misses = s.runs.length := by
  have hcounted : s.total Phase.counted = Fintype.card ι := by
    rw [total, Fintype.card_eq_sum_ones]
    refine Finset.sum_congr rfl fun i _ => ?_
    obtain ⟨outcome, hphase⟩ := hs i
    rw [hphase]
    rfl
  have hinBuild : s.total Phase.inBuild = 0 := by
    refine Finset.sum_eq_zero fun i _ => ?_
    obtain ⟨outcome, hphase⟩ := hs i
    rw [hphase]
    rfl
  exact ⟨h.requests_eq.trans hcounted, by rw [h.misses_eq, hinBuild, Nat.add_zero]⟩

theorem Mirrored.start (key : ι → K) (capacity : Option Capacity) :
    (Threads.start capacity : Threads ι K V).Mirrored key :=
  ⟨.empty capacity, nofun, nofun, nofun, fun _ _ => rfl⟩

/-- A thread gets a slot whose cell has the value that the slot has. -/
theorem Mirrored.value?_request [DecidableEq K] {key : ι → K} (h : s.Mirrored key) (k : K) :
    (s.cells (s.cache.request k).1.serial).value? = (s.cache.request k).1.value? := by
  cases hslot : s.cache.slot? k with
  | some slot =>
    rw [request_of_slot? hslot]
    exact h.value?_eq _ (mem_of_slot? hslot)
  | none =>
    rw [request_of_none hslot, h.fresh _ (Nat.le_refl _)]
    rfl

theorem total_congr [Fintype ι] (f : Phase V → Nat) (h : s'.phases = s.phases) :
    s'.total f = s.total f := by
  rw [total, total, h]

/-! ## A thread goes on -/

variable [DecidableEq ι]

/-- The threads after one of them has gone on. -/
def goTo (s : Threads ι K V) (i : ι) (phase : Phase V) : Threads ι K V :=
  { s with phases := Function.update s.phases i phase }

theorem phase_of_update {phase : Phase V} (h : s'.phases = Function.update s.phases i phase) :
    s'.phases i = phase := by
  rw [h, Function.update_self]

theorem goTo_update {phase next : Phase V} (h : s'.phases = Function.update s.phases i phase) :
    (s'.goTo i next).phases = Function.update s.phases i next := by
  rw [goTo, h, Function.update_idem]

theorem total_goTo [Fintype ι] (f : Phase V → Nat) (s : Threads ι K V) (i : ι) (phase : Phase V) :
    (s.goTo i phase).total f + f (s.phases i) = s.total f + f phase := by
  have hothers : ∑ j ∈ Finset.univ.erase i, f ((s.goTo i phase).phases j) =
      ∑ j ∈ Finset.univ.erase i, f (s.phases j) := by
    refine Finset.sum_congr rfl fun j hj => ?_
    change f (Function.update s.phases i phase j) = _
    rw [Function.update_of_ne (Finset.ne_of_mem_erase hj)]
  have hself : (s.goTo i phase).phases i = phase := Function.update_self ..
  rw [total, total, ← Finset.add_sum_erase _ _ (Finset.mem_univ i),
    ← Finset.add_sum_erase _ (fun j => f (s.phases j)) (Finset.mem_univ i), hothers, hself]
  omega

theorem total_goTo_lt [Fintype ι] {f : Phase V → Nat} {phase : Phase V}
    (hlt : f phase < f (s.phases i)) (hphases : s'.phases = s.phases) :
    (s'.goTo i phase).total f < s.total f := by
  have htotal := total_goTo f s' i phase
  rw [total_congr _ hphases, hphases] at htotal
  omega

/-! ## Steps -/

/-- One step of a thread, given the keys and the builds of all threads. -/
inductive Step [DecidableEq K] (key : ι → K) (build : ι → Except FormulaError V) (i : ι)
    (s : Threads ι K V) : Threads ι K V → Prop where
  /-- Under the lock of the cache it gets its slot. -/
  | lookUp : s.phases i = .start →
      Step key build i s ({ s with cache := (s.cache.request (key i)).2 }.goTo i
        (.slotted (s.cache.request (key i)).1.serial))
  | see {serial : Nat} {value : V} : s.phases i = .slotted serial → s.cells serial = .full value →
      Step key build i s (s.goTo i (.found value))
  | seeNone {serial : Nat} : s.phases i = .slotted serial → (s.cells serial).value? = none →
      Step key build i s (s.goTo i (.queued serial))
  /-- The build of another thread is over. -/
  | wait {serial : Nat} {value : V} : s.phases i = .queued serial → s.cells serial = .full value →
      Step key build i s (s.goTo i (.found value))
  | enter {serial : Nat} : s.phases i = .queued serial → s.cells serial = .empty →
      Step key build i s ({ s with cells := Function.update s.cells serial (.busy i) }.goTo i
        (.entered serial))
  | countMiss {serial : Nat} : s.phases i = .entered serial →
      Step key build i s ({ s with cache := s.cache.countMiss }.goTo i (.building serial))
  | succeed {serial : Nat} {value : V} : s.phases i = .building serial → build i = .ok value →
      Step key build i s ({ s with
        cache := s.cache.fill (key i) serial value
        cells := Function.update s.cells serial (.full value)
        runs := i :: s.runs }.goTo i (.returned (.ok value)))
  | fail {serial : Nat} {error : FormulaError} : s.phases i = .building serial →
      build i = .error error →
      Step key build i s ({ s with
        cells := Function.update s.cells serial .empty
        runs := i :: s.runs }.goTo i (.failed serial error))
  /-- Under the lock of the cache it takes out its slot, unless that has a value or is gone. -/
  | takeOut {serial : Nat} {error : FormulaError} : s.phases i = .failed serial error →
      Step key build i s ({ s with cache := s.cache.discard (key i) serial }.goTo i
        (.returned (.error error)))
  | countHit {value : V} : s.phases i = .found value →
      Step key build i s ({ s with cache := s.cache.countHit }.goTo i (.returned (.ok value)))

/-- Any number of steps, each of any thread. -/
abbrev Steps [DecidableEq K] (key : ι → K) (build : ι → Except FormulaError V) :
    Threads ι K V → Threads ι K V → Prop :=
  Relation.ReflTransGen fun s s' => ∃ i, Step key build i s s'

variable {key : ι → K} {build : ι → Except FormulaError V}

/-! ## One builder for a cell -/

namespace Owned

/-- A thread goes on, and neither begins nor ends a build. -/
theorem goTo (h : s.Owned) {phase : Phase V} (hbuilds : phase.builds? = (s.phases i).builds?)
    (hcells : s'.cells = s.cells) (hphases : s'.phases = s.phases) : (s'.goTo i phase).Owned := by
  intro n
  change ∀ j, s'.cells n = .busy j ↔ (Function.update s'.phases i phase j).builds? = some n
  rw [hcells, hphases]
  exact (Function.forall_update_iff s.phases fun j phase =>
    s.cells n = .busy j ↔ phase.builds? = some n).2 ⟨hbuilds ▸ h n i, fun j _ => h n j⟩

/-- A build begins, and its cell was free. -/
theorem enter (h : s.Owned) (hcell : s.cells serial = .empty) (hbuilds : (s.phases i).builds? = none) :
    ({ s with cells := Function.update s.cells serial (.busy i) }.goTo i (.entered serial)).Owned := by
  intro n
  refine (Function.forall_update_iff s.phases fun j phase =>
    Function.update s.cells serial (.busy i) n = .busy j ↔ phase.builds? = some n).2
      ⟨?_, fun j hj => ?_⟩
  · by_cases hn : n = serial
    · rw [hn, Function.update_self]
      exact iff_of_true rfl rfl
    · rw [Function.update_of_ne hn, h n i, hbuilds]
      exact iff_of_false nofun fun heq => hn (Option.some.inj heq).symm
  · by_cases hn : n = serial
    · rw [hn, Function.update_self, Cell.busy.injEq, ← h serial j, hcell]
      exact iff_of_false (Ne.symm hj) nofun
    · rw [Function.update_of_ne hn]
      exact h n j

/-- A build ends, and its cell is free again or has a value. -/
theorem leave (h : s.Owned) {cell : Cell ι V} {phase : Phase V}
    (hbuilds : (s.phases i).builds? = some serial) (hcell : ∀ j, cell ≠ .busy j)
    (hphase : phase.builds? = none) (hcells : s'.cells = Function.update s.cells serial cell)
    (hphases : s'.phases = s.phases) : (s'.goTo i phase).Owned := by
  intro n
  change ∀ j, s'.cells n = .busy j ↔ (Function.update s'.phases i phase j).builds? = some n
  rw [hcells, hphases]
  refine (Function.forall_update_iff s.phases fun j phase =>
    Function.update s.cells serial cell n = .busy j ↔ phase.builds? = some n).2
      ⟨?_, fun j hj => ?_⟩
  · rw [hphase]
    refine iff_of_false (fun hbusy => ?_) nofun
    by_cases hn : n = serial
    · rw [hn, Function.update_self] at hbusy
      exact hcell i hbusy
    · rw [Function.update_of_ne hn, h n i, hbuilds] at hbusy
      exact hn (Option.some.inj hbusy).symm
  · by_cases hn : n = serial
    · rw [hn, Function.update_self]
      exact iff_of_false (hcell j) fun hother => hj (h.eq_of_builds? hother hbuilds)
    · rw [Function.update_of_ne hn]
      exact h n j

theorem step [DecidableEq K] (h : s.Owned) (hstep : Step key build i s s') : s'.Owned := by
  cases hstep with
  | enter hphase hcell => exact h.enter hcell (by rw [hphase]; rfl)
  | succeed hphase | fail hphase =>
    refine h.leave (by rw [hphase]; rfl) ?_ rfl rfl rfl
    exact nofun
  | lookUp hphase | see hphase | seeNone hphase | wait hphase | countMiss hphase | takeOut hphase
  | countHit hphase => exact h.goTo (by rw [hphase]; rfl) rfl rfl

end Owned

/-! ## Every run can be brought to its end -/

section Progress

variable [DecidableEq K]

/-- A builder can go on. -/
theorem exists_step_of_builds? (key : ι → K) (build : ι → Except FormulaError V)
    (h : (s.phases i).builds? = some serial) : ∃ s', Step key build i s s' := by
  cases hphase : s.phases i with
  | entered n => exact ⟨_, .countMiss hphase⟩
  | building n =>
    cases hbuild : build i with
    | ok value => exact ⟨_, .succeed hphase hbuild⟩
    | error error => exact ⟨_, .fail hphase hbuild⟩
  | _ =>
    rw [hphase] at h
    cases h

/-- **No deadlock.** Whoever waits, waits for a builder, and that can go on. -/
theorem exists_step (key : ι → K) (build : ι → Except FormulaError V) (h : s.Owned)
    (hs : ¬s.Finished) : ∃ i s', Step key build i s s' := by
  obtain ⟨i, hi⟩ := not_forall.1 hs
  cases hphase : s.phases i with
  | start => exact ⟨i, _, .lookUp hphase⟩
  | slotted n =>
    cases hcell : (s.cells n).value? with
    | some value => exact ⟨i, _, .see hphase (Cell.eq_full hcell)⟩
    | none => exact ⟨i, _, .seeNone hphase hcell⟩
  | queued n =>
    cases hcell : s.cells n with
    | empty => exact ⟨i, _, .enter hphase hcell⟩
    | busy j => exact ⟨j, exists_step_of_builds? key build ((h n j).1 hcell)⟩
    | full value => exact ⟨i, _, .wait hphase hcell⟩
  | entered n => exact ⟨i, exists_step_of_builds? key build (by rw [hphase]; rfl)⟩
  | building n => exact ⟨i, exists_step_of_builds? key build (by rw [hphase]; rfl)⟩
  | found value => exact ⟨i, _, .countHit hphase⟩
  | failed n error => exact ⟨i, _, .takeOut hphase⟩
  | returned outcome => exact absurd ⟨outcome, hphase⟩ hi

variable [Fintype ι]

/-- **Each step brings its thread closer to the end**, so no run goes on for ever. -/
theorem Step.rank_lt (h : Step key build i s s') : s'.total Phase.rank < s.total Phase.rank := by
  cases h with
  | lookUp hphase | see hphase | seeNone hphase | wait hphase | enter hphase | countMiss hphase
  | succeed hphase | fail hphase | takeOut hphase | countHit hphase =>
    refine total_goTo_lt ?_ rfl
    rw [hphase]
    exact of_decide_eq_true rfl

/-- **Every run can be brought to its end.** By induction on the steps that are left at most. -/
theorem exists_finished (key : ι → K) (build : ι → Except FormulaError V) (h : s.Owned) :
    ∃ s', Steps key build s s' ∧ s'.Finished := by
  induction hrank : s.total Phase.rank using Nat.strong_induction_on generalizing s with
  | h rank ih =>
    by_cases hs : s.Finished
    · exact ⟨s, .refl, hs⟩
    · obtain ⟨i, next, hstep⟩ := exists_step key build h hs
      obtain ⟨s', hsteps, hfinished⟩ := ih _ (hrank ▸ hstep.rank_lt) (h.step hstep) rfl
      exact ⟨s', .head ⟨i, hstep⟩ hsteps, hfinished⟩

end Progress

/-! ## The counters -/

namespace Booked

variable [Fintype ι]

/-- The counters go on with a thread. -/
theorem goTo (h : s.Booked) {phase : Phase V}
    (hrequests : s'.cache.hits + s'.cache.misses + (s.phases i).counted =
      s.cache.hits + s.cache.misses + phase.counted)
    (hmisses : s'.cache.misses + (s.runs.length + (s.phases i).inBuild) =
      s.cache.misses + (s'.runs.length + phase.inBuild))
    (hphases : s'.phases = s.phases) : (s'.goTo i phase).Booked := by
  have hcounted := total_goTo Phase.counted s' i phase
  have hinBuild := total_goTo Phase.inBuild s' i phase
  rw [total_congr _ hphases, hphases] at hcounted hinBuild
  have hold := h.requests_eq
  have hold' := h.misses_eq
  refine ⟨?_, ?_⟩
  · change s'.cache.hits + s'.cache.misses = _
    omega
  · change s'.cache.misses = s'.runs.length + _
    omega

theorem step [DecidableEq K] (h : s.Booked) (hstep : Step key build i s s') : s'.Booked := by
  cases hstep with
  | lookUp hphase =>
    refine h.goTo ?_ ?_ rfl
    · rw [hphase, hits_request, misses_request]
      rfl
    · rw [hphase, misses_request]
      rfl
  | countMiss hphase =>
    refine h.goTo (by rw [hphase]; rfl) ?_ rfl
    rw [hphase]
    exact Nat.succ_add_eq_add_succ ..
  | countHit hphase =>
    refine h.goTo ?_ (by rw [hphase]; rfl) rfl
    rw [hphase]
    exact Nat.succ_add ..
  | see hphase | seeNone hphase | wait hphase | enter hphase | succeed hphase | fail hphase
  | takeOut hphase => exact h.goTo (by rw [hphase]; rfl) (by rw [hphase]; rfl) rfl

end Booked

/-! ## Cells and slots -/

namespace Mirrored

/-- A thread goes on. Slots that threads may hold keep their keys. -/
theorem goTo (h : s.Mirrored key) {phase : Phase V} (htidy : s'.cache.Tidy)
    (hvalue : ∀ p ∈ s'.cache.slots, (s'.cells p.2.serial).value? = p.2.value?)
    (hslots : ∀ p ∈ s'.cache.slots, p.2.serial < s.cache.nextSerial →
      ∃ q ∈ s.cache.slots, q.1 = p.1 ∧ q.2.serial = p.2.serial)
    (hphase : ∀ n, phase.serial? = some n →
      (∀ p ∈ s'.cache.slots, p.2.serial = n → p.1 = key i) ∧ n < s'.cache.nextSerial)
    (hnext : s.cache.nextSerial ≤ s'.cache.nextSerial)
    (hfresh : ∀ n, s'.cache.nextSerial ≤ n → s'.cells n = s.cells n)
    (hphases : s'.phases = s.phases) : (s'.goTo i phase).Mirrored key := by
  have hall : ∀ j n, (Function.update s.phases i phase j).serial? = some n →
      (∀ p ∈ s'.cache.slots, p.2.serial = n → p.1 = key j) ∧ n < s'.cache.nextSerial := by
    refine (Function.forall_update_iff s.phases fun j phase => ∀ n, phase.serial? = some n →
      (∀ p ∈ s'.cache.slots, p.2.serial = n → p.1 = key j) ∧ n < s'.cache.nextSerial).2
        ⟨hphase, fun j _ n hn => ?_⟩
    have hlt := h.serial_lt j n hn
    refine ⟨fun p hp hserial => ?_, Nat.lt_of_lt_of_le hlt hnext⟩
    obtain ⟨q, hq, hkey, hserial'⟩ := hslots p hp (hserial ▸ hlt)
    exact hkey ▸ h.key_eq j n hn q hq (hserial'.trans hserial)
  rw [← hphases] at hall
  exact ⟨htidy, hvalue, fun j n hn => (hall j n hn).1, fun j n hn => (hall j n hn).2,
    fun n hn => (hfresh n hn).trans (h.fresh n (Nat.le_trans hnext hn))⟩

/-- A thread goes on with the slot that it holds, or without one. Slots may go, and no value comes. -/
theorem goTo_of_subset (h : s.Mirrored key) {phase : Phase V} (htidy : s'.cache.Tidy)
    (hslots : s'.cache.slots ⊆ s.cache.slots)
    (hvalue : ∀ n, (s'.cells n).value? = (s.cells n).value?)
    (hphase : ∀ n, phase.serial? = some n → (s.phases i).serial? = some n)
    (hnext : s'.cache.nextSerial = s.cache.nextSerial)
    (hfresh : ∀ n, s.cache.nextSerial ≤ n → s'.cells n = s.cells n)
    (hphases : s'.phases = s.phases) : (s'.goTo i phase).Mirrored key := by
  refine h.goTo htidy (fun p hp => (hvalue _).trans (h.value?_eq p (hslots hp)))
    (fun p hp _ => ⟨p, hslots hp, rfl, rfl⟩) (fun n hn => ⟨fun p hp => ?_, ?_⟩)
    (Nat.le_of_eq hnext.symm) (fun n hn => hfresh n (hnext ▸ hn)) hphases
  · exact h.key_eq i n (hphase n hn) p (hslots hp)
  · exact hnext ▸ h.serial_lt i n (hphase n hn)

/-- A build begins or fails: its cell has no value before and after. -/
theorem setCell (h : s.Mirrored key) {cell : Cell ι V} {phase : Phase V}
    (hserial : (s.phases i).serial? = some serial)
    (hvalue : cell.value? = (s.cells serial).value?) (hphase : phase.serial? = some serial)
    (runs : List ι) :
    ({ s with cells := Function.update s.cells serial cell, runs := runs }.goTo i
      phase).Mirrored key := by
  refine h.goTo_of_subset h.tidy (List.Subset.refl _) (fun n => ?_)
    (fun n hn => hserial.trans (hphase.symm.trans hn)) rfl (fun n hn => ?_) rfl
  · change (Function.update s.cells serial cell n).value? = _
    by_cases hn : n = serial
    · rw [hn, Function.update_self, hvalue]
    · rw [Function.update_of_ne hn]
  · exact Function.update_of_ne (Nat.ne_of_gt (Nat.lt_of_lt_of_le (h.serial_lt i serial hserial) hn)) ..

section Requests

variable [DecidableEq K]

theorem lookUp (h : s.Mirrored key) (i : ι) :
    ({ s with cache := (s.cache.request (key i)).2 }.goTo i
      (.slotted (s.cache.request (key i)).1.serial)).Mirrored key := by
  cases hslot : s.cache.slot? (key i) with
  | some slot =>
    rw [request_of_slot? hslot]
    have hmem := mem_of_slot? hslot
    have hslots := (perm_slots_touch h.tidy.keys_nodup hslot).subset
    refine h.goTo (h.tidy.touch hslot) (fun p hp => h.value?_eq p (hslots hp))
      (fun p hp _ => ⟨p, hslots hp, rfl, rfl⟩) ?_ (Nat.le_refl _) (fun _ _ => rfl) rfl
    rintro n ⟨⟩
    refine ⟨fun p hp hserial => ?_, h.tidy.serial_lt _ (mem_serials hmem)⟩
    have hsame : p = (key i, slot) :=
      List.inj_on_of_nodup_map h.tidy.serials_nodup (hslots hp) hmem hserial
    rw [hsame]
  | none =>
    rw [request_of_none hslot]
    have hkept := (kept_sublist s.cache).subset
    have hslots : ∀ p ∈ (s.cache.addSlot (key i)).slots,
        p = (key i, ⟨s.cache.nextSerial, none⟩) ∨ p ∈ s.cache.slots := by
      rw [addSlot_eq]
      exact fun p hp => (List.mem_cons.1 hp).imp_right fun hp => hkept hp
    have hnext : (s.cache.addSlot (key i)).nextSerial = s.cache.nextSerial + 1 := by
      rw [addSlot_eq]
    refine h.goTo (h.tidy.addSlot hslot) (fun p hp => ?_) (fun p hp hlt => ?_) ?_
      (hnext ▸ Nat.le_succ _) (fun _ _ => rfl) rfl
    · rcases hslots p hp with rfl | hp
      · change (s.cells s.cache.nextSerial).value? = none
        rw [h.fresh _ (Nat.le_refl _)]
        rfl
      · exact h.value?_eq p hp
    · rcases hslots p hp with rfl | hp
      · exact absurd hlt (Nat.lt_irrefl _)
      · exact ⟨p, hp, rfl, rfl⟩
    · rintro n ⟨⟩
      refine ⟨fun p hp hserial => ?_, hnext ▸ Nat.lt_succ_self _⟩
      rcases hslots p hp with rfl | hp
      · rfl
      · exact absurd hserial (Nat.ne_of_lt (h.tidy.serial_lt _ (mem_serials hp)))

/-- The value comes into the cell, and into its slot if that is still in the cache. -/
theorem succeed (h : s.Mirrored key) (howned : s.Owned) (hphase : s.phases i = .building serial)
    (value : V) :
    ({ s with
      cache := s.cache.fill (key i) serial value
      cells := Function.update s.cells serial (.full value)
      runs := i :: s.runs }.goTo i (.returned (.ok value))).Mirrored key := by
  have hserial : (s.phases i).serial? = some serial := by
    rw [hphase]
    rfl
  have hbusy : s.cells serial = .busy i := by
    rw [howned, hphase]
    rfl
  have hawaits : s.cache.Awaits (key i) serial := by
    intro q hq hq'
    refine ⟨h.key_eq i serial hserial q hq hq', hq', ?_⟩
    rw [← h.value?_eq q hq, hq', hbusy]
    rfl
  have htidy := h.tidy.settle (key i) serial (.ok value : Except FormulaError V)
  refine h.goTo htidy (fun p hp => ?_) (fun p hp _ => ?_) nofun (Nat.le_refl _) (fun n hn => ?_) rfl
  · change (Function.update s.cells serial (.full value) p.2.serial).value? = p.2.value?
    by_cases hp' : p.2.serial = serial
    · rw [hp', Function.update_self, hawaits.value?_of_mem_fill hp hp']
      rfl
    · rw [Function.update_of_ne hp']
      have hmem : p ∈ (s.cache.settle (key i) serial (.ok value : Except FormulaError V)).slots := hp
      exact h.value?_eq p ((mem_slots_settle_iff hp').1 hmem)
  · change p ∈ (s.cache.fill (key i) serial value).slots at hp
    rw [slots_fill] at hp
    obtain ⟨q, hq, rfl⟩ := List.mem_map.1 hp
    refine ⟨q, hq, ?_⟩
    split
    · next hown => exact ⟨rfl, hown.2.1⟩
    · exact ⟨rfl, rfl⟩
  · exact Function.update_of_ne (Nat.ne_of_gt (Nat.lt_of_lt_of_le (h.serial_lt i serial hserial) hn)) ..

theorem step (h : s.Mirrored key) (howned : s.Owned) (hstep : Step key build i s s') :
    s'.Mirrored key := by
  cases hstep with
  | lookUp hphase => exact h.lookUp i
  | enter hphase hcell => exact h.setCell (by rw [hphase]; rfl) (by rw [hcell]; rfl) rfl s.runs
  | succeed hphase => exact h.succeed howned hphase _
  | @fail serial _ hphase =>
    have hbusy : s.cells serial = .busy i := by
      rw [howned, hphase]
      rfl
    exact h.setCell (by rw [hphase]; rfl) (by rw [hbusy]; rfl) rfl (i :: s.runs)
  | @takeOut serial error hphase =>
    exact h.goTo_of_subset (h.tidy.settle (key i) serial (.error error)) List.filter_sublist.subset
      (fun _ => rfl) nofun rfl (fun _ _ => rfl) rfl
  | countMiss hphase =>
    exact h.goTo_of_subset h.tidy.countMiss (List.Subset.refl _) (fun _ => rfl)
      (by rw [hphase]; exact fun _ hn => hn) rfl (fun _ _ => rfl) rfl
  | seeNone hphase =>
    exact h.goTo_of_subset h.tidy (List.Subset.refl _) (fun _ => rfl)
      (by rw [hphase]; exact fun _ hn => hn) rfl (fun _ _ => rfl) rfl
  | see hphase | wait hphase =>
    exact h.goTo_of_subset h.tidy (List.Subset.refl _) (fun _ => rfl) nofun rfl (fun _ _ => rfl) rfl
  | countHit hphase =>
    exact h.goTo_of_subset h.tidy.countHit (List.Subset.refl _) (fun _ => rfl) nofun rfl
      (fun _ _ => rfl) rfl

end Requests

end Mirrored

/-! ## Everything together -/

variable [DecidableEq K]

/-- Everything that steps keep. -/
structure Sound [Fintype ι] (key : ι → K) (s : Threads ι K V) : Prop where
  owned : s.Owned
  booked : s.Booked
  mirrored : s.Mirrored key

theorem Sound.step [Fintype ι] (h : s.Sound key) (hstep : Step key build i s s') : s'.Sound key :=
  ⟨h.owned.step hstep, h.booked.step hstep, h.mirrored.step h.owned hstep⟩

theorem sound_of_steps [Fintype ι] {capacity : Option Capacity}
    (h : Steps key build (start capacity) s) : s.Sound key := by
  induction h with
  | refl => exact ⟨Owned.start capacity, .start capacity, .start key capacity⟩
  | tail _ hnext ih =>
    obtain ⟨i, hstep⟩ := hnext
    exact ih.step hstep

/-! ## One thread alone -/

/-- **A thread that nobody interrupts does what `getOrBuild` does**, if no build is in progress. -/
theorem steps_serve (hmirrored : s.Mirrored key) (howned : s.Owned) (hphase : s.phases i = .start)
    (hquiet : ∀ j, (s.phases j).builds? = none) :
    ∃ s', Relation.ReflTransGen (Step key build i) s s' ∧
      s'.cache = (s.cache.serve (key i) (build i)).2 ∧
      s'.phases = Function.update s.phases i
        (.returned (s.cache.serve (key i) (build i)).1) := by
  have hvalue := hmirrored.value?_request (key i)
  simp only [serve]
  obtain ⟨s₁, h₁, hcache₁, hcells₁, hphases₁⟩ : ∃ t, Step key build i s t ∧
      t.cache = (s.cache.request (key i)).2 ∧ t.cells = s.cells ∧ t.phases =
        Function.update s.phases i (.slotted (s.cache.request (key i)).1.serial) :=
    ⟨_, .lookUp hphase, rfl, rfl, rfl⟩
  generalize s.cache.request (key i) = requested at *
  obtain ⟨⟨n, found⟩, c⟩ := requested
  rw [← hcells₁] at hvalue
  cases found with
  | some value =>
    obtain ⟨s₂, h₂, hcache₂, hphases₂⟩ : ∃ t, Step key build i s₁ t ∧ t.cache = c ∧
        t.phases = Function.update s.phases i (.found value) :=
      ⟨_, .see (phase_of_update hphases₁) (Cell.eq_full hvalue), hcache₁, goTo_update hphases₁⟩
    refine ⟨_, .tail (.tail (.single h₁) h₂) (.countHit (phase_of_update hphases₂)), ?_,
      goTo_update hphases₂⟩
    exact congrArg countHit hcache₂
  | none =>
    have hempty : s₁.cells n = .empty := by
      refine Cell.eq_empty hvalue fun j hbusy => ?_
      rw [hcells₁, howned, hquiet] at hbusy
      cases hbusy
    obtain ⟨s₂, h₂, hcache₂, hcells₂, hphases₂⟩ : ∃ t, Step key build i s₁ t ∧ t.cache = c ∧
        t.cells = s₁.cells ∧ t.phases = Function.update s.phases i (.queued n) :=
      ⟨_, .seeNone (phase_of_update hphases₁) hvalue, hcache₁, rfl, goTo_update hphases₁⟩
    obtain ⟨s₃, h₃, hcache₃, hphases₃⟩ : ∃ t, Step key build i s₂ t ∧ t.cache = c ∧
        t.phases = Function.update s.phases i (.entered n) :=
      ⟨_, .enter (phase_of_update hphases₂) (by rw [hcells₂, hempty]), hcache₂, goTo_update hphases₂⟩
    obtain ⟨s₄, h₄, hcache₄, hphases₄⟩ : ∃ t, Step key build i s₃ t ∧ t.cache = c.countMiss ∧
        t.phases = Function.update s.phases i (.building n) :=
      ⟨_, .countMiss (phase_of_update hphases₃), congrArg countMiss hcache₃, goTo_update hphases₃⟩
    have hsteps : Relation.ReflTransGen (Step key build i) s s₄ :=
      .tail (.tail (.tail (.single h₁) h₂) h₃) h₄
    cases hbuild : build i with
    | ok value =>
      refine ⟨_, hsteps.tail (.succeed (phase_of_update hphases₄) hbuild), ?_, goTo_update hphases₄⟩
      exact congrArg (fill · (key i) n value) hcache₄
    | error error =>
      obtain ⟨s₅, h₅, hcache₅, hphases₅⟩ : ∃ t, Step key build i s₄ t ∧ t.cache = c.countMiss ∧
          t.phases = Function.update s.phases i (.failed n error) :=
        ⟨_, .fail (phase_of_update hphases₄) hbuild, hcache₄, goTo_update hphases₄⟩
      refine ⟨_, (hsteps.tail h₅).tail (.takeOut (phase_of_update hphases₅)), ?_, goTo_update hphases₅⟩
      exact congrArg (discard · (key i) n) hcache₅

end Threads

end Formulary.Cache
