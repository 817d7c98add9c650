import Formulary.Proofs.Cache.Threads

/-!
# Proofs/Cache/SingleFlight — one build for one key

Threads ask an unbounded cache for the same key, and no build fails. The first to come makes the slot
and all others get the same one, so that there is one cell to build for (`Flight`). Whoever builds
fills it, and from then on nobody can build again. Some threads find the value at once and some wait
for it; with the counters of `Threads` it does not matter how many.
-/

namespace Formulary.Cache

variable {ι K V : Type}

/-- What a thread has to return. -/
def Phase.outcome? : Phase V → Option (Except FormulaError V)
  | found value => some (.ok value)
  | failed _ error => some (.error error)
  | returned outcome => some outcome
  | _ => none

namespace Threads

/-- Threads with one key between them, in the midst of their requests. -/
structure Flight (key : K) (value : ι → V) (s : Threads ι K V) : Prop where
  capacity_eq : s.cache.capacity = none
  evictions_eq : s.cache.evictions = 0
  /-- There is one slot as soon as a thread has begun. -/
  slots : s.cache.slots = [] ∧ s.cache.nextSerial = 0 ∧ (∀ j, s.phases j = .start) ∨
    s.cache.keys = [key] ∧ s.cache.serials = [0]
  serial_eq : ∀ j n, (s.phases j).serial? = some n → n = 0
  /-- No build has run, or one has and its value is there for all. -/
  run : s.runs = [] ∧ (s.cells 0).value? = none ∨ ∃ j, s.runs = [j] ∧ s.cells 0 = .full (value j)
  outcome : ∀ j o, (s.phases j).outcome? = some o → ∃ v, o = .ok v ∧ s.cells 0 = .full v

variable {key : K} {value : ι → V} {i : ι} {s s' : Threads ι K V}

namespace Flight

theorem start (key : K) (value : ι → V) : (start none : Threads ι K V).Flight key value :=
  ⟨rfl, rfl, .inl ⟨rfl, rfl, fun _ => rfl⟩, nofun, .inl ⟨rfl, rfl⟩, nofun⟩

theorem slots_of_ne_start (h : s.Flight key value) (hphase : s.phases i ≠ .start) :
    s.cache.keys = [key] ∧ s.cache.serials = [0] := by
  rcases h.slots with ⟨-, -, hstart⟩ | hslot
  · exact absurd (hstart i) hphase
  · exact hslot

/-- Nothing has run while the cell is without a value. -/
theorem runs_eq_nil (h : s.Flight key value) (hcell : (s.cells 0).value? = none) : s.runs = [] := by
  rcases h.run with ⟨hruns, -⟩ | ⟨j, -, hfull⟩
  · exact hruns
  · rw [hfull] at hcell
    cases hcell

/-- **Everyone gets the same slot**, whether it is there or not. -/
theorem request [DecidableEq K] (h : s.Flight key value) :
    (s.cache.request key).2.keys = [key] ∧ (s.cache.request key).2.serials = [0] ∧
      (s.cache.request key).1.serial = 0 ∧ (s.cache.request key).2.capacity = none ∧
      (s.cache.request key).2.evictions = 0 := by
  rcases h.slots with ⟨hslots, hnext, -⟩ | ⟨hkeys, hserials⟩
  · have hslot : s.cache.slot? key = none := by
      rw [slot?, hslots]
      rfl
    have hroom : ¬s.cache.isFull = true := by
      rw [isFull, h.capacity_eq]
      exact Bool.false_ne_true
    rw [request_of_none hslot, addSlot_eq, kept, if_neg hroom, if_neg hroom, hslots, hnext]
    exact ⟨rfl, rfl, rfl, h.capacity_eq, h.evictions_eq⟩
  · obtain ⟨slot, hslot⟩ := exists_slot?_of_mem (hkeys ▸ List.mem_singleton_self key)
    have hnodup : s.cache.keys.Nodup := hkeys ▸ List.nodup_singleton key
    have hkeys' := perm_keys_touch hnodup hslot
    have hserials' := perm_serials_touch hnodup hslot
    rw [hkeys, List.perm_singleton] at hkeys'
    rw [hserials, List.perm_singleton] at hserials'
    have hserial : slot.serial ∈ s.cache.serials := mem_serials (mem_of_slot? hslot)
    rw [hserials, List.mem_singleton] at hserial
    rw [request_of_slot? hslot]
    exact ⟨hkeys', hserials', hserial, h.capacity_eq, h.evictions_eq⟩

/-- When all have returned, one build has run, and everyone has what it came to. -/
theorem of_finished [Fintype ι] [Nonempty ι] (h : s.Flight key value) (hbooked : s.Booked)
    (hs : s.Finished) :
    ∃ i, s.runs = [i] ∧ (∀ j, s.phases j = .returned (.ok (value i))) ∧
      s.cache.stats = ⟨Fintype.card ι - 1, 1, 0, 1⟩ := by
  have hreturned : ∀ j, ∃ v, s.phases j = .returned (.ok v) ∧ s.cells 0 = .full v := by
    intro j
    obtain ⟨o, hphase⟩ := hs j
    obtain ⟨v, rfl, hfull⟩ := h.outcome j o (by rw [hphase]; rfl)
    exact ⟨v, hphase, hfull⟩
  obtain ⟨first⟩ := ‹Nonempty ι›
  obtain ⟨v, hphase, hfull⟩ := hreturned first
  rcases h.run with ⟨-, hnone⟩ | ⟨i, hruns, hcell⟩
  · rw [hfull] at hnone
    cases hnone
  refine ⟨i, hruns, fun j => ?_, ?_⟩
  · obtain ⟨v, hphase, hfull⟩ := hreturned j
    rw [hcell] at hfull
    rw [hphase, Cell.full.inj hfull]
  · obtain ⟨hrequests, hmisses⟩ := hbooked.of_finished hs
    have hslots := h.slots_of_ne_start (i := first) (by rw [hphase]; exact nofun)
    have hentries : s.cache.slots.length = 1 := by
      rw [← List.length_map (·.1), ← keys, hslots.1]
      rfl
    rw [hruns] at hmisses
    have hhits : s.cache.hits = Fintype.card ι - 1 := by
      rw [← hrequests, hmisses]
      rfl
    rw [stats, hhits, hmisses, h.evictions_eq, hentries]
    rfl

variable [DecidableEq ι]

/-- A thread goes on. The slot stays, and so does a value. -/
theorem goTo (h : s.Flight key value) {phase : Phase V}
    (hcapacity : s'.cache.capacity = s.cache.capacity)
    (hevictions : s'.cache.evictions = s.cache.evictions)
    (hslots : s'.cache.keys = [key] ∧ s'.cache.serials = [0])
    (hserial : ∀ n, phase.serial? = some n → n = 0)
    (hrun : s'.runs = [] ∧ (s'.cells 0).value? = none ∨
      ∃ j, s'.runs = [j] ∧ s'.cells 0 = .full (value j))
    (hkept : ∀ v, s.cells 0 = .full v → s'.cells 0 = .full v)
    (houtcome : ∀ o, phase.outcome? = some o → ∃ v, o = .ok v ∧ s'.cells 0 = .full v)
    (hphases : s'.phases = s.phases) : (s'.goTo i phase).Flight key value := by
  have hall : ∀ j, (∀ n, (Function.update s.phases i phase j).serial? = some n → n = 0) ∧
      ∀ o, (Function.update s.phases i phase j).outcome? = some o →
        ∃ v, o = .ok v ∧ s'.cells 0 = .full v := by
    refine (Function.forall_update_iff s.phases fun _ phase => (∀ n, phase.serial? = some n → n = 0) ∧
      ∀ o, phase.outcome? = some o → ∃ v, o = .ok v ∧ s'.cells 0 = .full v).2
        ⟨⟨hserial, houtcome⟩, fun j _ => ⟨h.serial_eq j, fun o ho => ?_⟩⟩
    obtain ⟨v, hv, hfull⟩ := h.outcome j o ho
    exact ⟨v, hv, hkept v hfull⟩
  rw [← hphases] at hall
  exact ⟨hcapacity.trans h.capacity_eq, hevictions.trans h.evictions_eq, .inr hslots,
    fun j => (hall j).1, hrun, fun j => (hall j).2⟩

/-- A thread goes on, and leaves slot, cell and runs alone. -/
theorem goTo_of_eq (h : s.Flight key value) {phase : Phase V} {c : Cache K V}
    (hphase : s.phases i ≠ .start) (hslots : c.slots = s.cache.slots)
    (hcapacity : c.capacity = s.cache.capacity) (hevictions : c.evictions = s.cache.evictions)
    (hserial : ∀ n, phase.serial? = some n → n = 0)
    (houtcome : ∀ o, phase.outcome? = some o → ∃ v, o = .ok v ∧ s.cells 0 = .full v) :
    ({ s with cache := c }.goTo i phase).Flight key value := by
  have hslot : c.keys = [key] ∧ c.serials = [0] := by
    rw [keys, serials, hslots]
    exact h.slots_of_ne_start hphase
  exact h.goTo hcapacity hevictions hslot hserial h.run (fun _ hv => hv) houtcome rfl

theorem step [DecidableEq K] (h : s.Flight key value) (howned : s.Owned)
    (hstep : Step (fun _ => key) (fun j => .ok (value j)) i s s') : s'.Flight key value := by
  cases hstep with
  | lookUp hphase =>
    obtain ⟨hkeys, hserials, hserial, hcapacity, hevictions⟩ := h.request
    refine h.goTo (hcapacity.trans h.capacity_eq.symm) (hevictions.trans h.evictions_eq.symm)
      ⟨hkeys, hserials⟩ ?_ h.run (fun _ hv => hv) nofun rfl
    rintro n ⟨⟩
    exact hserial
  | @see serial v hphase hcell | @wait serial v hphase hcell =>
    obtain rfl : serial = 0 := h.serial_eq i serial (by rw [hphase]; rfl)
    refine h.goTo_of_eq (by rw [hphase]; exact nofun) rfl rfl rfl nofun ?_
    rintro o ⟨⟩
    exact ⟨v, rfl, hcell⟩
  | seeNone hphase | countMiss hphase =>
    refine h.goTo_of_eq (by rw [hphase]; exact nofun) rfl rfl rfl (fun n hn => ?_) nofun
    exact h.serial_eq i n (by rw [hphase]; exact hn)
  | @enter serial hphase hcell =>
    obtain rfl : serial = 0 := h.serial_eq i serial (by rw [hphase]; rfl)
    refine h.goTo rfl rfl (h.slots_of_ne_start (by rw [hphase]; exact nofun)) ?_ (.inl ⟨?_, ?_⟩)
      (fun v hv => ?_) nofun rfl
    · rintro n ⟨⟩
      rfl
    · exact h.runs_eq_nil (by rw [hcell]; rfl)
    · change (Function.update s.cells 0 (Cell.busy i) 0).value? = none
      rw [Function.update_self]
      rfl
    · rw [hcell] at hv
      cases hv
  | @succeed serial v hphase hbuild =>
    obtain rfl : serial = 0 := h.serial_eq i serial (by rw [hphase]; rfl)
    cases hbuild
    have hbusy : s.cells 0 = .busy i := (howned 0 i).2 (by rw [hphase]; rfl)
    have hruns : s.runs = [] := h.runs_eq_nil (by rw [hbusy]; rfl)
    have hslots := h.slots_of_ne_start (i := i) (by rw [hphase]; exact nofun)
    have hcell : Function.update s.cells 0 (Cell.full (value i)) 0 = .full (value i) :=
      Function.update_self ..
    refine h.goTo rfl rfl ⟨?_, ?_⟩ nofun (.inr ⟨i, ?_, hcell⟩) (fun v hv => ?_) ?_ rfl
    · exact (keys_fill ..).trans hslots.1
    · exact (serials_fill ..).trans hslots.2
    · exact congrArg (i :: ·) hruns
    · rw [hbusy] at hv
      cases hv
    · rintro o ⟨⟩
      exact ⟨value i, rfl, hcell⟩
  | fail hphase hbuild => cases hbuild
  | takeOut hphase =>
    obtain ⟨v, hv, -⟩ := h.outcome i _ (by rw [hphase]; rfl)
    cases hv
  | @countHit v hphase =>
    refine h.goTo_of_eq (by rw [hphase]; exact nofun) rfl rfl rfl nofun ?_
    rintro o ⟨⟩
    exact h.outcome i (.ok v) (by rw [hphase]; rfl)

theorem of_steps [Fintype ι] [DecidableEq K]
    (h : Steps (fun _ => key) (fun j => .ok (value j)) (Threads.start none) s) :
    s.Flight key value := by
  induction h with
  | refl => exact start key value
  | tail hsteps hnext ih =>
    obtain ⟨i, hstep⟩ := hnext
    exact ih.step (sound_of_steps hsteps).owned hstep

end Flight

/-- **One build for one key.** However the steps of the threads are interleaved, the run can be brought
to its end; and when all have returned, one build has run, everyone has its value, one request was a
miss and all others were hits. -/
theorem single_flight [DecidableEq K] {N : Nat} (hN : 0 < N) {key : K} {value : Fin N → V}
    {s : Threads (Fin N) K V}
    (hsteps : Steps (fun _ => key) (fun i => .ok (value i)) (start none) s) :
    (∃ s', Steps (fun _ => key) (fun i => .ok (value i)) s s' ∧ s'.Finished) ∧
      (s.Finished → ∃ i, s.runs = [i] ∧ (∀ j, s.phases j = .returned (.ok (value i))) ∧
        s.cache.stats = ⟨N - 1, 1, 0, 1⟩) := by
  have hsound := sound_of_steps hsteps
  refine ⟨exists_finished _ _ hsound.owned, fun hs => ?_⟩
  have : Nonempty (Fin N) := ⟨⟨0, hN⟩⟩
  have hend := (Flight.of_steps hsteps).of_finished hsound.booked hs
  rwa [Fintype.card_fin] at hend

/-- Two threads find the cell empty. The second one builds, and the first one waits for it. -/
theorem single_flight_pair :
    let value (i : Fin 2) : Nat := if i = 0 then 10 else 20
    ∃ s, Steps (fun _ => "x + 1") (fun i => .ok (value i)) (start none) s ∧ s.Finished ∧
      s.runs = [1] ∧ (∀ j, s.phases j = .returned (.ok 20)) ∧ s.cache.stats = ⟨1, 1, 0, 1⟩ := by
  intro value
  have hrun : ∃ s, Steps (fun _ => "x + 1") (fun i => .ok (value i)) (start none) s ∧
      s.Finished ∧ s.runs = [1] :=
    ⟨_, .tail (.tail (.tail (.tail (.tail (.tail (.tail (.tail (.tail .refl
      ⟨0, .lookUp rfl⟩) ⟨1, .lookUp rfl⟩) ⟨0, .seeNone rfl rfl⟩) ⟨1, .seeNone rfl rfl⟩)
      ⟨1, .enter rfl rfl⟩) ⟨1, .countMiss rfl⟩) ⟨1, .succeed rfl rfl⟩) ⟨0, .wait rfl rfl⟩)
      ⟨0, .countHit rfl⟩, Fin.forall_fin_two.2 ⟨⟨.ok 20, rfl⟩, .ok 20, rfl⟩, rfl⟩
  obtain ⟨s, hsteps, hfinished, hruns⟩ := hrun
  obtain ⟨i, hbuilt, hphases, hstats⟩ := (single_flight Nat.two_pos hsteps).2 hfinished
  obtain rfl : 1 = i := List.singleton_inj.1 (hruns.symm.trans hbuilt)
  exact ⟨s, hsteps, hfinished, hruns, hphases, hstats⟩

end Threads

end Formulary.Cache
