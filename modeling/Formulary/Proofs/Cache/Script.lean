import Formulary.Proofs.Cache.Slots
import Mathlib.Logic.Relation

/-!
# Proofs/Cache/Script — uses of a cache inside each other

A `Script` is any finite use of a cache, in which a build may use the cache again. `Script.run` is what
`getOrBuild` makes of it. The same use as a `Machine` goes on by one operation at a time and keeps the
builds in progress on a stack, so that every state between two operations can be spoken of. No step
changes what the whole use will come to (`Step.denote_eq`), and every script runs to its end or waits
for a build that it is part of itself (`exists_end`).
-/

namespace Formulary.Cache

/-! ## Scripts -/

/-- A use of a cache, one operation after the other. What comes next may depend on the answers. -/
inductive Script (K V E : Type) where
  | done (outcome : Except E V)
  | getOrBuild (key : K) (build : Script K V E) (next : Except E V → Script K V E)
  | contains (key : K) (next : Bool → Script K V E)
  | size (next : Nat → Script K V E)
  | stats (next : CacheStats → Script K V E)
  | clear (next : Script K V E)

/-- What the users of a cache see themselves: how many builds have started and how many requests have
been answered. -/
structure Tally where
  started : Nat
  answered : Nat

def Tally.countStart (t : Tally) : Tally :=
  { t with started := t.started + 1 }

def Tally.countAnswer (t : Tally) : Tally :=
  { t with answered := t.answered + 1 }

variable {K V E : Type}

/-- Changes the tally. -/
def note (f : Tally → Tally) : StateT (Cache K V) (StateM Tally) PUnit :=
  StateT.lift (modify f)

theorem run_note (f : Tally → Tally) (c : Cache K V) (t : Tally) :
    ((note f).run c).run t = pure ((PUnit.unit, c), f t) :=
  rfl

variable [DecidableEq K]

namespace Script

/-- A script as a build, with a tally of its own builds and requests. -/
def toBuild : Script K V E → ExceptT E (StateT (Cache K V) (StateM Tally)) V
  | done outcome => ExceptT.mk (pure outcome)
  | getOrBuild key build next => ExceptT.mk do
    let outcome ← (Cache.getOrBuild key (ExceptT.mk do
      note Tally.countStart
      build.toBuild.run)).run
    note Tally.countAnswer
    (next outcome).toBuild.run
  | contains key next => ExceptT.mk do
    let c ← getThe (Cache K V)
    (next (c.contains key)).toBuild.run
  | size next => ExceptT.mk do
    let c ← getThe (Cache K V)
    (next c.size).toBuild.run
  | stats next => ExceptT.mk do
    let c ← getThe (Cache K V)
    (next c.stats).toBuild.run
  | clear next => ExceptT.mk do
    modifyThe (Cache K V) Cache.clear
    next.toBuild.run

/-- The outcome of a script, and the cache and the tally after it. -/
def run (script : Script K V E) (c : Cache K V) (t : Tally) : (Except E V × Cache K V) × Tally :=
  ((script.toBuild.run.run c).run t).run

variable {c : Cache K V} {t : Tally} {key : K} {build : Script K V E}
  {next : Except E V → Script K V E}

@[simp] theorem run_done (outcome : Except E V) : (done outcome).run c t = ((outcome, c), t) :=
  rfl

@[simp] theorem run_contains (next : Bool → Script K V E) :
    (contains key next).run c t = (next (c.contains key)).run c t :=
  rfl

@[simp] theorem run_size (next : Nat → Script K V E) :
    (size next).run c t = (next c.size).run c t :=
  rfl

@[simp] theorem run_stats (next : CacheStats → Script K V E) :
    (stats next).run c t = (next c.stats).run c t :=
  rfl

@[simp] theorem run_clear (next : Script K V E) : (clear next).run c t = next.run c.clear t :=
  rfl

theorem run_getOrBuild_of_some {slot : Slot V} {value : V} (hslot : c.slot? key = some slot)
    (hvalue : slot.value? = some value) :
    (getOrBuild key build next).run c t =
      (next (.ok value)).run (c.touch key slot).countHit t.countAnswer := by
  simp [run, toBuild, getOrBuild_of_some hslot hvalue, run_note]

theorem run_getOrBuild_of_none {built : (Except E V × Cache K V) × Tally} (hslot : c.slot? key = none)
    (hbuilt : build.run (c.addSlot key).countMiss t.countStart = built) :
    (getOrBuild key build next).run c t =
      (next built.1.1).run (built.1.2.settle key c.nextSerial built.1.1) built.2.countAnswer := by
  unfold run at hbuilt
  simp [run, toBuild, getOrBuild_of_none hslot, run_note, hbuilt]

end Script

/-! ## One operation at a time -/

/-- A build in progress: its key, the serial number of its slot, and what comes after it. -/
structure Frame (K V E : Type) where
  key : K
  serial : Nat
  next : Except E V → Script K V E

/-- Where slots come from and where they go, evictions apart. -/
structure Turnover where
  inserted : Nat
  /-- Slots taken out by builds that failed. -/
  discarded : Nat
  /-- Slots dropped when the cache was cleared. -/
  dropped : Nat

namespace Turnover

def insert (u : Turnover) : Turnover :=
  { u with inserted := u.inserted + 1 }

/-- A build ends. One that failed takes out its slot if that is still there. -/
def settle (u : Turnover) (c : Cache K V) (serial : Nat) : Except E V → Turnover
  | .ok _ => u
  | .error _ => { u with discarded := u.discarded + if serial ∈ c.serials then 1 else 0 }

def drop (u : Turnover) (c : Cache K V) : Turnover :=
  { u with dropped := u.dropped + c.size }

end Turnover

/-- A script in the midst of its run. -/
structure Machine (K V E : Type) where
  cache : Cache K V
  tally : Tally
  turnover : Turnover
  /-- The builds in progress, the innermost first. -/
  frames : List (Frame K V E)
  /-- What is left of the innermost build, or of the whole script if no build is in progress. -/
  script : Script K V E

/-- A script before its run. -/
def Script.start (capacity : Option Capacity) (script : Script K V E) : Machine K V E :=
  ⟨empty capacity, ⟨0, 0⟩, ⟨0, 0, 0⟩, [], script⟩

namespace Machine

/-- One operation. None applies to a request whose slot waits for a build in progress. -/
inductive Step : Machine K V E → Machine K V E → Prop where
  | hit {c : Cache K V} {t : Tally} {u : Turnover} {frames : List (Frame K V E)} {key : K}
    {build : Script K V E} {next : Except E V → Script K V E} {slot : Slot V} {value : V} :
    c.slot? key = some slot → slot.value? = some value →
      Step ⟨c, t, u, frames, .getOrBuild key build next⟩
        ⟨(c.touch key slot).countHit, t.countAnswer, u, frames, next (.ok value)⟩
  | miss {c : Cache K V} {t : Tally} {u : Turnover} {frames : List (Frame K V E)} {key : K}
    {build : Script K V E} {next : Except E V → Script K V E} :
    c.slot? key = none →
      Step ⟨c, t, u, frames, .getOrBuild key build next⟩
        ⟨(c.addSlot key).countMiss, t.countStart, u.insert, ⟨key, c.nextSerial, next⟩ :: frames, build⟩
  | finish {c : Cache K V} {t : Tally} {u : Turnover} {frame : Frame K V E}
    {frames : List (Frame K V E)} {outcome : Except E V} :
    Step ⟨c, t, u, frame :: frames, .done outcome⟩
      ⟨c.settle frame.key frame.serial outcome, t.countAnswer, u.settle c frame.serial outcome, frames,
        frame.next outcome⟩
  | contains {c : Cache K V} {t : Tally} {u : Turnover} {frames : List (Frame K V E)} {key : K}
    {next : Bool → Script K V E} :
    Step ⟨c, t, u, frames, .contains key next⟩ ⟨c, t, u, frames, next (c.contains key)⟩
  | size {c : Cache K V} {t : Tally} {u : Turnover} {frames : List (Frame K V E)}
    {next : Nat → Script K V E} :
    Step ⟨c, t, u, frames, .size next⟩ ⟨c, t, u, frames, next c.size⟩
  | stats {c : Cache K V} {t : Tally} {u : Turnover} {frames : List (Frame K V E)}
    {next : CacheStats → Script K V E} :
    Step ⟨c, t, u, frames, .stats next⟩ ⟨c, t, u, frames, next c.stats⟩
  | clear {c : Cache K V} {t : Tally} {u : Turnover} {frames : List (Frame K V E)}
    {next : Script K V E} :
    Step ⟨c, t, u, frames, .clear next⟩ ⟨c.clear, t, u.drop c, frames, next⟩

/-- Any number of operations. -/
abbrev Steps : Machine K V E → Machine K V E → Prop :=
  Relation.ReflTransGen Step

/-- A request waits for a slot that has no value yet. -/
def Waiting (s : Machine K V E) : Prop :=
  ∃ key build next slot, s.script = .getOrBuild key build next ∧ s.cache.slot? key = some slot ∧
    slot.value? = none

/-! ## What a run comes to -/

/-- What is left after the innermost build: the builds around it one by one. -/
def resume : List (Frame K V E) → (Except E V × Cache K V) × Tally →
    (Except E V × Cache K V) × Tally
  | [], result => result
  | frame :: frames, result =>
    resume frames ((frame.next result.1.1).run
      (result.1.2.settle frame.key frame.serial result.1.1) result.2.countAnswer)

/-- What the run of a machine comes to. -/
def denote (s : Machine K V E) : (Except E V × Cache K V) × Tally :=
  resume s.frames (s.script.run s.cache s.tally)

variable {s s' : Machine K V E}

/-- **A step changes nothing about what the run comes to.** -/
theorem Step.denote_eq (h : Step s s') : s'.denote = s.denote := by
  cases h with
  | hit hslot hvalue => rw [denote, denote, Script.run_getOrBuild_of_some hslot hvalue]
  | miss hslot => rw [denote, denote, Script.run_getOrBuild_of_none hslot rfl, resume]
  | _ => rfl

theorem denote_eq_of_steps (h : Steps s s') : s'.denote = s.denote := by
  induction h with
  | refl => rfl
  | tail _ hstep ih => exact hstep.denote_eq.trans ih

/-- Every script runs to its end, in any surroundings, or waits. By induction on the script: a build
comes before what follows it. -/
theorem exists_steps (script : Script K V E) (c : Cache K V) (t : Tally) (u : Turnover)
    (frames : List (Frame K V E)) :
    ∃ s, Steps ⟨c, t, u, frames, script⟩ s ∧
      (s.Waiting ∨ s.frames = frames ∧ ∃ outcome, s.script = .done outcome) := by
  induction script generalizing c t u frames with
  | done outcome => exact ⟨_, .refl, .inr ⟨rfl, outcome, rfl⟩⟩
  | getOrBuild key build next ihbuild ihnext =>
    cases hslot : c.slot? key with
    | some slot =>
      cases hvalue : slot.value? with
      | none => exact ⟨_, .refl, .inl ⟨key, build, next, slot, rfl, hslot, hvalue⟩⟩
      | some value =>
        obtain ⟨s, hsteps, hend⟩ :=
          ihnext (.ok value) (c.touch key slot).countHit t.countAnswer u frames
        exact ⟨s, .head (.hit hslot hvalue) hsteps, hend⟩
    | none =>
      obtain ⟨built, hbuild, hend⟩ := ihbuild (c.addSlot key).countMiss t.countStart u.insert
        (⟨key, c.nextSerial, next⟩ :: frames)
      rcases hend with hwaiting | ⟨hframes, outcome, hscript⟩
      · exact ⟨built, .head (.miss hslot) hbuild, .inl hwaiting⟩
      · obtain ⟨c', t', u', frames', script'⟩ := built
        obtain rfl : frames' = _ := hframes
        obtain rfl : script' = _ := hscript
        obtain ⟨s, hsteps, hend⟩ := ihnext outcome (c'.settle key c.nextSerial outcome)
          t'.countAnswer (u'.settle c' c.nextSerial outcome) frames
        exact ⟨s, .head (.miss hslot) (hbuild.trans (.head .finish hsteps)), hend⟩
  | contains key next ih =>
    obtain ⟨s, hsteps, hend⟩ := ih (c.contains key) c t u frames
    exact ⟨s, .head .contains hsteps, hend⟩
  | size next ih =>
    obtain ⟨s, hsteps, hend⟩ := ih c.size c t u frames
    exact ⟨s, .head .size hsteps, hend⟩
  | stats next ih =>
    obtain ⟨s, hsteps, hend⟩ := ih c.stats c t u frames
    exact ⟨s, .head .stats hsteps, hend⟩
  | clear next ih =>
    obtain ⟨s, hsteps, hend⟩ := ih c.clear t (u.drop c) frames
    exact ⟨s, .head .clear hsteps, hend⟩

/-! ## The end of a run -/

/-- There is one way to go on. -/
theorem Step.unique : Relator.RightUnique (Step : Machine K V E → Machine K V E → Prop) := by
  intro s a b ha hb
  cases ha with
  | hit hslot hvalue =>
    cases hb with
    | hit hslot' hvalue' =>
      rw [hslot, Option.some.injEq] at hslot'
      subst hslot'
      rw [hvalue, Option.some.injEq] at hvalue'
      rw [hvalue']
    | miss hslot' =>
      rw [hslot] at hslot'
      cases hslot'
  | miss hslot =>
    cases hb with
    | hit hslot' =>
      rw [hslot] at hslot'
      cases hslot'
    | miss => rfl
  | _ =>
    cases hb
    rfl

theorem Waiting.not_step (h : s.Waiting) : ¬Step s s' := by
  obtain ⟨key, build, next, slot, hscript, hslot, hvalue⟩ := h
  intro hstep
  cases hstep with
  | hit hslot' hvalue' =>
    cases hscript
    rw [hslot, Option.some.injEq] at hslot'
    rw [hslot', hvalue'] at hvalue
    cases hvalue
  | miss hslot' =>
    cases hscript
    rw [hslot] at hslot'
    cases hslot'
  | _ => cases hscript

theorem not_step_of_done {outcome : Except E V} (hframes : s.frames = [])
    (hscript : s.script = .done outcome) : ¬Step s s' := by
  intro hstep
  cases hstep with
  | finish => cases hframes
  | _ => cases hscript

/-- Every state of a run is on the way to its end. -/
theorem steps_of_not_step {start : Machine K V E} (hend : Steps start s) (hlast : ∀ a, ¬Step s a)
    (h : Steps start s') : Steps s' s := by
  rcases Relation.ReflTransGen.total_of_right_unique Step.unique hend h with hlater | hearlier
  · rcases Relation.ReflTransGen.cases_head hlater with heq | ⟨a, hstep, -⟩
    · rw [heq]
    · exact absurd hstep (hlast a)
  · exact hearlier

/-- **Every script waits, or runs to the end that `getOrBuild` brings it to.** -/
theorem exists_end (capacity : Option Capacity) (script : Script K V E) :
    ∃ s, Steps (script.start capacity) s ∧ (∀ s', Steps (script.start capacity) s' → Steps s' s) ∧
      (s.Waiting ∨ s.frames = [] ∧ ∃ outcome, s.script = .done outcome ∧
        script.run (empty capacity) ⟨0, 0⟩ = ((outcome, s.cache), s.tally)) := by
  obtain ⟨s, hsteps, hend⟩ := exists_steps script (empty capacity) ⟨0, 0⟩ ⟨0, 0, 0⟩ []
  have hlast : ∀ a, ¬Step s a := by
    rcases hend with hwaiting | ⟨hframes, outcome, hscript⟩
    · exact fun _ => hwaiting.not_step
    · exact fun _ => not_step_of_done hframes hscript
  have hdenote := denote_eq_of_steps hsteps
  refine ⟨s, hsteps, fun s' => steps_of_not_step hsteps hlast, hend.imp_right ?_⟩
  rintro ⟨hframes, outcome, hscript⟩
  rw [denote, hframes, hscript] at hdenote
  exact ⟨hframes, outcome, hscript, hdenote.symm⟩

end Machine

end Formulary.Cache
