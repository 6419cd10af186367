import Rgbd.Watchdog

/-!
The watchdog rule over a history of signals.

A watchdog hears four signals: streaming starts at an instant, a dispatch that stored a
frame feeds it at an instant, streaming stops, and a poll comes at an instant. Main
statements:

* after streaming starts at `t₀`, followed by feeds and polls only, the watchdog is armed
  with its deadline one timeout after `since t₀`, the most recent feed's instant or else the
  start's, unless some poll came at or after the deadline of its moment (`Overdue`); it has
  then fired (`run_started`);
* after streaming stops, feeds and polls never fire it (`run_stopped`);
* along any signals a watchdog fires at most once (`firings_le_one`);
* a fresh watchdog holds, after any signals, what they say read back from the latest one: the
  latest start, or a later feed that came while armed, sets the deadline, a stop ends
  watching, and the first poll at or after the deadline of its moment fires it for good
  (`state_run_fresh`); a poll fires exactly when none fired before and the deadline in force
  has passed (`poll_run_fresh_iff`).
-/

namespace Rgbd

namespace Watchdog

/-- What a watchdog hears. -/
inductive Signal where
  | start (now : Instant)
  | feed (now : Instant)
  | stop
  | poll (now : Instant)
  deriving Repr, DecidableEq

def Signal.switches : Signal → Bool
  | .start _ | .stop => true
  | .feed _ | .poll _ => false

def step (w : Watchdog) : Signal → Watchdog
  | .start now => w.arm now
  | .feed now => w.rearm now
  | .stop => w.disarm
  | .poll now => (w.poll now).2

def firesOn (w : Watchdog) : Signal → Bool
  | .poll now => (w.poll now).1
  | _ => false

def run (w : Watchdog) (ss : List Signal) : Watchdog := ss.foldl step w

def firings : Watchdog → List Signal → Nat
  | _, [] => 0
  | w, s :: ss => (if w.firesOn s then 1 else 0) + firings (w.step s) ss

/-- The instant a deadline counts from when streaming started at `t₀` and `ss` followed:
the most recent feed's, or the start's. -/
def since (t₀ : Instant) : List Signal → Instant
  | [] => t₀
  | .feed t :: ss => since t ss
  | _ :: ss => since t₀ ss

/-- After streaming started at `t₀`, some poll of `ss` came at or after the deadline of its
moment: a timeout `T` after `since t₀` of the signals before it. -/
def Overdue (T : Duration) (t₀ : Instant) (ss : List Signal) : Prop :=
  ∃ pre now post, ss = pre ++ .poll now :: post ∧ (since t₀ pre).add T ≤ now

@[simp] theorem run_nil (w : Watchdog) : w.run [] = w := rfl

@[simp] theorem run_cons (w : Watchdog) (s : Signal) (ss : List Signal) :
    w.run (s :: ss) = (w.step s).run ss := rfl

theorem run_append (w : Watchdog) (ss ss' : List Signal) :
    w.run (ss ++ ss') = (w.run ss).run ss' :=
  List.foldl_append

@[simp] theorem timeout_step (w : Watchdog) (s : Signal) : (w.step s).timeout = w.timeout := by
  cases s <;> simp only [step, arm, rearm, disarm, poll] <;> split <;> (try split) <;> rfl

theorem poll_fires_iff (w : Watchdog) (now : Instant) :
    (w.poll now).1 = true ↔ ∃ deadline, w.state = .armed deadline ∧ deadline ≤ now := by
  unfold poll
  split
  · rename_i deadline h
    by_cases hd : deadline ≤ now <;> simp [h, hd]
  · rename_i h
    constructor
    · intro h'
      cases h'
    · rintro ⟨deadline, hs, -⟩
      exact (h deadline hs).elim

theorem rearm_rearm (w : Watchdog) (t : Instant) : (w.rearm t).rearm t = w.rearm t := by
  obtain ⟨T, state⟩ := w
  cases state <;> simp [rearm, arm, isArmed]

theorem arm_of_ne_fired {w : Watchdog} (hw : w.state ≠ .fired) (now : Instant) :
    w.arm now = { w with state := .armed (now.add w.timeout) } := by
  simp [arm, hw]

theorem disarm_of_ne_fired {w : Watchdog} (hw : w.state ≠ .fired) :
    w.disarm = { w with state := .inactive } := by
  simp [disarm, hw]

theorem poll_of_fires_false {w : Watchdog} {now : Instant} (h : (w.poll now).1 = false) :
    w.poll now = (false, w) := by
  unfold poll at h ⊢
  cases hs : w.state with
  | armed deadline =>
    simp only [hs] at h ⊢
    by_cases hd : deadline ≤ now <;> simp_all
  | inactive => simp
  | fired => simp

/-! ### A fired watchdog stays fired -/

theorem step_fired {w : Watchdog} (h : w.state = .fired) (s : Signal) : w.step s = w := by
  cases s <;> simp [step, arm, rearm, disarm, poll, isArmed, h]

theorem firesOn_fired {w : Watchdog} (h : w.state = .fired) (s : Signal) : w.firesOn s = false := by
  cases s <;> simp [firesOn, poll, h]

theorem run_fired {w : Watchdog} (h : w.state = .fired) (ss : List Signal) : w.run ss = w := by
  induction ss with
  | nil => rfl
  | cons s ss ih => rw [run_cons, step_fired h, ih]

theorem firings_fired {w : Watchdog} (h : w.state = .fired) (ss : List Signal) :
    firings w ss = 0 := by
  induction ss with
  | nil => rfl
  | cons s ss ih => simp [firings, firesOn_fired h, step_fired h, ih]

theorem firings_feeds (w : Watchdog) (ts : List Instant) : firings w (ts.map .feed) = 0 := by
  induction ts generalizing w with
  | nil => rfl
  | cons t ts ih => simp [firings, firesOn, ih]

theorem firings_append (w : Watchdog) (ss ss' : List Signal) :
    firings w (ss ++ ss') = firings w ss + firings (w.run ss) ss' := by
  induction ss generalizing w with
  | nil => simp [firings]
  | cons s ss ih =>
    simp only [List.cons_append, firings, ih, run_cons]
    omega

theorem step_state_of_firesOn {w : Watchdog} {s : Signal} (h : w.firesOn s = true) :
    (w.step s).state = .fired := by
  cases s with
  | poll now =>
    obtain ⟨deadline, hs, hd⟩ := (poll_fires_iff w now).1 h
    simp [step, poll, hs, hd]
  | _ => cases h

theorem step_state_ne_fired {w : Watchdog} (hw : w.state ≠ .fired) {s : Signal}
    (hs : w.firesOn s = false) : (w.step s).state ≠ .fired := by
  cases s with
  | start now => simp [step, arm, hw]
  | feed now =>
    simp only [step, rearm]
    split
    · simp [arm, hw]
    · exact hw
  | stop => simp [step, disarm, hw]
  | poll now =>
    simp only [step]
    rw [poll_of_fires_false hs]
    exact hw

theorem firings_pos_of_fired {w : Watchdog} (hw : w.state ≠ .fired) {ss : List Signal}
    (h : (w.run ss).state = .fired) : 0 < firings w ss := by
  induction ss generalizing w with
  | nil => exact absurd h hw
  | cons s ss ih =>
    unfold firings
    cases hs : w.firesOn s with
    | true => exact Nat.lt_of_lt_of_le Nat.zero_lt_one (Nat.le_add_right _ _)
    | false =>
      rw [run_cons] at h
      simpa using ih (step_state_ne_fired hw hs) h

/-- A watchdog fires at most once, whatever it hears. -/
theorem firings_le_one (w : Watchdog) (ss : List Signal) : firings w ss ≤ 1 := by
  induction ss generalizing w with
  | nil => exact Nat.zero_le 1
  | cons s ss ih =>
    unfold firings
    by_cases h : w.firesOn s = true
    · simp only [if_pos h, firings_fired (step_state_of_firesOn h), Nat.add_zero, Nat.le_refl]
    · rw [if_neg h, Nat.zero_add]
      exact ih _

/-! ### While streaming -/

theorem overdue_nil (T : Duration) (t : Instant) : ¬Overdue T t [] := by
  rintro ⟨pre, now, post, h, -⟩
  simp at h

theorem overdue_feed (T : Duration) (t t' : Instant) (ss : List Signal) :
    Overdue T t (.feed t' :: ss) ↔ Overdue T t' ss := by
  constructor
  · rintro ⟨_ | ⟨s, pre⟩, now, post, h, hd⟩
    · simp at h
    · obtain ⟨rfl, rfl⟩ := List.cons_eq_cons.1 h
      exact ⟨pre, now, post, rfl, hd⟩
  · rintro ⟨pre, now, post, rfl, hd⟩
    exact ⟨.feed t' :: pre, now, post, rfl, hd⟩

theorem overdue_poll (T : Duration) (t now : Instant) (ss : List Signal) :
    Overdue T t (.poll now :: ss) ↔ t.add T ≤ now ∨ Overdue T t ss := by
  constructor
  · rintro ⟨_ | ⟨s, pre⟩, now', post, h, hd⟩
    · obtain ⟨⟨⟩, -⟩ := List.cons_eq_cons.1 h
      exact .inl hd
    · obtain ⟨rfl, rfl⟩ := List.cons_eq_cons.1 h
      exact .inr ⟨pre, now', post, rfl, hd⟩
  · rintro (hd | ⟨pre, now', post, rfl, hd⟩)
    · exact ⟨[], now, ss, rfl, hd⟩
    · exact ⟨.poll now :: pre, now', post, rfl, hd⟩

theorem run_armed {v : Watchdog} {t : Instant} (hv : v.state = .armed (t.add v.timeout))
    {ss : List Signal} (hss : ∀ s ∈ ss, s.switches = false) :
    ((v.run ss).state = .fired ∧ Overdue v.timeout t ss) ∨
      ((v.run ss).state = .armed ((since t ss).add v.timeout) ∧ ¬Overdue v.timeout t ss) := by
  induction ss generalizing v t with
  | nil => exact .inr ⟨hv, overdue_nil _ _⟩
  | cons s ss ih =>
    have hrest : ∀ s ∈ ss, s.switches = false := fun s hs => hss s (List.mem_cons_of_mem _ hs)
    cases s with
    | start now => cases hss _ List.mem_cons_self
    | stop => cases hss _ List.mem_cons_self
    | feed t' =>
      have hstep : (v.step (.feed t')).state = .armed (t'.add (v.step (.feed t')).timeout) := by
        simp [step, rearm, isArmed, arm, hv]
      rw [run_cons, overdue_feed, ← timeout_step v (.feed t')]
      exact ih hstep hrest
    | poll now =>
      rw [run_cons, overdue_poll]
      by_cases hd : t.add v.timeout ≤ now
      · have hstep : (v.step (.poll now)).state = .fired := by simp [step, poll, hv, hd]
        exact .inl ⟨by rw [run_fired hstep]; exact hstep, .inl hd⟩
      · have hstep : v.step (.poll now) = v := by simp [step, poll, hv, hd]
        rw [hstep]
        simpa [hd, since] using ih hv hrest

/-- After streaming started at `t₀`, feeds and polls leave the watchdog fired when some poll
was overdue, and armed a timeout after the most recent feed or the start otherwise. -/
theorem run_started {w : Watchdog} (hw : w.state ≠ .fired) (t₀ : Instant) {ss : List Signal}
    (hss : ∀ s ∈ ss, s.switches = false) :
    (((w.arm t₀).run ss).state = .fired ∧ Overdue w.timeout t₀ ss) ∨
      (((w.arm t₀).run ss).state = .armed ((since t₀ ss).add w.timeout) ∧
        ¬Overdue w.timeout t₀ ss) := by
  rw [arm_of_ne_fired hw]
  exact run_armed rfl hss

/-- After streaming stopped, no feed or poll fires the watchdog, or watches again. -/
theorem run_stopped {w : Watchdog} (hw : w.state ≠ .fired) {ss : List Signal}
    (hss : ∀ s ∈ ss, ∀ t, s ≠ .start t) :
    (w.disarm.run ss).state = .inactive ∧ firings w.disarm ss = 0 := by
  have hoff : w.disarm.state = .inactive := by rw [disarm_of_ne_fired hw]
  generalize w.disarm = v at hoff ⊢
  induction ss generalizing v with
  | nil => exact ⟨hoff, rfl⟩
  | cons s ss ih =>
    have hrest : ∀ s ∈ ss, ∀ t, s ≠ .start t := fun s hs => hss s (List.mem_cons_of_mem _ hs)
    have hstep : v.step s = v ∧ v.firesOn s = false := by
      cases s with
      | start t => exact absurd rfl (hss _ List.mem_cons_self t)
      | _ =>
        obtain ⟨T, state⟩ := v
        simp only at hoff
        subst hoff
        simp [step, firesOn, rearm, disarm, poll, isArmed]
    rw [run_cons, firings, hstep.1, hstep.2]
    simpa using ih hrest v hoff

/-! ### What a history of signals sets

The four signals are the four calls of a watchdog: `start` arms, `feed` rearms, `stop`
disarms and `poll` polls. Read back from the latest call, a history says what a fresh
watchdog holds after it, with no reference to the states in between. -/

/-- The instant the deadline counts from after a history read latest signal first: the
latest start, or a feed after it while armed, with no stop in between; `none` when the
history leaves the watchdog unarmed. -/
def armedSince : List Signal → Option Instant
  | [] => none
  | .start t :: _ => some t
  | .stop :: _ => none
  | .feed t :: older => (armedSince older).map fun _ => t
  | .poll _ :: older => armedSince older

/-- Whether some poll of a history read latest signal first came at or after the deadline in
force when it came. -/
def lapsed (T : Duration) : List Signal → Bool
  | [] => false
  | .poll now :: older => lapsed T older || (armedSince older).any fun t => decide (t.add T ≤ now)
  | _ :: older => lapsed T older

/-- What a watchdog with timeout `T` holds after a history read latest signal first: fired once
a poll lapsed, else armed a timeout after `armedSince`, else inactive. -/
def expected (T : Duration) (latestFirst : List Signal) : WatchdogState :=
  if lapsed T latestFirst then .fired
  else match armedSince latestFirst with
    | some t => .armed (t.add T)
    | none => .inactive

theorem lapsed_cons {T : Duration} {ss : List Signal} (h : lapsed T ss = true) (s : Signal) :
    lapsed T (s :: ss) = true := by
  cases s <;> simp [lapsed, h]

@[simp] theorem timeout_run (w : Watchdog) (ss : List Signal) : (w.run ss).timeout = w.timeout := by
  induction ss generalizing w with
  | nil => rfl
  | cons s ss ih => rw [run_cons, ih, timeout_step]

theorem step_expected {w : Watchdog} {ss : List Signal} (hw : w.state = expected w.timeout ss)
    (s : Signal) : (w.step s).state = expected w.timeout (s :: ss) := by
  obtain ⟨T, state⟩ := w
  simp only at hw ⊢
  subst hw
  by_cases hl : lapsed T ss = true
  · have hf : expected T ss = .fired := by simp [expected, hl]
    rw [step_fired (by exact hf) s]
    simp [expected, hl, lapsed_cons hl]
  · simp only [Bool.not_eq_true] at hl
    cases hs : armedSince ss with
    | none =>
      cases s <;> simp [step, arm, rearm, disarm, poll, isArmed, expected, lapsed, armedSince,
        hl, hs]
    | some t =>
      cases s with
      | poll now =>
        by_cases hd : t.add T ≤ now <;> simp [step, poll, hd, expected, lapsed, armedSince, hl, hs]
      | _ => simp [step, arm, rearm, disarm, isArmed, expected, lapsed, armedSince, hl, hs]

theorem run_expected {w : Watchdog} {older : List Signal} (hw : w.state = expected w.timeout older)
    (ss : List Signal) : (w.run ss).state = expected w.timeout (ss.reverse ++ older) := by
  induction ss generalizing w older with
  | nil => exact hw
  | cons s ss ih =>
    have hstep := step_expected hw s
    rw [← timeout_step w s] at hstep
    rw [run_cons, ih hstep, timeout_step, List.reverse_cons, List.append_assoc,
      List.singleton_append]

/-- A fresh watchdog holds, after any signals, what the history sets. -/
theorem state_run_fresh (T : Duration) (ss : List Signal) :
    (({ timeout := T } : Watchdog).run ss).state = expected T ss.reverse := by
  simpa using @run_expected { timeout := T } [] rfl ss

example : expected ⟨30⟩ [.poll ⟨40⟩, .feed ⟨20⟩, .start ⟨0⟩] = .armed ⟨50⟩ := by decide

/-- After any signals, a poll of a fresh watchdog fires exactly when no poll fired before and
the deadline the history set has passed. -/
theorem poll_run_fresh_iff (T : Duration) (ss : List Signal) (now : Instant) :
    ((({ timeout := T } : Watchdog).run ss).poll now).1 = true ↔
      lapsed T ss.reverse = false ∧ ∃ t, armedSince ss.reverse = some t ∧ t.add T ≤ now := by
  rw [poll_fires_iff, state_run_fresh]
  unfold expected
  cases hl : lapsed T ss.reverse <;> cases hs : armedSince ss.reverse <;> simp

/-- A watchdog fires once, at the deadline its calls set: from a fresh watchdog, polls fire at
most once along any calls; once one has fired, the watchdog stays fired and no later poll
fires; after any calls it holds what they set read back from the latest one; and a poll fires
exactly when none fired before and the deadline of the latest arm, or of a later rearm while
armed, with no disarm after it, has passed. -/
theorem fires_once_at_its_deadline (T : Duration) :
    (∀ ss, firings { timeout := T } ss ≤ 1) ∧
    (∀ pre s post, (({ timeout := T } : Watchdog).run pre).firesOn s = true →
      (({ timeout := T } : Watchdog).run (pre ++ s :: post)).state = .fired ∧
        firings (({ timeout := T } : Watchdog).run (pre ++ [s])) post = 0) ∧
    (∀ ss, (({ timeout := T } : Watchdog).run ss).state = expected T ss.reverse) ∧
    (∀ ss now, ((({ timeout := T } : Watchdog).run ss).poll now).1 = true ↔
      lapsed T ss.reverse = false ∧ ∃ t, armedSince ss.reverse = some t ∧ t.add T ≤ now) := by
  refine ⟨fun ss => firings_le_one _ ss, fun pre s post hs => ?_, state_run_fresh T,
    poll_run_fresh_iff T⟩
  have hfired : (({ timeout := T } : Watchdog).run (pre ++ [s])).state = .fired := by
    rw [run_append, run_cons, run_nil]
    exact step_state_of_firesOn hs
  refine ⟨?_, firings_fired hfired post⟩
  rw [← List.singleton_append, ← List.append_assoc, run_append, run_fired hfired]
  exact hfired

end Watchdog

end Rgbd
