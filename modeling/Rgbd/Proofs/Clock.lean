import Mathlib.Data.List.Induction
import Rgbd.Proofs.Float.Unpacked
import Rgbd.Clock

/-!
The rebasing law of the clock synchronizer.

Over any sequence of stamps and mappings, the base in force is taken at the last stamp that
was the first one or whose device time was not at least the previous stamp's device time
(NaN included). In device mode a stamp is its device time mapped through the base in force
after it, so a stamp that rebases is exactly the host time of its call: a device time maps
through a base taken at it to the base's host time, because `d - d` is zero or NaN and
neither moves the host time.
-/

namespace Rgbd

open Float.Model

/-! ### A base maps its own device time to its host time -/

theorem Float.sub_self_cases (d : Float) :
    d - d = Float.ofModel (Float.Model.pack (.zero .positive)) ∨
      d - d = Float.ofModel (Float.Model.pack .notANumber) := by
  have hsub : d - d = Float.ofModel (Float.Model.pack
      (UnpackedFloat.sub Format.binary64 d.toModel.unpack d.toModel.unpack)) := rfl
  rcases FloatModel.sub_self_cases Format.binary64 d.toModel.unpack with h | h
  · left
    rw [hsub, h]
  · right
    rw [hsub, h]

@[simp] theorem Duration.nanos_zero : (0 : Duration).nanos = 0 := rfl

namespace SystemTime

theorem checkedAdd_zero_getD (t : SystemTime) : (t.checkedAdd 0).getD t = t := by
  unfold checkedAdd
  dsimp only
  split
  · simp
  · rfl

theorem checkedSub_zero_getD (t : SystemTime) : (t.checkedSub 0).getD t = t := by
  unfold checkedSub
  dsimp only
  split
  · simp
  · rfl

end SystemTime

theorem ClockBase.map_self (host : SystemTime) (device : Float) :
    ClockBase.map ⟨host, device⟩ device = host := by
  have hoffset : (Duration.ofSecondsFloat? ((device - device).abs / 1000)).getD 0 = 0 := by
    rcases Float.sub_self_cases device with h | h <;> rw [h] <;> decide
  unfold ClockBase.map
  dsimp only
  rw [hoffset]
  split
  · exact SystemTime.checkedAdd_zero_getD host
  · exact SystemTime.checkedSub_zero_getD host

/-! ### Runs of stamps and mappings -/

namespace ClockSync

/-- A call on a synchronizer: a stamp at a device time while the host clock reads `now`, or
a mapping of a device time. -/
inductive Call where
  | stamp (device : Float) (now : SystemTime)
  | map (device : Float)

def perform (c : ClockSync) : Call → Option SystemTime × ClockSync
  | .stamp device now =>
    let (t, c) := c.stamp device now
    (some t, c)
  | .map device => (c.map device, c)

def performAll (c : ClockSync) (calls : List Call) : ClockSync :=
  calls.foldl (fun c call => (c.perform call).2) c

def stamps : List Call → List (Float × SystemTime)
  | [] => []
  | .stamp device now :: calls => (device, now) :: stamps calls
  | .map _ :: calls => stamps calls

/-- Stamp `j` of `ds` set the base: it is the first stamp, or its device time is not at least
the previous one's, and every later stamp's device time is at least the previous one's. -/
def SetsBase (ds : List (Float × SystemTime)) (j : Nat) : Prop :=
  ∃ hj : j < ds.length, (j = 0 ∨ ¬ ds[j].1 ≥ ds[j - 1].1) ∧
    ∀ i (hi : i < ds.length), j < i → ds[i].1 ≥ ds[i - 1].1

def baseAt (ds : List (Float × SystemTime)) (j : Nat) : Option ClockBase :=
  ds[j]?.map fun (device, host) => ⟨host, device⟩

/-- The state a run of stamps `ds` leaves: no base before the first stamp; afterwards the
base some stamp set and the device time of the last stamp. -/
def Tracks (ds : List (Float × SystemTime)) (c : ClockSync) : Prop :=
  (ds = [] ∧ c.base = none) ∨
    (∃ j, SetsBase ds j ∧ c.base = baseAt ds j) ∧ ds.getLast?.map Prod.fst = some c.previous

theorem stamps_append (calls : List Call) (call : Call) :
    stamps (calls ++ [call]) = stamps calls ++ stamps [call] := by
  induction calls with
  | nil => rfl
  | cons c calls ih =>
    cases c with
    | stamp device now => simp [stamps, ih]
    | map device => simp [stamps, ih]

theorem performAll_append (c : ClockSync) (calls : List Call) (call : Call) :
    c.performAll (calls ++ [call]) = ((c.performAll calls).perform call).2 := by
  simp [performAll, List.foldl_append]

@[simp] theorem perform_source (c : ClockSync) (call : Call) : (c.perform call).2.source = c.source := by
  cases call <;> rfl

theorem performAll_source (c : ClockSync) (calls : List Call) :
    (c.performAll calls).source = c.source := by
  induction calls using List.reverseRecOn with
  | nil => rfl
  | append_singleton calls call ih => rw [performAll_append, perform_source, ih]

theorem tracks_first {c : ClockSync} (hc : c.base = none) (device : Float) (now : SystemTime) :
    Tracks [(device, now)] (c.stamp device now).2 := by
  refine .inr ⟨⟨0, ⟨by simp, .inl rfl, fun i hi h0 => ?_⟩, ?_⟩, rfl⟩
  · simp at hi
    omega
  · simp [stamp, baseFor, hc, baseAt]

theorem tracks_stamp {ds : List (Float × SystemTime)} {c : ClockSync} (hds : ds ≠ [])
    (h : Tracks ds c) (device : Float) (now : SystemTime) :
    Tracks (ds ++ [(device, now)]) (c.stamp device now).2 := by
  rcases h with ⟨hnil, -⟩ | ⟨⟨j, ⟨hj, hfirst, hlater⟩, hbase⟩, hprev⟩
  · exact absurd hnil hds
  have hlen : 0 < ds.length := List.length_pos_iff.2 hds
  have hlast : ds[ds.length - 1].1 = c.previous := by
    rw [List.getLast?_eq_getElem?, List.getElem?_eq_getElem (by omega)] at hprev
    simpa using hprev
  have hsome : c.base = some ⟨ds[j].2, ds[j].1⟩ := by
    rw [hbase, baseAt, List.getElem?_eq_getElem hj]
    rfl
  refine .inr ⟨?_, by simp [stamp]⟩
  by_cases hge : device ≥ c.previous
  · refine ⟨j, ⟨by simp; omega, ?_, fun i hi hji => ?_⟩, ?_⟩
    · rcases hfirst with h0 | hlt
      · exact .inl h0
      · right
        rwa [List.getElem_append_left hj, List.getElem_append_left (by omega)]
    · simp only [List.length_append, List.length_singleton] at hi
      by_cases hin : i < ds.length
      · rw [List.getElem_append_left hin, List.getElem_append_left (by omega)]
        exact hlater i hin hji
      · have hi' : i = ds.length := by omega
        subst hi'
        rw [List.getElem_append_right (by omega), List.getElem_append_left (by omega)]
        simpa [hlast] using hge
    · simp [stamp, baseFor, hsome, hge, baseAt, List.getElem?_append_left hj,
        List.getElem?_eq_getElem hj]
  · refine ⟨ds.length, ⟨by simp, .inr ?_, fun i hi hji => ?_⟩, ?_⟩
    · rw [List.getElem_append_right (by omega), List.getElem_append_left (by omega)]
      simpa [hlast] using hge
    · simp only [List.length_append, List.length_singleton] at hi
      omega
    · simp [stamp, baseFor, hsome, hge, baseAt]

theorem tracks_perform {ds : List (Float × SystemTime)} {c : ClockSync} (h : Tracks ds c)
    (call : Call) : Tracks (ds ++ stamps [call]) (c.perform call).2 := by
  cases call with
  | map device => simpa [stamps, perform] using h
  | stamp device now =>
    rcases h with ⟨rfl, hnone⟩ | h
    · exact tracks_first hnone device now
    · have hds : ds ≠ [] := by
        rintro rfl
        simp at h
      exact tracks_stamp hds (.inr h) device now

theorem tracks_performAll (source : TimeSource) (calls : List Call) :
    Tracks (stamps calls) (({ source } : ClockSync).performAll calls) := by
  induction calls using List.reverseRecOn with
  | nil => exact .inl ⟨rfl, rfl⟩
  | append_singleton calls call ih =>
    rw [performAll_append, stamps_append]
    exact tracks_perform ih call

theorem baseFor_of_rebase {ds : List (Float × SystemTime)} {c : ClockSync} (h : Tracks ds c)
    {device : Float} (hre : ∀ p ∈ ds.getLast?, ¬ device ≥ p.1) (now : SystemTime) :
    c.baseFor device now = ⟨now, device⟩ := by
  rcases h with ⟨-, hnone⟩ | ⟨-, hprev⟩
  · simp [baseFor, hnone]
  · obtain ⟨p, hp, hpd⟩ := Option.map_eq_some_iff.1 hprev
    have hlt := hre p hp
    rw [hpd] at hlt
    unfold baseFor
    split <;> simp [hlt]

/-- The rebasing law, over every run of stamps and mappings from a fresh synchronizer. The
base in force is none until the first stamp, and afterwards the one taken at the last stamp
that was the first or whose device time was not at least the previous stamp's; a mapping
replies through the base in force and changes nothing; a stamp replies with its device time
mapped through the base in force after it (device mode) or with the host time (host mode),
and a stamp that rebases replies with exactly the host time of its call. -/
theorem rebase_law (source : TimeSource) (calls : List Call) (device : Float)
    (now : SystemTime) :
    let c := ({ source } : ClockSync).performAll calls
    let ds := stamps calls
    (c.base = none ↔ ds = []) ∧
    (ds ≠ [] → ∃ j, SetsBase ds j ∧ c.base = baseAt ds j) ∧
    c.perform (.map device) = (c.base.map (·.map device), c) ∧
    (∃ b, (c.perform (.stamp device now)).2.base = some b ∧
      (c.perform (.stamp device now)).1 =
        some (match source with
          | .device => b.map device
          | .host => now)) ∧
    ((∀ p ∈ ds.getLast?, ¬ device ≥ p.1) → (c.perform (.stamp device now)).1 = some now) := by
  intro c ds
  have htr : Tracks ds c := tracks_performAll source calls
  have hsrc : c.source = source := performAll_source _ calls
  refine ⟨?_, ?_, rfl, ⟨c.baseFor device now, rfl, ?_⟩, fun hre => ?_⟩
  · rcases htr with ⟨hnil, hnone⟩ | ⟨⟨j, ⟨hj, -⟩, hbase⟩, -⟩
    · simp [hnil, hnone]
    · have hds : ds ≠ [] := List.ne_nil_of_length_pos (by omega)
      simp [hbase, baseAt, List.getElem?_eq_getElem hj, hds]
  · intro hds
    rcases htr with ⟨hnil, -⟩ | ⟨hbase, -⟩
    · exact absurd hnil hds
    · exact hbase
  · show some (match c.source with
      | .device => (c.baseFor device now).map device
      | .host => now) = _
    rw [hsrc]
  · have hbase := baseFor_of_rebase htr hre now
    cases source <;> simp [perform, stamp, hsrc, hbase, ClockBase.map_self]

end ClockSync

end Rgbd
