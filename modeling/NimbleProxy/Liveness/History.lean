/-
# Liveness.History -- the samples for the chart

`record_sample` and `get_history` of `liveness_wdt.cpp`. Each probe cycle puts one sample into
a ring of 120; a reader is given the last of them, oldest first, as many as it has room for
(`getHistory_after`). `g_hist_total` tells how far the ring is filled; after 2 ^ 32 samples it
starts again, and the ring counts as empty.

Writer and reader exclude each other by `g_hist_mtx`. Without it nothing is recorded.
-/
import NimbleProxy.Theory.LastValues

namespace NimbleProxy.Liveness.History

open NimbleProxy.Theory.LastValues

set_option autoImplicit false

structure WifiSample where
  /-- 0 for unknown -/
  staRssi : Int8 := 0
  /-- 0 for none -/
  apRssi : Int8 := 0
  /-- 0xFFFF for a probe that failed -/
  rttMs : UInt16 := 0
  staCount : UInt8 := 0
  deriving DecidableEq

/-- What `record_sample` is given, and finds. -/
structure Probe where
  ok : Bool
  rttMs : UInt16
  /-- the RSSI that `esp_wifi_sta_get_ap_info` answers -/
  uplink : Option Int8
  /-- the RSSIs that `esp_wifi_ap_get_sta_list` answers -/
  clients : Option (List Int8)

/-- The loop for the weakest client. -/
def worst : List Int8 → Int8
  | [] => 0
  | first :: rest => rest.foldl (fun worst r => if r < worst then r else worst) first

/-- The sample of `record_sample`. -/
def sampleOf (p : Probe) : WifiSample where
  staRssi := p.uplink.getD 0
  apRssi := (p.clients.map worst).getD 0
  rttMs := if p.ok then p.rttMs else 0xFFFF
  staCount := (p.clients.map fun rssi => UInt8.ofNat rssi.length).getD 0

/-- The ring and its mutex. -/
structure Ring where
  /-- `g_hist_mtx` is not null -/
  mutex : Bool
  /-- `g_hist` -/
  hist : Vector WifiSample 120 := .replicate 120 {}
  /-- `g_hist_head` -/
  head : Fin 120 := 0
  /-- `g_hist_total` -/
  total : UInt32 := 0

def recordSample (h : Ring) (p : Probe) : Ring :=
  if h.mutex then
    { h with
      hist := h.hist.setIfInBounds h.head (sampleOf p)
      head := h.head + 1
      total := h.total + 1 }
  else h

/-- What `get_history` copies for a caller with room for `max`. -/
def getHistory (h : Ring) (max : Nat) : List WifiSample :=
  if !h.mutex || max = 0 then []
  else
    let avail := if h.total < 120 then h.total.toNat else 120
    let n := if avail < max then avail else max
    let oldest := if h.total < 120 then 0 else (h.head : Nat)
    let start := (oldest + (avail - n)) % 120
    (List.range n).map fun i => h.hist.get (Fin.ofNat 120 (start + i))

/-- The history after some calls of `record_sample`. -/
def after (mutex : Bool) (probes : List Probe) : Ring := probes.foldl recordSample { mutex }

/-- The samples that have been recorded. -/
def recorded (mutex : Bool) (probes : List Probe) : List WifiSample :=
  if mutex then probes.map sampleOf else []

/-- The state of a history that has recorded these samples. -/
structure Follows (h : Ring) (samples : List WifiSample) : Prop where
  holds : Holds h.hist samples
  head : (h.head : Nat) = samples.length % 120
  total : h.total.toNat = samples.length % 2 ^ 32

section Samples

variable {h : Ring} {samples : List WifiSample} {p : Probe}

theorem follows_init (mutex : Bool) : Follows { mutex } [] :=
  ⟨holds_nil _, rfl, rfl⟩

/-- **One sample.** -/
theorem Follows.recordSample (follows : Follows h samples) (mutex : h.mutex = true) (p : Probe) :
    Follows (recordSample h p) (samples ++ [sampleOf p]) := by
  rw [History.recordSample, if_pos mutex]
  constructor
  · have ring := follows.holds.push (by decide) (sampleOf p)
    rwa [← follows.head] at ring
  · show ((h.head + 1 : Fin 120) : Nat) = _
    rw [Fin.val_add, follows.head, List.length_append, List.length_singleton]
    exact Nat.mod_add_mod _ _ _
  · show (h.total + 1).toNat = _
    rw [UInt32.toNat_add, follows.total, List.length_append, List.length_singleton]
    exact Nat.mod_add_mod _ _ _

theorem mutex_recordSample (h : Ring) (p : Probe) : (recordSample h p).mutex = h.mutex := by
  unfold History.recordSample
  split <;> rfl

theorem mutex_after (mutex : Bool) (probes : List Probe) : (after mutex probes).mutex = mutex := by
  induction probes using List.reverseRecOn with
  | nil => rfl
  | append_singleton probes p ih => rw [after, List.foldl_concat, mutex_recordSample, ← after, ih]

theorem follows_after (probes : List Probe) : Follows (after true probes) (probes.map sampleOf) := by
  induction probes using List.reverseRecOn with
  | nil => exact follows_init true
  | append_singleton probes p ih =>
      rw [after, List.foldl_concat, ← after, List.map_append]
      exact ih.recordSample (mutex_after true probes) p

/-- **What a reader is given.** -/
theorem Follows.getHistory_eq (follows : Follows h samples) (mutex : h.mutex = true)
    (few : samples.length < 2 ^ 32) (max : Nat) :
    getHistory h max = samples.rtake (min (min samples.length 120) max) := by
  have total : h.total.toNat = samples.length := follows.total.trans (Nat.mod_eq_of_lt few)
  have partly : h.total < 120 ↔ samples.length < 120 := by
    rw [UInt32.lt_iff_toNat_lt, total]
    rfl
  unfold getHistory
  by_cases none_ : max = 0
  · subst none_
    rw [if_pos (by simp), Nat.min_zero, List.rtake_zero]
  rw [if_neg (by simp [mutex, none_])]
  by_cases partly_ : samples.length < 120
  · have count : (if samples.length < max then samples.length else max) =
        min (min samples.length 120) max := by
      split <;> omega
    simp only [if_pos (partly.mpr partly_), total, count]
    apply follows.holds.read (by omega) (by omega)
    rw [Nat.zero_add, Nat.mod_mod]
  · have count : (if 120 < max then 120 else max) = min (min samples.length 120) max := by
      split <;> omega
    simp only [if_neg (mt partly.mp partly_), count]
    apply follows.holds.read (by omega) (by omega)
    rw [Nat.mod_mod, follows.head]
    omega

theorem getHistory_after (mutex : Bool) {probes : List Probe} (few : probes.length < 2 ^ 32)
    (max : Nat) :
    getHistory (after mutex probes) max =
      (recorded mutex probes).rtake (min (min (recorded mutex probes).length 120) max) := by
  cases mutex with
  | false =>
      have off := mutex_after false probes
      rw [getHistory, off, recorded, if_neg Bool.false_ne_true]
      exact List.drop_nil.symm
  | true =>
      apply (follows_after probes).getHistory_eq (mutex_after true probes)
      rwa [List.length_map]

theorem length_getHistory_le (h : Ring) (max : Nat) : (getHistory h max).length ≤ 120 := by
  unfold getHistory
  split
  · exact Nat.zero_le 120
  · rename_i some_
    have small : (if h.total < 120 then h.total.toNat else 120) ≤ 120 := by
      split
      · rename_i partly
        exact Nat.le_of_lt (UInt32.lt_iff_toNat_lt.mp partly)
      · exact Nat.le_refl 120
    dsimp only
    rw [List.length_map, List.length_range]
    generalize (if h.total < 120 then h.total.toNat else 120) = avail at small ⊢
    split <;> omega

end Samples

end NimbleProxy.Liveness.History
