/-
# Backend.Bthome -- the BTHome decoder and its cache

`bthome.cpp`: `ingest` takes the service data of an advertisement, wipes the cache entry
of the address and walks the objects of the frame. Every object advances the cursor by
its size in `kObjSize`; the payloads of twelve ids are stored. The walk stops at an
unknown or reserved id and where the frame is too short.

The walk here is the loop of the source with its cursor: every byte is fetched by its
index, and a fetch outside the frame is an error (`none`), as is more rounds than there
are bytes. `walk_spec` says that neither happens, and that the entry is what the objects
in front of the frame, one after the other, make of a cleared one.

`get_slot` is a second table with the policy of the scanner's: at most 32 addresses, the
least `last_ms` makes room. Each call of `ingest` reads the clock.
-/
import NimbleProxy.Theory.LruTable
import NimbleProxy.Theory.TaggedObjects

namespace NimbleProxy.Backend.Bthome

open NimbleProxy.Theory TaggedObjects

set_option autoImplicit false

/-! ## Readings -/

/-- A cache entry. -/
structure Reading where
  addr : UInt64 := 0
  lastMs : UInt32 := 0
  encrypted : Bool := false
  havePacketId : Bool := false
  packetId : UInt8 := 0
  haveBattery : Bool := false
  batteryPct : UInt8 := 0
  haveTemperature : Bool := false
  temperatureC100 : Int16 := 0
  haveHumidity : Bool := false
  humidityPct100 : UInt16 := 0
  haveVoltage : Bool := false
  voltageMv : UInt16 := 0
  haveIlluminance : Bool := false
  illuminanceLx100 : UInt32 := 0
  haveMotion : Bool := false
  motion : UInt8 := 0
  haveButton : Bool := false
  buttonEvent : UInt8 := 0
  havePower : Bool := false
  powerW100 : UInt32 := 0
  haveCo2 : Bool := false
  co2Ppm : UInt16 := 0
  deriving DecidableEq

/-- `kObjSize`: -1 is unknown, -2 has its length in front. -/
def kObjSize : List Int :=
  [1, 1, 2, 2, 3, 3, 2, 2, 2, 1, 3, 3, 2, 2, 2, 1,
    1, 1, 2, 2, 2, 1, 1, 1, 1, 1, 1, 1, 1, 1, 1, 1,
    1, 1, 1, 1, 1, 1, 1, 1, 1, 1, 1, 1, 1, 1, 1, 1,
    1, 1, 1, 1, 1, 1, 1, 1, 1, 1, 1, -1, 2, 2, 4, 2,
    2, 2, 3, 2, 2, 2, 1, 2, 2, 2, 2, 3, 4, 4, 4, 4,
    4, 2, 2, -2, -2, 4, 2, 1, 1, 1, 2, 1, 1, -1, -1, -1]

/-- `kObjMax`. -/
def kObjMax : Nat := kObjSize.length

def rdU16 (p : Nat → Option UInt8) : Option UInt16 := do
  let p0 ← p 0
  let p1 ← p 1
  return p0.toUInt16 ||| (p1.toUInt16 <<< 8)

def rdS16 (p : Nat → Option UInt8) : Option Int16 :=
  (rdU16 p).map UInt16.toInt16

def rdU24 (p : Nat → Option UInt8) : Option UInt32 := do
  let p0 ← p 0
  let p1 ← p 1
  let p2 ← p 2
  return p0.toUInt32 ||| (p1.toUInt32 <<< 8) ||| (p2.toUInt32 <<< 16)

/-- The `switch` over the id, with the payload behind `p`. -/
def store (id : UInt8) (p : Nat → Option UInt8) (r : Reading) : Option Reading :=
  match id.toNat with
  | 0x00 => (p 0).map fun v => { r with packetId := v, havePacketId := true }
  | 0x01 => (p 0).map fun v => { r with batteryPct := v, haveBattery := true }
  | 0x02 => (rdS16 p).map fun v => { r with temperatureC100 := v, haveTemperature := true }
  | 0x03 => (rdU16 p).map fun v => { r with humidityPct100 := v, haveHumidity := true }
  | 0x05 => (rdU24 p).map fun v => { r with illuminanceLx100 := v, haveIlluminance := true }
  | 0x0B => (rdU24 p).map fun v => { r with powerW100 := v, havePower := true }
  | 0x0C => (rdU16 p).map fun v => { r with voltageMv := v, haveVoltage := true }
  | 0x12 => (rdU16 p).map fun v => { r with co2Ppm := v, haveCo2 := true }
  | 0x21 => (p 0).map fun v => { r with motion := v, haveMotion := true }
  | 0x2E => (p 0).map fun v => { r with humidityPct100 := v.toUInt16 * 100, haveHumidity := true }
  | 0x3A => (p 0).map fun v => { r with buttonEvent := v, haveButton := true }
  | 0x45 => (rdS16 p).map fun v => { r with temperatureC100 := v * 10, haveTemperature := true }
  | _ => some r

/-- The head of a round: the id, where the payload starts and its length. The inner `none` is a
`break`, the outer one a fetch outside the frame. -/
def header (data : List UInt8) (p : Nat) : Option (Option (UInt8 × Nat × Nat)) := do
  let id ← data[p]?
  if kObjMax ≤ id.toNat then return none
  let sz ← kObjSize[id.toNat]?
  if sz = -1 then return none
  if sz = -2 then
    if data.length ≤ p + 1 then return none
    let plen ← data[p + 1]?
    return some (id, p + 2, plen.toNat)
  return some (id, p + 1, sz.toNat)

/-- The loop, in at most so many rounds. -/
def walk (data : List UInt8) : Nat → Nat → Reading → Option Reading
  | rounds, p, r =>
      if p < data.length then
        match rounds with
        | 0 => none
        | rounds + 1 =>
            match header data p with
            | none => none
            | some none => some r
            | some (some (id, p, plen)) =>
                if data.length < p + plen then some r
                else
                  match store id (fun i => data[p + i]?) r with
                  | none => none
                  | some r => walk data rounds (p + plen) r
      else some r

/-- `CACHE_SIZE`. -/
def cacheSize : Nat := 32

/-- `last_ms` of the entry at an index. -/
def lastMsAt (cache : List Reading) (i : Nat) : Nat :=
  (cache.getD i {}).lastMs.toNat

/-- `get_slot`: the entries in use, and the index of the one for `addr`. -/
def getSlot (cache : List Reading) (addr : UInt64) : List Reading × Nat :=
  match cache.findIdx? fun r => r.addr == addr with
  | some i => (cache, i)
  | none =>
      if cache.length < cacheSize then (cache ++ [{}], cache.length)
      else (cache, LruTable.leastLoop (lastMsAt cache) 0 1 (cache.length - 1))

/-- Bits 5 to 7 of the info byte. -/
def version (info : UInt8) : UInt8 := (info >>> 5) &&& 0x07

/-- `ingest`; `none` is a fetch outside `data`. -/
def ingest (cache : List Reading) (addr : UInt64) (data : List UInt8) (nowMs : UInt32) :
    Option (List Reading) :=
  if data.length < 1 then some cache
  else
    match data[0]? with
    | none => none
    | some info =>
        if version info ≠ 0x02 then some cache
        else
          let encrypted := info &&& 0x01 ≠ 0
          let (cache, i) := getSlot cache addr
          let r : Reading := { addr, lastMs := nowMs, encrypted }
          if encrypted then some (cache.set i r)
          else (walk data data.length 1 r).map (cache.set i)

/-! ## The walk reads whole objects -/

/-- The sizes of the table. -/
def objSizes (id : UInt8) : Option Size :=
  match kObjSize[id.toNat]? with
  | none => none
  | some sz =>
      if sz = -1 then none
      else if sz = -2 then some .prefixed
      else some (.fixed sz.toNat)

/-- What an object does to an entry. -/
def effect (r : Reading) (o : Object) : Reading :=
  (store o.id (fun i => o.payload[i]?) r).getD r

theorem length_payload {o : Object} (whole : o.Whole objSizes) {k n : Nat} (isId : o.id.toNat = k)
    (entry : objSizes (UInt8.ofNat k) = some (.fixed n)) : o.payload.length = n := by
  obtain ⟨size, isSize, fits⟩ := whole
  rw [Option.mem_def] at isSize
  rw [← isId, UInt8.ofNat_toNat, isSize] at entry
  cases entry
  exact fits

/-- A whole object has the bytes that the `switch` looks at. -/
theorem store_whole {o : Object} (whole : o.Whole objSizes) (r : Reading)
    {p : Nat → Option UInt8} (same : ∀ i < o.payload.length, p i = o.payload[i]?) :
    store o.id p r = some (effect r o) := by
  have length {k n : Nat} (isId : o.id.toNat = k)
      (entry : objSizes (UInt8.ofNat k) = some (.fixed n)) : o.payload.length = n :=
    length_payload whole isId entry
  obtain ⟨id, payload⟩ := o
  unfold effect store
  dsimp only at same length ⊢
  split
  case h_13 => rfl
  all_goals rename_i isId
  case h_1 | h_2 | h_9 | h_10 | h_11 =>
    obtain ⟨a, rfl⟩ := List.length_eq_one_iff.mp (length isId (n := 1) (by decide))
    rw [same 0 (by simp)]
    rfl
  case h_3 | h_4 | h_7 | h_8 | h_12 =>
    obtain ⟨a, b, rfl⟩ := List.length_eq_two.mp (length isId (n := 2) (by decide))
    simp only [rdS16, rdU16, same 0 (by simp), same 1 (by simp)]
    rfl
  case h_5 | h_6 =>
    obtain ⟨a, b, c, rfl⟩ := List.length_eq_three.mp (length isId (n := 3) (by decide))
    simp only [rdU24, same 0 (by simp), same 1 (by simp), same 2 (by simp)]
    rfl

/-- The head of a round is the head of the object there. -/
theorem header_cases {data : List UInt8} {p : Nat} (inside : p < data.length) :
    (header data p = some none ∧ next objSizes (data.drop p) = none) ∨
      ∃ id q plen, header data p = some (some (id, q, plen)) ∧ p < q ∧ q ≤ data.length ∧
        next objSizes (data.drop p) = takePayload id plen (data.drop q) := by
  have here : data.drop p = data[p] :: data.drop (p + 1) := List.drop_eq_getElem_cons inside
  have fetch : data[p]? = some data[p] := List.getElem?_eq_getElem inside
  generalize data[p] = id at here fetch
  by_cases unknown : kObjMax ≤ id.toNat
  · have noSize : objSizes id = none := by simp [objSizes, List.getElem?_eq_none unknown]
    exact .inl ⟨by simp [header, fetch, unknown], by simp [here, next, noSize]⟩
  · obtain ⟨sz, entry⟩ : ∃ sz, kObjSize[id.toNat]? = some sz :=
      ⟨_, List.getElem?_eq_getElem (not_le.mp unknown)⟩
    by_cases reserved : sz = -1
    · have noSize : objSizes id = none := by simp [objSizes, entry, reserved]
      exact .inl ⟨by simp [header, fetch, unknown, entry, reserved], by simp [here, next, noSize]⟩
    · by_cases variable_ : sz = -2
      · have size : objSizes id = some .prefixed := by simp [objSizes, entry, variable_]
        by_cases ends : data.length ≤ p + 1
        · refine .inl ⟨by simp [header, fetch, unknown, entry, variable_, ends], ?_⟩
          simp [here, next, size, List.drop_eq_nil_of_le ends]
        · have more := not_le.mp ends
          have second : data[p + 1]? = some data[p + 1] := List.getElem?_eq_getElem more
          refine .inr ⟨id, p + 2, data[p + 1].toNat, ?_, by omega, by omega, ?_⟩
          · simp [header, fetch, unknown, entry, variable_, ends, second]
          · rw [here, List.drop_eq_getElem_cons more]
            simp only [next, size]
      · have size : objSizes id = some (.fixed sz.toNat) := by
          simp [objSizes, entry, reserved, variable_]
        refine .inr ⟨id, p + 1, sz.toNat, ?_, by omega, by omega, ?_⟩
        · simp [header, fetch, unknown, entry, reserved, variable_]
        · simp [here, next, size]

/-- **The walk.** In as many rounds as there are bytes it ends, without a fetch outside the frame,
and every whole object in front of the frame has had its effect. -/
theorem walk_spec {data : List UInt8} {rounds p : Nat} (enough : data.length ≤ p + rounds)
    (r : Reading) :
    walk data rounds p r = some ((objects objSizes (data.drop p)).foldl effect r) := by
  induction rounds generalizing p r with
  | zero =>
      have ended : ¬ p < data.length := by omega
      rw [walk, if_neg ended, List.drop_eq_nil_of_le (not_lt.mp ended), objects_of_none rfl,
        List.foldl_nil]
  | succ rounds ih =>
      by_cases inside : p < data.length
      · rw [walk, if_pos inside]
        rcases header_cases inside with ⟨breaks, stuck⟩ | ⟨id, q, plen, head, later, within, reads⟩
        · simp only [breaks]
          rw [objects_of_none stuck, List.foldl_nil]
        · simp only [head]
          unfold takePayload at reads
          rw [List.length_drop] at reads
          by_cases fits : plen ≤ data.length - q
          · rw [if_pos fits] at reads
            have same (i : Nat) (small : i < ((data.drop q).take plen).length) :
                data[q + i]? = ((data.drop q).take plen)[i]? := by
              rw [List.length_take] at small
              rw [List.getElem?_take_of_lt (by omega), List.getElem?_drop]
            have stored := store_whole (next_eq_some reads).1 r same
            have next := ih (p := q + plen) (by omega) (effect r ⟨id, (data.drop q).take plen⟩)
            rw [if_neg (by omega), stored, objects_of_some reads, List.foldl_cons,
              List.drop_drop]
            exact next
          · rw [if_neg fits] at reads
            rw [if_pos (by omega), objects_of_none reads, List.foldl_nil]
      · rw [walk, if_neg inside, List.drop_eq_nil_of_le (not_lt.mp inside), objects_of_none rfl,
          List.foldl_nil]

/-! ## The cache -/

/-- An effect is on the decoded fields. -/
theorem effect_head (r : Reading) (o : Object) :
    (effect r o).addr = r.addr ∧ (effect r o).lastMs = r.lastMs ∧
      (effect r o).encrypted = r.encrypted := by
  have stored (r' : Reading) (done : store o.id (fun i => o.payload[i]?) r = some r') :
      r'.addr = r.addr ∧ r'.lastMs = r.lastMs ∧ r'.encrypted = r.encrypted := by
    unfold store at done
    split at done
    case h_13 =>
      cases done
      exact ⟨rfl, rfl, rfl⟩
    all_goals
      obtain ⟨v, -, rfl⟩ := Option.map_eq_some_iff.mp done
      exact ⟨rfl, rfl, rfl⟩
  unfold effect
  cases done : store o.id (fun i => o.payload[i]?) r with
  | none => exact ⟨rfl, rfl, rfl⟩
  | some r' => exact stored r' done

theorem foldl_effect_head (objs : List Object) (r : Reading) :
    (objs.foldl effect r).addr = r.addr ∧ (objs.foldl effect r).lastMs = r.lastMs ∧
      (objs.foldl effect r).encrypted = r.encrypted := by
  induction objs generalizing r with
  | nil => exact ⟨rfl, rfl, rfl⟩
  | cons o objs ih =>
      obtain ⟨addr, lastMs, encrypted⟩ := effect_head r o
      obtain ⟨addr', lastMs', encrypted'⟩ := ih (effect r o)
      exact ⟨addr'.trans addr, lastMs'.trans lastMs, encrypted'.trans encrypted⟩

section Cache

variable {cache : List Reading} {addr : UInt64} {nowMs : UInt32} {r : Reading}

/-- Writing the slot of an address is an upsert. -/
theorem getSlot_upserts (cache : List Reading) (addr : UInt64) (r : Reading) :
    LruTable.Upserted Reading.addr (fun r => r.lastMs.toNat) cacheSize addr (fun _ => r) cache
      ((getSlot cache addr).1.set (getSlot cache addr).2 r) := by
  unfold getSlot
  cases found : cache.findIdx? fun r => r.addr == addr with
  | some i =>
      obtain ⟨inside, same, -⟩ := List.findIdx?_eq_some_iff_getElem.mp found
      exact LruTable.upserted_at inside (by simpa using same)
  | none =>
      have new : ∀ e ∈ cache, e.addr ≠ addr := by
        simpa [List.findIdx?_eq_none_iff] using found
      by_cases room : cache.length < cacheSize
      · simp only [room, if_true]
        rw [List.set_append_right _ _ (Nat.le_refl _), Nat.sub_self, List.set_cons_zero]
        exact LruTable.upserted_append new room
      · have full := not_lt.mp room
        have some_ : 0 < cache.length := (by decide : 0 < cacheSize).trans_le full
        obtain ⟨inside, least⟩ := LruTable.leastLoop_spec (lastMsAt cache)
          (cache.length - 1) Nat.zero_lt_one (fun j first => by
            obtain rfl : j = 0 := by omega
            exact Nat.le_refl _)
        rw [show 1 + (cache.length - 1) = cache.length by omega] at inside least
        simp only [room, if_false]
        refine LruTable.upserted_over new full inside fun e mem => ?_
        obtain ⟨j, below, rfl⟩ := List.getElem_of_mem mem
        have order := least j below
        simpa [lastMsAt, List.getD_eq_getElem?_getD, inside, below] using order

/-- The entry that a frame makes, if it is one of version 2. -/
def entryOf (addr : UInt64) (nowMs : UInt32) (info : UInt8) (payload : List UInt8) : Reading :=
  if info &&& 0x01 ≠ 0 then { addr, lastMs := nowMs, encrypted := true }
  else (objects objSizes payload).foldl effect { addr, lastMs := nowMs }

theorem addr_entryOf (info : UInt8) (payload : List UInt8) :
    (entryOf addr nowMs info payload).addr = addr := by
  unfold entryOf
  split
  · rfl
  · exact (foldl_effect_head _ _).1

theorem ingest_nil : ingest cache addr [] nowMs = some cache := rfl

theorem ingest_other {info : UInt8} {payload : List UInt8} (other : version info ≠ 0x02) :
    ingest cache addr (info :: payload) nowMs = some cache := by
  simp [ingest, other]

theorem ingest_v2 {info : UInt8} {payload : List UInt8} (v2 : version info = 0x02) :
    ingest cache addr (info :: payload) nowMs =
      some ((getSlot cache addr).1.set (getSlot cache addr).2
        (entryOf addr nowMs info payload)) := by
  have some_ : ¬ (info :: payload).length < 1 := by simp
  unfold ingest entryOf
  rw [if_neg some_, List.getElem?_cons_zero]
  dsimp only
  rw [if_neg (by simp [v2])]
  by_cases encrypted : info &&& 0x01 ≠ 0
  · simp [encrypted]
  · have enough : (info :: payload).length ≤ 1 + (info :: payload).length := Nat.le_add_left _ _
    have walked := walk_spec enough { addr, lastMs := nowMs }
    simp only [encrypted, decide_false, if_false, walked, Option.map_some, List.drop_succ_cons,
      List.drop_zero]

end Cache

structure Inv (cache : List Reading) : Prop where
  distinct : (cache.map Reading.addr).Nodup
  bounded : cache.length ≤ cacheSize

/-- What a call of `ingest` leaves. -/
structure Ingested (addr : UInt64) (data : List UInt8) (nowMs : UInt32)
    (before after : List Reading) : Prop where
  ignored : (∀ info ∈ data.head?, version info ≠ 0x02) → after = before
  encrypted : ∀ info payload, data = info :: payload → version info = 0x02 →
    info &&& 0x01 ≠ 0 →
      after.filter (fun r => r.addr = addr) = [{ addr, lastMs := nowMs, encrypted := true }]
  decoded : ∀ info payload, data = info :: payload → version info = 0x02 →
    info &&& 0x01 = 0 → ∃ objs, LongestPrefix objSizes payload objs ∧
      after.filter (fun r => r.addr = addr) = [objs.foldl effect { addr, lastMs := nowMs }]
  others : (∃ old ∈ before, old.addr = addr) ∨ before.length < cacheSize →
    (after.filter fun r => r.addr ≠ addr).Perm (before.filter fun r => r.addr ≠ addr)
  evicts : (∀ old ∈ before, old.addr ≠ addr) → before.length = cacheSize →
    after = before ∨
      ∃ gone rest, before.Perm (gone :: rest) ∧ (after.filter fun r => r.addr ≠ addr).Perm rest

theorem ingested {cache : List Reading} (inv : Inv cache) (addr : UInt64) (data : List UInt8)
    (nowMs : UInt32) :
    ∃ after, ingest cache addr data nowMs = some after ∧ Inv after ∧
      Ingested addr data nowMs cache after := by
  have unchanged (ignored : ∀ info ∈ data.head?, version info ≠ 0x02)
      (same : ingest cache addr data nowMs = some cache) :
      ∃ after, ingest cache addr data nowMs = some after ∧ Inv after ∧
        Ingested addr data nowMs cache after := by
    refine ⟨cache, same, inv, fun _ => rfl, ?_, ?_, fun _ => .refl _, fun _ _ => .inl rfl⟩
    · rintro info payload rfl v2
      exact absurd v2 (ignored info rfl)
    · rintro info payload rfl v2
      exact absurd v2 (ignored info rfl)
  cases data with
  | nil => exact unchanged nofun ingest_nil
  | cons info payload =>
      by_cases v2 : version info = 0x02
      · have upserted := getSlot_upserts cache addr (entryOf addr nowMs info payload)
        have keyed : LruTable.Keyed Reading.addr addr (fun _ => entryOf addr nowMs info payload) :=
          fun _ _ => addr_entryOf info payload
        obtain ⟨-, only, -⟩ := upserted.own keyed inv.distinct
        refine ⟨_, ingest_v2 v2, ⟨upserted.nodup keyed inv.distinct,
          upserted.length_le inv.bounded⟩, ?_, ?_, ?_, upserted.others keyed, ?_⟩
        · intro ignored
          exact absurd v2 (ignored info rfl)
        · rintro _ _ ⟨⟩ _ encrypted
          rw [only, entryOf, if_pos encrypted]
        · rintro _ _ ⟨⟩ _ clear
          refine ⟨_, objects_longest objSizes payload, ?_⟩
          rw [only, entryOf, if_neg (not_not.mpr clear)]
        · intro new full
          obtain ⟨gone, rest, before, _, _, others⟩ := upserted.evicted keyed new full.ge
          exact .inr ⟨gone, rest, before, others⟩
      · refine unchanged ?_ (ingest_other v2)
        rintro _ ⟨⟩
        exact v2

/-- A call of `ingest`. -/
structure Frame where
  addr : UInt64
  data : List UInt8
  nowMs : UInt32

/-- The cache after these frames. -/
def run (frames : List Frame) : Option (List Reading) :=
  frames.foldlM (fun cache frame => ingest cache frame.addr frame.data frame.nowMs) []

theorem run_inv (frames : List Frame) : ∃ cache, run frames = some cache ∧ Inv cache := by
  have start : Inv [] := ⟨List.nodup_nil, Nat.zero_le _⟩
  unfold run
  generalize ([] : List Reading) = cache at start
  induction frames generalizing cache with
  | nil => exact ⟨cache, rfl, start⟩
  | cons frame rest ih =>
      obtain ⟨after, done, inv, -⟩ := ingested start frame.addr frame.data frame.nowMs
      obtain ⟨cache', ran, inv'⟩ := ih after inv
      refine ⟨cache', ?_, inv'⟩
      rw [List.foldlM_cons, done]
      exact ran

end NimbleProxy.Backend.Bthome
