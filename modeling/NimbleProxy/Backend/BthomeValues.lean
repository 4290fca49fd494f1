/-
# Backend.BthomeValues -- what the decoder makes of a well-formed frame

Of several objects of one field the last one counts (`bthome_walk`).

`bthome.h` promises of each `have_*` flag that it is set iff the most recent frame
carried the object, and gives the scale of each field. Both are compared here with the
published format: `published` has its object sizes, `scaled` the value of an object in
the unit of its field.

The decoder departs from it in two places. `kObjSize` has one byte for the 32-bit
objects 0x5B and 0x5C, so the walk takes the rest of their value for objects. And a
temperature of 0x45, in tenths of a degree, is multiplied by ten in 16 bits; beyond 327
degrees it wraps. Without these the values are exact (`decodes_iff`).
-/
import NimbleProxy.Backend.Bthome
import NimbleProxy.Theory.LittleEndian

namespace NimbleProxy.Backend.Bthome

open NimbleProxy.Theory TaggedObjects

set_option autoImplicit false

/-! ## The published format -/

/-- The ids of one, two, three and four bytes, as far as `kObjSize` knows them. From 0x15 to 0x39
there are binary sensors and two percentages; the ids from 0x30 on are not assigned, and read as
binary sensors like the others. -/
def oneByte : List Nat :=
  [0x00, 0x01, 0x09, 0x0F, 0x10, 0x11] ++ List.range' 0x15 37 ++ [0x3A, 0x46, 0x57, 0x58, 0x59]

def twoBytes : List Nat :=
  [0x02, 0x03, 0x06, 0x07, 0x08, 0x0C, 0x0D, 0x0E, 0x12, 0x13, 0x14, 0x3C, 0x3D, 0x3F, 0x40, 0x41,
    0x43, 0x44, 0x45, 0x47, 0x48, 0x49, 0x4A, 0x51, 0x52, 0x56, 0x5A]

def threeBytes : List Nat := [0x04, 0x05, 0x0A, 0x0B, 0x42, 0x4B]

def fourBytes : List Nat := [0x3E, 0x4C, 0x4D, 0x4E, 0x4F, 0x50, 0x55, 0x5B, 0x5C]

/-- The sizes of BTHome v2. -/
def published (id : UInt8) : Option Size :=
  if id.toNat ∈ oneByte then some (.fixed 1)
  else if id.toNat ∈ twoBytes then some (.fixed 2)
  else if id.toNat ∈ threeBytes then some (.fixed 3)
  else if id.toNat ∈ fourBytes then some (.fixed 4)
  else if id = 0x53 ∨ id = 0x54 then some .prefixed
  else none

inductive Field
  | packetId | battery | temperature | humidity | voltage | illuminance | motion | button | power
  | co2
  deriving DecidableEq

/-- The field of an id. -/
def Field.of (id : UInt8) : Option Field :=
  match id.toNat with
  | 0x00 => some .packetId
  | 0x01 => some .battery
  | 0x02 => some .temperature
  | 0x03 => some .humidity
  | 0x05 => some .illuminance
  | 0x0B => some .power
  | 0x0C => some .voltage
  | 0x12 => some .co2
  | 0x21 => some .motion
  | 0x2E => some .humidity
  | 0x3A => some .button
  | 0x45 => some .temperature
  | _ => none

def unsigned (payload : List UInt8) : Int := LittleEndian.value payload

/-- Two's complement. -/
def signed (payload : List UInt8) : Int := (unsigned payload).bmod (256 ^ payload.length)

/-- The value of an object in the unit of its field. Temperatures are signed; 0x45 counts tenths of
a degree and 0x2E whole percents where the field has hundredths. -/
def scaled (o : Object) : Int :=
  match o.id.toNat with
  | 0x02 => signed o.payload
  | 0x45 => 10 * signed o.payload
  | 0x2E => 100 * unsigned o.payload
  | _ => unsigned o.payload

/-- The value of the last object of a field. -/
def last (field : Field) (objs : List Object) : Option Int :=
  ((objs.filter fun o => Field.of o.id = some field).getLast?).map scaled

/-- A flag and its field. -/
def Reading.get (r : Reading) : Field → Option Int
  | .packetId => if r.havePacketId then some r.packetId.toNat else none
  | .battery => if r.haveBattery then some r.batteryPct.toNat else none
  | .temperature => if r.haveTemperature then some r.temperatureC100.toInt else none
  | .humidity => if r.haveHumidity then some r.humidityPct100.toNat else none
  | .voltage => if r.haveVoltage then some r.voltageMv.toNat else none
  | .illuminance => if r.haveIlluminance then some r.illuminanceLx100.toNat else none
  | .motion => if r.haveMotion then some r.motion.toNat else none
  | .button => if r.haveButton then some r.buttonEvent.toNat else none
  | .power => if r.havePower then some r.powerW100.toNat else none
  | .co2 => if r.haveCo2 then some r.co2Ppm.toNat else none

/-! ## What the decoder stores -/

/-- The value that an object leaves in its field: 0x45 is multiplied in 16 bits. -/
def stored (o : Object) : Int :=
  match o.id.toNat with
  | 0x45 => (scaled o).bmod 65536
  | _ => scaled o

section Stores

variable {r r' : Reading} {own : Field} {v : Int}

/-- An assignment to one field. -/
theorem get_assigned (here : r'.get own = some v) (elsewhere : ∀ f, f ≠ own → r'.get f = r.get f)
    (field : Field) : r'.get field = if own = field then some v else r.get field := by
  split
  · rename_i same
    exact same ▸ here
  · rename_i other
    exact elsewhere field (Ne.symm other)

theorem toInt_toInt16 (v : UInt16) : v.toInt16.toInt = (v.toNat : Int).bmod 65536 := by
  rw [← Int16.toInt_toBitVec, UInt16.toBitVec_toInt16, BitVec.toInt_eq_toNat_bmod]
  rfl

theorem rdU16_pair (a b : UInt8) :
    ∃ v, rdU16 (fun i => [a, b][i]?) = some v ∧ (v.toNat : Int) = unsigned [a, b] :=
  ⟨_, rfl, congrArg Nat.cast (LittleEndian.two a b)⟩

theorem rdS16_pair (a b : UInt8) :
    ∃ v, rdS16 (fun i => [a, b][i]?) = some v ∧ v.toInt = signed [a, b] := by
  obtain ⟨v, read, value⟩ := rdU16_pair a b
  refine ⟨v.toInt16, by rw [rdS16, read]; rfl, ?_⟩
  rw [toInt_toInt16, value, signed]
  norm_num

theorem rdU24_triple (a b c : UInt8) :
    ∃ v, rdU24 (fun i => [a, b, c][i]?) = some v ∧ (v.toNat : Int) = unsigned [a, b, c] :=
  ⟨_, rfl, congrArg Nat.cast (LittleEndian.three a b c)⟩

end Stores

theorem get_effect {o : Object} (whole : o.Whole objSizes) (r : Reading) (field : Field) :
    (effect r o).get field =
      if Field.of o.id = some field then some (stored o) else r.get field := by
  have length {k n : Nat} (isId : o.id.toNat = k)
      (entry : objSizes (UInt8.ofNat k) = some (.fixed n)) : o.payload.length = n :=
    length_payload whole isId entry
  obtain ⟨id, payload⟩ := o
  unfold effect store
  dsimp only at length ⊢
  split
  case h_13 =>
    rename_i other
    have none : Field.of id = none := by
      unfold Field.of
      split <;> first | rfl | contradiction
    simp [none]
  all_goals
    rename_i isId
    simp only [Field.of, stored, scaled, isId, Option.some.injEq]
  case' h_1 | h_2 | h_9 | h_10 | h_11 =>
    obtain ⟨a, rfl⟩ := List.length_eq_one_iff.mp (length isId (n := 1) (by decide))
    have small := a.toNat_lt
    refine get_assigned (by simp [Reading.get, unsigned] <;> omega) ?_ field
  case' h_4 | h_7 | h_8 =>
    obtain ⟨a, b, rfl⟩ := List.length_eq_two.mp (length isId (n := 2) (by decide))
    obtain ⟨v, read, value⟩ := rdU16_pair a b
    simp only [read, ← value]
    refine get_assigned (by simp [Reading.get]) ?_ field
  case' h_3 =>
    obtain ⟨a, b, rfl⟩ := List.length_eq_two.mp (length isId (n := 2) (by decide))
    obtain ⟨v, read, value⟩ := rdS16_pair a b
    simp only [read, ← value]
    refine get_assigned (by simp [Reading.get]) ?_ field
  case' h_12 =>
    obtain ⟨a, b, rfl⟩ := List.length_eq_two.mp (length isId (n := 2) (by decide))
    obtain ⟨v, read, value⟩ := rdS16_pair a b
    simp only [read, ← value]
    refine get_assigned (by simp [Reading.get, Int16.toInt_mul, Int.mul_comm]) ?_ field
  case' h_5 | h_6 =>
    obtain ⟨a, b, c, rfl⟩ := List.length_eq_three.mp (length isId (n := 3) (by decide))
    obtain ⟨v, read, value⟩ := rdU24_triple a b c
    simp only [read, ← value]
    refine get_assigned (by simp [Reading.get]) ?_ field
  -- no assignment touches the value of another field
  all_goals
    intro f other
    cases f <;> first | rfl | exact absurd rfl other

/-- The last object of a field decides. -/
theorem get_foldl {objs : List Object} (whole : ∀ o ∈ objs, o.Whole objSizes) (r : Reading)
    (field : Field) :
    (objs.foldl effect r).get field =
      (((objs.filter fun o => Field.of o.id = some field).getLast?).map stored).or
        (r.get field) := by
  induction objs generalizing r with
  | nil => rfl
  | cons o objs ih =>
      have later : ∀ o ∈ objs, o.Whole objSizes := fun o mem => whole o (List.mem_cons_of_mem _ mem)
      rw [List.foldl_cons, ih later, get_effect (whole o List.mem_cons_self)]
      by_cases own : Field.of o.id = some field
      · rw [if_pos own, List.filter_cons_of_pos (by simpa using own), List.getLast?_cons]
        cases (objs.filter fun o => Field.of o.id = some field).getLast? <;> rfl
      · rw [if_neg own, List.filter_cons_of_neg (by simpa using own)]

theorem get_foldl_cleared {objs : List Object} (whole : ∀ o ∈ objs, o.Whole objSizes)
    (addr : UInt64) (nowMs : UInt32) (field : Field) :
    (objs.foldl effect { addr, lastMs := nowMs }).get field =
      ((objs.filter fun o => Field.of o.id = some field).getLast?).map stored := by
  have cleared : ({ addr, lastMs := nowMs } : Reading).get field = none := by cases field <;> rfl
  rw [get_foldl whole, cleared, Option.or_none]

/-- **The BTHome walk.** After every sequence of frames, `ingest` fetches nothing outside its data
and ends. What is not BTHome v2 is ignored; otherwise the entry of the address is that of an
encrypted frame, or what the longest sequence of whole objects in front of the payload makes of a
cleared one: each field is that of the last object for it. At most 32 addresses are cached, each
once, and the other entries stay as they are, but for one that makes room for a new address. -/
theorem bthome_walk (frames : List Frame) :
    ∃ cache, run frames = some cache ∧ (cache.map Reading.addr).Nodup ∧
      cache.length ≤ cacheSize ∧
      ∀ addr data nowMs, ∃ after, ingest cache addr data nowMs = some after ∧
        Ingested addr data nowMs cache after ∧
        ∀ payload objs, LongestPrefix objSizes payload objs → ∀ field,
          (objs.foldl effect { addr, lastMs := nowMs }).get field =
            ((objs.filter fun o => Field.of o.id = some field).getLast?).map stored := by
  obtain ⟨cache, ran, inv⟩ := run_inv frames
  refine ⟨cache, ran, inv.distinct, inv.bounded, fun addr data nowMs => ?_⟩
  obtain ⟨after, done, -, leaves⟩ := ingested inv addr data nowMs
  refine ⟨after, done, leaves, fun payload objs longest field => ?_⟩
  exact get_foldl_cleared longest.whole addr nowMs field

/-! ## Frames in step -/

/-- No object of a size that the table has wrong. -/
def InStep (objs : List Object) : Prop :=
  ∀ o ∈ objs, o.id ≠ 0x5B ∧ o.id ≠ 0x5C

/-- The last temperature fits its field. -/
def TemperatureFits (objs : List Object) : Prop :=
  ∀ v ∈ last .temperature objs, -32768 ≤ v ∧ v ≤ 32767

/-- The table has 96 entries, and the ids of the format here are below that. -/
theorem published_beyond {id : UInt8} (beyond : 96 ≤ id.toNat) : published id = none := by
  have listed : ∀ k ∈ oneByte ++ twoBytes ++ threeBytes ++ fourBytes ++ [0x53, 0x54], k < 96 := by
    decide
  have absent : id.toNat ∉ oneByte ++ twoBytes ++ threeBytes ++ fourBytes ++ [0x53, 0x54] :=
    fun mem => Nat.not_lt.mpr beyond (listed _ mem)
  simp only [List.mem_append, not_or] at absent
  obtain ⟨⟨⟨⟨one, two⟩, three⟩, four⟩, text⟩ := absent
  have noText : ¬ (id = 0x53 ∨ id = 0x54) := by
    rintro (rfl | rfl) <;> exact text (by decide)
  rw [published, if_neg one, if_neg two, if_neg three, if_neg four, if_neg noText]

/-- **The table has the published sizes**, except for two. -/
theorem objSizes_eq_published (id : UInt8) (count : id ≠ 0x5B) (power : id ≠ 0x5C) :
    objSizes id = published id := by
  have all : ∀ n ∈ List.range 96, UInt8.ofNat n ≠ 0x5B → UInt8.ofNat n ≠ 0x5C →
      objSizes (UInt8.ofNat n) = published (UInt8.ofNat n) := by decide +kernel
  by_cases listed : id.toNat < 96
  · have here := all id.toNat (List.mem_range.mpr listed)
    rw [UInt8.ofNat_toNat] at here
    exact here count power
  · have beyond := Nat.le_of_not_lt listed
    have noEntry : kObjSize[id.toNat]? = none := List.getElem?_eq_none beyond
    rw [published_beyond beyond, objSizes, noEntry]

section InStep

variable {objs : List Object}

theorem InStep.whole (inStep : InStep objs) (whole : ∀ o ∈ objs, o.Whole published) :
    ∀ o ∈ objs, o.Whole objSizes := by
  intro o mem
  obtain ⟨size, isSize, fits⟩ := whole o mem
  exact ⟨size, (objSizes_eq_published _ (inStep o mem).1 (inStep o mem).2).symm ▸ isSize, fits⟩

theorem InStep.encodeAll_eq (inStep : InStep objs) :
    encodeAll published objs = encodeAll objSizes objs := by
  unfold encodeAll
  refine List.flatMap_congr fun o mem => ?_
  rw [Object.encode, Object.encode, objSizes_eq_published _ (inStep o mem).1 (inStep o mem).2]

theorem InStep.objects_eq (inStep : InStep objs) (whole : ∀ o ∈ objs, o.Whole published)
    (rest : List UInt8) :
    objects objSizes (encodeAll published objs ++ rest) = objs ++ objects objSizes rest := by
  rw [inStep.encodeAll_eq, objects_encodeAll (inStep.whole whole)]

/-- In 16 bits, a number is itself if it fits. -/
theorem bmod_eq_iff (v : Int) : v.bmod 65536 = v ↔ -32768 ≤ v ∧ v ≤ 32767 := by
  rw [Int.bmod_def]
  constructor
  · intro same
    split at same <;> omega
  · intro fits
    split <;> omega

theorem stored_eq_scaled_iff {o : Object} (whole : o.Whole objSizes) :
    stored o = scaled o ↔
      (Field.of o.id = some .temperature → -32768 ≤ scaled o ∧ scaled o ≤ 32767) := by
  by_cases tenths : o.id.toNat = 0x45
  · simp only [stored, Field.of, tenths, true_imp_iff]
    exact bmod_eq_iff _
  · have same : stored o = scaled o := by
      unfold stored
      split
      · contradiction
      · rfl
    refine iff_of_true same fun temperature => ?_
    have hundredths : o.id.toNat = 0x02 := by
      unfold Field.of at temperature
      split at temperature <;> first | assumption | contradiction
    have length := length_payload whole hundredths (n := 2) (by decide)
    have wraps : scaled o = (unsigned o.payload).bmod 65536 := by
      simp only [scaled, hundredths, signed, length]
      norm_num
    rw [← bmod_eq_iff, wraps, Int.bmod_bmod]

/-- Among whole objects the fields are exact if and only if the last temperature fits. -/
theorem fields_exact_iff (whole : ∀ o ∈ objs, o.Whole objSizes) :
    (∀ field, ((objs.filter fun o => Field.of o.id = some field).getLast?).map stored =
      last field objs) ↔ TemperatureFits objs := by
  have exact_iff (field : Field) :
      (((objs.filter fun o => Field.of o.id = some field).getLast?).map stored =
        last field objs) ↔
      (field = .temperature → ∀ v ∈ last field objs, -32768 ≤ v ∧ v ≤ 32767) := by
    unfold last
    cases final : (objs.filter fun o => Field.of o.id = some field).getLast? with
    | none => simp
    | some o =>
        have mem := List.mem_filter.mp (List.mem_of_getLast? final)
        have own : Field.of o.id = some field := by simpa using mem.2
        simp [stored_eq_scaled_iff (whole o mem.1), own]
  simp only [exact_iff]
  constructor
  · intro fits
    exact fits _ rfl
  · rintro fits _ rfl
    exact fits

end InStep

/-! ## Frames -/

/-- An unencrypted frame of whole objects. -/
structure ClearFrame where
  info : UInt8
  objs : List Object
  v2 : version info = 0x02
  clear : info &&& 0x01 = 0
  whole : ∀ o ∈ objs, o.Whole published

def ClearFrame.data (f : ClearFrame) : List UInt8 :=
  f.info :: encodeAll published f.objs

/-- The frame leaves one entry for its address, with the fields of its objects. -/
def DecodesAs (cache : List Reading) (addr : UInt64) (nowMs : UInt32) (f : ClearFrame) : Prop :=
  ∃ after entry, ingest cache addr f.data nowMs = some after ∧
    after.filter (fun r => r.addr = addr) = [entry] ∧ ∀ field, entry.get field = last field f.objs

/-- The same objects, with other values for those of a size that the table has wrong. -/
def ClearFrame.Revalued (f g : ClearFrame) : Prop :=
  List.Forall₂ (fun o o' => o.id = o'.id ∧ (o.id = 0x5B ∨ o.id = 0x5C ∨ o.payload = o'.payload))
    f.objs g.objs

section Frames

variable {cache : List Reading} (addr : UInt64) (nowMs : UInt32)

/-- The entry is made of the objects that `kObjSize` finds. -/
theorem decodesAs_iff (inv : Inv cache) (f : ClearFrame) :
    DecodesAs cache addr nowMs f ↔ ∀ field,
      (((objects objSizes (encodeAll published f.objs)).filter fun o =>
        Field.of o.id = some field).getLast?).map stored = last field f.objs := by
  obtain ⟨after, done, -, leaves⟩ := ingested inv addr f.data nowMs
  obtain ⟨objs, longest, only⟩ := leaves.decoded _ _ rfl f.v2 f.clear
  rw [← longest.eq_objects]
  simp only [← get_foldl_cleared longest.whole addr nowMs]
  constructor
  · rintro ⟨after', entry, done', only', fields⟩
    obtain rfl : after = after' := Option.some.inj (done.symm.trans done')
    obtain rfl : _ = entry := (List.cons.inj (only.symm.trans only')).1
    exact fields
  · intro fields
    exact ⟨after, _, done, only, fields⟩

theorem decodesAs_iff_fits (inv : Inv cache) {f : ClearFrame} (inStep : InStep f.objs) :
    DecodesAs cache addr nowMs f ↔ TemperatureFits f.objs := by
  have found := inStep.objects_eq f.whole []
  have none : objects objSizes [] = [] := objects_of_none rfl
  rw [List.append_nil, none, List.append_nil] at found
  rw [decodesAs_iff addr nowMs inv, found, fields_exact_iff (inStep.whole f.whole)]

/-- A 32-bit object whose second byte is 0 ends as a packet id, and the 0xFF behind it is no id. -/
theorem objects_outOfStep {pre : List Object} {id : UInt8} (inStep : InStep pre)
    (whole : ∀ o ∈ pre, o.Whole published) (wrong : id = 0x5B ∨ id = 0x5C) (v : UInt8)
    (post : List Object) :
    objects objSizes (encodeAll published (pre ++ ⟨id, [0, 0x00, v, 0xFF]⟩ :: post)) =
      pre ++ [⟨id, [0]⟩, ⟨0x00, [v]⟩] := by
  have misread : encodeAll published (⟨id, [0, 0x00, v, 0xFF]⟩ :: post) =
      encodeAll objSizes [⟨id, [0]⟩, ⟨0x00, [v]⟩] ++ 0xFF :: encodeAll published post := by
    rcases wrong with rfl | rfl <;> rfl
  have byte : ∀ o ∈ ([⟨id, [0]⟩, ⟨0x00, [v]⟩] : List Object), o.Whole objSizes := by
    have wrongSize : objSizes id = some (.fixed 1) := by rcases wrong with rfl | rfl <;> rfl
    rintro o (_ | ⟨_, _ | ⟨_, none⟩⟩)
    · exact ⟨_, wrongSize, rfl⟩
    · exact ⟨.fixed 1, rfl, rfl⟩
    · cases none
  rw [encodeAll, List.flatMap_append, ← encodeAll, ← encodeAll, inStep.objects_eq whole, misread,
    objects_encodeAll byte, objects_of_none rfl, List.append_nil]

theorem first_outOfStep {objs : List Object} (outOfStep : ¬ InStep objs) :
    ∃ pre o post, objs = pre ++ o :: post ∧ InStep pre ∧ (o.id = 0x5B ∨ o.id = 0x5C) := by
  induction objs with
  | nil => exact absurd nofun outOfStep
  | cons o objs ih =>
      by_cases wrong : o.id = 0x5B ∨ o.id = 0x5C
      · exact ⟨[], o, objs, rfl, nofun, wrong⟩
      · have right := not_or.mp wrong
        have later : ¬ InStep objs := fun inStep =>
          outOfStep (List.forall_mem_cons.mpr ⟨right, inStep⟩)
        obtain ⟨pre, o', post, rfl, inStep, wrong'⟩ := ih later
        exact ⟨o :: pre, o', post, rfl, List.forall_mem_cons.mpr ⟨right, inStep⟩, wrong'⟩

theorem exists_revalued (inv : Inv cache) {f : ClearFrame} (outOfStep : ¬ InStep f.objs) :
    ∃ g : ClearFrame, f.Revalued g ∧ ¬ DecodesAs cache addr nowMs g := by
  obtain ⟨pre, o, post, split, before, wrong⟩ :
      ∃ pre o post, f.objs = pre ++ o :: post ∧ InStep pre ∧ (o.id = 0x5B ∨ o.id = 0x5C) :=
    first_outOfStep outOfStep
  have whole := f.whole
  rw [split] at whole
  have here : ∃ size ∈ published o.id, size.Fits 4 := by
    rcases wrong with id | id <;> exact ⟨.fixed 4, id ▸ rfl, rfl⟩
  let packetIds := (pre ++ post).filter fun o => Field.of o.id = some .packetId
  obtain ⟨v, other⟩ : ∃ v : UInt8, some (v.toNat : Int) ≠ packetIds.getLast?.map scaled := by
    by_cases zero : some (0 : Int) = packetIds.getLast?.map scaled
    · exact ⟨1, zero ▸ nofun⟩
    · exact ⟨0, zero⟩
  let g : ClearFrame :=
    { f with
      objs := pre ++ ⟨o.id, [0, 0x00, v, 0xFF]⟩ :: post
      whole := by
        intro o' mem
        rcases List.mem_append.mp mem with mem | mem
        · exact whole o' (List.mem_append_left _ mem)
        · rcases List.mem_cons.mp mem with rfl | mem
          · exact here
          · exact whole o' (List.mem_append_right _ (List.mem_cons_of_mem _ mem)) }
  refine ⟨g, ?_, fun decodes => ?_⟩
  · have same (objs : List Object) : List.Forall₂ (fun o o' : Object =>
        o.id = o'.id ∧ (o.id = 0x5B ∨ o.id = 0x5C ∨ o.payload = o'.payload)) objs objs :=
      List.forall₂_same.mpr fun _ _ => ⟨rfl, .inr (.inr rfl)⟩
    unfold ClearFrame.Revalued
    rw [split]
    exact List.rel_append (same pre) (.cons ⟨rfl, by tauto⟩ (same post))
  · have fields := (decodesAs_iff addr nowMs inv g).mp decodes .packetId
    have noField : Field.of o.id = none := by rcases wrong with id | id <;> rw [id] <;> rfl
    have read : (objects objSizes (encodeAll published g.objs)).filter
        (fun o => Field.of o.id = some .packetId) =
          (pre.filter fun o => Field.of o.id = some .packetId) ++ [⟨0x00, [v]⟩] := by
      have isId : Field.of 0x00 = some .packetId := rfl
      have found := objects_outOfStep before
        (fun o mem => whole o (List.mem_append_left _ mem)) wrong v post
      rw [found, List.filter_append, List.filter_cons_of_neg (by simp [noField]),
        List.filter_cons_of_pos (by simp [isId]), List.filter_nil]
    have sent : last .packetId g.objs = packetIds.getLast?.map scaled := by
      unfold last
      rw [List.filter_append, List.filter_cons_of_neg (by simp [noField]), ← List.filter_append]
    rw [read, sent, List.getLast?_concat] at fields
    have value : stored ⟨0x00, [v]⟩ = v.toNat := by
      simp [stored, scaled, unsigned, LittleEndian.value]
    exact other (value ▸ fields)

end Frames

/-- **Exact values.** Take an unencrypted frame of whole objects after any others. Without a 32-bit
object of 0x5B or 0x5C, each flag is set if and only if the frame has an object of the field, and
the field has the scaled value of the last one, if and only if the last temperature fits in 16
bits. With such an object the bytes of its value are taken for objects, and for some values the
frame is not decoded as sent. -/
theorem decodes_iff (frames : List Frame) (addr : UInt64) (nowMs : UInt32) (f : ClearFrame) :
    ∃ cache, run frames = some cache ∧
      (InStep f.objs → (DecodesAs cache addr nowMs f ↔ TemperatureFits f.objs)) ∧
      (¬ InStep f.objs → ∃ g : ClearFrame, f.Revalued g ∧ ¬ DecodesAs cache addr nowMs g) := by
  obtain ⟨cache, ran, inv⟩ := run_inv frames
  exact ⟨cache, ran, decodesAs_iff_fits addr nowMs inv, exists_revalued addr nowMs inv⟩

/-- A frame of a count of 0x00070000. -/
def countFrame : ClearFrame where
  info := 0x40
  objs := [⟨0x5B, [0, 0, 7, 0]⟩]
  v2 := rfl
  clear := rfl
  whole := List.forall_mem_singleton.mpr ⟨.fixed 4, rfl, rfl⟩

/-- A frame of 400.0 degrees. -/
def hotFrame : ClearFrame where
  info := 0x40
  objs := [⟨0x45, [0xA0, 0x0F]⟩]
  v2 := rfl
  clear := rfl
  whole := List.forall_mem_singleton.mpr ⟨.fixed 2, rfl, rfl⟩

/-- The one is decoded as packet 7, the other as -255.36 degrees. -/
theorem misdecoded : ¬ DecodesAs [] 1 0 countFrame ∧ ¬ DecodesAs [] 1 0 hotFrame := by
  constructor
  · rintro ⟨after, entry, done, only, fields⟩
    cases done
    cases only
    exact absurd (fields .packetId) (by decide)
  · rintro ⟨after, entry, done, only, fields⟩
    cases done
    cases only
    exact absurd (fields .temperature) (by decide)

end NimbleProxy.Backend.Bthome
