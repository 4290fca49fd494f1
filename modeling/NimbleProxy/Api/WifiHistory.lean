/-
# Api.WifiHistory -- GET /wifihist

`wifihist_get` and `wifihist_emit` of `stats.cpp`. The samples of the history are sent as one
object with an array for each field, in chunks of at most 768 bytes: in front of each value the
buffer is sent if less than 16 bytes are left. No value has more than five characters, so
the buffer is never left, and the chunks are together the object that is meant
(`flatten_wifihistGet`).

The samples and the interval are from one call of `get_history`.
-/
import NimbleProxy.Liveness.History
import NimbleProxy.Theory.ChunkedPrint
import NimbleProxy.Theory.CString
import NimbleProxy.Theory.PrintedJson

namespace NimbleProxy.Api.WifiHistory

open NimbleProxy.Theory BoundedPrint CString
open NimbleProxy.Theory.Json (decimal integer quote memberText nullText separated more)
open NimbleProxy.Liveness.History (WifiSample Ring Probe getHistory after recorded)

set_option autoImplicit false

inductive WifiField
  | rssi
  | ap
  | rtt
  | sta

/-- `v` and `isnull` of a sample. -/
def WifiField.read (s : WifiSample) : WifiField → Int × Bool
  | .rssi => (s.staRssi.toInt, s.staRssi == 0)
  | .ap => (s.apRssi.toInt, s.apRssi == 0)
  | .rtt => (s.rttMs.toNat, s.rttMs == 0xFFFF)
  | .sta => (s.staCount.toNat, false)

/-- One round of `wifihist_emit`: sample number `p.2`. -/
def emitValue (buf : Nat) (f : WifiField) (c : Chunks) (p : WifiSample × Nat) : Chunks :=
  let c := flush buf 768 16 c
  let c := if p.2 ≠ 0 then { c with w := put buf [44] c.w } else c
  match f.read p.1 with
  | (_, true) => { c with w := put buf nullText c.w }
  | (v, false) => { c with w := append buf 768 (integer v) c.w }

/-- `wifihist_emit` with its `b` at `buf`: the chunks that it sends. -/
def wifihistEmit (buf : Nat) (mem : Memory) (name : List UInt8) (f : WifiField) (s : List WifiSample)
    (commaAfter : Bool) : Memory × List (List UInt8) :=
  let c : Chunks := ⟨append buf 768 (34 :: (name ++ ascii "\":[")) ⟨mem, 0⟩, []⟩
  let c := s.zipIdx.foldl (emitValue buf f) c
  let c := { c with w := put buf [93] c.w }
  let c := if commaAfter then { c with w := put buf [44] c.w } else c
  (c.w.mem, c.send buf)

/-- The text of `head`. -/
def headText (interval : UInt32) (n : Nat) : List UInt8 :=
  ascii "\x7b\"interval\":" ++ (decimal interval.toNat ++ (ascii ",\"count\":" ++ (decimal n ++ [44])))

/-- `wifihist_get`, with `head` and the buffer of `wifihist_emit` in memory. -/
def wifihistGet (head buf : Nat) (mem : Memory) (interval : UInt32) (h : Ring) : List (List UInt8) :=
  let s := getHistory h 120
  let mem := snprintf mem head 64 (headText interval s.length)
  let sent := mem.load head (headText interval s.length).length
  let (mem, rssi) := wifihistEmit buf mem (ascii "rssi") .rssi s true
  let (mem, ap) := wifihistEmit buf mem (ascii "ap") .ap s true
  let (mem, rtt) := wifihistEmit buf mem (ascii "rtt") .rtt s true
  let (_, sta) := wifihistEmit buf mem (ascii "sta") .sta s false
  sent :: (rssi ++ ap ++ rtt ++ sta ++ [ascii "\x7d"])

/-! ## The object -/

/-- A value of a sample, null if it is not known. -/
def valueJson : WifiField → WifiSample → Json
  | .rssi, s => if s.staRssi = 0 then .null else .num s.staRssi.toInt
  | .ap, s => if s.apRssi = 0 then .null else .num s.apRssi.toInt
  | .rtt, s => if s.rttMs = 0xFFFF then .null else .num s.rttMs.toNat
  | .sta, s => .num s.staCount.toNat

/-- The object that is meant. -/
def historyJson (interval : UInt32) (s : List WifiSample) : Json :=
  .obj [(ascii "interval", .num interval.toNat), (ascii "count", .num s.length),
    (ascii "rssi", .arr (s.map (valueJson .rssi))), (ascii "ap", .arr (s.map (valueJson .ap))),
    (ascii "rtt", .arr (s.map (valueJson .rtt))), (ascii "sta", .arr (s.map (valueJson .sta)))]

section Emit

variable {buf : Nat} {mem before : Memory} {f : WifiField} {c : Chunks} {text name : List UInt8}
  {s : List WifiSample} {comma : Bool}

/-- That is what the switch reads. -/
theorem valueJson_eq (f : WifiField) (s : WifiSample) :
    valueJson f s = if (f.read s).2 then .null else .num (f.read s).1 := by
  cases f <;> simp [valueJson, WifiField.read]

theorem valueJson_null (s : WifiSample) :
    (valueJson .rssi s = .null ↔ s.staRssi = 0) ∧ (valueJson .ap s = .null ↔ s.apRssi = 0) ∧
      (valueJson .rtt s = .null ↔ s.rttMs = 0xFFFF) ∧ valueJson .sta s ≠ .null := by
  simp [valueJson]

theorem length_integer_toInt (v : Int8) : (integer v.toInt).length ≤ 5 := by
  have low := v.le_toInt
  have high := v.toInt_lt
  exact Json.length_integer_le (k := 4) (by decide) (by omega) (by omega)

/-- No value has more than five characters. -/
theorem length_integer_read (f : WifiField) (s : WifiSample) : (integer (f.read s).1).length ≤ 5 := by
  cases f with
  | rssi => exact length_integer_toInt s.staRssi
  | ap => exact length_integer_toInt s.apRssi
  | rtt => exact Json.length_decimal_le (by decide) (Nat.lt_trans s.rttMs.toNat_lt (by decide))
  | sta => exact Json.length_decimal_le (by decide) (Nat.lt_trans s.staCount.toNat_lt (by decide))

/-- The text of a value. -/
theorem render_valueJson (f : WifiField) (s : WifiSample) :
    (valueJson f s).render = if (f.read s).2 then nullText else integer (f.read s).1 := by
  rw [valueJson_eq]
  split <;> rw [Json.render]

/-- **One round.** -/
theorem printed_emitValue {most : Nat} (printed : Printed buf 768 before most c text)
    (p : WifiSample × Nat) :
    Printed buf 768 before 759 (emitValue buf f c p)
      (text ++ ((if p.2 ≠ 0 then [44] else []) ++ (valueJson f p.1).render)) := by
  have flushed := printed.flush 16
  have comma : Printed buf 768 before 753
      (if p.2 ≠ 0 then { flush buf 768 16 c with w := put buf [44] (flush buf 768 16 c).w }
        else flush buf 768 16 c) (text ++ if p.2 ≠ 0 then [44] else []) := by
    by_cases first : p.2 ≠ 0
    · rw [if_pos first, if_pos first]
      exact flushed.put [44] (by decide)
    · rw [if_neg first, if_neg first, List.append_nil]
      exact flushed.mono (by decide)
  have size := length_integer_read f p.1
  rw [render_valueJson, ← List.append_assoc]
  unfold emitValue
  dsimp only
  generalize f.read p.1 = value at size ⊢
  obtain ⟨v, _ | _⟩ := value
  · dsimp only at size
    exact (comma.append (by decide) (integer v) (by omega)).mono (by omega)
  · exact (comma.put nullText (by decide)).mono (by decide)

/-- **One array.** It is sent in chunks that are together its text, and nothing outside of the buffer
is written. -/
theorem wifihistEmit_spec (short : name.length ≤ 755) (mem : Memory) (f : WifiField)
    (s : List WifiSample) (comma : Bool) :
    (wifihistEmit buf mem name f s comma).2.flatten =
        34 :: (name ++ ascii "\":[") ++ separated (s.map fun x => (valueJson f x).render) ++ [93] ++
          (if comma then [44] else []) ∧
      [] ∉ (wifihistEmit buf mem name f s comma).2 ∧
      ∀ i, i < buf ∨ buf + 768 ≤ i → (wifihistEmit buf mem name f s comma).1 i = mem i := by
  have length : (34 :: (name ++ ascii "\":[")).length = name.length + 4 := by
    rw [List.length_cons, List.length_append]
    rfl
  have opening := (printed_start buf (by decide) mem).append (by decide) (34 :: (name ++ ascii "\":["))
    (show 0 + (34 :: (name ++ ascii "\":[")).length < 768 by omega)
  have each (c : Chunks) (text : List UInt8) (p : WifiSample × Nat)
      (printed : Printed buf 768 mem 759 c text) := printed_emitValue (f := f) printed p
  have array := Printed.foldl each (opening.mono (n := 759) (by omega)) s.zipIdx
  rw [Json.flatMap_zipIdx_comma (fun x => (valueJson f x).render), List.nil_append] at array
  have closed := array.put [93] (by decide)
  cases comma with
  | false =>
      obtain ⟨text, some_⟩ := closed.send
      obtain ⟨out, written, -⟩ := closed
      refine ⟨?_, some_ (Nat.succ_pos _), written.frame⟩
      rw [if_neg Bool.false_ne_true, List.append_nil]
      exact text
  | true =>
      have more_ := closed.put [44] (by decide)
      obtain ⟨text, some_⟩ := more_.send
      obtain ⟨out, written, -⟩ := more_
      exact ⟨text, some_ (Nat.succ_pos _), written.frame⟩

/-- An array is a member of the object. -/
theorem flatten_wifihistEmit (plain : Json.Plain name) (short : name.length ≤ 755) :
    (wifihistEmit buf mem name f s comma).2.flatten =
      memberText (name, .arr (s.map (valueJson f))) ++ if comma then [44] else [] := by
  have opened : ascii "\":[" = [34, 58, 91] := by decide
  rw [(wifihistEmit_spec short mem f s comma).1, Json.memberText_arr, plain.quote, opened, List.map_map]
  simp only [List.cons_append, List.append_assoc, List.nil_append]
  rfl

end Emit

section Get

variable {head buf : Nat} {mem : Memory} {interval : UInt32} {h : Ring} {n : Nat}

theorem length_headText_lt (interval : UInt32) (few : n ≤ 120) : (headText interval n).length < 64 := by
  have first : (decimal interval.toNat).length ≤ 10 :=
    Json.length_decimal_le (by decide) (Nat.lt_trans interval.toNat_lt (by decide))
  have second : (decimal n).length ≤ 3 := Json.length_decimal_le (by decide) (by omega)
  have texts : (ascii "\x7b\"interval\":").length = 12 ∧ (ascii ",\"count\":").length = 9 := by decide
  simp only [headText, List.length_append, List.length_singleton, texts.1, texts.2]
  omega

/-- A text that fits is what is loaded. -/
theorem load_snprintf {at_ size : Nat} {text : List UInt8} (fits : text.length < size) :
    (snprintf mem at_ size text).load at_ text.length = text := by
  rw [snprintf, if_neg (by omega), List.take_of_length_le (by omega), Memory.store_append,
    Memory.load_store_apart (.inl (Nat.le_refl _)), Memory.load_store]

theorem headText_eq (interval : UInt32) (n : Nat) :
    headText interval n =
      123 :: (memberText (ascii "interval", .num interval.toNat) ++
        44 :: (memberText (ascii "count", .num n) ++ [44])) := by
  have first : ascii "\x7b\"interval\":" = 123 :: (quote (ascii "interval") ++ [58]) := by decide
  have second : ascii ",\"count\":" = 44 :: (quote (ascii "count") ++ [58]) := by decide
  rw [headText, first, second, Json.memberText_nat, Json.memberText_nat]
  simp only [List.cons_append, List.append_assoc, List.nil_append]

/-- **The chunks together.** -/
theorem flatten_wifihistGet (head buf : Nat) (mem : Memory) (interval : UInt32) (h : Ring) :
    (wifihistGet head buf mem interval h).flatten =
      (historyJson interval (getHistory h 120)).render := by
  have few := Liveness.History.length_getHistory_le h 120
  have plain : Json.Plain (ascii "rssi") ∧ Json.Plain (ascii "ap") ∧ Json.Plain (ascii "rtt") ∧
      Json.Plain (ascii "sta") := by decide
  have close : ascii "\x7d" = [125] := by decide
  unfold wifihistGet
  dsimp only
  rw [List.flatten_cons, List.flatten_append, List.flatten_append, List.flatten_append,
    List.flatten_append, flatten_wifihistEmit plain.1 (by decide),
    flatten_wifihistEmit plain.2.1 (by decide), flatten_wifihistEmit plain.2.2.1 (by decide),
    flatten_wifihistEmit plain.2.2.2 (by decide), load_snprintf (length_headText_lt interval few),
    headText_eq, close, historyJson, Json.render_obj_cons]
  simp only [Json.more_cons, Json.more_nil, if_true, if_neg Bool.false_ne_true, List.append_nil,
    List.cons_append, List.append_assoc, List.nil_append, List.flatten_singleton]

/-- No chunk is empty: an empty one would end the answer. -/
theorem nil_notMem_wifihistGet (head buf : Nat) (mem : Memory) (interval : UInt32) (h : Ring) :
    [] ∉ wifihistGet head buf mem interval h := by
  have few := Liveness.History.length_getHistory_le h 120
  unfold wifihistGet
  dsimp only
  rw [load_snprintf (length_headText_lt interval few), headText_eq]
  simp only [List.mem_cons, List.mem_append, List.not_mem_nil, or_false, not_or]
  refine ⟨nofun, ⟨⟨⟨?_, ?_⟩, ?_⟩, ?_⟩, by decide⟩
  · exact (wifihistEmit_spec (by decide) _ _ _ _).2.1
  · exact (wifihistEmit_spec (by decide) _ _ _ _).2.1
  · exact (wifihistEmit_spec (by decide) _ _ _ _).2.1
  · exact (wifihistEmit_spec (by decide) _ _ _ _).2.1

/-- **The history, and what is sent of it.** A reader is given the last samples, oldest first. The
chunks of GET /wifihist are together one object with these samples, in which exactly the values
that are not known are null; `wifihist_emit` writes nothing outside of its buffer. -/
theorem wifi_history (mutex : Bool) (probes : List Probe) (few : probes.length < 2 ^ 32) :
    (∀ max, getHistory (after mutex probes) max =
      (recorded mutex probes).rtake (min (min (recorded mutex probes).length 120) max)) ∧
    ∀ (head buf : Nat) (mem : Memory) (interval : UInt32) (h : Ring),
      Json.parse (wifihistGet head buf mem interval h).flatten =
          some (historyJson interval (getHistory h 120)) ∧
        [] ∉ wifihistGet head buf mem interval h ∧
        (∀ s, (valueJson .rssi s = .null ↔ s.staRssi = 0) ∧ (valueJson .ap s = .null ↔ s.apRssi = 0) ∧
          (valueJson .rtt s = .null ↔ s.rttMs = 0xFFFF) ∧ valueJson .sta s ≠ .null) ∧
        ∀ name ∈ [ascii "rssi", ascii "ap", ascii "rtt", ascii "sta"], ∀ f s comma i,
          i < buf ∨ buf + 768 ≤ i → (wifihistEmit buf mem name f s comma).1 i = mem i := by
  refine ⟨Liveness.History.getHistory_after mutex few, fun head buf mem interval h => ⟨?_,
    nil_notMem_wifihistGet head buf mem interval h, valueJson_null, fun name mem_ f s comma => ?_⟩⟩
  · rw [flatten_wifihistGet, Json.parse_render]
  · have short : name.length ≤ 755 := by
      have all : [ascii "rssi", ascii "ap", ascii "rtt", ascii "sta"].all (fun n => n.length ≤ 755) = true := by
        decide
      exact of_decide_eq_true (List.all_eq_true.mp all name mem_)
    exact (wifihistEmit_spec short mem f s comma).2.2

/-- A probe that failed behind two that did not, and a reader with room for two. -/
theorem wifi_history_two :
    getHistory (after true [⟨true, 9, some (-60), none⟩, ⟨true, 12, some (-61), some [-70, -81]⟩,
        ⟨false, 0, none, some []⟩]) 2 =
      [⟨-61, -81, 12, 2⟩, ⟨0, 0, 0xFFFF, 0⟩] :=
  ((wifi_history true [⟨true, 9, some (-60), none⟩, ⟨true, 12, some (-61), some [-70, -81]⟩,
    ⟨false, 0, none, some []⟩] (by decide)).1 2).trans (by decide)

end Get

end NimbleProxy.Api.WifiHistory
