/-
# Api.DevicesRendering -- the text of the device table, whole or cut

Every piece of `build_devices_json` is a piece in the sense of `Theory.BoundedPrint`: it
stays in the buffer wherever the text is cut, and if nothing has to be cut it prints its
part of the JSON text. Nine bytes to spare are what the check for a character of a name
asks for beyond the character (`prints_printName`). The pieces of a row make the text of
`rowJson`, and the rows that of `devicesJson`.
-/
import NimbleProxy.Api.DevicesJson

namespace NimbleProxy.Api.DevicesJson

open NimbleProxy.Theory BoundedPrint CString
open NimbleProxy.Theory.Json (Plain decimal integer hex4 escape quote separated memberText more more_cons
  more_append memberText_num memberText_nat memberText_str
  more_nil zero_notMem_decimal zero_notMem_integer)
open NimbleProxy.Backend.DeviceTable (DeviceRow Tag tagTexts devCap Call run inv_run)
open NimbleProxy.Backend.Bthome (Reading)

set_option autoImplicit false

/-! ## Texts that are printed as they are -/

theorem plain_hex02 (c : UInt8) : Plain (hex02 c) := Json.plain_hexByte_upper c.toNat_lt

theorem plain_addrText (addr : UInt64) : Plain (addrText addr) := by
  have byte (k : Nat) : Plain (hex02 (addrByte addr k)) := plain_hex02 _
  exact Json.forall_mem_colons (by decide) (byte 0) (byte 1) (byte 2) (byte 3) (byte 4) (byte 5)

theorem plain_tagBytes (tag : Tag) : Plain (tagBytes tag) := by
  have all : ∀ text ∈ tagTexts, Plain (text.toList.flatMap String.utf8EncodeChar) := by
    decide +kernel
  exact all tag.text tag.known

theorem plain_keys (r : Reading) : ∀ field ∈ fields r, Plain (ascii field.2.1) := by
  simp only [fields, List.forall_mem_cons]
  decide

/-! ## Members as they are printed -/

theorem app_text (n : Nat) :
    ascii ",\"app\":" ++ decimal n = 44 :: memberText (ascii "app", .num n) := by
  have word : ascii ",\"app\":" = 44 :: (quote (ascii "app") ++ [58]) := by decide
  simp [word, memberText_nat]

theorem conn_text : ascii ",\"conn\":1" = 44 :: memberText (ascii "conn", .num 1) := by
  rw [memberText_num]
  decide

theorem tag_text (tag : Tag) :
    ascii ",\"tag\":\"" ++ (tagBytes tag ++ ascii "\"") =
      44 :: memberText (ascii "tag", .str (tagBytes tag)) := by
  have word : ascii ",\"tag\":\"" = 44 :: (quote (ascii "tag") ++ [58, 34]) := by decide
  have last : ascii "\"" = [34] := by decide
  rw [memberText_str, (plain_tagBytes tag).quote, word, last]
  simp

theorem field_text (first : Bool) {k : String} (plain : Plain (ascii k)) (v : Int) :
    (if first then [] else ascii ",") ++
        (ascii "\"" ++ (ascii k ++ (ascii "\":" ++ integer v))) =
      (if first then [] else [44]) ++ memberText (ascii k, .num v) := by
  have comma : ascii "," = [44] := by decide
  have mark : ascii "\"" = [34] := by decide
  have colon : ascii "\":" = [34, 58] := by decide
  rw [memberText_num, plain.quote, comma, mark, colon]
  simp

theorem bthome_text : ascii ",\"bthome\":\x7b" = 44 :: (quote (ascii "bthome") ++ [58, 123]) := by
  decide

/-! ## Pieces -/

section Pieces

variable {buf cap : Nat}

theorem prints_text {text : List UInt8} (noNul : 0 ∉ text) :
    Prints buf cap 9 0 (printf buf cap text) text :=
  prints_printf noNul (by decide)

theorem prints_nameChar {c : UInt8} (some_ : c ≠ 0) :
    Prints buf cap 9 2 (nameChar buf cap c) (escape c) := by
  by_cases special : c = 34 ∨ c = 92
  · have same : nameChar buf cap c = put buf [92, c] := funext fun w => if_pos special
    have noNul : (0 : UInt8) ∉ [92, c] := by simpa using some_.symm
    rw [same, escape, if_pos special]
    exact prints_put noNul
  · by_cases control : c < 32
    · have same : nameChar buf cap c = printf buf cap (ascii "\\u" ++ hex4 c.toNat) :=
        funext fun w => (if_neg special).trans (if_pos control)
      have noNul : 0 ∉ ascii "\\u" ++ hex4 c.toNat :=
        List.not_mem_append (by decide) (Json.zero_notMem_hex4 _)
      rw [same, escape, if_neg special, if_pos control]
      exact (prints_text noNul).weaken (Nat.zero_le 2)
    · have same : nameChar buf cap c = put buf [c] :=
        funext fun w => (if_neg special).trans (if_neg control)
      have noNul : (0 : UInt8) ∉ [c] := by simpa using some_.symm
      rw [same, escape, if_neg special, if_neg control]
      exact (prints_put noNul).weaken (Nat.le_succ 1)

theorem prints_printName {s : List UInt8} (noNul : 0 ∉ s) :
    Prints buf cap 9 0 (printName buf cap s) (s.flatMap escape) := by
  induction s with
  | nil => exact prints_id
  | cons c rest ih =>
      rw [List.mem_cons, not_or] at noNul
      have first : Prints buf cap 9 2 (nameChar buf cap c) (escape c) :=
        prints_nameChar (Ne.symm noNul.1)
      exact (first.comp (ih noNul.2)).guard (n := 9) (by decide) (Nat.le_add_left 9 _)

theorem prints_close {c : UInt8} (some_ : c ≠ 0) :
    Prints buf cap 9 0 (close buf cap c) [c] := by
  have noNul : (0 : UInt8) ∉ [c] := by simpa using some_.symm
  exact (prints_put noNul).guard (n := 1) (Nat.le_refl 1) (by simp)

/-- A member that is printed as a whole. -/
theorem prints_more {text : List UInt8} {m : List UInt8 × Json} (noNul : 0 ∉ text)
    (same : text = 44 :: memberText m) :
    Prints buf cap 9 0 (printf buf cap text) (more [m]) := by
  rw [more_cons, more_nil, List.append_nil, ← same]
  exact prints_text noNul

theorem prints_appearance (row : DeviceRow) :
    Prints buf cap 9 0 (printAppearance buf cap row)
      (more (if row.appearance ≠ 0 then [(ascii "app", .num row.appearance.toNat)] else [])) := by
  have noNul : 0 ∉ ascii ",\"app\":" ++ decimal row.appearance.toNat :=
    List.not_mem_append (by decide) (zero_notMem_decimal _)
  rw [apply_ite more, more_nil]
  exact (prints_more noNul (app_text _)).when _

theorem prints_connectable (row : DeviceRow) :
    Prints buf cap 9 0 (printConnectable buf cap row)
      (more (if row.connectable then [(ascii "conn", .num 1)] else [])) := by
  rw [apply_ite more, more_nil]
  exact (prints_more (by decide) conn_text).when _

theorem prints_tag (row : DeviceRow) :
    Prints buf cap 9 0 (printTag buf cap row)
      (more (row.tag.map fun tag => (ascii "tag", .str (tagBytes tag))).toList) := by
  cases own : row.tag with
  | none =>
      have same : printTag buf cap row = id := funext fun w => by rw [printTag, own, id]
      rw [same]
      exact prints_id
  | some tag =>
      have same : printTag buf cap row =
          printf buf cap (ascii ",\"tag\":\"" ++ (tagBytes tag ++ ascii "\"")) :=
        funext fun w => by rw [printTag, own]
      have noNul : 0 ∉ ascii ",\"tag\":\"" ++ (tagBytes tag ++ ascii "\"") :=
        List.not_mem_append (by decide) (List.not_mem_append (plain_tagBytes tag).noNul (by decide))
      rw [same]
      exact prints_more noNul (tag_text tag)

/-- The members of `bthome`: with `first`, no comma is in front of the next one. -/
def fieldsText (first : Bool) (fields : List (Bool × String × Int)) : List UInt8 :=
  if first then separated ((fieldMembers fields).map memberText) else more (fieldMembers fields)

theorem fieldsText_cons (first : Bool) (k : String) (v : Int)
    (rest : List (Bool × String × Int)) :
    fieldsText first ((true, k, v) :: rest) =
      (if first then [] else [44]) ++ memberText (ascii k, .num v) ++ fieldsText false rest := by
  have members : fieldMembers ((true, k, v) :: rest) = (ascii k, .num v) :: fieldMembers rest := rfl
  cases first with
  | false => simp [fieldsText, members, more_cons]
  | true => simp only [fieldsText, members, Json.separated_members]; rfl

theorem prints_fields {fields : List (Bool × String × Int)}
    (keys : ∀ field ∈ fields, Plain (ascii field.2.1)) (first : Bool) :
    Prints buf cap 9 0 (printFields buf cap first fields) (fieldsText first fields) := by
  induction fields generalizing first with
  | nil => cases first <;> exact prints_id
  | cons field rest ih =>
      obtain ⟨present, k, v⟩ := field
      rw [List.forall_mem_cons] at keys
      cases present with
      | false => exact ih keys.2 first
      | true =>
          have noNul : 0 ∉ (if first then [] else ascii ",") ++
              (ascii "\"" ++ (ascii k ++ (ascii "\":" ++ integer v))) := by
            refine List.not_mem_append ?_ (List.not_mem_append (by decide)
              (List.not_mem_append keys.1.noNul
                (List.not_mem_append (by decide) (zero_notMem_integer v))))
            cases first <;> decide
          rw [fieldsText_cons, ← field_text first keys.1 v]
          exact (prints_text noNul).comp (ih keys.2 false)

theorem prints_bthome (cache : List Reading) (row : DeviceRow) :
    Prints buf cap 9 0 (printBthome buf cap cache row) (more (bthomeMembers cache row)) := by
  cases found : cache.find? fun r => r.addr == row.addr with
  | none =>
      have same : printBthome buf cap cache row = id :=
        funext fun w => by rw [printBthome, found, id]
      rw [same, bthomeMembers, found]
      exact prints_id
  | some r =>
      have same : printBthome buf cap cache row = fun w =>
          close buf cap 125 (printFields buf cap true (fields r)
            (printf buf cap (ascii ",\"bthome\":\x7b") w)) :=
        funext fun w => by rw [printBthome, found]
      have text : more (bthomeMembers cache row) =
          ascii ",\"bthome\":\x7b" ++ fieldsText true (fields r) ++ [125] := by
        rw [bthomeMembers, found, Option.map_some, Option.toList_some, more_cons, more_nil,
          bthome_text, memberText, Json.render_obj, fieldsText, if_pos rfl]
        simp
      rw [same, text]
      have opening : Prints buf cap 9 0 (printf buf cap (ascii ",\"bthome\":\x7b")) _ :=
        prints_text (by decide)
      exact (opening.comp (prints_fields (plain_keys r) true)).comp (prints_close (by decide))

/-! ## Rows -/

/-- The text of a row, with the comma in front of it. -/
def rowText (nowMs : UInt32) (cache : List Reading) (name : List UInt8) (i : Nat)
    (row : DeviceRow) : List UInt8 :=
  (if i ≠ 0 then [44] else []) ++ (rowJson nowMs cache name row).render

theorem rowText_eq (nowMs : UInt32) (cache : List Reading) (name : List UInt8) (i : Nat)
    (row : DeviceRow) :
    rowText nowMs cache name i row =
      headText nowMs i row ++ name.flatMap escape ++ [34] ++
        more (if row.appearance ≠ 0 then [(ascii "app", .num row.appearance.toNat)] else []) ++
        more (if row.connectable then [(ascii "conn", .num 1)] else []) ++
        more (row.tag.map fun tag => (ascii "tag", .str (tagBytes tag))).toList ++
        more (bthomeMembers cache row) ++ [125] := by
  have comma : ascii "," = [44] := by decide
  have addr : ascii "\x7b\"addr\":\"" = 123 :: (quote (ascii "addr") ++ [58, 34]) := by decide
  have type : ascii "\",\"type\":" = 34 :: 44 :: (quote (ascii "type") ++ [58]) := by decide
  have rssi : ascii ",\"rssi\":" = 44 :: (quote (ascii "rssi") ++ [58]) := by decide
  have count : ascii ",\"count\":" = 44 :: (quote (ascii "count") ++ [58]) := by decide
  have age : ascii ",\"age\":" = 44 :: (quote (ascii "age") ++ [58]) := by decide
  have name_ : ascii ",\"name\":\"" = 44 :: (quote (ascii "name") ++ [58, 34]) := by decide
  have quoted : quote name = 34 :: (name.flatMap escape ++ [34]) := rfl
  rw [rowText, headText, rowJson, List.cons_append, Json.render_obj_cons, comma, addr, type, rssi,
    count, age, name_]
  simp only [more_append, more_cons, detailMembers, memberText_str, memberText_num,
    Json.integer_natCast, (plain_addrText row.addr).quote, quoted, List.append_assoc,
    List.cons_append, List.nil_append]

theorem noNul_headText (nowMs : UInt32) (i : Nat) (row : DeviceRow) :
    0 ∉ headText nowMs i row := by
  have first : 0 ∉ if i ≠ 0 then ascii "," else [] := by
    split <;> decide
  refine List.not_mem_append first (List.not_mem_append (by decide)
    (List.not_mem_append (plain_addrText row.addr).noNul (List.not_mem_append (by decide)
      (List.not_mem_append (zero_notMem_decimal _) (List.not_mem_append (by decide)
        (List.not_mem_append (zero_notMem_integer _) (List.not_mem_append (by decide)
          (List.not_mem_append (zero_notMem_decimal _) (List.not_mem_append (by decide)
            (List.not_mem_append (zero_notMem_decimal _) (by decide)))))))))))

theorem prints_row (nowMs : UInt32) (cache : List Reading) (behind : Nat → List UInt8) (i : Nat)
    (row : DeviceRow) :
    Prints buf cap 9 0 (printRow buf cap nowMs cache behind i row)
      (rowText nowMs cache (nameBytes (behind i) row) i row) := by
  rw [rowText_eq]
  have noNul : 0 ∉ nameBytes (behind i) row := zero_notMem_upToNul _
  have head : Prints buf cap 9 0 (printf buf cap (headText nowMs i row)) _ :=
    prints_text (noNul_headText nowMs i row)
  have named := (head.comp (prints_printName noNul)).comp
    (prints_close (show (34 : UInt8) ≠ 0 by decide))
  have detailed := ((named.comp (prints_appearance row)).comp (prints_connectable row)).comp
    (prints_tag row)
  exact (detailed.comp (prints_bthome cache row)).comp (prints_close (by decide))

end Pieces

/-! ## The table -/

/-- The text of the rows with the names that are read. -/
def rowsText (nowMs : UInt32) (cache : List Reading) (behind : Nat → List UInt8)
    (rows : List DeviceRow) : List UInt8 :=
  ascii "\x7b\"devices\":[" ++ rows.zipIdx.flatMap (fun p =>
    rowText nowMs cache (nameBytes (behind p.2) p.1) p.2 p.1) ++ [93, 125]

theorem prints_build (buf cap : Nat) (table : List DeviceRow) (cache : List Reading)
    (nowMs : UInt32) (behind : Nat → List UInt8) :
    ∃ f, Prints buf cap 9 0 f
        (rowsText nowMs (snapshot cache 32) behind (snapshotDevices table 64)) ∧
      ∀ mem, buildDevicesJson buf cap table cache nowMs behind mem = f ⟨mem, 0⟩ := by
  have opening : Prints buf cap 9 0 (printf buf cap (ascii "\x7b\"devices\":[")) _ :=
    prints_text (by decide)
  have row (p : DeviceRow × Nat) :
      Prints buf cap 9 0 (printRow buf cap nowMs (snapshot cache 32) behind p.2 p.1) _ :=
    prints_row nowMs (snapshot cache 32) behind p.2 p.1
  have rows := Prints.foldl (snapshotDevices table 64).zipIdx fun p _ => row p
  have noNul : (0 : UInt8) ∉ [93, 125] := by decide
  have closing : Prints buf cap 9 2 (put buf [93, 125]) [93, 125] := prints_put noNul
  exact ⟨_, (opening.comp rows).comp (closing.guard (n := 2) (Nat.le_refl 2) (by decide)),
    fun mem => rfl⟩

/-- With names that end, the text is that of the value. -/
theorem rowsText_eq (nowMs : UInt32) (cache : List Reading) (behind : Nat → List UInt8)
    {rows : List DeviceRow} (terminated : ∀ row ∈ rows, 0 ∈ row.name.toList) :
    rowsText nowMs cache behind rows = (devicesJson nowMs cache rows).render := by
  have names : rows.zipIdx.flatMap (fun p =>
      rowText nowMs cache (nameBytes (behind p.2) p.1) p.2 p.1) =
        rows.zipIdx.flatMap fun p => (if p.2 ≠ 0 then [44] else []) ++
          (rowJson nowMs cache (upToNul p.1.name.toList) p.1).render := by
    refine List.flatMap_congr fun p mem => ?_
    rw [rowText, nameBytes,
      upToNul_append_of_mem (terminated p.1 (List.fst_mem_of_mem_zipIdx mem))]
  have comma := Json.flatMap_zipIdx_comma (fun row : DeviceRow =>
    (rowJson nowMs cache (upToNul row.name.toList) row).render) rows
  have word : ascii "\x7b\"devices\":[" = 123 :: (quote (ascii "devices") ++ [58, 91]) := by decide
  rw [rowsText, names, comma, word, devicesJson, Json.render_obj_cons, memberText, Json.render_arr,
    List.map_map, more_nil]
  simp only [List.append_assoc, List.cons_append, List.nil_append]
  rfl

theorem snapshotDevices_eq {table : List DeviceRow} (bounded : table.length ≤ devCap) :
    snapshotDevices table 64 = table :=
  List.take_of_length_le bounded

/-- **The text of the device table.** Whatever the size of the buffer, nothing is written outside
of it and no NUL is returned; and with nine bytes to spare the text is that of the rows in their
order, from which a reader has their names back. -/
theorem devices_json (table : List DeviceRow) (cache : List Reading) (nowMs : UInt32)
    (behind : Nat → List UInt8) (buf cap : Nat) (mem : Memory) :
    let after := buildDevicesJson buf cap table cache nowMs behind mem
    let returned := after.mem.load buf after.pos
    let rows := snapshotDevices table 64
    let json := devicesJson nowMs (snapshot cache 32) rows
    after.pos ≤ cap ∧ (∀ i, i < buf ∨ buf + cap ≤ i → after.mem i = mem i) ∧ 0 ∉ returned ∧
      ((∀ row ∈ rows, 0 ∈ row.name.toList) → json.render.length + 9 ≤ cap →
        returned = json.render ∧ Json.parse returned = some json) ∧
      (table.length ≤ devCap → rows = table) := by
  obtain ⟨f, prints, same⟩ := prints_build buf cap table cache nowMs behind
  dsimp only
  rw [same]
  obtain ⟨fits, frame, noNul, exact⟩ := prints.run mem
  refine ⟨fits, frame, noNul, fun terminated room => ?_, snapshotDevices_eq⟩
  rw [rowsText_eq _ _ _ terminated] at exact
  have whole := exact room
  rw [whole]
  exact ⟨rfl, Json.parse_render _⟩

/-- A device whose name is a quote, a line feed and a byte that begins no character. -/
def oddlyNamed : DeviceRow where
  addr := 0x0123456789AB
  name := ((Vector.replicate 24 0).set 0 34).set 1 10 |>.set 2 255

theorem devices_json_oddlyNamed :
    let json := devicesJson 0 [] [oddlyNamed]
    let after := buildDevicesJson 16 (json.render.length + 9) [oddlyNamed] [] 0 (fun _ => [])
      fun _ => 0
    Json.parse (after.mem.load 16 after.pos) = some json ∧
      upToNul oddlyNamed.name.toList = [34, 10, 255] :=
  ⟨((devices_json [oddlyNamed] [] 0 (fun _ => []) 16 _ fun _ => 0).2.2.2.1 (by decide)
    (Nat.le_refl _)).2, by decide⟩

end NimbleProxy.Api.DevicesJson
