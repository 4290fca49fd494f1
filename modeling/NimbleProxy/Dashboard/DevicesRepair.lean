/-
# Dashboard.DevicesRepair -- a cut device table, repaired by the dashboard

The text of `build_devices_json` for a buffer of any size from 64 bytes on, and what
`bleJson` makes of it. The repair counts on a text that was cut between two rows, and this
is what the device sends if the buffer ends in the head of a row that is not the first.
It fails wherever else the buffer ends: in the first row there is no bracket to go back to;
behind a cut in the details the device still puts a closing bracket, so that the text is
not repaired at all; so it is if the buffer ends behind a row; and a name that is cut is
closed and stands for the name (`devices_repair_iff`).
-/
import NimbleProxy.Api.DevicesCut
import NimbleProxy.Dashboard.JsonRepair

namespace NimbleProxy.Dashboard.DevicesRepair

open NimbleProxy.Theory BoundedPrint CString
open NimbleProxy.Theory.Json (Plain Place Balanced Leads scan scan_append scan_cons scanByte isClosing escape
  quote decimal integer memberText parse_eq_none balanced_render depth_le)
open NimbleProxy.Api.DevicesJson
open NimbleProxy.Backend.DeviceTable (DeviceRow Tag tagTexts)
open NimbleProxy.Backend.Bthome (Reading)
open JsonRepair

set_option autoImplicit false

/-! ## Texts -/

def opening : List UInt8 := ascii "\x7b\"devices\":["

def devices (items : List Json) : Json := .obj [(ascii "devices", .arr items)]

/-- The text up to some rows. -/
def tableText (items : List Json) : List UInt8 :=
  opening ++ items.zipIdx.flatMap fun p => (if p.2 ≠ 0 then [44] else []) ++ p.1.render

section Texts

variable {items : List Json}

theorem tableText_nil : tableText [] = opening := List.append_nil _

theorem tableText_snoc (items : List Json) (v : Json) :
    tableText (items ++ [v]) =
      tableText items ++ ((if items.length ≠ 0 then [44] else []) ++ v.render) := by
  simp [tableText, List.zipIdx_append]

theorem tableText_closed (items : List Json) :
    tableText items ++ [93, 125] = (devices items).render := by
  have word : opening = 123 :: (quote (ascii "devices") ++ [58, 91]) := by decide
  rw [tableText, Json.flatMap_zipIdx_comma, word, devices, Json.render_obj_cons, memberText,
    Json.render_arr, Json.more_nil]
  simp

theorem scan_tableText (items : List Json) :
    scan (.outside, 0) (tableText items) = (.outside, 2) := by
  have first : scan (.outside, 0) opening = (.outside, 2) := by decide
  have rows (xs : List (Json × Nat)) :
      Balanced (xs.flatMap fun p => (if p.2 ≠ 0 then [44] else []) ++ p.1.render) := by
    induction xs with
    | nil => exact Leads.refl _
    | cons p rest ih =>
        rw [List.flatMap_cons]
        refine Leads.append (Leads.append ?_ (balanced_render p.1)) ih
        split
        · exact fun _ => rfl
        · exact Leads.refl _
  rw [tableText, scan_append, first]
  exact rows items.zipIdx 2

/-- The text up to a row ends with its bracket. -/
theorem tableText_brace (items : List Json) (members : List (List UInt8 × Json)) :
    ∃ front, front ≠ [] ∧ tableText (items ++ [.obj members]) = front ++ [125] := by
  refine ⟨tableText items ++ ((if items.length ≠ 0 then [44] else []) ++
    123 :: Json.separated (members.map memberText)), by simp, ?_⟩
  rw [tableText_snoc, Json.render_obj]
  simp

end Texts

/-! ## What the dashboard is given -/

/-- A row of the table as the text has it. -/
def itemJson (nowMs : UInt32) (cache : List Reading) (behind : Nat → List UInt8)
    (p : DeviceRow × Nat) : Json :=
  rowJson nowMs cache (nameBytes (behind p.2) p.1) p.1

/-- The same as a text in its parts. -/
def itemParts (nowMs : UInt32) (cache : List Reading) (behind : Nat → List UInt8)
    (p : DeviceRow × Nat) : RowText :=
  rowParts nowMs cache (nameBytes (behind p.2) p.1) p.2 p.1

/-- The repaired text is a table with the first of these rows. -/
def ShowsPrefix (items : List Json) (txt : List UInt8) : Prop :=
  ∃ shown, Json.parse (repaired txt) = some (devices shown) ∧ shown <+: items

/-- Rows that begin at `start` in a buffer of `cap` bytes, with rows in front of them or not: they
all fit, with the two closing brackets; or the buffer ends in the head of one of them, or at the
quote that begins its name, and those in front of it fit. -/
def Repairable (cap : Nat) : Bool → Nat → List RowText → Prop
  | _, start, [] => start + 2 ≤ cap
  | some_, start, r :: rest =>
      (some_ = true ∧ start < cap ∧ cap ≤ start + r.head.length + 1) ∨
        (RowFits cap start r ∧ Repairable cap true (start + r.whole.length) rest)

instance Repairable.decide (cap : Nat) :
    (some_ : Bool) → (start : Nat) → (rows : List RowText) → Decidable (Repairable cap some_ start rows)
  | _, start, [] => inferInstanceAs (Decidable (start + 2 ≤ cap))
  | some_, start, r :: rest =>
      have : Decidable (Repairable cap true (start + r.whole.length) rest) := Repairable.decide ..
      inferInstanceAs (Decidable ((some_ = true ∧ start < cap ∧ cap ≤ start + r.head.length + 1) ∨
        (RowFits cap start r ∧ Repairable cap true (start + r.whole.length) rest)))

/-- The end of the text. -/
def finished (cap : Nat) (out : List UInt8) : List UInt8 :=
  if 2 ≤ cap - out.length then out ++ [93, 125] else out

/-- The rest of the text, behind `out`. -/
def printedRows (cap : Nat) (rows : List RowText) (out : List UInt8) : List UInt8 :=
  finished cap (rows.foldl (fun out r => r.printed cap out) out)

theorem yields_build (buf cap : Nat) (table : List DeviceRow) (cache : List Reading)
    (nowMs : UInt32) (behind : Nat → List UInt8) :
    ∃ f, Yields buf cap 0 f (fun out => printedRows cap
        ((snapshotDevices table 64).zipIdx.map (itemParts nowMs (snapshot cache 32) behind))
        (emit cap opening out)) ∧
      ∀ mem, buildDevicesJson buf cap table cache nowMs behind mem = f ⟨mem, 0⟩ := by
  have first : Yields buf cap 0 (printf buf cap opening) _ := yields_printf opening
  have rows : Yields buf cap 0 _ _ := Yields.foldl (snapshotDevices table 64).zipIdx fun p _ =>
    yields_row nowMs (snapshot cache 32) behind p.2 p.1
  have last : Yields buf cap 0 _ (finished cap) := (yields_put [93, 125]).guard (n := 2) (Nat.le_refl 2)
  refine ⟨_, ((first.comp rows).comp last).congr fun out _ => ?_, fun mem => rfl⟩
  rw [printedRows, List.foldl_map]
  rfl

/-! ## Where there is no closing bracket -/

/-- Without a closing bracket. -/
def Open (s : List UInt8) : Prop := ∀ c ∈ s, isClosing c = false

instance (s : List UInt8) : Decidable (Open s) :=
  List.decidableBAll (fun c => isClosing c = false) s

section Open

variable {s t : List UInt8}

theorem Open.append (front : Open s) (back : Open t) : Open (s ++ t) :=
  List.forall_mem_append.mpr ⟨front, back⟩

theorem Open.front (whole : Open t) (front : s <+: t) : Open s :=
  fun c mem => whole c (front.subset mem)

theorem open_decimal (n : Nat) : Open (decimal n) :=
  fun c mem => (Json.isDigit_facts (Json.decimal_isDigit n c mem)).2.2

theorem open_integer (i : Int) : Open (integer i) := by
  cases i with
  | ofNat n => exact open_decimal n
  | negSucc n => exact List.forall_mem_cons.mpr ⟨rfl, open_decimal (n + 1)⟩

theorem open_hex02 (c : UInt8) : Open (hex02 c) := Json.forall_mem_hexByte c.toNat_lt (by decide)

theorem open_addrText (addr : UInt64) : Open (addrText addr) := by
  have byte (k : Nat) : Open (hex02 (addrByte addr k)) := open_hex02 _
  exact Json.forall_mem_colons (by decide) (byte 0) (byte 1) (byte 2) (byte 3) (byte 4) (byte 5)

theorem open_headText (nowMs : UInt32) (i : Nat) (row : DeviceRow) : Open (headText nowMs i row) := by
  have comma : Open (if i ≠ 0 then ascii "," else []) := by
    split <;> decide
  have word (s : String) (free : Open (ascii s)) : Open (ascii s) := free
  exact comma.append ((word _ (by decide)).append ((open_addrText row.addr).append
    ((word _ (by decide)).append ((open_decimal _).append ((word _ (by decide)).append
      ((open_integer _).append ((word _ (by decide)).append ((open_decimal _).append
        ((word _ (by decide)).append ((open_decimal _).append (by decide)))))))))))

theorem open_tagBytes (tag : Tag) : Open (tagBytes tag) := by
  have all : ∀ text ∈ tagTexts, Open (text.toList.flatMap String.utf8EncodeChar) := by
    decide +kernel
  exact all tag.text tag.known

/-- A member with a plain key. -/
theorem open_member {key : List UInt8} {v : Json} (plain : Plain key) (name : Open key)
    (value : Open v.render) : Open (memberText (key, v)) := by
  have colon : Open [58] := by decide
  have mark : Open [34] := by decide
  rw [memberText, plain.quote]
  exact (mark.append (name.append mark)).append (colon.append value)

theorem open_more {members : List (List UInt8 × Json)}
    (each : ∀ m ∈ members, Open (memberText m)) : Open (Json.more members) := by
  have comma : Open [44] := by decide
  induction members with
  | nil => exact nofun
  | cons m rest ih =>
      rw [List.forall_mem_cons] at each
      exact comma.append (each.1.append (ih each.2))

theorem open_num {n : Int} : Open (Json.num n).render := by
  rw [Json.render]
  exact open_integer n

theorem open_detailMembers (row : DeviceRow) : ∀ m ∈ detailMembers row, Open (memberText m) := by
  have tag (tag : Tag) : Open (Json.str (tagBytes tag)).render := by
    have mark : Open [34] := by decide
    rw [Json.render, (plain_tagBytes tag).quote]
    exact mark.append ((open_tagBytes tag).append mark)
  intro m mem
  rw [detailMembers, List.mem_append, List.mem_append] at mem
  rcases mem with app | conn | tagged
  · split at app
    · rw [List.mem_singleton.mp app]
      exact open_member (by decide) (by decide) open_num
    · cases app
  · split at conn
    · rw [List.mem_singleton.mp conn]
      exact open_member (by decide) (by decide) open_num
    · cases conn
  · obtain ⟨t, -, rfl⟩ := Option.map_eq_some_iff.mp (Option.mem_toList.mp tagged)
    exact open_member (by decide) (by decide) (tag t)

theorem open_fieldMembers (r : Reading) : ∀ m ∈ fieldMembers (fields r), Open (memberText m) := by
  have keys : ∀ field ∈ fields r, Open (ascii field.2.1) := by
    simp only [fields, List.forall_mem_cons]
    decide
  intro m mem
  obtain ⟨field, own, rfl⟩ := List.mem_map.mp mem
  have listed := List.mem_of_mem_filter own
  exact open_member (plain_keys r field listed) (keys field listed) open_num

theorem open_details (cache : List Reading) (row : DeviceRow) :
    Open (Json.more (detailMembers row) ++ bthomeText cache row) := by
  refine (open_more (open_detailMembers row)).append ?_
  unfold bthomeText
  split
  · exact fun c mem => absurd mem List.not_mem_nil
  · rename_i r _
    have word : Open (ascii ",\"bthome\":\x7b") := by decide
    apply word.append
    rw [fieldsText, if_pos rfl]
    cases members : fieldMembers (fields r) with
    | nil => exact fun c mem => absurd mem List.not_mem_nil
    | cons m rest =>
        have each := open_fieldMembers r
        rw [members, List.forall_mem_cons] at each
        rw [Json.separated_members]
        exact each.1.append (open_more each.2)

end Open

/-! ## What is repaired -/

section Repair

variable {nowMs : UInt32} {cache : List Reading} {behind : Nat → List UInt8} {cap i : Nat}
  {row : DeviceRow} {name piece : List UInt8} {items all : List Json}

/-- The row without its details. -/
theorem bare_row (nowMs : UInt32) (name : List UInt8) (i : Nat) (row : DeviceRow) :
    ∃ v : Json, (if i ≠ 0 then [44] else []) ++ v.render =
      headText nowMs i row ++ (name.flatMap escape ++ [34, 125]) := by
  have bare := rowText_eq nowMs [] name i { row with appearance := 0, connectable := false, tag := none }
  refine ⟨_, bare.trans ?_⟩
  simp [bthomeMembers, headText, age]

/-- A scan behind the name of a row. -/
theorem scan_named (items : List Json) (nowMs : UInt32) (name : List UInt8) (i : Nat)
    (row : DeviceRow) :
    scan (.outside, 0) (tableText items ++ (headText nowMs i row ++ (name.flatMap escape ++ [34]))) =
      (.outside, 3) := by
  obtain ⟨v, bare⟩ := bare_row nowMs name i row
  have comma : Balanced (if i ≠ 0 then [44] else []) := by
    split
    · exact fun _ => rfl
    · exact Leads.refl _
  have closed := (comma.append (balanced_render v)) 2
  rw [bare] at closed
  have split : headText nowMs i row ++ (name.flatMap escape ++ [34, 125]) =
      (headText nowMs i row ++ (name.flatMap escape ++ [34])) ++ [125] := by simp
  rw [split, scan_append] at closed
  rw [scan_append, scan_tableText]
  generalize scan (.outside, 2) (headText nowMs i row ++ (name.flatMap escape ++ [34])) = place
    at closed ⊢
  -- only from outside and one level deeper does the brace lead there
  obtain ⟨p, depth⟩ := place
  cases p with
  | outside =>
      have leaves : (Place.outside, depth - 1) = (Place.outside, 2) := closed
      rw [Prod.mk.injEq] at leaves
      rw [show depth = 3 by omega]
  | string => cases closed
  | escaped => cases closed

/-- The buffer ends in the details: nothing is repaired, and nothing is read. -/
theorem details_unread (items : List Json) (nowMs : UInt32) (name : List UInt8) (i : Nat)
    (row : DeviceRow) (open_ : Open piece) :
    Json.parse (repaired (tableText items ++
      (headText nowMs i row ++ (name.flatMap escape ++ (34 :: (piece ++ [125])))))) = none := by
  have split : tableText items ++
      (headText nowMs i row ++ (name.flatMap escape ++ (34 :: (piece ++ [125])))) =
        (tableText items ++ (headText nowMs i row ++ (name.flatMap escape ++ [34]))) ++
          (piece ++ [125]) := by simp
  have last : (tableText items ++ (headText nowMs i row ++ (name.flatMap escape ++ [34])) ++
      (piece ++ [125])).getLast? = some 125 := by
    rw [← List.append_assoc, List.getLast?_concat]
  rw [repaired_of_brace (split ▸ last)]
  refine parse_eq_none fun closed => ?_
  have deep := depth_le (.outside, 3) (piece ++ [125])
  have one : (piece ++ [125]).countP isClosing = 1 := by
    have none : piece.countP isClosing = 0 :=
      List.countP_eq_zero.mpr fun c mem => by simp [open_ c mem]
    rw [List.countP_append, none]
    rfl
  rw [split, scan_append, scan_named] at closed
  rw [closed, one] at deep
  exact absurd deep (by decide)

/-- The buffer ends behind a row: nothing is repaired, and nothing is read. -/
theorem rows_unread (items : List Json) (members : List (List UInt8 × Json)) :
    Json.parse (repaired (tableText (items ++ [.obj members]))) = none := by
  obtain ⟨front, -, brace⟩ := tableText_brace items members
  rw [repaired_of_brace (by simp [brace])]
  refine parse_eq_none fun closed => ?_
  rw [scan_tableText] at closed
  cases closed

/-- The buffer ends in the first row: there is no bracket to go back to. -/
theorem first_unread (open_ : Open piece) :
    Json.parse (repaired (tableText [] ++ (piece ++ [34]))) = none := by
  have word : Open opening := by decide
  have mark : Open [34] := by decide
  have free : Open (tableText [] ++ (piece ++ [34])) :=
    (tableText_nil ▸ word).append (open_.append mark)
  rw [repaired_of_no_closing (by simp) free]
  refine parse_eq_none fun closed => ?_
  have deep := depth_le (.outside, 2) (piece ++ [34])
  have none : (piece ++ [34]).countP isClosing = 0 :=
    List.countP_eq_zero.mpr fun c mem => by simp [open_.append mark c mem]
  rw [scan_append, scan_tableText] at closed
  rw [closed, none] at deep
  exact absurd deep (by decide)

/-- **The buffer ends in the head of a row**: the rows in front of it are shown. -/
theorem head_repaired (items : List Json) (members : List (List UInt8 × Json)) (open_ : Open piece) :
    Json.parse (repaired (tableText (items ++ [.obj members]) ++ (piece ++ [34]))) =
      some (devices (items ++ [.obj members])) := by
  obtain ⟨front, some_, brace⟩ := tableText_brace items members
  have mark : Open [34] := by decide
  have cut : repaired (front ++ 125 :: (piece ++ [34])) = front ++ [125, 93, 125] :=
    repaired_of_quote some_ (by simp) (open_.append mark)
  have whole := tableText_closed (items ++ [.obj members])
  rw [brace] at whole ⊢
  rw [List.append_assoc, List.singleton_append, cut]
  rw [List.append_assoc] at whole
  exact (congrArg Json.parse whole).trans (Json.parse_render _)

theorem whole_read (items : List Json) :
    Json.parse (repaired (tableText items ++ [93, 125])) = some (devices items) := by
  rw [repaired_of_brace (by simp), tableText_closed, Json.parse_render]

end Repair

/-! ## The whole table -/

section Table

variable {nowMs : UInt32} {cache : List Reading} {behind : Nat → List UInt8} {cap i : Nat}
  {row : DeviceRow} {out : List UInt8}

theorem details_long (cache : List Reading) (row : DeviceRow)
    (some_ : Json.more (detailMembers row) ++ bthomeText cache row ≠ []) :
    8 ≤ (Json.more (detailMembers row) ++ bthomeText cache row).length := by
  rw [List.length_append]
  cases members : detailMembers row with
  | nil =>
      rw [members] at some_
      unfold bthomeText at some_ ⊢
      split
      · rename_i none
        simp [none] at some_
      · rename_i r _
        have word : (ascii ",\"bthome\":\x7b").length = 11 := by decide
        rw [List.length_append, word]
        omega
  | cons m rest =>
      have key : ∀ m ∈ detailMembers row, 3 ≤ m.1.length := by
        intro m mem
        rw [detailMembers, List.mem_append, List.mem_append] at mem
        rcases mem with app | conn | tagged
        · split at app
          · rw [List.mem_singleton.mp app]
            exact Nat.le_refl 3
          · cases app
        · split at conn
          · rw [List.mem_singleton.mp conn]
            exact Nat.le_succ 3
          · cases conn
        · obtain ⟨t, -, rfl⟩ := Option.map_eq_some_iff.mp (Option.mem_toList.mp tagged)
          exact Nat.le_refl 3
      have first := key m (members ▸ List.mem_cons_self)
      have text := Json.length_memberText m
      have value := Json.length_render_pos m.2
      rw [Json.more_cons, List.length_cons, List.length_append]
      omega

variable (nowMs cache) in
theorem rowParts_cases (name : List UInt8) (i : Nat) (row : DeviceRow) (fits : out.length ≤ cap) :
    (RowFits cap out.length (rowParts nowMs cache name i row) ∧
        (rowParts nowMs cache name i row).printed cap out = out ++ rowText nowMs cache name i row) ∨
      (¬ RowFits cap out.length (rowParts nowMs cache name i row) ∧
        Cut cap (rowParts nowMs cache name i row) out
          ((rowParts nowMs cache name i row).printed cap out)) := by
  rw [← whole_rowParts]
  refine printed_cases (details_long cache row) (fun nested empty => ?_) fits
  obtain ⟨r, found⟩ := Option.isSome_iff_exists.mp nested
  have word : ascii ",\"bthome\":\x7b" ≠ [] := by decide
  have none := (List.append_eq_nil_iff.mp empty).2
  rw [bthomeText, found] at none
  exact word (List.append_eq_nil_iff.mp none).1

theorem printedRows_of_full (rows : List RowText) (full : out.length = cap) :
    printedRows cap rows out = out := by
  induction rows with
  | nil => exact if_neg (by rw [List.foldl_nil]; omega)
  | cons r rest ih =>
      rw [printedRows, List.foldl_cons, printed_of_full full]
      exact ih

theorem length_headText (nowMs : UInt32) (i : Nat) (row : DeviceRow) :
    8 ≤ (headText nowMs i row).length := by
  have word : (ascii "\x7b\"addr\":\"").length = 9 := by decide
  rw [headText, List.length_append, List.length_append, word]
  omega

variable (nowMs cache behind) in
/-- What follows a row when there is next to no room. -/
theorem printedRows_of_near (rows : List (DeviceRow × Nat)) (fits : out.length ≤ cap)
    (near : cap ≤ out.length + 6) :
    let rest := printedRows cap (rows.map (itemParts nowMs cache behind)) out
    rest = out ∨ rest = out ++ [93, 125] ∨ ∃ piece, Open piece ∧ rest = out ++ (piece ++ [34]) := by
  dsimp only
  cases rows with
  | nil =>
      by_cases room : 2 ≤ cap - out.length
      · exact .inr (.inl (if_pos room))
      · exact .inl (if_neg room)
  | cons p rest =>
      by_cases full : out.length = cap
      · exact .inl (printedRows_of_full _ full)
      · have long := length_headText nowMs p.2 p.1
        have open_ := open_headText nowMs p.2 p.1
        have cut : (emit cap (headText nowMs p.2 p.1) out).length + 1 = cap :=
          emit_cut (by omega) (by omega)
        have printed : (itemParts nowMs cache behind p).printed cap out =
            emit cap (headText nowMs p.2 p.1) out ++ [34] := printed_of_cut rfl cut
        refine .inr (.inr ⟨(headText nowMs p.2 p.1).take (cap - out.length - 1),
          open_.front (List.take_prefix _ _), ?_⟩)
        rw [List.map_cons, printedRows, List.foldl_cons, printed, ← printedRows,
          printedRows_of_full _ (by simpa using cut)]
        simp [emit]

/-- A name that was cut is another name. -/
theorem rowJson_ne {front back : List UInt8} (some_ : back ≠ []) :
    rowJson nowMs cache front row ≠ rowJson nowMs cache (front ++ back) row := by
  intro same
  simp only [rowJson, List.cons_append, Json.obj.injEq, List.cons.injEq, Prod.mk.injEq,
    Json.str.injEq, true_and] at same
  exact some_ (List.append_right_eq_self.mp same.1.symm)

/-- The text of some rows alone shows nothing. -/
theorem not_shows {before : List Json} (some_ : before ≠ [])
    (objects : ∀ v ∈ before, ∃ members, v = Json.obj members) (all : List Json) :
    ¬ ShowsPrefix all (tableText before) := by
  rintro ⟨shown, read, -⟩
  obtain ⟨members, last⟩ := objects _ (List.getLast_mem some_)
  rw [← List.dropLast_append_getLast some_, last, rows_unread] at read
  cases read

/-- A row with a shorter name is not one of the table. -/
theorem not_prefix_of_shortened {before rest : List Json} {v w : Json} (other : v ≠ w) :
    ¬ before ++ [v] <+: before ++ w :: rest := by
  rintro ⟨tail, same⟩
  rw [List.append_assoc, List.append_cancel_left_eq] at same
  exact other (List.cons.inj same).1

theorem objects_snoc {before : List Json} (objects : ∀ v ∈ before, ∃ members, v = Json.obj members)
    (members : List (List UInt8 × Json)) :
    ∀ v ∈ before ++ [.obj members], ∃ members, v = Json.obj members := by
  intro v mem
  rcases List.mem_append.mp mem with old | new
  · exact objects v old
  · exact ⟨members, List.mem_singleton.mp new⟩

/-- Behind a row with a shorter name: it is shown, or nothing is. -/
theorem not_shows_shortened {before : List Json} {front back text : List UInt8}
    (objects : ∀ v ∈ before, ∃ members, v = Json.obj members)
    (split : nameBytes (behind before.length) row = front ++ back) (some_ : back ≠ [])
    (after : let shorter := tableText (before ++ [rowJson nowMs cache front row])
      text = shorter ∨ text = shorter ++ [93, 125] ∨
        ∃ piece, Open piece ∧ text = shorter ++ (piece ++ [34])) (later : List Json) :
    ¬ ShowsPrefix (before ++ itemJson nowMs cache behind (row, before.length) :: later) text := by
  have other : rowJson nowMs cache front row ≠ itemJson nowMs cache behind (row, before.length) := by
    rw [itemJson, show nameBytes _ row = _ from split]
    exact rowJson_ne some_
  rcases after with same | same | ⟨piece, open_, same⟩
  · rw [same]
    exact not_shows (by simp) (objects_snoc objects _) _
  · rw [same]
    rintro ⟨shown, read, isPrefix⟩
    rw [whole_read] at read
    cases read
    exact not_prefix_of_shortened other isPrefix
  · rw [same]
    rintro ⟨shown, read, isPrefix⟩
    rw [rowJson, head_repaired _ _ open_, ← rowJson] at read
    cases read
    exact not_prefix_of_shortened other isPrefix

/-- The buffer ends in the head of a row: what is shown is right if there is a row in front of it. -/
theorem shows_head_iff {before : List Json} {piece : List UInt8}
    (objects : ∀ v ∈ before, ∃ members, v = Json.obj members) (open_ : Open piece)
    (later : List Json) :
    ShowsPrefix (before ++ later) (tableText before ++ (piece ++ [34])) ↔ before ≠ [] := by
  constructor
  · rintro ⟨shown, read, -⟩ rfl
    rw [first_unread open_] at read
    cases read
  · intro some_
    obtain ⟨members, last⟩ := objects _ (List.getLast_mem some_)
    have split := List.dropLast_append_getLast some_
    rw [last] at split
    have repaired := head_repaired before.dropLast members open_
    rw [split] at repaired
    exact ⟨before, repaired, List.prefix_append _ _⟩

/-- Behind a row that was cut: what is shown is right exactly if the cut is in its head and there is
a row in front of it. -/
theorem shows_of_cut (room : 64 ≤ cap) {before : List Json}
    (objects : ∀ v ∈ before, ∃ members, v = Json.obj members) {text : List UInt8}
    (cut : Cut cap (itemParts nowMs cache behind (row, before.length)) (tableText before) text)
    (rest : List (DeviceRow × Nat)) (later : List Json) :
    ShowsPrefix (before ++ itemJson nowMs cache behind (row, before.length) :: later)
        (printedRows cap (rest.map (itemParts nowMs cache behind)) text) ↔
      (!before.isEmpty) = true ∧ (tableText before).length < cap ∧
        cap ≤ (tableText before).length + (headText nowMs before.length row).length + 1 := by
  have opens : (tableText []).length = 12 := by decide
  have long (name tail : List UInt8) (two : 2 ≤ tail.length) :
      (tableText before).length + (headText nowMs before.length row).length + 2 ≤
        (tableText before ++ (headText nowMs before.length row ++ (name ++ tail))).length := by
    simp only [List.length_append]
    omega
  cases cut with
  | before full =>
      have some_ : before ≠ [] := by
        rintro rfl
        omega
      rw [printedRows_of_full _ full]
      exact iff_of_false (not_shows some_ objects _) fun condition => by omega
  | head start cut full =>
      rw [printedRows_of_full _ full]
      have open_ : Open ((headText nowMs before.length row).take (cap - (tableText before).length - 1)) :=
        (open_headText nowMs before.length row).front (List.take_prefix _ _)
      have some_ : (!before.isEmpty) = true ↔ before ≠ [] := by simp
      rw [some_]
      exact (shows_head_iff objects open_ _).trans ⟨fun some_ => ⟨some_, start, cut⟩, And.left⟩
  | name front back split some_ bare fits near =>
      have nested : (cache.find? fun r => r.addr == row.addr).isSome = false := bare.2
      have details : Json.more (detailMembers row) ++ bthomeText cache row = [] := bare.1
      have shortened : rowText nowMs cache front before.length row =
          headText nowMs before.length row ++ (front.flatMap escape ++ [34, 125]) := by
        rw [← whole_rowParts, RowText.whole, RowText.closing]
        simp [rowParts, nested, details]
      have text : tableText (before ++ [rowJson nowMs cache front row]) =
          tableText before ++ (headText nowMs before.length row ++ (front.flatMap escape ++ [34, 125])) := by
        rw [tableText_snoc, ← shortened, rowText]
      have long := long (front.flatMap escape) [34, 125] (Nat.le_refl 2)
      have fits' : (tableText before ++ (headText nowMs before.length row ++
            (front.flatMap escape ++ [34, 125]))).length ≤ cap := fits
      refine iff_of_false ?_ fun condition => by omega
      have after := printedRows_of_near nowMs cache behind rest fits near
      dsimp only at after
      rw [show (itemParts nowMs cache behind (row, before.length)).head =
        headText nowMs before.length row from rfl, ← text] at after ⊢
      exact not_shows_shortened objects split some_ after later
  | details front piece named cut full =>
      have open_ : Open piece := (open_details cache row).front cut
      have long := long (front.flatMap escape) (34 :: (piece ++ [125])) (by simp)
      have full' : (tableText before ++ (headText nowMs before.length row ++
            (front.flatMap escape ++ (34 :: (piece ++ [125]))))).length = cap := full
      rw [printedRows_of_full _ full]
      refine iff_of_false ?_ fun condition => by omega
      rintro ⟨shown, read, -⟩
      rw [show (itemParts nowMs cache behind (row, before.length)).head =
        headText nowMs before.length row from rfl, details_unread _ _ _ _ _ open_] at read
      cases read

variable (nowMs cache behind) in
/-- **From a row on**, what is shown is right exactly if the rest can be repaired. -/
theorem shows_iff (room : 64 ≤ cap) (rows : List DeviceRow) (before : List Json)
    (objects : ∀ v ∈ before, ∃ members, v = Json.obj members)
    (fits : (tableText before).length ≤ cap) :
    ShowsPrefix (before ++ (rows.zipIdx before.length).map (itemJson nowMs cache behind))
        (printedRows cap ((rows.zipIdx before.length).map (itemParts nowMs cache behind))
          (tableText before)) ↔
      Repairable cap (!before.isEmpty) (tableText before).length
        ((rows.zipIdx before.length).map (itemParts nowMs cache behind)) := by
  have opens : (tableText []).length = 12 := by decide
  induction rows generalizing before with
  | nil =>
      rw [List.zipIdx_nil, List.map_nil, List.map_nil, List.append_nil]
      by_cases closes : (tableText before).length + 2 ≤ cap
      · have text : printedRows cap [] (tableText before) = tableText before ++ [93, 125] :=
          if_pos (by rw [List.foldl_nil]; omega)
        rw [text]
        exact iff_of_true ⟨before, whole_read before, List.prefix_refl _⟩ closes
      · have text : printedRows cap [] (tableText before) = tableText before :=
          if_neg (by rw [List.foldl_nil]; omega)
        have some_ : before ≠ [] := by
          rintro rfl
          omega
        rw [text]
        exact iff_of_false (not_shows some_ objects before) closes
  | cons row rest ih =>
      simp only [List.zipIdx_cons, List.map_cons, printedRows, List.foldl_cons, Repairable]
      rcases rowParts_cases nowMs cache (nameBytes (behind before.length) row)
        before.length row fits with ⟨whole, printed⟩ | ⟨notWhole, cut⟩
      · have long := length_whole (itemParts nowMs cache behind (row, before.length))
        have le : (tableText before).length +
            (itemParts nowMs cache behind (row, before.length)).whole.length ≤ cap := whole.1
        have text : (itemParts nowMs cache behind (row, before.length)).printed cap (tableText before) =
            tableText (before ++ [itemJson nowMs cache behind (row, before.length)]) := by
          rw [tableText_snoc]
          exact printed
        have length : (tableText (before ++ [itemJson nowMs cache behind (row, before.length)])).length =
            (tableText before).length +
              (itemParts nowMs cache behind (row, before.length)).whole.length := by
          rw [tableText_snoc, List.length_append, itemParts, whole_rowParts]
          rfl
        have tail := ih (before ++ [itemJson nowMs cache behind (row, before.length)])
          (objects_snoc objects _) (by omega)
        rw [List.length_append, List.length_singleton, length, List.append_assoc] at tail
        have some_ : (!(before ++ [itemJson nowMs cache behind (row, before.length)]).isEmpty) = true := by
          simp
        rw [some_] at tail
        rw [text]
        refine tail.trans ⟨fun rest => .inr ⟨whole, rest⟩, fun condition => ?_⟩
        rcases condition with ⟨-, start, head⟩ | ⟨-, rest⟩
        · have closing := length_closing (itemParts nowMs cache behind (row, before.length))
          omega
        · exact rest
      · have here := shows_of_cut room objects cut (rest.zipIdx (before.length + 1))
          ((rest.zipIdx (before.length + 1)).map (itemJson nowMs cache behind))
        refine here.trans ⟨.inl, fun condition => ?_⟩
        rcases condition with head | ⟨whole, -⟩
        · exact head
        · exact absurd whole notWhole

end Table

/-- What a large buffer has. -/
theorem rowsText_items (nowMs : UInt32) (cache : List Reading) (behind : Nat → List UInt8)
    (rows : List DeviceRow) :
    rowsText nowMs cache behind rows =
      (devices (rows.zipIdx.map (itemJson nowMs cache behind))).render := by
  have same (k : Nat) :
      (((rows.zipIdx k).map (itemJson nowMs cache behind)).zipIdx k).flatMap
          (fun q => (if q.2 ≠ 0 then [44] else []) ++ q.1.render) =
        (rows.zipIdx k).flatMap fun p => rowText nowMs cache (nameBytes (behind p.2) p.1) p.2 p.1 := by
    induction rows generalizing k with
    | nil => rfl
    | cons row rest ih =>
        simp only [List.zipIdx_cons, List.map_cons, List.flatMap_cons, ih]
        rfl
  rw [← tableText_closed, tableText, same 0]
  rfl

section Build

variable (table : List DeviceRow) (cache : List Reading) (nowMs : UInt32)
  (behind : Nat → List UInt8) (buf cap : Nat) (mem : Memory)

/-- The text that `build_devices_json` leaves. -/
def returned : List UInt8 :=
  let after := buildDevicesJson buf cap table cache nowMs behind mem
  after.mem.load buf after.pos

theorem shows_build (room : 64 ≤ cap) :
    ShowsPrefix ((snapshotDevices table 64).zipIdx.map (itemJson nowMs (snapshot cache 32) behind))
        (returned table cache nowMs behind buf cap mem) ↔
      Repairable cap false opening.length
        ((snapshotDevices table 64).zipIdx.map (itemParts nowMs (snapshot cache 32) behind)) := by
  obtain ⟨f, yields, same⟩ := yields_build buf cap table cache nowMs behind
  have opens : opening.length = 12 := by decide
  have first : emit cap opening [] = tableText [] := by
    rw [emit_fits (by simp; omega), tableText_nil]
    rfl
  have iff := shows_iff nowMs (snapshot cache 32) behind room (snapshotDevices table 64) []
    (fun v mem => absurd mem List.not_mem_nil) (by rw [tableText_nil]; omega)
  rw [returned, same, (yields.run mem).1, first]
  rw [tableText_nil] at iff ⊢
  exact iff

end Build

/-- **When the repair is right.** For a buffer of at least 64 bytes, the text of the device table
after the repair is one of the first rows of the table, as a large buffer would have them, exactly
if the buffer has room for all of it, or ends in the head of a row with others in front of it. -/
theorem devices_repair_iff (table : List DeviceRow) (cache : List Reading) (nowMs : UInt32)
    (behind : Nat → List UInt8) (buf cap : Nat) (mem : Memory) (room : 64 ≤ cap) :
    let rows := (snapshotDevices table 64).zipIdx
    let items := rows.map (itemJson nowMs (snapshot cache 32) behind)
    (ShowsPrefix items (returned table cache nowMs behind buf cap mem) ↔
        Repairable cap false opening.length (rows.map (itemParts nowMs (snapshot cache 32) behind))) ∧
      ∀ large, (tableText items).length + 11 ≤ large →
        Json.parse (returned table cache nowMs behind buf large mem) = some (devices items) := by
  refine ⟨shows_build table cache nowMs behind buf cap mem room, fun large spare => ?_⟩
  obtain ⟨f, prints, same⟩ := prints_build buf large table cache nowMs behind
  rw [rowsText_items] at prints
  have exact := (prints.run mem).2.2.2
  rw [← tableText_closed, List.length_append, List.length_cons, List.length_singleton] at exact
  rw [returned, same, exact spare, tableText_closed, Json.parse_render]

/-- Sixty-four devices without a name that can be connected to. -/
def crowd : List DeviceRow :=
  (List.range 64).map fun k =>
    { addr := UInt64.ofNat (0xc0ffee000000 + k), rssi := -70, advCount := 1, connectable := true }

/-- A buffer of 4106 bytes ends in the head of a row, and the rows before it are shown. -/
theorem devices_repair_crowd :
    ShowsPrefix ((snapshotDevices crowd 64).zipIdx.map (itemJson 5000 [] fun _ => []))
      (returned crowd [] 5000 (fun _ => []) 0 4106 fun _ => 0) :=
  (devices_repair_iff crowd [] 5000 (fun _ => []) 0 4106 (fun _ => 0) (by decide)).1.mpr
    (by decide +kernel)

/-- One of 4096 bytes, which is the one of the BLE server, ends in the details of a row. -/
theorem devices_repair_cut :
    ¬ ∀ (table : List DeviceRow) (cache : List Reading) (nowMs : UInt32)
        (behind : Nat → List UInt8) (buf cap : Nat) (mem : Memory), 64 ≤ cap →
      ShowsPrefix ((snapshotDevices table 64).zipIdx.map (itemJson nowMs (snapshot cache 32) behind))
        (returned table cache nowMs behind buf cap mem) := by
  intro always
  have shown := always crowd [] 5000 (fun _ => []) 0 4096 (fun _ => 0) (by decide)
  rw [shows_build _ _ _ _ _ _ _ (by decide)] at shown
  exact absurd shown (by decide +kernel)

end NimbleProxy.Dashboard.DevicesRepair
