/-
# Provision.SetupForm -- the credentials of the setup page

`form_get` and `ap_wifi_post` of `wifi_sta.cpp`. The body arrives in chunks and is read into
256 bytes; what does not fit is not read. The two values are looked up in it and decoded
into buffers that are one byte longer than what is allowed, so that a value that is too long
is seen to be so. A body that is too long is not: its end is the end of the password, and a
password that was cut is stored like any other (`setup_form_iff`).

What NVS answers to a write is not looked at.
-/
import NimbleProxy.Provision.SerialProvision
import NimbleProxy.Theory.FormText
import NimbleProxy.Theory.StoreSession

namespace NimbleProxy.Provision.SetupForm

open NimbleProxy.Theory KeyValue CString FormText
open NimbleProxy.Theory.Json (hexValue)
open NimbleProxy.Provision.SerialProvision (isHexString)

set_option autoImplicit false

/-! ## The body -/

/-- What `httpd_req_recv` finds: a chunk, nothing yet, or an error. -/
inductive Recv
  | data (chunk : List UInt8)
  | timeout
  | failed

/-- The loop of `ap_wifi_post`, with `room` bytes left in the buffer. -/
def receive : Nat → List Recv → List UInt8
  | 0, _ => []
  | _, [] => []
  | room, .timeout :: rest => receive room rest
  | _, .failed :: _ => []
  | _, .data [] :: _ => []
  | room, .data chunk :: rest => chunk.take room ++ receive (room - chunk.length) rest

/-- The body arrives in these chunks, with any waiting between them. -/
inductive Delivers : List UInt8 → List Recv → Prop
  | done : Delivers [] []
  | timeout {body : List UInt8} {rest : List Recv} : Delivers body rest →
      Delivers body (.timeout :: rest)
  | data {chunk body : List UInt8} {rest : List Recv} : chunk ≠ [] → Delivers body rest →
      Delivers (chunk ++ body) (.data chunk :: rest)

/-! ## Fields -/

/-- The loop over a value in `form_get`, with `room` bytes left in front of the terminator. -/
def decode : Nat → List UInt8 → List UInt8
  | 0, _ => []
  | _, [] => []
  | room + 1, 43 :: q => 32 :: decode room q
  | room + 1, 37 :: hi :: lo :: q =>
      match hexValue hi, hexValue lo with
      | some h, some l => UInt8.ofNat (h * 16 + l) :: decode room q
      | _, _ => 37 :: decode room (hi :: lo :: q)
  | room + 1, c :: q => c :: decode room q

/-- `form_get`: the string in `out`, of `cap` bytes. -/
def formGet (src key : List UInt8) (cap : Nat) : Option (List UInt8) :=
  match _found : cut 61 src with
  | none => none
  | some (name, rest) =>
      if name = key then some (upToNul (decode (cap - 1) (rest.takeWhile (· ≠ 38))))
      else
        match _next : cut 38 rest with
        | none => none
        | some (_, p) => formGet p key cap
termination_by src.length
decreasing_by exact Nat.lt_trans (length_lt_of_cut _next) (length_lt_of_cut _found)

/-! ## The handler -/

/-- The namespace `wifi`. -/
abbrev Nvs := Store String (List UInt8)

/-- The calls of `nvs_set_str`. -/
def credWrites (ssid psk : List UInt8) : List (String × List UInt8) := [("ssid", ssid), ("psk", psk)]

/-- The check of the password. -/
def badPassword (psk : List UInt8) : Bool :=
  (0 < psk.length && psk.length < 8) || 64 < psk.length ||
    (psk.length = 64 && !isHexString psk)

/-- NVS, and the text of the error. -/
def apWifiPost (nvs : Nvs) (arrivals : List Recv) (outcome : Outcome String) : Nvs × Option String :=
  let buf := upToNul (receive 255 arrivals)
  match formGet buf (ascii "ssid") 34 with
  | none => (nvs, some "missing ssid")
  | some ssid =>
      if ssid = [] then (nvs, some "missing ssid")
      else if 32 < ssid.length then (nvs, some "ssid too long")
      else
        let psk := (formGet buf (ascii "psk") 66).getD []
        if badPassword psk then (nvs, some "invalid password")
        else if !outcome.opens then (nvs, some "nvs open")
        else (nvs.attempt outcome (credWrites ssid psk), none)

/-! ## What is read of a body -/

section Reading

variable {room cap : Nat} {body q key rest : List UInt8} {c hi lo : UInt8} {arrivals : List Recv}
  {pieces : List Piece}

/-- The chunks do not matter. -/
theorem receive_eq (delivers : Delivers body arrivals) (room : Nat) :
    receive room arrivals = body.take room := by
  induction delivers generalizing room with
  | done => cases room <;> rfl
  | timeout _ ih =>
      cases room with
      | zero => rfl
      | succ room => exact ih (room + 1)
  | data some_ _ ih =>
      rename_i chunk body rest _
      cases room with
      | zero => rfl
      | succ room =>
          cases chunk with
          | nil => exact absurd rfl some_
          | cons first more =>
              rw [receive, ih, List.take_append]
              all_goals nofun

theorem decode_nil : decode room [] = [] := by cases room <;> rfl

theorem decode_cons (plus : c ≠ 43) (percent : c ≠ 37) :
    decode (room + 1) (c :: q) = c :: decode room q := by
  rw [decode]
  · exact plus
  · exact fun _ _ _ same _ => percent same

theorem decode_escape (high : (hexValue hi).isSome) (low : (hexValue lo).isSome) :
    decode (room + 1) (37 :: hi :: lo :: q) = escapedByte hi lo :: decode room q := by
  obtain ⟨h, high⟩ := Option.isSome_iff_exists.mp high
  obtain ⟨l, low⟩ := Option.isSome_iff_exists.mp low
  rw [decode, high, low, escapedByte, high, low]
  rfl

/-- A piece is read as its byte. -/
theorem decode_piece (p : Piece) (room : Nat) (q : List UInt8) :
    decode (room + 1) (p.text ++ q) = p.byte :: decode room q := by
  cases p with
  | plain c free => exact decode_cons free.2.2.2 free.2.1
  | escaped hi lo digits some_ => exact decode_escape digits.1 digits.2
  | plus => rfl

/-- What is left of an escape is read as it stands. -/
theorem decode_cut (p : Piece) (cut : room < p.text.length) (cap : Nat) :
    decode cap (p.text.take room) = (p.text.take room).take cap := by
  cases cap with
  | zero => rfl
  | succ cap =>
      cases room with
      | zero => rfl
      | succ room =>
          cases p with
          | plain c free => exact absurd cut (by simp [Piece.text])
          | plus => exact absurd cut (by simp [Piece.text])
          | escaped hi lo digits some_ =>
              obtain ⟨_, percent, _, plus⟩ := Piece.digit_ne digits.1
              cases room with
              | zero =>
                  show 37 :: decode cap [] = 37 :: [].take cap
                  rw [decode_nil, List.take_nil]
              | succ room =>
                  obtain rfl : room = 0 := by
                    have three : (Piece.escaped hi lo digits some_).text.length = 3 := rfl
                    omega
                  show 37 :: decode cap [hi] = 37 :: [hi].take cap
                  cases cap with
                  | zero => rfl
                  | succ cap => rw [decode_cons plus percent, decode_nil, List.take_succ_cons, List.take_nil]

/-- **A value that may be cut.** -/
theorem decode_textOf (cap room : Nat) (pieces : List Piece) :
    decode cap ((textOf pieces).take room) = (arrived room pieces).take cap := by
  induction pieces generalizing cap room with
  | nil =>
      rw [show textOf [] = [] from rfl, List.take_nil, decode_nil, arrived, List.take_nil]
  | cons p rest ih =>
      rw [textOf_cons, List.take_append, arrived]
      split
      · rename_i whole
        rw [List.take_of_length_le whole]
        cases cap with
        | zero => rfl
        | succ cap => rw [decode_piece, ih, List.take_succ_cons]
      · rename_i cut
        rw [Nat.sub_eq_zero_of_le (by omega), List.take_zero, List.append_nil]
        exact decode_cut p (by omega) cap

/-- The field that is asked for. -/
theorem formGet_own (free : 61 ∉ key) (rest : List UInt8) (cap : Nat) :
    formGet (key ++ 61 :: rest) key cap =
      some (upToNul (decode (cap - 1) (rest.takeWhile (· ≠ 38)))) := by
  rw [formGet]
  split
  · rename_i absent
    rw [cut_append free] at absent
    cases absent
  · rename_i name value found
    rw [cut_append free] at found
    cases found
    exact if_pos rfl

/-- Another field in front of it. -/
theorem formGet_other {name value : List UInt8} (free : 61 ∉ name) (other : name ≠ key)
    (free' : 38 ∉ value) (rest : List UInt8) (cap : Nat) :
    formGet (name ++ 61 :: (value ++ 38 :: rest)) key cap = formGet rest key cap := by
  rw [formGet]
  split
  · rename_i absent
    rw [cut_append free] at absent
    cases absent
  · rename_i name' value' found
    rw [cut_append free] at found
    cases found
    rw [if_neg other]
    split
    · rename_i absent
      rw [cut_append free'] at absent
      cases absent
    · rename_i front p next
      rw [cut_append free'] at next
      cases next
      rfl

/-- A value ends at the next field, or where the text was cut. -/
theorem takeWhile_take (free : 38 ∉ q) (n : Nat) (rest : List UInt8) :
    ((q ++ 38 :: rest).take n).takeWhile (· ≠ 38) = q.take n := by
  have all : ∀ x ∈ q, decide (x ≠ 38) = true := by
    intro x mem
    simpa using fun same : x = 38 => free (same ▸ mem)
  rw [← List.take_takeWhile, List.takeWhile_append_of_pos all, List.takeWhile_cons_of_neg (by simp),
    List.append_nil]

theorem upToNul_take_arrived (n room : Nat) (pieces : List Piece) :
    upToNul ((arrived room pieces).take n) = (arrived room pieces).take n :=
  upToNul_eq_self fun mem => zero_notMem_arrived room pieces (List.mem_of_mem_take mem)

end Reading

/-! ## Any way to write a form -/

/-- The body of a form, with the two values written in any way. -/
def formBody (ssid psk : List Piece) : List UInt8 :=
  ascii "ssid" ++ 61 :: (textOf ssid ++ 38 :: (ascii "psk" ++ 61 :: textOf psk))

/-- What arrives of the password in the 255 bytes that are read. -/
def arrivedPsk (ssid psk : List Piece) : List UInt8 := arrived (245 - (textOf ssid).length) psk

def ValidSsid (ssid : List UInt8) : Prop := 1 ≤ ssid.length ∧ ssid.length ≤ 32

def ValidPassword (psk : List UInt8) : Prop :=
  psk = [] ∨ (8 ≤ psk.length ∧ psk.length ≤ 63) ∨ (psk.length = 64 ∧ isHexString psk = true)

section Form

variable {ssid psk : List Piece} {a : List UInt8}

theorem length_formBody (ssid psk : List Piece) :
    (formBody ssid psk).length = (textOf ssid).length + (textOf psk).length + 10 := by
  have words : (ascii "ssid").length = 4 ∧ (ascii "psk").length = 3 := by decide
  simp only [formBody, List.length_append, List.length_cons, words]
  omega

/-- A body that fits is read to its end. -/
theorem arrivedPsk_whole (short : (formBody ssid psk).length ≤ 255) :
    arrivedPsk ssid psk = bytesOf psk := by
  rw [length_formBody] at short
  exact arrived_whole (by omega)

/-- One that does not fit is cut in the password, behind a name that is not too long. -/
theorem arrivedPsk_eq_iff (name : ValidSsid (bytesOf ssid)) :
    arrivedPsk ssid psk = bytesOf psk ↔
      (formBody ssid psk).length ≤ 255 ∨ CutInPercent (245 - (textOf ssid).length) psk := by
  have bound := length_textOf_le ssid
  have few : ssid.length ≤ 32 := length_bytesOf ssid ▸ name.2
  have fits : (formBody ssid psk).length ≤ 255 ↔
      (textOf psk).length ≤ 245 - (textOf ssid).length := by
    rw [length_formBody]
    omega
  rw [fits]
  exact arrived_eq_iff _ psk

theorem zero_notMem_formBody (ssid psk : List Piece) : 0 ∉ formBody ssid psk := by
  have words : 0 ∉ ascii "ssid" ∧ 0 ∉ ascii "psk" := by decide
  simp [formBody, words, textOf_free]

/-- The name that is read. -/
theorem formGet_ssid (ssid psk : List Piece) :
    formGet ((formBody ssid psk).take 255) (ascii "ssid") 34 = some ((arrived 250 ssid).take 33) := by
  have front : (formBody ssid psk).take 255 = ascii "ssid" ++
      61 :: (textOf ssid ++ 38 :: (ascii "psk" ++ 61 :: textOf psk)).take 250 := rfl
  rw [front, formGet_own (by decide), takeWhile_take (textOf_free ssid).2, decode_textOf,
    upToNul_take_arrived]

/-- The password that is read, behind a name that is not too long. -/
theorem formGet_psk (short : (textOf ssid).length ≤ 245) :
    formGet ((formBody ssid psk).take 255) (ascii "psk") 66 =
      some ((arrivedPsk ssid psk).take 65) := by
  have front : (formBody ssid psk).take 255 = ascii "ssid" ++ 61 :: (textOf ssid ++
      38 :: (ascii "psk" ++ 61 :: (textOf psk).take (245 - (textOf ssid).length))) := by
    show ascii "ssid" ++ 61 :: (textOf ssid ++ 38 :: (ascii "psk" ++ 61 :: textOf psk)).take 250 = _
    rw [List.take_append, List.take_of_length_le (by omega),
      show 250 - (textOf ssid).length = 245 - (textOf ssid).length + 5 by omega]
    rfl
  have whole : ((textOf psk).take (245 - (textOf ssid).length)).takeWhile (· ≠ 38) =
      (textOf psk).take (245 - (textOf ssid).length) := by
    rw [List.takeWhile_eq_self_iff]
    intro x mem
    simpa using fun same : x = 38 => (textOf_free psk).2 (same ▸ List.mem_of_mem_take mem)
  rw [front, formGet_other (by decide) (by decide) (textOf_free ssid).2, formGet_own (by decide), whole,
    decode_textOf, upToNul_take_arrived]
  rfl

/-- The buffer is one byte longer than a name may be. -/
theorem take_arrived_ssid (ssid : List Piece) :
    (1 ≤ ssid.length ∧ ssid.length ≤ 32 ∧ (arrived 250 ssid).take 33 = bytesOf ssid) ∨
      (ssid.length = 0 ∧ (arrived 250 ssid).take 33 = []) ∨
      (32 < ssid.length ∧ 32 < ((arrived 250 ssid).take 33).length) := by
  have bound := length_textOf_le ssid
  by_cases whole : (textOf ssid).length ≤ 250
  · rw [arrived_whole whole]
    have same := length_bytesOf ssid
    by_cases long : 32 < ssid.length
    · refine .inr (.inr ⟨long, ?_⟩)
      rw [List.length_take]
      omega
    · rw [List.take_of_length_le (by omega)]
      by_cases empty : ssid.length = 0
      · exact .inr (.inl ⟨empty, by simpa [bytesOf] using empty⟩)
      · exact .inl ⟨by omega, by omega, rfl⟩
  · have enough : 250 ≤ 3 * (arrived 250 ssid).length := length_arrived_ge (by omega)
    refine .inr (.inr ⟨by omega, ?_⟩)
    rw [List.length_take]
    omega

theorem badPassword_iff (a : List UInt8) : badPassword a = true ↔ ¬ ValidPassword a := by
  have checks : badPassword a = true ↔ (0 < a.length ∧ a.length < 8) ∨ 64 < a.length ∨
      (a.length = 64 ∧ isHexString a = false) := by
    simp [badPassword, or_assoc]
  rw [checks, ValidPassword, ← List.length_eq_zero_iff]
  cases isHexString a with
  | false =>
      simp only [Bool.false_eq_true, and_true, and_false, or_false]
      omega
  | true =>
      simp only [Bool.true_eq_false, and_true, and_false, or_false]
      omega

theorem not_valid_of_long (long : 64 < a.length) : ¬ ValidPassword a := by
  rintro (rfl | ⟨_, short⟩ | ⟨short, _⟩)
  · exact absurd long (by decide)
  · omega
  · omega

/-- And the other one byte longer than a password may be. -/
theorem badPassword_take (a : List UInt8) :
    (ValidPassword a ∧ badPassword (a.take 65) = false ∧ a.take 65 = a) ∨
      (¬ ValidPassword a ∧ badPassword (a.take 65) = true) := by
  by_cases long : 64 < a.length
  · have still : 64 < (a.take 65).length := by
      rw [List.length_take]
      omega
    exact .inr ⟨not_valid_of_long long, (badPassword_iff _).mpr (not_valid_of_long still)⟩
  · rw [List.take_of_length_le (by omega)]
    by_cases valid : ValidPassword a
    · exact .inl ⟨valid, Bool.eq_false_iff.mpr fun bad => (badPassword_iff a).mp bad valid, rfl⟩
    · exact .inr ⟨valid, (badPassword_iff a).mpr valid⟩

end Form

/-! ## Stored or refused -/

/-- What a form is to do. -/
structure StoredOrRefused (ssid psk : List Piece) (nvs : Nvs) (result : Nvs × Option String) :
    Prop where
  refused : ∀ text, result.2 = some text → result.1 = nvs
  stored : result.2 = none → result.1 = nvs.putAll (credWrites (bytesOf ssid) (bytesOf psk))
  accepts : ValidSsid (bytesOf ssid) → ValidPassword (bytesOf psk) →
    (formBody ssid psk).length ≤ 255 → result.2 = none

/-- A body whose front is accepted is not cut, or only where that does no harm; what NVS does not
take it has already; and NVS can be opened if there is something valid to store. -/
structure Whole (ssid psk : List Piece) (nvs : Nvs) (outcome : Outcome String) : Prop where
  same : ValidSsid (bytesOf ssid) → ValidPassword (arrivedPsk ssid psk) → outcome.opens = true →
    (outcome.lands "ssid" = true ∨ nvs "ssid" = some (bytesOf ssid)) ∧
      if outcome.lands "psk" then (formBody ssid psk).length ≤ 255 ∨
        CutInPercent (245 - (textOf ssid).length) psk
      else nvs "psk" = some (bytesOf psk)
  opens : ValidSsid (bytesOf ssid) → ValidPassword (bytesOf psk) →
    (formBody ssid psk).length ≤ 255 → outcome.opens = true

section Main

variable {ssid psk : List Piece} {nvs : Nvs} {outcome : Outcome String} {arrivals : List Recv}

variable (nvs outcome) in
/-- What the handler does with a form. -/
theorem apWifiPost_eq (delivers : Delivers (formBody ssid psk) arrivals) :
    (ValidSsid (bytesOf ssid) ∧ ValidPassword (arrivedPsk ssid psk) ∧ outcome.opens = true ∧
        apWifiPost nvs arrivals outcome =
          (nvs.attempt outcome (credWrites (bytesOf ssid) (arrivedPsk ssid psk)), none)) ∨
      (¬ (ValidSsid (bytesOf ssid) ∧ ValidPassword (arrivedPsk ssid psk) ∧ outcome.opens = true) ∧
        ∃ text, apWifiPost nvs arrivals outcome = (nvs, some text)) := by
  have body : upToNul (receive 255 arrivals) = (formBody ssid psk).take 255 := by
    rw [receive_eq delivers]
    exact upToNul_eq_self fun mem => zero_notMem_formBody ssid psk (List.mem_of_mem_take mem)
  have same := length_bytesOf ssid
  rcases take_arrived_ssid ssid with ⟨low, high, name⟩ | ⟨zero, name⟩ | ⟨long, name⟩
  · have bound := length_textOf_le ssid
    have named : bytesOf ssid ≠ [] := fun empty => by simp [empty] at same; omega
    have password : formGet ((formBody ssid psk).take 255) (ascii "psk") 66 =
        some ((arrivedPsk ssid psk).take 65) := formGet_psk (by omega)
    have short : ¬ 32 < (bytesOf ssid).length := by omega
    have stage : apWifiPost nvs arrivals outcome =
        if badPassword ((arrivedPsk ssid psk).take 65) then (nvs, some "invalid password")
        else if !outcome.opens then (nvs, some "nvs open")
        else
          (nvs.attempt outcome (credWrites (bytesOf ssid) ((arrivedPsk ssid psk).take 65)), none) := by
      simp only [apWifiPost, body, formGet_ssid, name, password, named, short, if_false,
        Option.getD_some]
    rw [stage]
    rcases badPassword_take (arrivedPsk ssid psk) with ⟨valid, fine, whole⟩ | ⟨invalid, bad⟩
    · rw [whole] at fine ⊢
      rw [fine, if_neg Bool.false_ne_true]
      cases opens : outcome.opens with
      | true => exact .inl ⟨⟨by omega, by omega⟩, valid, rfl, rfl⟩
      | false => exact .inr ⟨fun all => absurd all.2.2 Bool.false_ne_true, "nvs open", rfl⟩
    · exact .inr ⟨fun all => invalid all.2.1, "invalid password", if_pos bad⟩
  · refine .inr ⟨fun all => ?_, "missing ssid", ?_⟩
    · have positive := all.1.1
      omega
    · simp only [apWifiPost, body, formGet_ssid, name, if_true]
  · refine .inr ⟨fun all => ?_, "ssid too long", ?_⟩
    · have short := all.1.2
      omega
    · have named : (arrived 250 ssid).take 33 ≠ [] := fun empty => by simp [empty] at name
      simp only [apWifiPost, body, formGet_ssid, named, if_false, name, if_true]

/-- What two writes leave, if they are not of the same value. -/
theorem attempt_credWrites_iff (name password wanted : List UInt8) :
    nvs.attempt outcome (credWrites name password) = nvs.putAll (credWrites name wanted) ↔
      (outcome.lands "ssid" = true ∨ nvs "ssid" = some name) ∧
        if outcome.lands "psk" then password = wanted else nvs "psk" = some wanted := by
  have nodup (password : List UInt8) : ((credWrites name password).map Prod.fst).Nodup := by
    simp [credWrites]
  have ssid : nvs.attempt outcome (credWrites name password) "ssid" =
      if outcome.lands "ssid" then some name else nvs "ssid" :=
    attempt_of_mem (nodup password) List.mem_cons_self
  have psk : nvs.attempt outcome (credWrites name password) "psk" =
      if outcome.lands "psk" then some password else nvs "psk" :=
    attempt_of_mem (nodup password) (List.mem_cons_of_mem _ List.mem_cons_self)
  have ssid' : nvs.putAll (credWrites name wanted) "ssid" = some name :=
    putAll_of_mem nvs (functional_of_nodup (nodup wanted)) List.mem_cons_self
  have psk' : nvs.putAll (credWrites name wanted) "psk" = some wanted :=
    putAll_of_mem nvs (functional_of_nodup (nodup wanted)) (List.mem_cons_of_mem _ List.mem_cons_self)
  have one : ((if outcome.lands "ssid" = true then some name else nvs "ssid") = some name) ↔
      outcome.lands "ssid" = true ∨ nvs "ssid" = some name := by
    by_cases lands : outcome.lands "ssid" = true <;> simp [lands]
  have other : ((if outcome.lands "psk" = true then some password else nvs "psk") = some wanted) ↔
      if outcome.lands "psk" = true then password = wanted else nvs "psk" = some wanted := by
    by_cases lands : outcome.lands "psk" = true <;> simp [lands]
  rw [← one, ← other, ← ssid, ← psk]
  refine ⟨fun same => ⟨same ▸ ssid', same ▸ psk'⟩, fun ⟨left, right⟩ => funext fun key => ?_⟩
  by_cases first : key = "ssid"
  · rw [first, left, ssid']
  · by_cases second : key = "psk"
    · rw [second, right, psk']
    · rw [attempt_of_notMem (by simp [credWrites, first, second])]
      exact (putAll_of_notMem nvs (by simp [credWrites, first, second])).symm

end Main

/-- **The setup form.** Whatever the escapes and the chunks, the form is stored as it was meant or
refused, and accepted if it is valid and fits, exactly if nothing of it is lost. -/
theorem setup_form_iff (ssid psk : List Piece) (arrivals : List Recv)
    (delivers : Delivers (formBody ssid psk) arrivals) (nvs : Nvs) (outcome : Outcome String) :
    StoredOrRefused ssid psk nvs (apWifiPost nvs arrivals outcome) ↔ Whole ssid psk nvs outcome := by
  rcases apWifiPost_eq nvs outcome delivers with
    ⟨name, password, opens, result⟩ | ⟨refused, text, result⟩
  · rw [result]
    constructor
    · intro fine
      have same := (attempt_credWrites_iff _ _ _).mp (fine.stored rfl)
      rw [arrivedPsk_eq_iff name] at same
      exact ⟨fun _ _ _ => same, fun _ _ _ => opens⟩
    · intro whole
      have same := whole.same name password opens
      rw [← arrivedPsk_eq_iff name] at same
      exact ⟨nofun, fun _ => (attempt_credWrites_iff _ _ _).mpr same, fun _ _ _ => rfl⟩
  · rw [result]
    constructor
    · intro fine
      refine ⟨fun name password opens => absurd ⟨name, password, opens⟩ refused, ?_⟩
      intro name password short
      exact nomatch fine.accepts name password short
    · intro whole
      refine ⟨fun _ _ => rfl, nofun, fun name password short => ?_⟩
      have arrived := arrivedPsk_whole short
      exact absurd ⟨name, arrived ▸ password, whole.opens name password short⟩ refused

/-! ## Two forms -/

/-- %61. -/
def escapedA : Piece := .escaped 54 49 (by decide) (by decide)

/-- `a`. -/
def plainA : Piece := .plain 97 (by decide)

/-- A name with a blank, in two chunks. -/
theorem setup_form_blank :
    let ssid := [plainA, .plus, escapedA]
    let psk := List.replicate 8 plainA
    StoredOrRefused ssid psk (fun _ => none) (apWifiPost (fun _ => none)
      [.timeout, .data (ascii "ssid=a+%61&ps"), .timeout, .data (ascii "k=aaaaaaaa")] {}) := by
  intro ssid psk
  have first : ascii "ssid=a+%61&ps" ≠ [] := by decide
  have second : ascii "k=aaaaaaaa" ≠ [] := by decide
  have delivers : Delivers (formBody ssid psk)
      [.timeout, .data (ascii "ssid=a+%61&ps"), .timeout, .data (ascii "k=aaaaaaaa")] :=
    .timeout (.data first (.timeout (.data second .done)))
  have whole : Whole ssid psk (fun _ => none) {} :=
    ⟨fun _ _ _ => ⟨.inl rfl, Or.inl (by decide)⟩, fun _ _ _ => rfl⟩
  exact (setup_form_iff ssid psk _ delivers (fun _ => none) {}).mpr whole

/-- A name of 32 and a password of 63 bytes, both escaped: the body has 295 bytes, and the password
that is stored has 51. -/
theorem password_shortened :
    let ssid := List.replicate 32 escapedA
    let psk := List.replicate 63 escapedA
    let result := apWifiPost (fun _ => none) [.data (formBody ssid psk)] {}
    result.2 = none ∧ result.1 "psk" = some (List.replicate 49 97 ++ [37, 54]) ∧
      ¬ StoredOrRefused ssid psk (fun _ => none) result := by
  intro ssid psk result
  have delivers : Delivers (formBody ssid psk) [.data (formBody ssid psk)] := by
    have whole : Delivers (formBody ssid psk ++ []) [.data (formBody ssid psk)] :=
      .data (by decide) .done
    rwa [List.append_nil] at whole
  have arrived : arrivedPsk ssid psk = List.replicate 49 97 ++ [37, 54] := by decide +kernel
  have valid : ValidPassword (arrivedPsk ssid psk) := by
    rw [arrived]
    exact .inr (.inl (by decide))
  rcases apWifiPost_eq (fun _ => none) {} delivers with
    ⟨_, _, _, same⟩ | ⟨refused, _⟩
  · have stored : result.1 "psk" = some (List.replicate 49 97 ++ [37, 54]) := by
      rw [show result = _ from same, arrived]
      rfl
    refine ⟨congrArg Prod.snd same, stored, fun fine => ?_⟩
    rw [fine.stored (congrArg Prod.snd same)] at stored
    exact absurd stored (by decide +kernel)
  · exact absurd ⟨⟨by decide, by decide⟩, valid, rfl⟩ refused

end NimbleProxy.Provision.SetupForm
