/-
# Provision.TokenRoundTrip -- what the browser encodes, the device decodes

`decode_b64_token` on any string stays within the first `min(max_len, cap - 1)` bytes of
the buffer and the terminator (`decodeB64Token_frame`). On the token of a string that the
buffer takes, it leaves that string there (`decodeB64Token_base64Token`).

Both go by groups: one group that is decoded appends its bytes to what was put before.
-/
import NimbleProxy.Provision.SerialProvision
import NimbleProxy.Provision.WebFlasher

namespace NimbleProxy.Provision.SerialProvision

open NimbleProxy.Theory CString
open WebFlasher (base64Token Fits)

set_option autoImplicit false

/-! ## Any string -/

/-- `after` is `out` with something done to its first `limit` bytes. -/
structure Within (limit : Nat) (out after : Out) : Prop where
  len : after.len ≤ limit
  frame : ∀ i, limit ≤ i → after.mem i = out.mem i

theorem Within.trans {limit : Nat} {out mid after : Out} (first : Within limit out mid)
    (second : Within limit mid after) : Within limit out after :=
  ⟨second.len, fun i beyond => (second.frame i beyond).trans (first.frame i beyond)⟩

theorem putBytes_within {cap maxLen : Nat} (bytes : List UInt8) (out : Out)
    (len : out.len ≤ min maxLen (cap - 1)) :
    Within (min maxLen (cap - 1)) out (putBytes cap maxLen out bytes).1 := by
  induction bytes generalizing out with
  | nil => exact ⟨len, fun _ _ => rfl⟩
  | cons decoded rest ih =>
      simp only [putBytes]
      split
      · exact ⟨len, fun _ _ => rfl⟩
      · rename_i room
        split
        · exact ⟨len, fun _ _ => rfl⟩
        · refine Within.trans ⟨?_, fun i beyond => ?_⟩ (ih _ (by dsimp only; omega))
          · dsimp only
            omega
          · exact Memory.store_beyond (by rw [List.length_singleton]; omega)

theorem decodeGroups_within {cap maxLen : Nat} (token : List UInt8) (out : Out)
    (len : out.len ≤ min maxLen (cap - 1)) :
    Within (min maxLen (cap - 1)) out (decodeGroups cap maxLen out token).1 := by
  have stays : Within (min maxLen (cap - 1)) out out := ⟨len, fun _ _ => rfl⟩
  induction out, token using decodeGroups.induct cap maxLen with
  | case1 out c0 c1 c2 c3 rest bad =>
      simpa only [decodeGroups, bad] using stays
  | case2 out c0 c1 c2 c3 rest vals pad good many =>
      simpa only [decodeGroups, good, if_pos many] using stays
  | case3 out c0 c1 c2 c3 rest vals pad good few after put =>
      have within := putBytes_within (decodedBytes (tripleOf vals) pad) out len
      rw [put] at within
      simpa only [decodeGroups, good, if_neg few, put] using within
  | case4 out c0 c1 c2 c3 rest vals pad good few after put ih =>
      have within := putBytes_within (decodedBytes (tripleOf vals) pad) out len
      rw [put] at within
      simp only [decodeGroups, good, if_neg few, put]
      exact within.trans (ih within.len ⟨within.len, fun _ _ => rfl⟩)
  | case5 out token short =>
      rw [decodeGroups]
      · exact stays
      · exact short

/-- **Every token leaves what is behind the terminator.** -/
theorem decodeB64Token_frame (token : List UInt8) (out : Memory) (cap maxLen i : Nat)
    (beyond : min maxLen (cap - 1) < i) : (decodeB64Token token out cap maxLen).1 i = out i := by
  have within := decodeGroups_within token ⟨out, 0⟩ (Nat.zero_le (min maxLen (cap - 1)))
  unfold decodeB64Token
  split
  · show out.store 0 [0] i = out i
    exact Memory.store_beyond (by rw [List.length_singleton]; omega)
  · split
    · rfl
    · split
      · rename_i after decoded
        rw [decoded] at within
        exact within.frame i beyond.le
      · rename_i after decoded
        rw [decoded] at within
        have len : after.len ≤ min maxLen (cap - 1) := within.len
        show after.mem.store after.len [0] i = out i
        refine (Memory.store_beyond ?_).trans (within.frame i beyond.le)
        rw [List.length_singleton]
        omega

/-! ## Tokens -/

theorem b64Value_digit : ∀ v < 64, b64Value (Base64.digit v) = v ∧ Base64.digit v ≠ 61 := by
  decide

/-- The values of the characters of a group. -/
def sextets (n : Nat) : List UInt32 := [0, 1, 2, 3].map fun i => UInt32.ofNat (Base64.sextet n i)

section Group

variable {n : Nat} (fits : n < 2 ^ 24)

include fits

theorem groupVals_quad (vals : List UInt32) (i : Nat) (rest : List UInt8) :
    groupVals vals 0 (Base64.quad n i :: rest) =
      groupVals (vals ++ [UInt32.ofNat (Base64.sextet n i)]) 0 rest := by
  obtain ⟨value, isDigit⟩ := b64Value_digit _ (Base64.sextet_lt fits i)
  simp [groupVals, Base64.quad, value, isDigit]

theorem toNat_sextet (i : Nat) :
    (UInt32.ofNat (Base64.sextet n i)).toNat = Base64.sextet n i :=
  UInt32.toNat_ofNat_of_lt' ((Base64.sextet_lt fits i).trans (by decide))

theorem toNat_sextet_shiftLeft (i : Nat) {k : UInt32} (small : k.toNat ≤ 18) :
    (UInt32.ofNat (Base64.sextet n i) <<< k).toNat = Base64.sextet n i <<< k.toNat := by
  have lt := Base64.sextet_lt fits i
  have power : 2 ^ k.toNat ≤ 2 ^ 18 := Nat.pow_le_pow_right (by decide) small
  have bound : Base64.sextet n i * 2 ^ k.toNat ≤ 64 * 2 ^ 18 := Nat.mul_le_mul lt.le power
  rw [UInt32.toNat_shiftLeft, toNat_sextet fits, Nat.mod_eq_of_lt (show k.toNat < 32 by omega)]
  apply Nat.mod_eq_of_lt
  rw [Nat.shiftLeft_eq]
  omega

theorem toNat_tripleOf_sextets : (tripleOf (sextets n)).toNat = n := by
  show ((UInt32.ofNat (Base64.sextet n 0) <<< 18) ||| (UInt32.ofNat (Base64.sextet n 1) <<< 12) |||
    (UInt32.ofNat (Base64.sextet n 2) <<< 6) ||| UInt32.ofNat (Base64.sextet n 3)).toNat = n
  rw [UInt32.toNat_or, UInt32.toNat_or, UInt32.toNat_or, toNat_sextet_shiftLeft fits 0 (by decide),
    toNat_sextet_shiftLeft fits 1 (by decide), toNat_sextet_shiftLeft fits 2 (by decide),
    toNat_sextet fits]
  exact Base64.or_sextets fits

end Group

theorem decodedBytes_triple (a b c : UInt8) (pad : Nat) :
    decodedBytes (tripleOf (sextets (Base64.triple a b c))) pad = [a, b, c].take (3 - pad) := by
  have value := toNat_tripleOf_sextets (Base64.triple_lt a b c)
  generalize tripleOf (sextets (Base64.triple a b c)) = triple at value ⊢
  obtain ⟨first, second, third⟩ := Base64.bytes_triple a b c
  have byte (k : UInt32) (small : k.toNat < 32) :
      (triple >>> k).toUInt8 = UInt8.ofNat (Base64.triple a b c / 2 ^ k.toNat) := by
    apply UInt8.toNat_inj.mp
    rw [UInt32.toNat_toUInt8, UInt32.toNat_shiftRight, Nat.mod_eq_of_lt small, value,
      Nat.shiftRight_eq_div_pow, UInt8.toNat_ofNat']
  have all : [a, b, c] =
      (List.range 3).map fun j => (triple >>> UInt32.ofNat (16 - 8 * j)).toUInt8 := by
    show _ = [(triple >>> 16).toUInt8, (triple >>> 8).toUInt8, (triple >>> 0).toUInt8]
    rw [byte 16 (by decide), byte 8 (by decide), byte 0 (by decide)]
    simpa using ⟨first.symm, second.symm, third.symm⟩
  rw [all, ← List.map_take, List.take_range, Nat.min_eq_left (Nat.sub_le 3 pad)]
  rfl

theorem sextets_triple_one (a : UInt8) :
    Base64.sextet (Base64.triple a 0 0) 2 = 0 ∧ Base64.sextet (Base64.triple a 0 0) 3 = 0 := by
  simp only [Base64.sextet, Base64.triple, UInt8.toNat_zero]
  omega

theorem sextet_triple_two (a b : UInt8) : Base64.sextet (Base64.triple a b 0) 3 = 0 := by
  simp only [Base64.sextet, Base64.triple, UInt8.toNat_zero]
  omega

theorem groupVals_one (a : UInt8) :
    groupVals [] 0 [Base64.quad (Base64.triple a 0 0) 0, Base64.quad (Base64.triple a 0 0) 1,
      Base64.pad, Base64.pad] = some (sextets (Base64.triple a 0 0), 2) := by
  have fits := Base64.triple_lt a 0 0
  obtain ⟨third, fourth⟩ := sextets_triple_one a
  rw [groupVals_quad fits, groupVals_quad fits]
  simp [groupVals, Base64.pad, sextets, third, fourth]

theorem groupVals_two (a b : UInt8) :
    groupVals [] 0 [Base64.quad (Base64.triple a b 0) 0, Base64.quad (Base64.triple a b 0) 1,
      Base64.quad (Base64.triple a b 0) 2, Base64.pad] =
        some (sextets (Base64.triple a b 0), 1) := by
  have fits := Base64.triple_lt a b 0
  rw [groupVals_quad fits, groupVals_quad fits, groupVals_quad fits]
  simp [groupVals, Base64.pad, sextets, sextet_triple_two]

theorem groupVals_three (a b c : UInt8) :
    groupVals [] 0 [Base64.quad (Base64.triple a b c) 0, Base64.quad (Base64.triple a b c) 1,
      Base64.quad (Base64.triple a b c) 2, Base64.quad (Base64.triple a b c) 3] =
        some (sextets (Base64.triple a b c), 0) := by
  have fits := Base64.triple_lt a b c
  rw [groupVals_quad fits, groupVals_quad fits, groupVals_quad fits, groupVals_quad fits]
  simp [groupVals, sextets]

/-! ## Groups -/

/-- Bytes put behind those that are there. -/
def Out.put (out : Out) (bytes : List UInt8) : Out :=
  ⟨out.mem.store out.len bytes, out.len + bytes.length⟩

@[simp] theorem Out.put_nil (out : Out) : out.put [] = out := by
  simp [Out.put]

theorem Out.put_append (out : Out) (front back : List UInt8) :
    out.put (front ++ back) = (out.put front).put back := by
  simp [Out.put, Memory.store_append, Nat.add_assoc]

/-- These bytes still go into the buffer. -/
structure Room (cap maxLen : Nat) (out : Out) (bytes : List UInt8) : Prop where
  noNul : 0 ∉ bytes
  max : out.len + bytes.length ≤ maxLen
  cap : out.len + bytes.length < cap

section Room

variable {cap maxLen : Nat} {out : Out} {front back : List UInt8}

theorem Room.left (room : Room cap maxLen out (front ++ back)) : Room cap maxLen out front := by
  have max := room.max
  have cap := room.cap
  rw [List.length_append] at max cap
  exact ⟨fun mem => room.noNul (List.mem_append_left _ mem), by omega, by omega⟩

theorem Room.right (room : Room cap maxLen out (front ++ back)) :
    Room cap maxLen (out.put front) back := by
  have max := room.max
  have cap := room.cap
  rw [List.length_append, ← Nat.add_assoc] at max cap
  exact ⟨fun mem => room.noNul (List.mem_append_right _ mem), max, cap⟩

theorem putBytes_eq {bytes : List UInt8} (room : Room cap maxLen out bytes) :
    putBytes cap maxLen out bytes = (out.put bytes, true) := by
  induction bytes generalizing out with
  | nil => rw [putBytes, Out.put_nil]
  | cons decoded rest ih =>
      rw [← List.singleton_append] at room
      have max := room.max
      have cap := room.cap
      rw [List.length_append, List.length_singleton] at max cap
      have noNul : decoded ≠ 0 := fun zero => room.noNul (by simp [zero])
      rw [putBytes, if_neg (by omega), if_neg noNul]
      have put := ih room.right
      rw [← Out.put_append, List.singleton_append] at put
      exact put

/-- One group: its bytes are put. -/
theorem decodeGroups_group {a b c c0 c1 c2 c3 : UInt8} {pad : Nat} (rest : List UInt8)
    (vals : groupVals [] 0 [c0, c1, c2, c3] = some (sextets (Base64.triple a b c), pad))
    (pads : pad ≤ 2) (room : Room cap maxLen out ([a, b, c].take (3 - pad))) :
    decodeGroups cap maxLen out (c0 :: c1 :: c2 :: c3 :: rest) =
      decodeGroups cap maxLen (out.put ([a, b, c].take (3 - pad))) rest := by
  simp only [decodeGroups, vals, if_neg (Nat.not_lt.mpr pads), decodedBytes_triple,
    putBytes_eq room]

theorem decodeGroups_nil (cap maxLen : Nat) (out : Out) :
    decodeGroups cap maxLen out [] = (out, true) := by
  rw [decodeGroups]
  exact nofun

/-- The groups of a string that there is room for. -/
theorem decodeGroups_encode {value : List UInt8} (room : Room cap maxLen out value) :
    decodeGroups cap maxLen out (Base64.encode value) = (out.put value, true) := by
  induction value using Base64.encode.induct generalizing out with
  | case1 => rw [Base64.encode, decodeGroups_nil, Out.put_nil]
  | case2 a =>
      have vals := groupVals_one a
      have put := decodeGroups_group [] vals (by decide) room
      rw [Base64.encode, put, decodeGroups_nil]
      rfl
  | case3 a b =>
      have vals := groupVals_two a b
      have put := decodeGroups_group [] vals (by decide) room
      rw [Base64.encode, put, decodeGroups_nil]
      rfl
  | case4 a b c rest ih =>
      have vals := groupVals_three a b c
      have split : a :: b :: c :: rest = [a, b, c] ++ rest := rfl
      rw [split] at room
      have put := decodeGroups_group (Base64.encode rest) vals (by decide) room.left
      rw [Base64.encode, put, split, Out.put_append]
      exact ih room.right

end Room

/-- **The token of a string that fits is decoded to that string.** Every caller has a buffer
of `maxLen + 1` bytes. -/
theorem decodeB64Token_base64Token {value : List UInt8} (out : Memory) {cap maxLen : Nat}
    (fits : Fits maxLen value) (room : value.length < cap) :
    decodeB64Token (base64Token value) out cap maxLen = (out.store 0 (value ++ [0]), true) := by
  unfold base64Token
  split
  · rename_i empty
    rw [empty]
    rfl
  · rename_i some_
    have length := Base64.length_encode value
    have positive := List.length_pos_iff.mpr (Base64.encode_ne_nil some_)
    have notDash : Base64.encode value ≠ ascii "-" := by
      intro dash
      rw [dash] at length
      have one : (ascii "-").length = 1 := by decide
      omega
    have short : Room cap maxLen ⟨out, 0⟩ value :=
      ⟨fits.noNul, by simpa using fits.short, by simpa using room⟩
    rw [decodeB64Token, if_neg notDash, if_neg (by omega), decodeGroups_encode short]
    simp [Out.put, Memory.store_append]

end NimbleProxy.Provision.SerialProvision
