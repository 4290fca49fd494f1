/-
# Provision.SerialProvision -- settings over the serial console

`serial_provision.cpp`: bytes of the console are collected into a line of at most 511
(`append_rx`). A line with a known prefix is cut into its tokens in place, the tokens are
decoded into buffers on the stack, and what passes the checks is stored.

A `char *` into the line is the string from there (`Theory.CString`). The output buffer of
`decode_b64_token` is a memory that starts at `out`. Which calls of NVS succeed is an
argument.
-/
import NimbleProxy.Theory.Base64
import NimbleProxy.Theory.CString
import NimbleProxy.Theory.KeyValue

namespace NimbleProxy.Provision.SerialProvision

open NimbleProxy.Theory CString KeyValue

set_option autoImplicit false

/-! ## Tokens -/

def b64Value (c : UInt8) : Int :=
  if 65 ≤ c ∧ c ≤ 90 then c.toNat - 65
  else if 97 ≤ c ∧ c ≤ 122 then c.toNat - 97 + 26
  else if 48 ≤ c ∧ c ≤ 57 then c.toNat - 48 + 52
  else if c = 43 then 62
  else if c = 47 then 63
  else -1

/-- `isxdigit`. -/
def isXDigit (c : UInt8) : Bool := 48 ≤ c ∧ c ≤ 57 ∨ 65 ≤ c ∧ c ≤ 70 ∨ 97 ≤ c ∧ c ≤ 102

def isHexString (s : List UInt8) : Bool := s.all isXDigit

/-- The loop over the four characters of a group: `vals` and `pad`. -/
def groupVals (vals : List UInt32) (pad : Nat) : List UInt8 → Option (List UInt32 × Nat)
  | [] => some (vals, pad)
  | c :: rest =>
      if c = 61 then groupVals (vals ++ [0]) (pad + 1) rest
      else if pad ≠ 0 then none
      else
        let v := b64Value c
        if v < 0 then none else groupVals (vals ++ [UInt32.ofNat v.toNat]) pad rest

/-- `triple`. -/
def tripleOf (vals : List UInt32) : UInt32 :=
  (vals.getD 0 0 <<< 18) ||| (vals.getD 1 0 <<< 12) ||| (vals.getD 2 0 <<< 6) ||| vals.getD 3 0

/-- The output buffer with `out_len`. -/
structure Out where
  mem : Memory
  len : Nat

/-- The loop over the bytes of a group; `none` of the second component is a failure. -/
def putBytes (cap maxLen : Nat) (out : Out) : List UInt8 → Out × Bool
  | [] => (out, true)
  | decoded :: rest =>
      if out.len ≥ maxLen ∨ out.len + 1 ≥ cap then (out, false)
      else if decoded = 0 then (out, false)
      else putBytes cap maxLen ⟨out.mem.store out.len [decoded], out.len + 1⟩ rest

/-- The bytes of `triple`. -/
def decodedBytes (triple : UInt32) (pad : Nat) : List UInt8 :=
  (List.range (3 - pad)).map fun j => (triple >>> UInt32.ofNat (16 - 8 * j)).toUInt8

/-- The loop over the groups. -/
def decodeGroups (cap maxLen : Nat) (out : Out) : List UInt8 → Out × Bool
  | c0 :: c1 :: c2 :: c3 :: rest =>
      match groupVals [] 0 [c0, c1, c2, c3] with
      | none => (out, false)
      | some (vals, pad) =>
          if pad > 2 then (out, false)
          else
            match putBytes cap maxLen out (decodedBytes (tripleOf vals) pad) with
            | (out, false) => (out, false)
            | (out, true) => decodeGroups cap maxLen out rest
  | _ => (out, true)

/-- `decode_b64_token`: the buffer after it, and what it returns. -/
def decodeB64Token (token : List UInt8) (out : Memory) (cap maxLen : Nat) : Memory × Bool :=
  if token = ascii "-" then (out.store 0 [0], true)
  else if token.length = 0 ∨ token.length % 4 ≠ 0 then (out, false)
  else
    match decodeGroups cap maxLen ⟨out, 0⟩ token with
    | (out, false) => (out.mem, false)
    | (out, true) => (out.mem.store out.len [0], true)

/-! ## Lines -/

inductive Value
  | str (s : List UInt8)
  | u8 (v : UInt8)
  deriving DecidableEq

inductive Key
  | wifiSsid | wifiPsk | natEnabled | natApSsid | natApPsk
  deriving DecidableEq

abbrev Nvs := Store Key Value

/-- Which calls of NVS succeed. -/
structure Answers where
  opens : Bool
  write : Key → Bool
  commit : Bool

/-- A chain of writes that ends with the first one that fails; whether all were made. -/
def writes (answers : Answers) (nvs : Nvs) : List (Key × Value) → Nvs × Bool
  | [] => (nvs, answers.commit)
  | (key, value) :: rest =>
      if answers.write key then writes answers (nvs.put key value) rest else (nvs, false)

def storeWifiCreds (answers : Answers) (nvs : Nvs) (ssid psk : List UInt8) : Nvs × Bool :=
  if answers.opens then writes answers nvs [(.wifiSsid, .str ssid), (.wifiPsk, .str psk)]
  else (nvs, false)

def storeNatConfig (answers : Answers) (nvs : Nvs) (enabled : Bool) (ssid psk : List UInt8)
    (updateSsid updatePsk : Bool) : Nvs × Bool :=
  if answers.opens then
    writes answers nvs ((.natEnabled, .u8 (if enabled then 1 else 0)) ::
      ((if updateSsid then [(.natApSsid, .str ssid)] else []) ++
        if updatePsk then [(.natApPsk, .str psk)] else []))
  else (nvs, false)

/-- `LineResult`. -/
structure LineResult where
  handled : Bool := false
  reboot : Bool := false
  ack : Option String := none
  deriving DecidableEq

def rejected : LineResult := { handled := true }

/-- A buffer on the stack, filled with zeros. -/
def zeros : Memory := fun _ => 0

def handleWifiLine (answers : Answers) (nvs : Nvs) (line : List UInt8) : Nvs × LineResult :=
  let wifiPrefix := ascii "NBP-PROV1 "
  if ¬ wifiPrefix <+: line then (nvs, {})
  else
    match cut 32 (skip 32 (line.drop wifiPrefix.length)) with
    | none => (nvs, rejected)
    | some (ssidB64, rest) =>
        let pskB64 := trimEnd (skip 32 rest)
        let (ssidBuf, ssidOk) := decodeB64Token ssidB64 zeros 33 32
        let ssid := read ssidBuf 0 33
        if ¬ ssidOk ∨ ssid = [] then (nvs, rejected)
        else
          let (pskBuf, pskOk) := decodeB64Token pskB64 zeros 65 64
          let psk := read pskBuf 0 65
          if ¬ pskOk then (nvs, rejected)
          else if psk.length > 0 ∧ psk.length < 8 then (nvs, rejected)
          else if psk.length = 64 ∧ ¬ isHexString psk then (nvs, rejected)
          else
            match storeWifiCreds answers nvs ssid psk with
            | (nvs, false) => (nvs, rejected)
            | (nvs, true) => (nvs, { handled := true, reboot := true, ack := some "NBP-PROV-OK\n" })

def handleNatLine (answers : Answers) (nvs : Nvs) (line : List UInt8) : Nvs × LineResult :=
  let natPrefix := ascii "NBP-NAT1 "
  if ¬ natPrefix <+: line then (nvs, {})
  else
    match cut 32 (skip 32 (line.drop natPrefix.length)) with
    | none => (nvs, rejected)
    | some (enabledToken, rest) =>
        match cut 32 (skip 32 rest) with
        | none => (nvs, rejected)
        | some (ssidB64, rest) =>
            let pskB64 := trimEnd (skip 32 rest)
            if enabledToken ≠ ascii "0" ∧ enabledToken ≠ ascii "1" then (nvs, rejected)
            else
              let enabled := decide (enabledToken = ascii "1")
              let updateSsid := enabled && decide (ssidB64 ≠ ascii "-")
              let updatePsk := enabled && decide (pskB64 ≠ ascii "-")
              let (ssidBuf, ssidOk) :=
                if updateSsid then decodeB64Token ssidB64 zeros 33 32 else (zeros, true)
              if ¬ ssidOk then (nvs, rejected)
              else
                let (pskBuf, pskOk) :=
                  if updatePsk then decodeB64Token pskB64 zeros 64 63 else (zeros, true)
                let psk := read pskBuf 0 64
                if ¬ pskOk then (nvs, rejected)
                else if updatePsk ∧ psk.length < 8 then (nvs, rejected)
                else
                  match storeNatConfig answers nvs enabled (read ssidBuf 0 33) psk updateSsid
                      updatePsk with
                  | (nvs, false) => (nvs, rejected)
                  | (nvs, true) => (nvs, { handled := true, ack := some "NBP-NAT-OK\n" })

def handleLine (answers : Answers) (nvs : Nvs) (line : List UInt8) : Nvs × LineResult :=
  let (nvs, result) := handleNatLine answers nvs line
  if result.handled then (nvs, result) else handleWifiLine answers nvs line

/-! ## Bytes -/

/-- `RxLine`: the characters in `data`. -/
structure RxLine where
  data : List UInt8 := []
  fits : data.length < 512 := by decide

structure Device where
  line : RxLine := {}
  nvs : Nvs
  /-- what was written to the console -/
  acks : List String := []
  rebooted : Bool := false

/-- `append_rx`; nothing comes after the reboot. -/
def appendRx (answers : Answers) (d : Device) (byte : UInt8) : Device :=
  if d.rebooted then d
  else if byte = 13 then d
  else if byte = 10 then
    let (nvs, result) := handleLine answers d.nvs (upToNul d.line.data)
    { line := {}, nvs, acks := d.acks ++ result.ack.toList, rebooted := result.reboot }
  else if room : d.line.data.length + 1 < 512 then
    { d with line := ⟨d.line.data ++ [byte], by simpa using room⟩ }
  else { d with line := {} }

end NimbleProxy.Provision.SerialProvision
