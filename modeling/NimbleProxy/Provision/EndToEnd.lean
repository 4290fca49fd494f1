/-
# Provision.EndToEnd -- from the form in the browser to NVS

The lines that `WebFlasher.lines` makes of an accepted form, given to `append_rx` byte by
byte. A token has only printable characters (`Token`), so a line is collected whole
(`feed_line`) and falls into the tokens that it was made of; each is decoded to the field
it was made of (`decodeB64Token_base64Token`), and what the browser has checked the
device finds in order.
-/
import NimbleProxy.Provision.TokenRoundTrip

namespace NimbleProxy.Provision.SerialProvision

open NimbleProxy.Theory CString KeyValue
open WebFlasher (Form Config Credentials SoftAp Fits Password Accepted getProvisioningConfig
  base64Token natLine wifiLine lines isHexDigit)

set_option autoImplicit false

/-! ## Tokens and lines -/

/-- Characters that are no blanks either. -/
def Printable (s : List UInt8) : Prop := ∀ c ∈ s, 32 < c

/-- Characters that neither end a line nor are dropped from it. -/
def InLine (s : List UInt8) : Prop := ∀ c ∈ s, 32 ≤ c

instance (s : List UInt8) : Decidable (Printable s) := List.decidableBAll (fun c => 32 < c) s

instance (s : List UInt8) : Decidable (InLine s) := List.decidableBAll (fun c => 32 ≤ c) s

/-- A token: some printable characters. -/
structure Token (s : List UInt8) : Prop where
  ne_nil : s ≠ []
  printable : Printable s

section Token

variable {s : List UInt8} (token : Token s)

include token

theorem Token.inLine : InLine s := fun c mem => UInt8.le_of_lt (token.printable c mem)

theorem Token.free : 32 ∉ s := fun mem => absurd (token.printable 32 mem) (by decide)

theorem Token.skip (rest : List UInt8) : skip 32 (s ++ rest) = s ++ rest :=
  skip_append token.ne_nil token.free rest

theorem Token.cut (rest : List UInt8) : cut 32 (s ++ 32 :: rest) = some (s, rest) :=
  cut_append token.free rest

/-- The last token of a line. -/
theorem Token.last : trimEnd (CString.skip 32 s) = s := by
  have whole := token.skip []
  rw [List.append_nil] at whole
  rw [whole]
  exact trimEnd_eq_self fun c mem => isSpace_eq_false (token.printable c mem)

end Token

theorem InLine.append {s t : List UInt8} (front : InLine s) (back : InLine t) :
    InLine (s ++ t) :=
  List.forall_mem_append.mpr ⟨front, back⟩

theorem InLine.noNul {s : List UInt8} (inLine : InLine s) : 0 ∉ s :=
  fun mem => absurd (inLine 0 mem) (by decide)

theorem token_base64Token (value : List UInt8) : Token (base64Token value) := by
  unfold base64Token
  split
  · exact ⟨by decide, by decide⟩
  · rename_i some_
    have printable : Printable Base64.alphabet := by decide
    exact ⟨Base64.encode_ne_nil some_, fun c mem => printable c (Base64.mem_encode c mem)⟩

theorem length_base64Token_le {value : List UInt8} {maxLen : Nat} (fits : Fits maxLen value) :
    (base64Token value).length ≤ 4 * ((maxLen + 2) / 3) + 1 := by
  have short := fits.short
  unfold base64Token
  split
  · exact Nat.le_add_left 1 _
  · rw [Base64.length_encode]
    omega

theorem base64Token_eq_dash {value : List UInt8} : base64Token value = ascii "-" ↔ value = [] := by
  unfold base64Token
  split
  · rename_i empty
    simp [empty]
  · rename_i some_
    refine iff_of_false (fun dash => ?_) some_
    have length := Base64.length_encode value
    have one : (ascii "-").length = 1 := by decide
    rw [dash] at length
    omega

theorem isHexString_eq (s : List UInt8) : isHexString s = s.all isHexDigit := by
  have same : isXDigit = isHexDigit := by
    funext c
    simp only [isXDigit, isHexDigit, decide_eq_decide]
    tauto
  rw [isHexString, same]

/-! ## Storing -/

/-- Every call of NVS succeeds. -/
def succeeding : Answers := { opens := true, write := fun _ => true, commit := true }

theorem writes_succeeding (nvs : Nvs) (entries : List (Key × Value)) :
    writes succeeding nvs entries = (nvs.putAll entries, true) := by
  induction entries generalizing nvs with
  | nil => rfl
  | cons entry rest ih => exact ih (nvs.put entry.1 entry.2)

/-- What NVS has after the SoftAP settings. -/
def withSoftAp (softAp : SoftAp) (nvs : Nvs) : Nvs
  | .natEnabled => some (.u8 (if softAp.enabled then 1 else 0))
  | .natApSsid =>
      if softAp.enabled ∧ softAp.ssid ≠ [] then some (.str softAp.ssid) else nvs .natApSsid
  | .natApPsk =>
      if softAp.enabled ∧ softAp.psk ≠ [] then some (.str softAp.psk) else nvs .natApPsk
  | key => nvs key

/-- What NVS has after the credentials, if there are any. -/
def withCredentials (sta : Option Credentials) (nvs : Nvs) : Nvs
  | .wifiSsid => (sta.map fun sta => .str sta.ssid).or (nvs .wifiSsid)
  | .wifiPsk => (sta.map fun sta => .str sta.psk).or (nvs .wifiPsk)
  | key => nvs key

/-- The settings are stored; a text that is not to be updated does not matter. -/
theorem storeNatConfig_succeeding (nvs : Nvs) (softAp : SoftAp) {ssid psk : List UInt8}
    {updateSsid updatePsk : Bool}
    (ssidUpdate : updateSsid = (softAp.enabled && decide (softAp.ssid ≠ [])))
    (pskUpdate : updatePsk = (softAp.enabled && decide (softAp.psk ≠ [])))
    (ssidRead : updateSsid = true → ssid = softAp.ssid)
    (pskRead : updatePsk = true → psk = softAp.psk) :
    storeNatConfig succeeding nvs softAp.enabled ssid psk updateSsid updatePsk =
      (withSoftAp softAp nvs, true) := by
  rw [storeNatConfig, if_pos (show succeeding.opens = true from rfl), writes_succeeding]
  refine Prod.ext (funext fun key => ?_) rfl
  cases ssidUpdated : updateSsid <;> cases pskUpdated : updatePsk <;> cases key <;>
    simp_all [Store.putAll, Store.put, withSoftAp]

theorem storeWifiCreds_succeeding (nvs : Nvs) (sta : Credentials) :
    storeWifiCreds succeeding nvs sta.ssid sta.psk = (withCredentials (some sta) nvs, true) := by
  rw [storeWifiCreds, if_pos (show succeeding.opens = true from rfl), writes_succeeding]
  refine Prod.ext (funext fun key => ?_) rfl
  cases key <;> simp [Store.putAll, Store.put, withCredentials]

/-! ## Lines -/

/-- A field decoded into a buffer that takes it. -/
theorem decoded {value : List UInt8} {maxLen : Nat} (fits : Fits maxLen value) :
    ∃ buf, decodeB64Token (base64Token value) zeros (maxLen + 1) maxLen = (buf, true) ∧
      read buf 0 (maxLen + 1) = value := by
  have room : value.length < maxLen + 1 := Nat.lt_succ_of_le fits.short
  exact ⟨_, decodeB64Token_base64Token zeros fits room, read_store fits.noNul room⟩

theorem decoded_if {value : List UInt8} {maxLen : Nat} (fits : Fits maxLen value)
    (update : Bool) :
    ∃ buf, (if update = true then decodeB64Token (base64Token value) zeros (maxLen + 1) maxLen
        else (zeros, true)) = (buf, true) ∧
      (update = true → read buf 0 (maxLen + 1) = value) := by
  cases update with
  | false => exact ⟨zeros, rfl, nofun⟩
  | true =>
      obtain ⟨buf, ok, own⟩ := decoded fits
      exact ⟨buf, ok, fun _ => own⟩

theorem handleNatLine_natLine (nvs : Nvs) {softAp : SoftAp} (ssidFits : Fits 32 softAp.ssid)
    (password : Password 63 softAp.psk) :
    handleNatLine succeeding nvs (natLine softAp) =
      (withSoftAp softAp nvs, { handled := true, ack := some "NBP-NAT-OK\n" }) := by
  have flag : Token (ascii (if softAp.enabled then "1" else "0")) := by
    cases softAp.enabled
    · exact ⟨by decide, by decide⟩
    · exact ⟨by decide, by decide⟩
  have known : ¬ (ascii (if softAp.enabled then "1" else "0") ≠ ascii "0" ∧
      ascii (if softAp.enabled then "1" else "0") ≠ ascii "1") := by
    cases softAp.enabled <;> decide
  have enabled : decide (ascii (if softAp.enabled then "1" else "0") = ascii "1") =
      softAp.enabled := by
    cases softAp.enabled <;> decide
  unfold handleNatLine natLine
  dsimp only
  rw [if_neg (not_not_intro (List.prefix_append _ _)), List.drop_left, flag.skip, flag.cut]
  dsimp only
  rw [(token_base64Token softAp.ssid).skip, (token_base64Token softAp.ssid).cut]
  dsimp only
  rw [(token_base64Token softAp.psk).last, if_neg known, enabled]
  simp only [ne_eq, base64Token_eq_dash]
  generalize ssidUpdate : (softAp.enabled && decide (¬ softAp.ssid = [])) = updateSsid
  generalize pskUpdate : (softAp.enabled && decide (¬ softAp.psk = [])) = updatePsk
  obtain ⟨ssidBuf, ssidDecoded, ssidRead⟩ := decoded_if ssidFits updateSsid
  obtain ⟨pskBuf, pskDecoded, pskRead⟩ := decoded_if password.toFits updatePsk
  have long : ¬ (updatePsk = true ∧ (read pskBuf 0 64).length < 8) := by
    rintro ⟨updates, short⟩
    rw [← pskUpdate, Bool.and_eq_true, decide_eq_true_iff] at updates
    rw [pskRead (by rw [← pskUpdate, Bool.and_eq_true, decide_eq_true_iff]; exact updates)] at short
    rcases password.open_or_long with empty | long
    · exact updates.2 empty
    · omega
  have stored := storeNatConfig_succeeding nvs softAp ssidUpdate.symm pskUpdate.symm ssidRead
    pskRead
  rw [ssidDecoded, pskDecoded]
  simp only [not_true_eq_false, if_false, if_neg long, stored]

theorem handleNatLine_wifiLine (nvs : Nvs) (sta : Credentials) :
    handleNatLine succeeding nvs (wifiLine sta) = (nvs, {}) := by
  unfold handleNatLine wifiLine
  apply if_pos
  rintro ⟨rest, same⟩
  have fifth := congrArg (fun text => text[4]?) same
  beta_reduce at fifth
  rw [List.getElem?_append_left (by decide), List.getElem?_append_left (by decide)] at fifth
  exact absurd fifth (by decide)

theorem handleWifiLine_wifiLine (nvs : Nvs) {sta : Credentials} (some_ : sta.ssid ≠ [])
    (ssidFits : Fits 32 sta.ssid) (password : Password 64 sta.psk) :
    handleWifiLine succeeding nvs (wifiLine sta) =
      (withCredentials (some sta) nvs,
        { handled := true, reboot := true, ack := some "NBP-PROV-OK\n" }) := by
  obtain ⟨ssidBuf, ssidDecoded, ssidRead⟩ := decoded ssidFits
  obtain ⟨pskBuf, pskDecoded, pskRead⟩ := decoded password.toFits
  have openOrLong : ¬ (sta.psk.length > 0 ∧ sta.psk.length < 8) := by
    rintro ⟨positive, short⟩
    rcases password.open_or_long with empty | long
    · exact absurd empty (List.ne_nil_of_length_pos positive)
    · omega
  have hex : ¬ (sta.psk.length = 64 ∧ ¬ isHexString sta.psk = true) := by
    rintro ⟨length, other⟩
    rw [isHexString_eq] at other
    exact other (password.hex rfl length)
  unfold handleWifiLine wifiLine
  dsimp only
  rw [if_neg (not_not_intro (List.prefix_append _ _)), List.drop_left,
    (token_base64Token sta.ssid).skip, (token_base64Token sta.ssid).cut]
  dsimp only
  rw [(token_base64Token sta.psk).last]
  simp only [ssidDecoded, ssidRead, pskDecoded, pskRead, some_, not_true_eq_false, or_self,
    if_false, if_neg openOrLong, if_neg hex, storeWifiCreds_succeeding]

theorem handleLine_natLine (nvs : Nvs) {softAp : SoftAp} (ssidFits : Fits 32 softAp.ssid)
    (password : Password 63 softAp.psk) :
    handleLine succeeding nvs (natLine softAp) =
      (withSoftAp softAp nvs, { handled := true, ack := some "NBP-NAT-OK\n" }) := by
  rw [handleLine, handleNatLine_natLine nvs ssidFits password]
  rfl

theorem handleLine_wifiLine (nvs : Nvs) {sta : Credentials} (some_ : sta.ssid ≠ [])
    (ssidFits : Fits 32 sta.ssid) (password : Password 64 sta.psk) :
    handleLine succeeding nvs (wifiLine sta) =
      (withCredentials (some sta) nvs,
        { handled := true, reboot := true, ack := some "NBP-PROV-OK\n" }) := by
  rw [handleLine, handleNatLine_wifiLine]
  exact handleWifiLine_wifiLine nvs some_ ssidFits password

/-! ## Bytes -/

def feed (answers : Answers) (d : Device) (bytes : List UInt8) : Device :=
  bytes.foldl (appendRx answers) d

theorem feed_append (answers : Answers) (d : Device) (front back : List UInt8) :
    feed answers d (front ++ back) = feed answers (feed answers d front) back :=
  List.foldl_append

/-- Characters of a line are collected. -/
theorem feed_inLine (answers : Answers) {s : List UInt8} (inLine : InLine s) (d : Device)
    (up : d.rebooted = false) (short : (d.line.data ++ s).length < 512) :
    feed answers d s = { d with line := ⟨d.line.data ++ s, short⟩ } := by
  induction s generalizing d with
  | nil =>
      obtain ⟨⟨data, fits⟩, nvs, acks, rebooted⟩ := d
      simp [feed]
  | cons c rest ih =>
      have high := inLine c List.mem_cons_self
      have notReturn : c ≠ 13 := by rintro rfl; exact absurd high (by decide)
      have notNewline : c ≠ 10 := by rintro rfl; exact absurd high (by decide)
      have room : d.line.data.length + 1 < 512 := by
        rw [List.length_append, List.length_cons] at short
        omega
      rw [feed, List.foldl_cons, appendRx, if_neg (by simp [up]), if_neg notReturn,
        if_neg notNewline, dif_pos room]
      have collected := ih (fun x mem => inLine x (List.mem_cons_of_mem c mem))
        { d with line := ⟨d.line.data ++ [c], by simpa using room⟩ } up (by simpa using short)
      apply collected.trans
      simp

/-- A line that begins with an empty buffer is handled as it is. -/
theorem feed_line (answers : Answers) {s : List UInt8} (inLine : InLine s) (short : s.length < 512)
    (d : Device) (empty : d.line = {}) (up : d.rebooted = false) :
    feed answers d (s ++ [10]) =
      { line := {}
        nvs := (handleLine answers d.nvs s).1
        acks := d.acks ++ (handleLine answers d.nvs s).2.ack.toList
        rebooted := (handleLine answers d.nvs s).2.reboot } := by
  have collected := feed_inLine answers inLine d up (by simpa [empty] using short)
  rw [feed_append, collected]
  simp [feed, appendRx, up, empty, upToNul_eq_self inLine.noNul]

/-! ## From the form to NVS -/

theorem inLine_natLine (softAp : SoftAp) : InLine (natLine softAp) := by
  have flag : InLine (ascii (if softAp.enabled then "1" else "0")) := by
    cases softAp.enabled <;> decide
  have word : InLine (ascii "NBP-NAT1 ") := by decide
  have blank : InLine [32] := by decide
  have ssid := (token_base64Token softAp.ssid).inLine
  have psk := (token_base64Token softAp.psk).inLine
  exact word.append (flag.append (blank.append (ssid.append (blank.append psk))))

theorem inLine_wifiLine (sta : Credentials) : InLine (wifiLine sta) := by
  have word : InLine (ascii "NBP-PROV1 ") := by decide
  have blank : InLine [32] := by decide
  have ssid := (token_base64Token sta.ssid).inLine
  have psk := (token_base64Token sta.psk).inLine
  exact word.append (ssid.append (blank.append psk))

theorem length_natLine_lt {softAp : SoftAp} (ssidFits : Fits 32 softAp.ssid)
    (pskFits : Fits 63 softAp.psk) : (natLine softAp).length < 512 := by
  have ssid := length_base64Token_le ssidFits
  have psk := length_base64Token_le pskFits
  have word : (ascii "NBP-NAT1 ").length = 9 := by decide
  have flag : (ascii (if softAp.enabled then "1" else "0")).length = 1 := by
    cases softAp.enabled <;> decide
  simp only [natLine, List.length_append, List.length_cons, word, flag]
  omega

theorem length_wifiLine_lt {sta : Credentials} (ssidFits : Fits 32 sta.ssid)
    (pskFits : Fits 64 sta.psk) : (wifiLine sta).length < 512 := by
  have ssid := length_base64Token_le ssidFits
  have psk := length_base64Token_le pskFits
  have word : (ascii "NBP-PROV1 ").length = 10 := by decide
  simp only [wifiLine, List.length_append, List.length_cons, word]
  omega

/-- The device after it took the configuration. -/
structure Provisioned (config : Config) (nvs : Nvs) (d : Device) : Prop where
  stored : d.nvs = withCredentials config.sta (withSoftAp config.softAp nvs)
  acks : d.acks = "NBP-NAT-OK\n" :: if config.sta.isSome then ["NBP-PROV-OK\n"] else []
  rebooted : d.rebooted = config.sta.isSome

theorem feed_lines {config : Config} (accepted : Accepted config) (nvs : Nvs) :
    Provisioned config nvs (feed succeeding { nvs } (lines config).flatten) := by
  obtain ⟨sta, softAp⟩ := config
  obtain ⟨ssidFits, password⟩ := accepted.softAp
  dsimp only at ssidFits password
  have first := feed_line succeeding (inLine_natLine softAp)
    (length_natLine_lt ssidFits password.toFits) { nvs } rfl rfl
  rw [handleLine_natLine nvs ssidFits password] at first
  rw [lines, List.flatten_cons, feed_append, first]
  cases sta with
  | none =>
      refine ⟨funext fun key => ?_, rfl, rfl⟩
      cases key <;> rfl
  | some sta =>
      obtain ⟨some_, staFits, staPassword⟩ := accepted.sta sta rfl
      have single : ((some (wifiLine sta ++ [10])).toList).flatten = wifiLine sta ++ [10] :=
        List.flatten_singleton
      rw [Option.map_some, single,
        feed_line succeeding (inLine_wifiLine sta)
          (length_wifiLine_lt staFits staPassword.toFits) _ rfl rfl,
        handleLine_wifiLine _ some_ staFits staPassword]
      exact ⟨rfl, rfl, rfl⟩

/-- **Serial provisioning, end to end.** What the browser accepts the device acknowledges and
stores; and the tokens between them are decoded within the buffer, and to what was encoded. -/
theorem provisioning :
    (∀ (form : Form) (config : Config) (nvs : Nvs), getProvisioningConfig form = .ok config →
      Provisioned config nvs (feed succeeding { nvs } (lines config).flatten)) ∧
    (∀ (token : List UInt8) (out : Memory) (cap maxLen i : Nat), min maxLen (cap - 1) < i →
      (decodeB64Token token out cap maxLen).1 i = out i) ∧
    ∀ (value : List UInt8) (out : Memory) (cap maxLen : Nat), Fits maxLen value →
      value.length < cap →
        decodeB64Token (base64Token value) out cap maxLen = (out.store 0 (value ++ [0]), true) :=
  ⟨fun _ _ nvs ok => feed_lines (WebFlasher.accepted ok) nvs, decodeB64Token_frame,
    fun _ out _ _ fits room => decodeB64Token_base64Token out fits room⟩

/-- A network with a password, and a SoftAP that keeps its name. -/
def home : Form where
  staSsid := ascii "home"
  staPsk := ascii "password"
  apEnabled := true
  apSsid := []
  apPsk := ascii "12345678"
  noNul := by decide

theorem provisioning_home :
    Provisioned ⟨some ⟨home.staSsid, home.staPsk⟩, ⟨true, [], home.apPsk⟩⟩ (fun _ => none)
      (feed succeeding { nvs := fun _ => none }
        (lines ⟨some ⟨home.staSsid, home.staPsk⟩, ⟨true, [], home.apPsk⟩⟩).flatten) ∧
    (decodeB64Token (ascii "aG9tZQ==") zeros 33 32).1 33 = 0 ∧
    decodeB64Token (base64Token home.staSsid) zeros 33 32 =
      (zeros.store 0 (home.staSsid ++ [0]), true) :=
  ⟨provisioning.1 home _ _ rfl, provisioning.2.1 _ zeros 33 32 33 (by decide),
    provisioning.2.2 _ zeros 33 32 ⟨by decide, by decide⟩ (by decide)⟩

end NimbleProxy.Provision.SerialProvision
