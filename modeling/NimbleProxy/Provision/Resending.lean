/-
# Provision.Resending -- the settings are sent again and again until they are acknowledged

`provisionWifiOverSerial` of `web-flasher/app.js` writes its lines every half second and looks
for the acknowledgements in what it has received. The device listens for ten seconds after each
start (`poll_boot_window`): it begins and ends anywhere in that stream, and starts again when it
has stored credentials.

The end of a line with which it may begin is never taken for a line (`not_handled_of_end`): the
tokens have no dash but the one that is a token, so the words `NBP-NAT1` and `NBP-PROV1` are at
the beginning of a line only. What is stored is then exactly what was acknowledged, after any
number of starts, and the page reports no more than that (`resending`).

The page looks at everything the console prints. What is not an acknowledgement is a parameter
(`Console`): text of the ROM, of other components, of the log, in which no acknowledgement
stands. That is asked of the name in the form too, since `handle_wifi_line` logs it
(`quiet_storedLog`): with the name `NBP-NAT-OK` the page may report what is not stored
(`resending_misled`).
-/
import NimbleProxy.Theory.CutLines
import NimbleProxy.Provision.EndToEnd
import NimbleProxy.Provision.LineAssembly

namespace NimbleProxy.Provision.Resending

open NimbleProxy.Theory CString CutLines KeyValue
open SerialProvision
open WebFlasher (Form Config Credentials SoftAp Accepted Fits Password base64Token natLine wifiLine
  lines getProvisioningConfig)

set_option autoImplicit false

/-! ## The page -/

def stored : String := "Provisioning settings stored. Device booting…"

def unacknowledged : String :=
  "WiFi credentials stored. Selected firmware did not acknowledge SoftAP settings."

/-- `received.includes(text)`; decoding leaves ASCII as it is. -/
def includes (received : List UInt8) (text : String) : Bool := decide (ascii text <:+: received)

/-- What the page appends to its log when it is done; `none` if it goes on. -/
def report (config : Config) (received : List UInt8) : Option String :=
  let provisionOk := includes received "NBP-PROV-OK"
  let natOk := includes received "NBP-NAT-OK" || (config.sta.isSome && provisionOk)
  let staOk := config.sta.isNone || provisionOk
  if natOk && staOk then
    some (if includes received "NBP-NAT-OK" then stored else unacknowledged)
  else none

/-! ## The device -/

/-- The boot windows of one device: what NVS has in the end, and what was acknowledged. -/
def listen (nvs : Nvs) : List (List UInt8) → Nvs × List String
  | [] => (nvs, [])
  | heard :: later =>
      let d := feed succeeding { nvs } heard
      let (nvs, acks) := listen d.nvs later
      (nvs, d.acks ++ acks)

/-! ## The end of a line -/

section

variable {softAp : SoftAp} {sta : Credentials} {s word : List UInt8}

/-- One of the two words that a line begins with. -/
def Opening (word : List UInt8) : Prop := word = ascii "NBP-NAT1" ∨ word = ascii "NBP-PROV1"

theorem Opening.free (opening : Opening word) : 32 ∉ word := by
  rcases opening with rfl | rfl <;> decide

theorem Opening.dash (opening : Opening word) : 45 ∈ word := by
  rcases opening with rfl | rfl <;> decide

theorem Opening.long (opening : Opening word) : 2 ≤ word.length := by
  rcases opening with rfl | rfl <;> decide

/-- A token does not end with one. -/
theorem Opening.not_token (opening : Opening word) (value : List UInt8) :
    ¬ word <:+ base64Token value := by
  intro ends
  unfold base64Token at ends
  split at ends
  · have short : word.length ≤ 1 := ends.length_le
    have long := opening.long
    omega
  · have noDash : (45 : UInt8) ∉ Base64.alphabet := by decide
    exact noDash (Base64.mem_encode 45 (ends.subset opening.dash))

/-- Nor does it stand before a token and a blank. -/
theorem Opening.not_tokens (opening : Opening word) (ssid psk : List UInt8) :
    s <:+ base64Token ssid ++ 32 :: base64Token psk → ¬ word ++ [32] <+: s := by
  intro ends begins
  rcases word_of_suffix opening.free (token_base64Token ssid).free ends begins with own | behind
  · exact opening.not_token ssid own.1
  · have blank : (32 : UInt8) ∈ word ++ [32] := by simp
    exact (token_base64Token psk).free (behind.subset (begins.subset blank))

theorem Opening.not_natLine (opening : Opening word) (ends : s <:+ natLine softAp)
    (other : s ≠ natLine softAp) : ¬ word ++ [32] <+: s := by
  intro begins
  have split : natLine softAp = ascii "NBP-NAT1" ++ 32 ::
      (ascii (if softAp.enabled then "1" else "0") ++ 32 ::
        (base64Token softAp.ssid ++ 32 :: base64Token softAp.psk)) := rfl
  rw [split] at ends
  rcases word_of_suffix opening.free (by decide) ends begins with ⟨isEnd, rfl⟩ | behind
  · rcases opening with rfl | rfl
    · exact other split.symm
    · exact absurd isEnd (by decide)
  · have flag : (32 : UInt8) ∉ ascii (if softAp.enabled then "1" else "0") := by
      cases softAp.enabled <;> decide
    rcases word_of_suffix opening.free flag behind begins with ⟨isEnd, -⟩ | behind
    · have short : (ascii (if softAp.enabled then "1" else "0")).length = 1 := by
        cases softAp.enabled <;> decide
      have length := isEnd.length_le
      have long := opening.long
      omega
    · exact opening.not_tokens softAp.ssid softAp.psk behind begins

theorem Opening.not_wifiLine (opening : Opening word) (ends : s <:+ wifiLine sta)
    (other : s ≠ wifiLine sta) : ¬ word ++ [32] <+: s := by
  intro begins
  have split : wifiLine sta = ascii "NBP-PROV1" ++ 32 ::
      (base64Token sta.ssid ++ 32 :: base64Token sta.psk) := rfl
  rw [split] at ends
  rcases word_of_suffix opening.free (by decide) ends begins with ⟨isEnd, rfl⟩ | behind
  · rcases opening with rfl | rfl
    · exact absurd isEnd (by decide)
    · exact other split.symm
  · exact opening.not_tokens sta.ssid sta.psk behind begins

/-! ## What one window stores -/

variable {config : Config} {nvs : Nvs} {d : Device}

/-- An end of a line of the page. -/
def Speaks (config : Config) (s : List UInt8) : Prop :=
  s <:+ natLine config.softAp ∨ ∃ sta, config.sta = some sta ∧ s <:+ wifiLine sta

/-- The end of a line is a line of its own, and is not handled. -/
theorem not_handled_of_end (nvs : Nvs) (none_ : ∀ word, Opening word → ¬ word ++ [32] <+: s) :
    handleLine succeeding nvs s = (nvs, {}) := by
  have nat : ¬ ascii "NBP-NAT1 " <+: s := none_ _ (.inl rfl)
  have wifi : ¬ ascii "NBP-PROV1 " <+: s := none_ _ (.inr rfl)
  have first : handleNatLine succeeding nvs s = (nvs, {}) := if_pos nat
  rw [handleLine, first]
  exact if_pos wifi

/-- What NVS has when these were acknowledged. -/
def settled (config : Config) (nat wifi : Bool) (nvs : Nvs) : Nvs :=
  withCredentials (if wifi then config.sta else none)
    (if nat then withSoftAp config.softAp nvs else nvs)

theorem settled_nat (config : Config) (nat : Bool) (nvs : Nvs) :
    settled config nat false nvs = if nat then withSoftAp config.softAp nvs else nvs := by
  funext key
  cases key <;> rfl

theorem settled_wifi (config : Config) (nat : Bool) (nvs : Nvs) :
    settled config nat true nvs = withCredentials config.sta (settled config nat false nvs) := by
  rw [settled_nat]
  rfl

/-- What was acknowledged is stored, and nothing else. -/
structure Told (config : Config) (before after : Nvs) (acks : List String) : Prop where
  stored : after = settled config (decide ("NBP-NAT-OK\n" ∈ acks))
    (decide ("NBP-PROV-OK\n" ∈ acks)) before
  known : ∀ ack ∈ acks, ack = "NBP-NAT-OK\n" ∨ ack = "NBP-PROV-OK\n"
  sta : "NBP-PROV-OK\n" ∈ acks → config.sta ≠ none

/-- And whoever acknowledged credentials starts again. -/
structure Heard (config : Config) (nvs : Nvs) (d : Device) : Prop
    extends Told config nvs d.nvs d.acks where
  rebooted : d.rebooted = decide ("NBP-PROV-OK\n" ∈ d.acks)

theorem told_nothing (config : Config) (nvs : Nvs) : Told config nvs nvs [] := by
  refine ⟨funext fun key => ?_, nofun, nofun⟩
  cases key <;> rfl

theorem heard_start (config : Config) (nvs : Nvs) : Heard config nvs { nvs } :=
  ⟨told_nothing config nvs, rfl⟩

theorem withSoftAp_twice (softAp : SoftAp) (nvs : Nvs) :
    withSoftAp softAp (withSoftAp softAp nvs) = withSoftAp softAp nvs := by
  funext key
  cases key with
  | natApSsid | natApPsk =>
      simp only [withSoftAp]
      split <;> rfl
  | wifiSsid | wifiPsk | natEnabled => rfl

theorem Heard.congr {d' : Device} (heard : Heard config nvs d) (nvs' : d'.nvs = d.nvs)
    (acks : d'.acks = d.acks) (rebooted : d'.rebooted = d.rebooted) : Heard config nvs d' := by
  refine ⟨?_, ?_⟩
  · rw [nvs', acks]
    exact heard.toTold
  · rw [rebooted, acks]
    exact heard.rebooted

/-- A line of the page fits the buffer, and so does its end. -/
theorem Speaks.inLine (speaks : Speaks config s) (accepted : Accepted config) :
    InLine s ∧ s.length < 512 := by
  obtain ⟨ssidFits, password⟩ := accepted.softAp
  rcases speaks with ends | ⟨sta, isSta, ends⟩
  · exact ⟨fun c inside => inLine_natLine config.softAp c (ends.subset inside),
      ends.length_le.trans_lt (length_natLine_lt ssidFits password.toFits)⟩
  · obtain ⟨-, staFits, staPassword⟩ := accepted.sta sta isSta
    exact ⟨fun c inside => inLine_wifiLine sta c (ends.subset inside),
      ends.length_le.trans_lt (length_wifiLine_lt staFits staPassword.toFits)⟩

/-- The SoftAP settings are stored, perhaps once more. -/
theorem Heard.nat (heard : Heard config nvs d) (up : d.rebooted = false)
    (accepted : Accepted config) :
    Heard config nvs
      { line := {}
        nvs := (handleLine succeeding d.nvs (natLine config.softAp)).1
        acks := d.acks ++ (handleLine succeeding d.nvs (natLine config.softAp)).2.ack.toList
        rebooted := (handleLine succeeding d.nvs (natLine config.softAp)).2.reboot } := by
  have noWifi : "NBP-PROV-OK\n" ∉ d.acks := by
    simpa [up] using heard.rebooted.symm
  have before := heard.stored
  rw [handleLine_natLine d.nvs accepted.softAp.1 accepted.softAp.2]
  refine ⟨⟨?_, ?_, ?_⟩, ?_⟩
  · have acked : decide ("NBP-NAT-OK\n" ∈ d.acks ++ ["NBP-NAT-OK\n"]) = true := by simp
    have silent : decide ("NBP-PROV-OK\n" ∈ d.acks ++ ["NBP-NAT-OK\n"]) = false := by
      simp [noWifi]
    show withSoftAp config.softAp d.nvs = settled config (decide ("NBP-NAT-OK\n" ∈ d.acks ++ _))
      (decide ("NBP-PROV-OK\n" ∈ d.acks ++ _)) nvs
    rw [Option.toList_some, acked, silent, before, decide_eq_false noWifi, settled_nat,
      settled_nat]
    split
    · exact withSoftAp_twice config.softAp nvs
    · rfl
  · intro ack inside
    rcases List.mem_append.mp inside with old | new
    · exact heard.known ack old
    · exact .inl (List.mem_singleton.mp new)
  · intro acked
    simp [noWifi] at acked
  · simp [noWifi]

/-- The credentials are stored; then the device starts again. -/
theorem Heard.wifi (heard : Heard config nvs d) (up : d.rebooted = false)
    (accepted : Accepted config) {sta : Credentials} (isSta : config.sta = some sta) :
    Heard config nvs
      { line := {}
        nvs := (handleLine succeeding d.nvs (wifiLine sta)).1
        acks := d.acks ++ (handleLine succeeding d.nvs (wifiLine sta)).2.ack.toList
        rebooted := (handleLine succeeding d.nvs (wifiLine sta)).2.reboot } := by
  obtain ⟨some_, fits, password⟩ := accepted.sta sta isSta
  have noWifi : "NBP-PROV-OK\n" ∉ d.acks := by
    simpa [up] using heard.rebooted.symm
  have before := heard.stored
  rw [handleLine_wifiLine d.nvs some_ fits password]
  refine ⟨⟨?_, ?_, ?_⟩, ?_⟩
  · have acked : decide ("NBP-PROV-OK\n" ∈ d.acks ++ ["NBP-PROV-OK\n"]) = true := by simp
    have others : decide ("NBP-NAT-OK\n" ∈ d.acks ++ ["NBP-PROV-OK\n"]) =
        decide ("NBP-NAT-OK\n" ∈ d.acks) := by simp
    show withCredentials (some sta) d.nvs = settled config
      (decide ("NBP-NAT-OK\n" ∈ d.acks ++ _)) (decide ("NBP-PROV-OK\n" ∈ d.acks ++ _)) nvs
    rw [Option.toList_some, acked, others, before, decide_eq_false noWifi, settled_wifi, isSta]
  · intro ack inside
    rcases List.mem_append.mp inside with old | new
    · exact heard.known ack old
    · exact .inr (List.mem_singleton.mp new)
  · intro _ none_
    rw [isSta] at none_
    cases none_
  · simp

/-- **A line, or the end of one.** -/
theorem Heard.ended (heard : Heard config nvs d) (accepted : Accepted config)
    (speaks : Speaks config s) (empty : d.line = {}) (up : d.rebooted = false) :
    Heard config nvs (feed succeeding d (s ++ [10])) ∧
      (feed succeeding d (s ++ [10])).line = {} := by
  obtain ⟨inLine, short⟩ := speaks.inLine accepted
  rw [feed_line succeeding inLine short d empty up]
  refine ⟨?_, rfl⟩
  have ofEnd : (∀ word, Opening word → ¬ word ++ [32] <+: s) → Heard config nvs
      { line := {}
        nvs := (handleLine succeeding d.nvs s).1
        acks := d.acks ++ (handleLine succeeding d.nvs s).2.ack.toList
        rebooted := (handleLine succeeding d.nvs s).2.reboot } := by
    intro none_
    rw [not_handled_of_end d.nvs none_]
    exact heard.congr rfl (List.append_nil _) up.symm
  rcases speaks with ends | ⟨sta, isSta, ends⟩
  · by_cases whole : s = natLine config.softAp
    · rw [whole]
      exact heard.nat up accepted
    · exact ofEnd fun word opening => opening.not_natLine ends whole
  · by_cases whole : s = wifiLine sta
    · rw [whole]
      exact heard.wifi up accepted isSta
    · exact ofEnd fun word opening => opening.not_wifiLine ends whole

/-- Nothing happens behind the restart. -/
theorem feed_of_rebooted (down : d.rebooted = true) (bytes : List UInt8) :
    feed succeeding d bytes = d := by
  induction bytes with
  | nil => rfl
  | cons byte rest ih =>
      have same : appendRx succeeding d byte = d := if_pos down
      rw [feed, List.foldl_cons, same]
      exact ih

/-- The beginning of a line is only collected. -/
theorem Heard.begun (heard : Heard config nvs d) (accepted : Accepted config)
    (speaks : Speaks config s) (empty : d.line = {}) (up : d.rebooted = false)
    {p : List UInt8} (begins : p <+: s) : Heard config nvs (feed succeeding d p) := by
  obtain ⟨inLine, short⟩ := speaks.inLine accepted
  have inLine' : InLine p := fun c inside => inLine c (begins.subset inside)
  have short' : (d.line.data ++ p).length < 512 := by
    rw [empty]
    exact begins.length_le.trans_lt short
  rw [feed_inLine succeeding inLine' d up short']
  exact heard.congr rfl rfl rfl

/-- **A window.** Wherever it begins and ends. -/
theorem Heard.prefix_ (accepted : Accepted config) {cut : List (List UInt8)}
    (speaks : ∀ s ∈ cut, Speaks config s) {p : List UInt8} (begins : p <+: lined 10 cut)
    (heard : Heard config nvs d) (empty : d.line = {}) : Heard config nvs (feed succeeding d p) := by
  induction cut generalizing d p with
  | nil =>
      rw [lined_nil, List.prefix_nil] at begins
      subst begins
      exact heard
  | cons s cut ih =>
      have own := speaks s List.mem_cons_self
      have others : ∀ s ∈ cut, Speaks config s :=
        fun s inside => speaks s (List.mem_cons_of_mem _ inside)
      cases up : d.rebooted with
      | true =>
          rw [feed_of_rebooted up]
          exact heard
      | false =>
          obtain ⟨line, emptied⟩ := heard.ended accepted own empty up
          rw [lined_cons] at begins
          rcases prefix_append_cases begins with inLine | ⟨q, later, rfl⟩
          · rcases List.prefix_concat_iff.mp inLine with rfl | inside
            · exact line
            · exact heard.begun accepted own empty up inside
          · rw [feed_append]
            exact ih others later line emptied

theorem lines_eq (config : Config) :
    ∃ ls, (lines config).flatten = lined 10 ls ∧ (∀ s ∈ ls, Speaks config s) := by
  refine ⟨natLine config.softAp :: (config.sta.map wifiLine).toList, ?_, ?_⟩
  · cases isSta : config.sta with
    | none => simp [lines, isSta]
    | some sta => simp [lines, isSta]
  · intro s inside
    rcases List.mem_cons.mp inside with rfl | inSta
    · exact .inl List.suffix_rfl
    · rw [Option.mem_toList, Option.map_eq_some_iff] at inSta
      obtain ⟨sta, isSta, rfl⟩ := inSta
      exact .inr ⟨sta, isSta, List.suffix_rfl⟩

/-- The rounds of the page are a stream of lines. -/
theorem rounds_eq (config : Config) (n : Nat) :
    ∃ ls, (List.replicate n (lines config).flatten).flatten = lined 10 ls ∧
      ∀ s ∈ ls, Speaks config s := by
  obtain ⟨ls, isLined, speaks⟩ := lines_eq config
  refine ⟨(List.replicate n ls).flatten, ?_, ?_⟩
  · rw [isLined, lined, lined, List.map_flatten, List.map_replicate, List.flatten_flatten,
      List.map_replicate]
  · intro s inside
    obtain ⟨round, isRound, inRound⟩ := List.mem_flatten.mp inside
    rw [List.eq_of_mem_replicate isRound] at inRound
    exact speaks s inRound

/-- **One window of the stream.** -/
theorem heard_of_infix (accepted : Accepted config) {n : Nat} {heard : List UInt8}
    (part : heard <:+: (List.replicate n (lines config).flatten).flatten) (nvs : Nvs) :
    Heard config nvs (feed succeeding { nvs } heard) := by
  obtain ⟨ls, isLined, speaks⟩ := rounds_eq config n
  rw [isLined] at part
  obtain ⟨cut, endsOf, begins⟩ := prefix_of_infix part
  refine (heard_start config nvs).prefix_ accepted (fun s inside => ?_) begins rfl
  obtain ⟨line, among, isEnd⟩ := endsOf s inside
  rcases speaks line among with ends | ⟨sta, isSta, ends⟩
  · exact .inl (isEnd.trans ends)
  · exact .inr ⟨sta, isSta, isEnd.trans ends⟩

/-! ## A whole round -/

/-- What was printed stays, and who has restarted does not come back. -/
theorem feed_grows (bytes : List UInt8) (d : Device) :
    (∀ ack ∈ d.acks, ack ∈ (feed succeeding d bytes).acks) ∧
      (d.rebooted = true → (feed succeeding d bytes).rebooted = true) := by
  refine ⟨?_, fun down => by rw [feed_of_rebooted down]; exact down⟩
  induction bytes generalizing d with
  | nil => exact fun _ => id
  | cons byte rest ih =>
      intro ack inside
      refine ih (appendRx succeeding d byte) ack ?_
      cases call : LineAssembly.handed d byte with
      | none =>
          rw [LineAssembly.appendRx_of_not_handed call]
          exact inside
      | some line =>
          rw [LineAssembly.appendRx_of_handed call]
          exact List.mem_append_left _ inside

/-- Behind a newline nothing is begun. -/
theorem empty_after_newline (d : Device) (p : List UInt8) :
    (feed succeeding d (p ++ [10])).rebooted = true ∨
      (feed succeeding d (p ++ [10])).line = {} := by
  rw [feed_append]
  generalize feed succeeding d p = d'
  cases up : d'.rebooted with
  | true =>
      rw [feed_of_rebooted up]
      exact .inl up
  | false =>
      have call : LineAssembly.handed d' 10 = some (upToNul d'.line.data) := if_pos ⟨up, rfl⟩
      refine .inr ?_
      show (appendRx succeeding d' 10).line = {}
      rw [LineAssembly.appendRx_of_handed call]

/-- Who hears a whole round acknowledges what there is. -/
theorem acknowledged_of_round (accepted : Accepted config) (d : Device)
    (ready : d.rebooted = true ∨ d.line = {}) (post : List UInt8) :
    let d' := feed succeeding d ((lines config).flatten ++ post)
    d'.rebooted = true ∨ (config.sta = none ∧ "NBP-NAT-OK\n" ∈ d'.acks) := by
  intro d'
  cases up : d.rebooted with
  | true => exact .inl ((feed_grows _ d).2 up)
  | false =>
      have empty : d.line = {} := by
        rcases ready with down | empty
        · rw [up] at down
          cases down
        · exact empty
      obtain ⟨ssidFits, password⟩ := accepted.softAp
      have first := feed_line succeeding (inLine_natLine config.softAp)
        (length_natLine_lt ssidFits password.toFits) d empty up
      rw [handleLine_natLine d.nvs ssidFits password] at first
      have whole : d' = feed succeeding (feed succeeding (feed succeeding d
          (natLine config.softAp ++ [10]))
            ((config.sta.map fun sta => wifiLine sta ++ [10]).toList.flatten)) post := by
        rw [← feed_append, ← feed_append, ← List.append_assoc]
        rfl
      cases isSta : config.sta with
      | none =>
          refine .inr ⟨rfl, ?_⟩
          rw [whole, first, isSta]
          exact (feed_grows post _).1 _ (List.mem_append_right _ (List.mem_singleton.mpr rfl))
      | some sta =>
          obtain ⟨some_, staFits, staPassword⟩ := accepted.sta sta isSta
          left
          rw [whole, first, isSta]
          refine (feed_grows post _).2 ?_
          have single : ((some (wifiLine sta ++ [10])).toList).flatten = wifiLine sta ++ [10] :=
            List.flatten_singleton
          rw [Option.map_some, single, feed_line succeeding (inLine_wifiLine sta)
              (length_wifiLine_lt staFits staPassword.toFits) _ rfl rfl,
            handleLine_wifiLine _ some_ staFits staPassword]

/-! ## All windows -/

theorem withCredentials_none (nvs : Nvs) : withCredentials none nvs = nvs := by
  funext key
  cases key <;> rfl

theorem withCredentials_twice (sta : Option Credentials) (nvs : Nvs) :
    withCredentials sta (withCredentials sta nvs) = withCredentials sta nvs := by
  funext key
  cases sta <;> cases key <;> rfl

/-- They are of different keys. -/
theorem withSoftAp_withCredentials (softAp : SoftAp) (sta : Option Credentials) (nvs : Nvs) :
    withSoftAp softAp (withCredentials sta nvs) = withCredentials sta (withSoftAp softAp nvs) := by
  funext key
  cases key <;> rfl

theorem settled_settled (config : Config) (nat wifi nat' wifi' : Bool) (nvs : Nvs) :
    settled config nat' wifi' (settled config nat wifi nvs) =
      settled config (nat || nat') (wifi || wifi') nvs := by
  cases nat <;> cases nat' <;> cases wifi <;> cases wifi' <;>
    simp [settled, withCredentials_none, withSoftAp_twice, withCredentials_twice,
      withSoftAp_withCredentials]

theorem Told.append {a b c : Nvs} {first later : List String} (told : Told config a b first)
    (told' : Told config b c later) : Told config a c (first ++ later) := by
  refine ⟨?_, fun ack inside => ?_, fun inside => ?_⟩
  · rw [told'.stored, told.stored, settled_settled]
    simp only [List.mem_append, Bool.decide_or]
  · rcases List.mem_append.mp inside with old | new
    · exact told.known ack old
    · exact told'.known ack new
  · rcases List.mem_append.mp inside with old | new
    · exact told.sta old
    · exact told'.sta new

/-- The windows of a device hear parts of the stream. -/
def PartsOf (config : Config) (n : Nat) (windows : List (List UInt8)) : Prop :=
  ∀ heard ∈ windows, heard <:+: (List.replicate n (lines config).flatten).flatten

theorem told_listen (accepted : Accepted config) {n : Nat} {windows : List (List UInt8)}
    (parts : PartsOf config n windows) (nvs : Nvs) :
    Told config nvs (listen nvs windows).1 (listen nvs windows).2 := by
  induction windows generalizing nvs with
  | nil => exact told_nothing config nvs
  | cons heard later ih =>
      have first := heard_of_infix accepted (parts heard List.mem_cons_self) nvs
      exact first.toTold.append (ih (fun h inside => parts h (List.mem_cons_of_mem _ inside)) _)

/-- What is acknowledged in one window is printed. -/
theorem mem_listen {windows : List (List UInt8)} {heard : List UInt8} (inside : heard ∈ windows)
    (nvs : Nvs) : ∃ nvs', ∀ ack ∈ (feed succeeding { nvs := nvs' } heard).acks,
      ack ∈ (listen nvs windows).2 := by
  induction windows generalizing nvs with
  | nil => cases inside
  | cons first later ih =>
      rcases List.mem_cons.mp inside with rfl | behind
      · exact ⟨nvs, fun ack printed => List.mem_append_left _ printed⟩
      · obtain ⟨nvs', prints⟩ := ih behind (feed succeeding { nvs } first).nvs
        exact ⟨nvs', fun ack printed => List.mem_append_right _ (prints ack printed)⟩

/-! ## Long windows -/

theorem ends_with_newline (config : Config) : ∃ p, (lines config).flatten = p ++ [10] := by
  cases isSta : config.sta with
  | none => exact ⟨natLine config.softAp, by simp [lines, isSta]⟩
  | some sta =>
      exact ⟨natLine config.softAp ++ 10 :: wifiLine sta, by simp [lines, isSta]⟩

/-- A long part of a repeated round has a whole one, behind the end of another. -/
theorem round_of_long {round heard : List UInt8} {n : Nat} (some_ : 0 < round.length)
    (part : heard <:+: (List.replicate n round).flatten) (long : 2 * round.length ≤ heard.length) :
    ∃ pre post, heard = pre ++ (round ++ post) ∧ pre <:+ round := by
  have tail : ∀ (n : Nat) (rest : List UInt8), rest <:+ (List.replicate n round).flatten →
      ∃ m pre, pre <:+ round ∧ rest = pre ++ (List.replicate m round).flatten := by
    intro n
    induction n with
    | zero =>
        intro rest ends
        exact ⟨0, [], List.nil_suffix, List.suffix_nil.mp ends⟩
    | succ n ih =>
        intro rest ends
        rw [List.replicate_succ, List.flatten_cons] at ends
        rcases suffix_append_cases ends with behind | ⟨pre, isEnd, rfl⟩
        · exact ih rest behind
        · exact ⟨n, pre, isEnd, rfl⟩
  obtain ⟨rest, begins, ends⟩ := List.infix_iff_prefix_suffix.mp part
  obtain ⟨m, pre, isEnd, rfl⟩ := tail n rest ends
  have short := isEnd.length_le
  cases m with
  | zero =>
      have length := begins.length_le
      rw [List.replicate_zero, List.flatten_nil, List.append_nil] at length
      omega
  | succ m =>
      rw [List.replicate_succ, List.flatten_cons, ← List.append_assoc] at begins
      have first : pre ++ round <+: pre ++ round ++ (List.replicate m round).flatten :=
        List.prefix_append ..
      obtain ⟨post, rfl⟩ := List.prefix_of_prefix_length_le first begins
        (by rw [List.length_append]; omega)
      exact ⟨pre, post, List.append_assoc .., isEnd⟩

/-- **Who listens long enough acknowledges everything.** -/
theorem acknowledged_of_long (accepted : Accepted config) {n : Nat} {heard : List UInt8}
    (part : heard <:+: (List.replicate n (lines config).flatten).flatten)
    (long : 2 * (lines config).flatten.length ≤ heard.length) (nvs : Nvs) :
    let d := feed succeeding { nvs } heard
    d.rebooted = true ∨ (config.sta = none ∧ "NBP-NAT-OK\n" ∈ d.acks) := by
  obtain ⟨p, isLine⟩ := ends_with_newline config
  obtain ⟨pre, post, rfl, isEnd⟩ := round_of_long (by rw [isLine]; simp) part long
  rw [feed_append]
  apply acknowledged_of_round accepted
  rw [isLine] at isEnd
  rcases suffix_append_cases isEnd with last | ⟨t, -, rfl⟩
  · rcases List.suffix_cons_iff.mp last with rfl | nothing
    · exact empty_after_newline { nvs } []
    · rw [List.suffix_nil.mp nothing]
      exact .inr rfl
  · exact empty_after_newline { nvs } t

/-! ## The console -/

/-- No acknowledgement stands in it. -/
def Quiet (text : List UInt8) : Prop :=
  ¬ ascii "NBP-NAT-OK" <:+: text ∧ ¬ ascii "NBP-PROV-OK" <:+: text

instance (text : List UInt8) : Decidable (Quiet text) := inferInstanceAs (Decidable (_ ∧ _))

/-- What the page receives: the acknowledgements, each in one piece, and quiet text around them. -/
inductive Console : List String → List UInt8 → Prop
  | quiet (text : List UInt8) : Quiet text → Console [] text
  | acked (text : List UInt8) (ack : String) {acks : List String} {rest : List UInt8} :
      Quiet text → Console acks rest → Console (ack :: acks) (text ++ (ascii ack ++ rest))

/-- What `handle_wifi_line` logs, between a time stamp and a newline. -/
def storedLog (ssid : List UInt8) : List UInt8 :=
  ascii "stored provisioned WiFi credentials for SSID " ++ 39 :: (ssid ++ [39])

theorem quiet_storedLog (ssid : List UInt8) : Quiet (storedLog ssid) ↔ Quiet ssid := by
  have quoted : ∀ {word : List UInt8}, (39 : UInt8) ∉ word →
      ¬ word <:+: ascii "stored provisioned WiFi credentials for SSID " → ¬ word <:+: [] →
      (word <:+: storedLog ssid ↔ word <:+: ssid) := by
    intro word free before behind
    rw [storedLog, infix_separated free, infix_separated free]
    simp only [before, behind, false_or, or_false]
  unfold Quiet
  rw [quoted (by decide) (by decide) (by decide), quoted (by decide) (by decide) (by decide)]

/-- Behind other text and with other text behind it. -/
theorem infix_acked {word line : String} (isWord : word = "NBP-NAT-OK" ∨ word = "NBP-PROV-OK")
    (isLine : line = "NBP-NAT-OK" ∨ line = "NBP-PROV-OK") (text rest : List UInt8) :
    ascii word <:+: text ++ (ascii (line ++ "\n") ++ rest) ↔
      ascii word <:+: text ∨ word = line ∨ ascii word <:+: rest := by
  have free : (10 : UInt8) ∉ ascii word := by
    rcases isWord with rfl | rfl <;> decide
  have apart : ∀ s ∈ (ascii word).tails, s ≠ [] → s ≠ ascii word → ¬ s <+: ascii line := by
    rcases isWord with rfl | rfl <;> rcases isLine with rfl | rfl <;> decide
  have own : ascii word <:+: ascii line ↔ word = line := by
    rcases isWord with rfl | rfl <;> rcases isLine with rfl | rfl <;> decide
  have ended : ascii (line ++ "\n") = ascii line ++ [10] := by
    rcases isLine with rfl | rfl <;> rfl
  have split : text ++ (ascii (line ++ "\n") ++ rest) = text ++ ascii line ++ 10 :: rest := by
    rw [ended, List.append_assoc, List.append_assoc, List.singleton_append]
  rw [split, infix_separated free, infix_apart apart, own, or_assoc]

section

variable {before after : Nvs} {acks : List String} {received : List UInt8}

/-- **The page sees what was acknowledged**, and nothing else. -/
theorem Console.includes (console : Console acks received)
    (known : ∀ ack ∈ acks, ack = "NBP-NAT-OK\n" ∨ ack = "NBP-PROV-OK\n") {word : String}
    (isWord : word = "NBP-NAT-OK" ∨ word = "NBP-PROV-OK") :
    ascii word <:+: received ↔ word ++ "\n" ∈ acks := by
  have silent : ∀ {text}, Quiet text → ¬ ascii word <:+: text := by
    intro text quiet
    rcases isWord with rfl | rfl
    · exact quiet.1
    · exact quiet.2
  induction console with
  | quiet text quiet => simp [silent quiet]
  | @acked text ack acks rest quiet console ih =>
      obtain ⟨line, isLine, rfl⟩ : ∃ line,
          (line = "NBP-NAT-OK" ∨ line = "NBP-PROV-OK") ∧ ack = line ++ "\n" := by
        rcases known ack List.mem_cons_self with rfl | rfl
        · exact ⟨_, .inl rfl, rfl⟩
        · exact ⟨_, .inr rfl, rfl⟩
      have same : word = line ↔ word ++ "\n" = line ++ "\n" := by
        rcases isWord with rfl | rfl <;> rcases isLine with rfl | rfl <;> decide
      have behind : ascii word <:+: rest ↔ word ++ "\n" ∈ acks :=
        ih fun ack inside => known ack (List.mem_cons_of_mem _ inside)
      rw [infix_acked isWord isLine, behind, List.mem_cons, same]
      simp only [silent quiet, false_or]

theorem includes_nat (told : Told config before after acks) (console : Console acks received) :
    includes received "NBP-NAT-OK" = decide ("NBP-NAT-OK\n" ∈ acks) :=
  decide_eq_decide.mpr (console.includes told.known (.inl rfl))

theorem includes_wifi (told : Told config before after acks) (console : Console acks received) :
    includes received "NBP-PROV-OK" = decide ("NBP-PROV-OK\n" ∈ acks) :=
  decide_eq_decide.mpr (console.includes told.known (.inr rfl))

/-! ## The report -/

/-- What the page says of a device that told it this. -/
inductive Truthful (config : Config) (before after : Nvs) : Option String → Prop
  | silent (kept : after = before ∨ after = withSoftAp config.softAp before) :
      Truthful config before after none
  | saved (isAfter : after = withCredentials config.sta (withSoftAp config.softAp before)) :
      Truthful config before after (some stored)
  | halved (isAfter : after = withCredentials config.sta before) :
      Truthful config before after (some unacknowledged)

theorem truthful (told : Told config before after acks) (console : Console acks received) :
    Truthful config before after (report config received) := by
  have isStored := told.stored
  unfold report
  rw [includes_nat told console, includes_wifi told console]
  by_cases wifi : "NBP-PROV-OK\n" ∈ acks
  · have isSome : config.sta.isSome = true := Option.isSome_iff_ne_none.mpr (told.sta wifi)
    rw [decide_eq_true wifi] at isStored ⊢
    by_cases nat : "NBP-NAT-OK\n" ∈ acks
    · rw [decide_eq_true nat] at isStored ⊢
      simp only [Bool.true_or, Bool.or_true, Bool.and_self, if_true]
      exact .saved isStored
    · rw [decide_eq_false nat] at isStored ⊢
      simp only [isSome, Bool.or_true, Bool.and_self, if_true]
      exact .halved isStored
  · rw [decide_eq_false wifi, settled_nat] at isStored
    rw [decide_eq_false wifi]
    cases isSta : config.sta with
    | some sta =>
        simp only [Option.isNone_some, Bool.or_false, Bool.and_false, Bool.false_eq_true, if_false]
        split at isStored
        · exact .silent (.inr isStored)
        · exact .silent (.inl isStored)
    | none =>
        by_cases nat : "NBP-NAT-OK\n" ∈ acks
        · rw [decide_eq_true nat] at isStored ⊢
          refine .saved ?_
          rw [isStored, isSta]
          exact (settled_nat config true before).symm.trans rfl
        · rw [decide_eq_false nat] at isStored ⊢
          exact .silent (.inl isStored)

end

/-- **Provisioning, wherever the device begins to listen.** Whatever parts of the stream the
windows of the device hear, and whatever quiet text it prints besides: what the page reports is
stored, as it stands in the form, and without a report no credentials are. If one window hears
as much as two rounds, the page reports success. -/
theorem resending (form : Form) (config : Config) (ok : getProvisioningConfig form = .ok config)
    (nvs : Nvs) (n : Nat) (windows : List (List UInt8)) (parts : PartsOf config n windows)
    (received : List UInt8) (console : Console (listen nvs windows).2 received) :
    Truthful config nvs (listen nvs windows).1 (report config received) ∧
      ((∃ heard ∈ windows, 2 * (lines config).flatten.length ≤ heard.length) →
        (report config received).isSome = true) := by
  have accepted := WebFlasher.accepted ok
  have told := told_listen accepted parts nvs
  refine ⟨truthful told console, ?_⟩
  rintro ⟨heard, inside, long⟩
  obtain ⟨nvs', prints⟩ := mem_listen inside nvs
  have own := heard_of_infix accepted (parts heard inside) nvs'
  unfold report
  rw [includes_nat told console, includes_wifi told console]
  rcases acknowledged_of_long accepted (parts heard inside) long nvs' with restarted | ⟨isSta, nat⟩
  · have printed : "NBP-PROV-OK\n" ∈ (feed succeeding { nvs := nvs' } heard).acks := by
      simpa [restarted] using own.rebooted.symm
    have wifi := prints _ printed
    have isSome : config.sta.isSome = true := Option.isSome_iff_ne_none.mpr (told.sta wifi)
    simp [wifi, isSome]
  · have acked := prints _ nat
    simp [acked, isSta]

def homeConfig : Config := ⟨some ⟨home.staSsid, home.staPsk⟩, ⟨true, [], home.apPsk⟩⟩

/-- The device starts to listen in the middle of the first line, and restarts. -/
def homeWindows : List (List UInt8) :=
  let round := (lines homeConfig).flatten
  [(round ++ round).drop 4, round.take 20]

/-- A device that was never provisioned. -/
def erased : Nvs := fun _ => none

/-- The console of that device. -/
def homeConsole : List UInt8 :=
  storedLog (ascii "home") ++ (ascii "NBP-PROV-OK\n" ++ ascii "rst:0xc (SW_CPU_RESET)")

theorem resending_home :
    report homeConfig homeConsole = some unacknowledged ∧
      Truthful homeConfig erased (listen erased homeWindows).1
        (report homeConfig homeConsole) := by
  have two : (List.replicate 2 (lines homeConfig).flatten).flatten =
      (lines homeConfig).flatten ++ (lines homeConfig).flatten := by
    simp [List.replicate_succ]
  have parts : PartsOf homeConfig 2 homeWindows := by
    intro part inside
    rw [two]
    rcases List.mem_cons.mp inside with rfl | last
    · exact (List.drop_suffix 4 _).isInfix
    · rw [List.mem_singleton.mp last]
      exact ((List.take_prefix 20 _).trans (List.prefix_append _ _)).isInfix
  have accepts : getProvisioningConfig home = .ok homeConfig := by rfl
  have acked : (listen erased homeWindows).2 = ["NBP-PROV-OK\n"] := by decide +kernel
  have console : Console (listen erased homeWindows).2 homeConsole := by
    rw [acked]
    exact .acked _ _ (by decide) (.quiet _ (by decide))
  obtain ⟨told, -⟩ := resending home homeConfig accepts erased 2 homeWindows parts homeConsole
    console
  have reported : report homeConfig homeConsole = some unacknowledged := by decide +kernel
  exact ⟨reported, told⟩

/-- A name that is an acknowledgement. The first line is cut, the second is logged. -/
theorem resending_misled :
    let config : Config :=
      ⟨some ⟨ascii "NBP-NAT-OK", ascii "password"⟩, ⟨true, [], ascii "12345678"⟩⟩
    let after := listen erased [(lines config).flatten.drop 4]
    report config (storedLog (ascii "NBP-NAT-OK") ++ (after.2.map ascii).flatten) = some stored ∧
      after.1 .natEnabled = none := by
  decide +kernel

end

end NimbleProxy.Provision.Resending
