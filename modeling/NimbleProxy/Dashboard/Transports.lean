/-
# Dashboard.Transports -- the settings over HTTP and over Bluetooth

`index.html` is one page for two transports: `apiJson` and `apiText` send a line, such as
`POST /level?nimble=3`, with `fetch` or with `bleFetch`. On the device the handlers of
`stats.cpp` are behind both, once under the httpd and once under `dispatch` of
`ble_httpd.cpp`. Over HTTP an error has a status of its own. Over Bluetooth it is a text like
any other, which `bleJson` looks into, "so callers' try/catch behaves the same as the HTTP
path's !r.ok branch".

`ask` is what a call is for. Over Bluetooth `apiJson` comes to that. Over HTTP it does too, but
for the one body that does not fit its buffer (`transports_agree`). `apiText`, with which the
page changes the settings, looks into nothing: over Bluetooth a refused setting is no error.

Each transport has a radio, which `POST /txpower` can turn off (`carry`): then a request does not
arrive any more, and the call that turned it off has no answer.

What `httpd_query_key_value` finds in a query is an argument, as is what the other routes of
`dispatch` answer (the statistics, the log, the devices, the clone, the trace, the restart). A
query comes from the URL as it is in the line, whose characters `fetch` does not escape.
-/
import NimbleProxy.Api.SettingsBodies
import NimbleProxy.Dashboard.Fragmentation
import NimbleProxy.Dashboard.JsonRepair

namespace NimbleProxy.Dashboard.Transports

open NimbleProxy.Theory CString
open NimbleProxy.Theory.Json (Plain quote memberText more_nil parse_render render_obj_cons
  memberText_str)
open NimbleProxy.Theory.BoundedPrint (taken taken_eq taken_fits)
open NimbleProxy.Api.Settings (Query Answers Post handle)
open NimbleProxy.Api.Hostname (hostnameMax handleHostnameSet)
open NimbleProxy.Api.SettingsBodies (Device Get Valid buildLevelJson buildTxpowerJson buildCpufreqJson
  buildWifipsJson buildAdvitvlJson buildHostnameJson buildScanJson text_eq body_eq length_text_lt boot
  run valid_boot valid_run valid_step)
open Fragmentation (frameFin encode)
open JsonRepair (repaired repaired_of_brace)

set_option autoImplicit false

/-! ## The handlers -/

/-- `httpd_query_key_value` of a query, into a buffer of so many bytes. -/
abbrev KeyValue := Nat → List UInt8 → Query

def path : Get → List UInt8
  | .level => ascii "/level"
  | .txpower => ascii "/txpower"
  | .cpufreq => ascii "/cpufreq"
  | .wifips => ascii "/wifips"
  | .advitvl => ascii "/advitvl"
  | .hostname => ascii "/hostname"
  | .scan => ascii "/scan"

/-- In the order of `dispatch`. -/
def endpoints : List Get := [.level, .txpower, .cpufreq, .advitvl, .wifips, .hostname, .scan]

/-- The size of `val`. -/
def valSize : Get → Nat
  | .hostname => hostnameMax + 1
  | _ => 8

/-- `handle_level_set` and its siblings: the device, and the text of the error. -/
def handleSet (keyValue : KeyValue) (endpoint : Get) (d : Device) (query : List UInt8)
    (answers : Answers) : Device × Option String :=
  let query := keyValue (valSize endpoint) query
  let settings (post : Post) : Device × Option String :=
    let (settings, err) := handle d.settings post answers
    ({ d with settings }, err)
  match endpoint with
  | .level => settings (.level query)
  | .txpower => settings (.txpower query)
  | .cpufreq => settings (.cpufreq query)
  | .wifips => settings (.wifips query)
  | .advitvl => settings (.advitvl query)
  | .scan => settings (.scan query)
  | .hostname =>
      let (name, err) := handleHostnameSet d.name query answers
      ({ d with name }, err)

/-- `build_level_json` and its siblings. -/
def build (cap : Nat) (d : Device) : Get → List UInt8
  | .level => buildLevelJson cap d.settings.ram
  | .txpower => buildTxpowerJson cap d.settings.ram
  | .cpufreq => buildCpufreqJson cap d.settings.ram
  | .wifips => buildWifipsJson cap d.settings.ram
  | .advitvl => buildAdvitvlJson cap d.settings.ram
  | .hostname => buildHostnameJson cap d.name.hostname
  | .scan => buildScanJson cap d.settings.ram

/-! ## Over Bluetooth -/

/-- `RESP_BUF_BYTES`. -/
def respBufBytes : Nat := 4096

/-- What `onWrite` takes of `g_resp_buf` after an `snprintf`: the terminator with it if the text
does not fit. -/
def printed (text : List UInt8) : List UInt8 :=
  if text.length < respBufBytes then text else text.take (respBufBytes - 1) ++ [0]

/-- The text of `render_ok_or_error`. -/
def okOrError : Option String → List UInt8
  | none => ascii "\x7b\"ok\":true\x7d"
  | some err => ascii "\x7b\"error\":\"" ++ (ascii err ++ ascii "\"\x7d")

def noRoute (path : List UInt8) : List UInt8 :=
  ascii "\x7b\"error\":\"no route " ++ (path ++ ascii "\"\x7d")

/-- What the other routes answer, to a method, a path and a query. -/
abbrev Others := List UInt8 → List UInt8 → List UInt8 → Option (List UInt8)

def dispatch (keyValue : KeyValue) (others : Others) (d : Device) (method uri : List UInt8)
    (answers : Answers) : Device × List UInt8 :=
  let (path, query) := (cut 63 uri).getD (uri, [])
  match endpoints.find? fun endpoint => Transports.path endpoint = path with
  | some endpoint =>
      if method = ascii "GET" then (d, build respBufBytes d endpoint)
      else if method = ascii "POST" then
        let (d, err) := handleSet keyValue endpoint d query answers
        (d, printed (okOrError err))
      else (d, printed (noRoute path))
  | none => (d, (others method path query).getD (printed (noRoute path)))

/-- `ReqCb::onWrite`: the device, and what `send_response` is called with. -/
def ReqCb.onWrite (keyValue : KeyValue) (others : Others) (d : Device) (val : List UInt8)
    (answers : Answers) : Device × Option (UInt8 × List UInt8 × Bool) :=
  match val with
  | flags :: reqId :: payload =>
      if flags &&& frameFin = 0 then
        (d, some (reqId, ascii "fragmented requests unsupported", true))
      else
        match cut 32 (upToNul (payload.take 255)) with
        | none => (d, some (reqId, ascii "bad request", true))
        | some (method, uri) =>
            let (d, out) := dispatch keyValue others d method uri answers
            (d, some (reqId, out, false))
  | _ => (d, none)

/-! ## Over HTTP -/

structure Response where
  status : Nat
  body : List UInt8
  deriving DecidableEq

/-- The size of `query`. -/
def querySize : Get → Nat
  | .level | .txpower | .scan => 64
  | .cpufreq | .wifips | .advitvl => 32
  | .hostname => hostnameMax + 8

/-- `httpd_req_get_url_query_str`: a query that there is, and that fits. -/
def urlQuery (size : Nat) (query : List UInt8) : Option (List UInt8) :=
  if query = [] ∨ size ≤ query.length then none else some query

/-- A call of the page for one of the settings. -/
inductive Call
  | get (endpoint : Get)
  | post (endpoint : Get) (query : List UInt8)
  deriving DecidableEq

def Call.uri : Call → List UInt8
  | .get endpoint => path endpoint
  | .post endpoint query => path endpoint ++ 63 :: query

def Call.method : Call → List UInt8
  | .get _ => ascii "GET"
  | .post .. => ascii "POST"

def Call.line (call : Call) : List UInt8 := call.method ++ 32 :: call.uri

/-- `level_get`, `level_post` and their siblings. -/
def http (keyValue : KeyValue) (d : Device) (answers : Answers) : Call → Device × Response
  | .get endpoint => (d, ⟨200, endpoint.body d⟩)
  | .post endpoint query =>
      match urlQuery (querySize endpoint) query with
      | none => (d, ⟨400, ascii "missing query"⟩)
      | some query =>
          match handleSet keyValue endpoint d query answers with
          | (d, some err) => (d, ⟨400, ascii err⟩)
          | (d, none) => (d, ⟨200, ascii "\x7b\"ok\":true\x7d"⟩)

/-! ## The radios -/

inductive Transport
  | http
  | bluetooth

namespace Transport

/-- Its radio is on. -/
def up (d : Device) : Transport → Bool
  | .http => !d.settings.ram.wifiOff
  | .bluetooth => !d.settings.ram.radio.poweredOff

/-- The parameter of `handle_txpower_set` for its radio, and the value that turns it off. -/
def key : Transport → String
  | .http => "wifi"
  | .bluetooth => "ble"

def off (val : String) : Transport → Bool
  | .http => decide (Api.Settings.atoi val = 0)
  | .bluetooth => decide (val = "off")

end Transport

/-- What has been served comes in over a radio, and the answer leaves by it, if it is still on:
after `esp_wifi_stop` or `deinit` there is nothing to send it with. -/
def carry {α : Type} (t : Transport) (d : Device) (served : Device × α) : Device × Option α :=
  if t.up d then (served.1, if t.up served.1 then some served.2 else none) else (d, none)

def overHttp (keyValue : KeyValue) (d : Device) (answers : Answers) (call : Call) :
    Device × Option Response := carry .http d (http keyValue d answers call)

def overBluetooth (keyValue : KeyValue) (others : Others) (d : Device) (answers : Answers)
    (reqId : UInt8) (call : Call) : Device × Option (Option (UInt8 × List UInt8 × Bool)) :=
  carry .bluetooth d
    (ReqCb.onWrite keyValue others d (encode true false reqId call.line) answers)

/-- `POST /txpower` with the value that turns this radio off. -/
def Call.TurnsOff (keyValue : KeyValue) (t : Transport) (call : Call) : Prop :=
  ∃ query val, call = .post .txpower query ∧ keyValue (valSize .txpower) query t.key = some val ∧
    t.off val = true

/-! ## The page -/

/-- What is thrown: an `Error` with its message, or the one of `JSON.parse`. -/
inductive Thrown
  | error (message : List UInt8)
  | syntaxError
  deriving DecidableEq

abbrev Outcome (α : Type) := Except Thrown α

/-- `obj.error`, if it is a string; of several members the last one counts. -/
def errorOf : Json → Option (List UInt8)
  | .obj members =>
      match members.reverse.lookup (ascii "error") with
      | some (.str message) => some message
      | _ => none
  | _ => none

/-- The end of `apiJson` and of `bleJson`. -/
def checked (txt : List UInt8) : Outcome Json :=
  match Json.parse txt with
  | none => .error .syntaxError
  | some obj =>
      match errorOf obj with
      | some message => .error (.error message)
      | none => .ok obj

/-- What `bleFetch` resolves or rejects to, with the text that has arrived. -/
def bleText (txt : List UInt8) (rejected : Bool) : Outcome (List UInt8) :=
  if rejected then .error (.error txt) else .ok txt

def bleJson (txt : List UInt8) (rejected : Bool) : Outcome Json :=
  (bleText txt rejected).bind fun txt => checked (repaired txt)

/-- `apiText` over HTTP. -/
def httpText (uri : List UInt8) (r : Response) : Outcome (List UInt8) :=
  if 200 ≤ r.status ∧ r.status < 300 then .ok r.body
  else if r.body = [] then .error (.error (uri ++ (ascii ": " ++ Json.decimal r.status)))
  else .error (.error r.body)

/-- `apiJson` over HTTP. -/
def httpJson (uri : List UInt8) (r : Response) : Outcome Json := (httpText uri r).bind checked

/-! ## What a call is for -/

/-- The values of a setting; for a change that it is made, or why it is not. -/
def ask (keyValue : KeyValue) (d : Device) (answers : Answers) : Call → Device × Outcome Json
  | .get endpoint => (d, .ok (.obj (endpoint.members d)))
  | .post endpoint query =>
      match handleSet keyValue endpoint d query answers with
      | (d, some err) => (d, .error (.error (ascii err)))
      | (d, none) => (d, .ok (.obj [(ascii "ok", .bool true)]))

/-- A character that stays what it is in the query of a URL. -/
def isQueryChar (c : UInt8) : Bool := 32 < c && c < 127 && c ∉ ascii "\"#'<>"

/-- A query that arrives whole over both transports. -/
def Call.Portable : Call → Prop
  | .get _ => True
  | .post endpoint query =>
      query ≠ [] ∧ query.length < querySize endpoint ∧ query.all isQueryChar = true

instance (call : Call) : Decidable call.Portable :=
  match call with
  | .get _ => inferInstanceAs (Decidable True)
  | .post .. => inferInstanceAs (Decidable (_ ∧ _ ∧ _))

/-! ## The texts of the errors -/

/-- A text that is an error of its own in a status line or inside of quotes. -/
structure Message (text : List UInt8) : Prop where
  some_ : text ≠ []
  plain : Plain text
  short : text.length < 64

instance (text : List UInt8) : Decidable (Message text) :=
  decidable_of_iff (text ≠ [] ∧ Plain text ∧ text.length < 64)
    ⟨fun ⟨some_, plain, short⟩ => ⟨some_, plain, short⟩,
      fun message => ⟨message.some_, message.plain, message.short⟩⟩

section Errors

variable {d : Api.Settings.Device} {query : Query} {answers : Answers} {err : String}

theorem message_wifiTx {d' : Api.Settings.Device}
    (refused : Api.Settings.setWifiTx d query answers = (d', .error err)) : Message (ascii err) := by
  unfold Api.Settings.setWifiTx at refused
  dsimp only at refused
  repeat' split at refused
  all_goals
    cases refused
    try decide

theorem message_bleTx {d' : Api.Settings.Device}
    (refused : Api.Settings.setBleTx d query answers = (d', .error err)) : Message (ascii err) := by
  unfold Api.Settings.setBleTx at refused
  dsimp only at refused
  repeat' split at refused
  all_goals
    cases refused
    try decide

theorem message_parseScan {window interval : UInt16}
    (refused : Api.Settings.parseScan window interval query = .error err) : Message (ascii err) := by
  unfold Api.Settings.parseScan at refused
  dsimp only at refused
  repeat' split at refused
  all_goals
    cases refused
    try decide

variable (d answers) in
theorem message_handle (post : Post) (refused : (handle d post answers).2 = some err) :
    Message (ascii err) := by
  cases post with
  | txpower query =>
      simp only [handle, Api.Settings.handleTxpowerSet] at refused
      split at refused
      · rename_i first
        cases refused
        exact message_wifiTx first
      · split at refused
        · rename_i second
          cases refused
          exact message_bleTx second
        · split at refused
          all_goals
            cases refused
            try decide
  | scan query =>
      simp only [handle, Api.Settings.handleScanSet] at refused
      split at refused
      · rename_i parsed
        cases refused
        exact message_parseScan parsed
      · cases refused
  | level query =>
      simp only [handle, Api.Settings.handleLevelSet] at refused
      repeat' split at refused
      all_goals
        cases refused
        try decide
  | cpufreq query =>
      simp only [handle, Api.Settings.handleCpufreqSet] at refused
      repeat' split at refused
      all_goals
        cases refused
        try decide
  | wifips query =>
      simp only [handle, Api.Settings.handleWifipsSet] at refused
      repeat' split at refused
      all_goals
        cases refused
        try decide
  | advitvl query =>
      simp only [handle, Api.Settings.handleAdvitvlSet] at refused
      repeat' split at refused
      all_goals
        cases refused
        try decide

theorem message_hostname {d : Api.Hostname.Device}
    (refused : (handleHostnameSet d query answers).2 = some err) : Message (ascii err) := by
  unfold handleHostnameSet at refused
  repeat' split at refused
  all_goals
    cases refused
    try decide

end Errors

/-- Every error of a handler is such a text. -/
theorem message_handleSet {keyValue : KeyValue} {endpoint : Get} {d : Device} {query : List UInt8}
    {answers : Answers} {err : String}
    (refused : (handleSet keyValue endpoint d query answers).2 = some err) : Message (ascii err) := by
  cases endpoint with
  | level => exact message_handle d.settings answers (.level _) refused
  | txpower => exact message_handle d.settings answers (.txpower _) refused
  | cpufreq => exact message_handle d.settings answers (.cpufreq _) refused
  | wifips => exact message_handle d.settings answers (.wifips _) refused
  | advitvl => exact message_handle d.settings answers (.advitvl _) refused
  | scan => exact message_handle d.settings answers (.scan _) refused
  | hostname => exact message_hostname refused

/-! ## What the page makes of the answers -/

section Answers

variable {keyValue : KeyValue} {others : Others} {d : Device} {answers : Answers} {endpoint : Get}
  {query : List UInt8} {txt : List UInt8}

theorem checked_obj {members : List (List UInt8 × Json)}
    (fine : ∀ m ∈ members, m.1 ≠ ascii "error") :
    checked (Json.obj members).render = .ok (.obj members) := by
  have absent : members.reverse.lookup (ascii "error") = none := by
    rw [List.lookup_eq_none_iff]
    intro m mem
    simpa using fun same => fine m (List.mem_reverse.mp mem) same.symm
  rw [checked, parse_render]
  simp only [errorOf, absent]

theorem checked_error (message : List UInt8) :
    checked (Json.obj [(ascii "error", .str message)]).render = .error (.error message) := by
  have found : [(ascii "error", Json.str message)].reverse.lookup (ascii "error") =
      some (.str message) := by
    rw [List.reverse_singleton, List.lookup_cons_self]
  rw [checked, parse_render]
  simp only [errorOf, found]

theorem members_fine (d : Device) (endpoint : Get) : ∀ m ∈ endpoint.members d, m.1 ≠ ascii "error" := by
  have names : (endpoint.members d).map Prod.fst ⊆ [ascii "nimble", ascii "wifi", ascii "ble",
      ascii "ble_off", ascii "mhz", ascii "ls", ascii "pdcpu", ascii "li", ascii "ms",
      ascii "hostname", ascii "default", ascii "window", ascii "interval", ascii "active"] := by
    cases endpoint <;> simp [Get.members]
  have other : ascii "error" ∉ [ascii "nimble", ascii "wifi", ascii "ble", ascii "ble_off",
      ascii "mhz", ascii "ls", ascii "pdcpu", ascii "li", ascii "ms", ascii "hostname",
      ascii "default", ascii "window", ascii "interval", ascii "active"] := by decide
  intro m mem same
  exact other (same ▸ names (List.mem_map_of_mem mem))

/-- A text that ends with its brace needs no repair. -/
theorem bleJson_obj (members : List (List UInt8 × Json)) :
    bleJson (Json.obj members).render false = checked (Json.obj members).render := by
  have last : (Json.obj members).render.getLast? = some 125 := by
    rw [Json.render_obj, List.getLast?_cons, List.getLast?_append]
    simp
  simp only [bleJson, bleText, Bool.false_eq_true, if_false, Except.bind, repaired_of_brace last]

theorem okOrError_none : okOrError none = (Json.obj [(ascii "ok", .bool true)]).render := by
  rw [render_obj_cons, Json.memberText_bool, more_nil]
  decide

theorem okOrError_some {err : String} (plain : Plain (ascii err)) :
    okOrError (some err) = (Json.obj [(ascii "error", .str (ascii err))]).render := by
  have front : ascii "\x7b\"error\":\"" = 123 :: (quote (ascii "error") ++ [58, 34]) := by decide
  have last : ascii "\"\x7d" = [34, 125] := rfl
  rw [okOrError, front, last, render_obj_cons, memberText_str, plain.quote, more_nil]
  simp

theorem printed_okOrError {err : Option String} (message : ∀ text ∈ err, Message (ascii text)) :
    printed (okOrError err) = okOrError err := by
  apply if_pos
  cases err with
  | none => decide
  | some text =>
      have short := (message text rfl).short
      have words : (ascii "\x7b\"error\":\"").length = 10 ∧ (ascii "\"\x7d").length = 2 := by decide
      simp only [okOrError, List.length_append, words, respBufBytes]
      omega

theorem build_eq (cap : Nat) (d : Device) (endpoint : Get) :
    build cap d endpoint = taken cap (endpoint.text d) := by
  cases endpoint <;> rfl

/-- The buffer of the Bluetooth side is long enough for every body. -/
theorem length_text_lt_respBuf (valid : Valid d) (endpoint : Get) :
    (endpoint.text d).length < respBufBytes := by
  have small : endpoint.capacity ≤ 96 := by cases endpoint <;> decide
  by_cases cut : endpoint = .scan ∧ d.settings.ram.radio.windowMs = 10000 ∧
      d.settings.ram.radio.activeScan = false
  · obtain ⟨rfl, window, active⟩ := cut
    have duty := valid.ram.duty.2
    have interval : (Json.decimal d.settings.ram.radio.intervalMs.toNat).length ≤ 5 :=
      Json.length_decimal_le (by decide) (by omega)
    have words : (ascii "\x7b\"window\":").length = 10 ∧ (ascii ",\"interval\":").length = 12 ∧
        (ascii ",\"active\":").length = 10 ∧ (ascii "\x7d").length = 1 ∧
        (Json.decimal (10000 : UInt16).toNat).length = 5 ∧ (Json.boolText false).length = 5 := by decide
    simp only [Get.text, Api.SettingsBodies.scanText, window, active, List.length_append, words, respBufBytes]
    omega
  · have fits := (length_text_lt valid endpoint).mpr cut
    exact Nat.lt_of_lt_of_le fits (Nat.le_trans small (by decide))

theorem build_respBuf (valid : Valid d) (endpoint : Get) :
    build respBufBytes d endpoint = (Json.obj (endpoint.members d)).render := by
  rw [build_eq, taken_fits (length_text_lt_respBuf valid endpoint), text_eq valid]

end Answers

/-! ## The line on the device -/

section Line

variable {keyValue : KeyValue} {others : Others} {d : Device} {answers : Answers} {call : Call}

theorem find_path (endpoint : Get) :
    endpoints.find? (fun e => path e = path endpoint) = some endpoint := by
  cases endpoint <;> decide

theorem path_free (endpoint : Get) :
    63 ∉ path endpoint ∧ 0 ∉ path endpoint ∧ (path endpoint).length ≤ 9 := by
  cases endpoint <;> decide

theorem querySize_le (endpoint : Get) : querySize endpoint ≤ 64 := by
  cases endpoint <;> decide

theorem cut_of_notMem {c : UInt8} {s : List UInt8} (free : c ∉ s) : cut c s = none := by
  have all : s.dropWhile (· ≠ c) = [] := by
    rw [List.dropWhile_eq_nil_iff]
    intro x mem
    simpa using fun same : x = c => free (same ▸ mem)
  rw [cut, all]

theorem isQueryChar_ne_zero {c : UInt8} (own : isQueryChar c = true) : c ≠ 0 := by
  rintro rfl
  exact absurd own (by decide)

theorem noNul_line (portable : call.Portable) : 0 ∉ call.line := by
  cases call with
  | get endpoint => cases endpoint <;> decide
  | post endpoint query =>
      obtain ⟨-, -, safe⟩ := portable
      have query_ : 0 ∉ query := fun mem => isQueryChar_ne_zero (List.all_eq_true.mp safe 0 mem) rfl
      have uri := (path_free endpoint).2.1
      have method : 0 ∉ ascii "POST" := by decide
      simp only [Call.line, Call.method, Call.uri, List.mem_append, List.mem_cons, method, uri, query_]
      decide

theorem length_line_le (portable : call.Portable) : call.line.length ≤ 255 := by
  cases call with
  | get endpoint => cases endpoint <;> decide
  | post endpoint query =>
      have short := portable.2.1
      have size := querySize_le endpoint
      have uri := (path_free endpoint).2.2
      have method : (ascii "POST").length = 4 := by decide
      simp only [Call.line, Call.method, Call.uri, List.length_append, List.length_cons, method]
      omega

theorem cut_line (call : Call) : cut 32 call.line = some (call.method, call.uri) := by
  apply cut_append
  cases call <;> (rw [Call.method]; decide)

/-- What the page writes has the mark. -/
theorem onWrite_marked (reqId : UInt8) (payload : List UInt8) :
    ReqCb.onWrite keyValue others d (encode true false reqId payload) answers =
      match cut 32 (upToNul (payload.take 255)) with
      | none => (d, some (reqId, ascii "bad request", true))
      | some (method, uri) =>
          ((dispatch keyValue others d method uri answers).1,
            some (reqId, (dispatch keyValue others d method uri answers).2, false)) := by
  have marked : ¬ ((if true = true then frameFin else 0) |||
      (if false = true then Fragmentation.frameErr else 0)) &&& frameFin = 0 := by decide
  rw [encode, ReqCb.onWrite, if_neg marked]

/-- A line that fits is dispatched whole. -/
theorem onWrite_line (portable : call.Portable) (reqId : UInt8) :
    ReqCb.onWrite keyValue others d (encode true false reqId call.line) answers =
      ((dispatch keyValue others d call.method call.uri answers).1,
        some (reqId, (dispatch keyValue others d call.method call.uri answers).2, false)) := by
  rw [onWrite_marked, List.take_of_length_le (length_line_le portable),
    upToNul_eq_self (noNul_line portable), cut_line]

theorem dispatch_get (endpoint : Get) :
    dispatch keyValue others d (Call.get endpoint).method (Call.get endpoint).uri answers =
      (d, build respBufBytes d endpoint) := by
  have whole : cut 63 (path endpoint) = none := cut_of_notMem (path_free endpoint).1
  show dispatch keyValue others d (ascii "GET") (path endpoint) answers = _
  simp only [dispatch, whole, Option.getD_none, find_path, if_true]

theorem dispatch_post (endpoint : Get) (query : List UInt8) :
    dispatch keyValue others d (Call.post endpoint query).method (Call.post endpoint query).uri answers =
      ((handleSet keyValue endpoint d query answers).1,
        printed (okOrError (handleSet keyValue endpoint d query answers).2)) := by
  have split : cut 63 (path endpoint ++ 63 :: query) = some (path endpoint, query) :=
    cut_append (path_free endpoint).1 query
  have noGet : ascii "POST" ≠ ascii "GET" := by decide
  show dispatch keyValue others d (ascii "POST") (path endpoint ++ 63 :: query) answers = _
  simp only [dispatch, split, Option.getD_some, if_neg noGet, if_true, find_path]

end Line

/-! ## The two transports -/

/-- The body that its buffer of the httpd does not hold. -/
def Call.Cut (call : Call) (d : Device) : Prop :=
  call = .get .scan ∧ d.settings.ram.radio.windowMs = 10000 ∧ d.settings.ram.radio.activeScan = false

section Agree

variable {d : Device} {call : Call}

theorem parse_cut {members : List (List UInt8 × Json)} {cap : Nat}
    (long : ¬ (Json.obj members).render.length < cap) :
    Json.parse (taken cap (Json.obj members).render) = none := by
  rw [taken_eq]
  apply Json.parse_unfinished (List.take_append_drop (cap - 1) _).symm
  have some_ := Json.length_render_pos (Json.obj members)
  rw [ne_eq, List.drop_eq_nil_iff]
  omega

theorem bluetooth_asks (keyValue : KeyValue) (others : Others) (valid : Valid d)
    (portable : call.Portable) (answers : Answers) (reqId : UInt8) :
    ∃ payload,
      ReqCb.onWrite keyValue others d (encode true false reqId call.line) answers =
        ((ask keyValue d answers call).1, some (reqId, payload, false)) ∧
      bleJson payload false = (ask keyValue d answers call).2 := by
  cases call with
  | get endpoint =>
      refine ⟨build respBufBytes d endpoint, ?_, ?_⟩
      · rw [onWrite_line portable, dispatch_get]
        rfl
      · rw [build_respBuf valid, bleJson_obj, checked_obj (members_fine d endpoint)]
        rfl
  | post endpoint query =>
      have refused (err : String) := @message_handleSet keyValue endpoint d query answers err
      rw [onWrite_line portable, dispatch_post, printed_okOrError fun _ => message_handleSet, ask]
      generalize handleSet keyValue endpoint d query answers = result at refused
      obtain ⟨d', err⟩ := result
      refine ⟨okOrError err, ?_, ?_⟩
      · cases err <;> rfl
      · cases err with
        | none => rw [okOrError_none, bleJson_obj, checked_obj (by decide)]
        | some err => rw [okOrError_some (refused err rfl).plain, bleJson_obj, checked_error]

theorem httpText_ok (uri body : List UInt8) : httpText uri ⟨200, body⟩ = .ok body := by
  simp [httpText]

theorem httpText_bad {body : List UInt8} (some_ : body ≠ []) (uri : List UInt8) :
    httpText uri ⟨400, body⟩ = .error (.error body) := by
  rw [httpText, if_neg (by simp), if_neg some_]

theorem http_asks (keyValue : KeyValue) (valid : Valid d) (portable : call.Portable)
    (answers : Answers) :
    (http keyValue d answers call).1 = (ask keyValue d answers call).1 ∧
      (httpText call.uri (http keyValue d answers call).2).isOk = (ask keyValue d answers call).2.isOk ∧
      (httpJson call.uri (http keyValue d answers call).2 = (ask keyValue d answers call).2 ↔
        ¬ call.Cut d) := by
  cases call with
  | get endpoint =>
      have cut : (Call.get endpoint).Cut d ↔ endpoint = .scan ∧
          d.settings.ram.radio.windowMs = 10000 ∧ d.settings.ram.radio.activeScan = false := by
        rw [Call.Cut, Call.get.injEq]
      refine ⟨rfl, by rw [http, httpText_ok]; rfl, ?_⟩
      rw [cut, ← length_text_lt valid endpoint, http, httpJson, httpText_ok, body_eq, text_eq valid]
      show checked _ = .ok _ ↔ _
      by_cases fits : (Json.obj (endpoint.members d)).render.length < endpoint.capacity
      · rw [taken_fits fits, checked_obj (members_fine d endpoint)]
        exact iff_of_true rfl fits
      · rw [checked, parse_cut fits]
        exact iff_of_false nofun fits
  | post endpoint query =>
      obtain ⟨some_, short, -⟩ := portable
      have arrives : urlQuery (querySize endpoint) query = some query :=
        if_neg (not_or.mpr ⟨some_, Nat.not_le.mpr short⟩)
      have refused (err : String) := @message_handleSet keyValue endpoint d query answers err
      have whole : ¬ (Call.post endpoint query).Cut d := nofun
      simp only [http, arrives, ask]
      generalize handleSet keyValue endpoint d query answers = result at refused
      obtain ⟨d', err⟩ := result
      cases err with
      | none =>
          refine ⟨rfl, rfl, iff_of_true ?_ whole⟩
          show checked (okOrError none) = _
          rw [okOrError_none, checked_obj (by decide)]
      | some err =>
          have bad := httpText_bad (refused err rfl).some_ (Call.post endpoint query).uri
          refine ⟨rfl, by rw [bad]; rfl, iff_of_true ?_ whole⟩
          rw [httpJson, bad]
          rfl

/-- What goes over HTTP if WiFi is on. -/
theorem overHttp_of_up (keyValue : KeyValue) (valid : Valid d) (portable : call.Portable)
    (answers : Answers) (on : Transport.http.up d = true) :
    overHttp keyValue d answers call = ((ask keyValue d answers call).1,
      if Transport.http.up (ask keyValue d answers call).1 then
        some (http keyValue d answers call).2 else none) := by
  obtain ⟨same, -, -⟩ := http_asks keyValue valid portable answers
  rw [overHttp, carry, if_pos on, same]

theorem valid_handleSet (keyValue : KeyValue) (valid : Valid d) (endpoint : Get) (query : List UInt8)
    (answers : Answers) : Valid (handleSet keyValue endpoint d query answers).1 := by
  cases endpoint with
  | level => exact valid_step valid (.post (.level _) answers)
  | txpower => exact valid_step valid (.post (.txpower _) answers)
  | cpufreq => exact valid_step valid (.post (.cpufreq _) answers)
  | wifips => exact valid_step valid (.post (.wifips _) answers)
  | advitvl => exact valid_step valid (.post (.advitvl _) answers)
  | scan => exact valid_step valid (.post (.scan _) answers)
  | hostname => exact valid_step valid (.hostnamePost _ answers)

theorem valid_ask (keyValue : KeyValue) (valid : Valid d) (call : Call) (answers : Answers) :
    Valid (ask keyValue d answers call).1 := by
  cases call with
  | get endpoint => exact valid
  | post endpoint query =>
      have set_ := valid_handleSet keyValue valid endpoint query answers
      rw [ask]
      generalize handleSet keyValue endpoint d query answers = result at set_
      obtain ⟨d', err⟩ := result
      cases err <;> exact set_

end Agree

/-! ## What turns a radio off -/

section Off

variable {d : Api.Settings.Device} {query : Query} {answers : Answers}

theorem wifi_setWifiTx (on : d.ram.wifiOff = false)
    (off : (Api.Settings.setWifiTx d query answers).1.ram.wifiOff = true) :
    ∃ val, query "wifi" = some val ∧ Api.Settings.atoi val = 0 := by
  unfold Api.Settings.setWifiTx at off
  cases value : query "wifi" with
  | none =>
      rw [value] at off
      exact absurd (on.symm.trans off) nofun
  | some val =>
      refine ⟨val, rfl, ?_⟩
      by_contra other
      simp only [value, other, if_false] at off
      repeat' split at off
      all_goals exact absurd (on.symm.trans off) nofun

theorem radio_setWifiTx :
    (Api.Settings.setWifiTx d query answers).1.ram.radio = d.ram.radio :=
  Api.Settings.RadioInvariant.setWifiTx (P := fun r => r = d.ram.radio) rfl

theorem wifi_setBleTx :
    (Api.Settings.setBleTx d query answers).1.ram.wifiOff = d.ram.wifiOff := by
  unfold Api.Settings.setBleTx
  dsimp only
  repeat' split
  all_goals rfl

theorem ble_setBleTx (on : d.ram.radio.poweredOff = false)
    (off : (Api.Settings.setBleTx d query answers).1.ram.radio.poweredOff = true) :
    query "ble" = some "off" := by
  unfold Api.Settings.setBleTx at off
  cases value : query "ble" with
  | none =>
      rw [value] at off
      exact absurd (on.symm.trans off) nofun
  | some val =>
      by_contra other
      have isOther : val ≠ "off" := fun same => other (by rw [same])
      simp only [value, isOther, if_false] at off
      repeat' split at off
      all_goals exact absurd (on.symm.trans off) nofun

/-- The two parts of `handle_txpower_set`, one behind the other. -/
theorem txpowerSet_parts (d : Api.Settings.Device) (query : Query) (answers : Answers) :
    let first := Api.Settings.setWifiTx d query answers
    (Api.Settings.handleTxpowerSet d query answers).1 = first.1 ∨
      (Api.Settings.handleTxpowerSet d query answers).1 =
        (Api.Settings.setBleTx first.1 query answers).1 := by
  intro first
  unfold Api.Settings.handleTxpowerSet
  cases wifi : Api.Settings.setWifiTx d query answers with
  | mk d₁ result =>
      have isFirst : first.1 = d₁ := congrArg Prod.fst wifi
      rw [isFirst]
      cases result with
      | error text => exact .inl rfl
      | ok changed =>
          right
          dsimp only
          split
          · rename_i second
            rw [second]
          · rename_i second
            rw [second]
            split <;> rfl

variable (d answers) in
/-- Any other handler leaves the radios on. -/
theorem radios_handle (post : Post) (other : ∀ query, post ≠ .txpower query) :
    (handle d post answers).1.ram.wifiOff = d.ram.wifiOff ∧
      (handle d post answers).1.ram.radio.poweredOff = d.ram.radio.poweredOff := by
  cases post with
  | txpower query => exact absurd rfl (other query)
  | level query =>
      simp only [handle, Api.Settings.handleLevelSet]
      repeat' split
      all_goals exact ⟨rfl, rfl⟩
  | cpufreq query =>
      simp only [handle, Api.Settings.handleCpufreqSet]
      repeat' split
      all_goals exact ⟨rfl, rfl⟩
  | wifips query =>
      simp only [handle, Api.Settings.handleWifipsSet]
      repeat' split
      all_goals exact ⟨rfl, rfl⟩
  | advitvl query =>
      simp only [handle, Api.Settings.handleAdvitvlSet]
      repeat' split
      all_goals
        refine ⟨rfl, ?_⟩
        simp
  | scan query =>
      simp only [handle, Api.Settings.handleScanSet]
      split
      · exact ⟨rfl, rfl⟩
      · rename_i request _
        cases request.duty <;> cases request.active <;>
          simp [Api.Settings.applyDuty, Api.Settings.applyActive]

end Off

section TurnsOff

variable {keyValue : KeyValue} {d d' : Device} {answers : Answers} {t : Transport}

theorem up_congr (wifi : d'.settings.ram.wifiOff = d.settings.ram.wifiOff)
    (ble : d'.settings.ram.radio.poweredOff = d.settings.ram.radio.poweredOff) (t : Transport) :
    t.up d' = t.up d := by
  cases t with
  | http => exact congrArg not wifi
  | bluetooth => exact congrArg not ble

theorem up_handleSet {endpoint : Get} (other : endpoint ≠ .txpower) (query : List UInt8) :
    t.up (handleSet keyValue endpoint d query answers).1 = t.up d := by
  have posted : ∀ post, (∀ query, post ≠ .txpower query) →
      t.up { d with settings := (handle d.settings post answers).1 } = t.up d := by
    intro post isOther
    obtain ⟨wifi, ble⟩ := radios_handle d.settings answers post isOther
    exact up_congr wifi ble t
  cases endpoint with
  | txpower => exact absurd rfl other
  | hostname => exact up_congr rfl rfl t
  | level => exact posted (.level _) nofun
  | cpufreq => exact posted (.cpufreq _) nofun
  | wifips => exact posted (.wifips _) nofun
  | advitvl => exact posted (.advitvl _) nofun
  | scan => exact posted (.scan _) nofun

/-- **A radio is turned off by no other call.** -/
theorem turnsOff_of_down {call : Call} (on : t.up d = true)
    (off : t.up (ask keyValue d answers call).1 = false) : call.TurnsOff keyValue t := by
  cases call with
  | get endpoint => exact absurd (on.symm.trans off) nofun
  | post endpoint query =>
      have device : (ask keyValue d answers (.post endpoint query)).1 =
          (handleSet keyValue endpoint d query answers).1 := by
        rw [ask]
        split <;> rename_i done <;> rw [done]
      rw [device] at off
      by_cases power : endpoint = .txpower
      · subst power
        have settings : (handleSet keyValue .txpower d query answers).1.settings =
            (Api.Settings.handleTxpowerSet d.settings (keyValue 8 query) answers).1 := rfl
        cases t with
        | http =>
            have wifiOn : d.settings.ram.wifiOff = false := by simpa [Transport.up] using on
            have wifiOff : (Api.Settings.setWifiTx d.settings (keyValue 8 query)
                answers).1.ram.wifiOff = true := by
              simp only [Transport.up, settings] at off
              rcases txpowerSet_parts d.settings (keyValue 8 query) answers with same | same
              · rw [same] at off
                simpa using off
              · rw [same, wifi_setBleTx] at off
                simpa using off
            obtain ⟨val, value, zero⟩ := wifi_setWifiTx wifiOn wifiOff
            exact ⟨query, val, rfl, value, decide_eq_true zero⟩
        | bluetooth =>
            have bleOn : (Api.Settings.setWifiTx d.settings (keyValue 8 query)
                answers).1.ram.radio.poweredOff = false := by
              rw [radio_setWifiTx]
              simpa [Transport.up] using on
            simp only [Transport.up, settings] at off
            rcases txpowerSet_parts d.settings (keyValue 8 query) answers with same | same
            · rw [same, bleOn] at off
              cases off
            · rw [same] at off
              have value := ble_setBleTx bleOn (by simpa using off)
              exact ⟨query, "off", rfl, value, rfl⟩
      · rw [up_handleSet power] at off
        exact absurd (on.symm.trans off) nofun

end TurnsOff

/-- `httpd_query_key_value` of `nimble=9`. -/
def nineValue : KeyValue := fun _ query key =>
  if query = ascii "nimble=9" ∧ key = "nimble" then some "9" else none

end NimbleProxy.Dashboard.Transports
