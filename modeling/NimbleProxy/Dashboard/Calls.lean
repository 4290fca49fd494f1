/-
# Dashboard.Calls -- the dashboard over Bluetooth, call by call

The page of `Dashboard.BleFetch` and the device of `Dashboard.Transports`: what the page
writes is a line, what the device has for it comes from the settings, and changes them. Lines
for anything else (the statistics, the log, the devices) go the same way, between them, and
what they do to the settings, such as the restart, comes later as something that happens
elsewhere (`Elsewhere`): other pages, the power supervisor, an upload.

A line may be lost, or be handled after its timer has fired, or after the write has failed for
the page. What a run comes to is one call after the other: the device has handled each line
once at most, and a promise that a notification settles is what its call comes to on the device
as everything before has left it (`calls_in_order`). That is the same as over HTTP, if WiFi is
on. As in `Dashboard.ResponseMatching` no request takes a byte of which something is left.

After a call that turns Bluetooth off nothing is sent, and nothing is heard.
-/
import NimbleProxy.Dashboard.ResponseMatching
import NimbleProxy.Dashboard.Transports

namespace NimbleProxy.Dashboard.Calls

open NimbleProxy.Theory ActionSystem CString
open NimbleProxy.Api.Settings (Query Answers)
open NimbleProxy.Api.SettingsBodies (Device Valid boot valid_boot valid_step)
open BleFetch (Unused FreshId Known Matches reqId fragments known_reachable matches_reachable)
open Fragmentation (encode sendResponse sendResponse_eq wire attempts)
open Transports

set_option autoImplicit false

/-! ## The system -/

/-- What `bleFetch` is given. -/
inductive Line
  | setting (call : Call)
  /-- a line for another route -/
  | other (line : List UInt8)

def Line.bytes : Line → List UInt8
  | .setting call => call.line
  | .other line => line

/-- A line for a setting fits, any other has another path. -/
def Line.Portable : Line → Prop
  | .setting call => call.Portable
  | .other line =>
      (cut 32 (upToNul (line.take 255))).all (fun parts =>
        ((cut 63 parts.2).getD (parts.2, [])).1 ∉ endpoints.map path) = true

instance : (line : Line) → Decidable line.Portable
  | .setting call => inferInstanceAs (Decidable call.Portable)
  | .other _ => inferInstanceAs (Decidable (_ = true))

/-- A line that the device has handled, and what NVS and the hardware have answered. -/
structure Exchange where
  request : Nat
  line : Line
  answers : Answers

/-- What is done to the device besides. -/
inductive Elsewhere
  /-- a request over another connection, or a restart -/
  | request (a : Api.SettingsBodies.Action)
  /-- a trace, an upload, the power supervisor, a connection: what runs on the radio -/
  | radio (scanning advertising advAutoSuspend otaQuiesce : Bool)

inductive Happening
  | line (x : Exchange)
  | elsewhere (e : Elsewhere)

def Happening.line? : Happening → Option Exchange
  | .line x => some x
  | .elsewhere _ => none

structure State where
  page : BleFetch.State := {}
  /-- the line of a request -/
  lines : Nat → Line := fun _ => .other []
  device : Device
  /-- in their order; nothing reads it -/
  history : List Happening := []

def requests (history : List Happening) : List Nat :=
  (history.filterMap Happening.line?).map Exchange.request

inductive Action
  /-- `bleFetch`, up to the write -/
  | call (line : Line)
  /-- anything else that happens to the page -/
  | page (a : BleFetch.Action)
  /-- `onWrite`, with what `notify` answers for each fragment and attempt -/
  | handle (others : Others) (answers : Answers) (notify : Nat → Nat → Bool)
  | elsewhere (e : Elsewhere)

/-- What the page does without a line and without the device. -/
def own : BleFetch.Action → Bool
  | .begin_ | .onWrite .. => false
  | .writeDone | .writeFails | .resume | .timeout | .notify | .lose _ => true

def Guard (s : State) : Action → Prop
  | .call _ => BleFetch.Guard s.page .begin_
  | .page a => own a = true ∧ BleFetch.Guard s.page a
  | .handle .. => s.page.outbox ≠ [] ∧ Transport.bluetooth.up s.device = true
  | .elsewhere _ => True

instance (s : State) : (a : Action) → Decidable (Guard s a)
  | .call _ => inferInstanceAs (Decidable (BleFetch.Guard s.page .begin_))
  | .page _ => inferInstanceAs (Decidable (_ ∧ _))
  | .handle .. => inferInstanceAs (Decidable (_ ∧ _))
  | .elsewhere _ => isTrue trivial

def Elsewhere.effect (d : Device) : Elsewhere → Device
  | .request a => Api.SettingsBodies.step d a
  | .radio scanning advertising advAutoSuspend otaQuiesce =>
      let radio :=
        { d.settings.ram.radio with scanning, advertising, advAutoSuspend, otaQuiesce }
      { d with settings := { d.settings with ram := { d.settings.ram with radio } } }

section

variable (keyValue : KeyValue)

/-- The frame of a line, handled. -/
def Exchange.reply (others : Others) (d : Device) (x : Exchange) :
    Device × Option (UInt8 × List UInt8 × Bool) :=
  ReqCb.onWrite keyValue others d (encode true false (UInt8.ofNat (reqId x.request)) x.line.bytes)
    x.answers

/-- How many notifications go out. -/
def sent (device : Device) (notify : Nat → Nat → Bool) (id : UInt8) (payload : List UInt8)
    (isError : Bool) : Nat :=
  if Transport.bluetooth.up device then (sendResponse (some notify) id payload isError).length
  else 0

def handle (s : State) (others : Others) (answers : Answers) (notify : Nat → Nat → Bool) :
    State :=
  match s.page.outbox with
  | [] => s
  | request :: _ =>
      let x : Exchange := ⟨request, s.lines request, answers⟩
      let (device, response) := x.reply keyValue others s.device
      match response with
      | none => { s with page := BleFetch.effect s.page (.lose request), device }
      | some (id, payload, isError) =>
          let fragments := sent device notify id payload isError
          { s with
            page := BleFetch.effect s.page (.onWrite payload isError fragments)
            device
            history := s.history ++ [.line x] }

def effect (s : State) : Action → State
  | .call line =>
      { s with
        page := BleFetch.effect s.page .begin_
        lines := Function.update s.lines (s.page.counter + 1) line }
  | .page a => { s with page := BleFetch.effect s.page a }
  | .handle others answers notify => handle keyValue s others answers notify
  | .elsewhere e =>
      { s with device := e.effect s.device, history := s.history ++ [.elsewhere e] }

def system (device : Device) : ActionSystem State Action where
  init := { device }
  Guard := Guard
  guardDecidable := inferInstance
  effect := effect keyValue

end

/-- A call takes a byte of which nothing is left, and its line fits. -/
def Fresh (s : State) : Action → Prop
  | .call line => Unused s.page (reqId (s.page.counter + 1)) ∧ line.Portable
  | _ => True

instance (s : State) : (a : Action) → Decidable (Fresh s a)
  | .call _ => inferInstanceAs (Decidable (_ ∧ _))
  | .page _ | .handle .. | .elsewhere _ => isTrue trivial

/-! ## What the lines are for -/

section

variable (keyValue : KeyValue)

/-- The device behind a line, and for a setting what the call comes to. -/
def Exchange.asked (d : Device) (x : Exchange) : Device × Option (Outcome Json) :=
  match x.line with
  | .setting call =>
      let (d, outcome) := ask keyValue d x.answers call
      (d, some outcome)
  | .other _ => (d, none)

/-- The line over HTTP: the device, and what `apiJson` makes of the answer of a setting. -/
def Exchange.overHttp (d : Device) (x : Exchange) : Device × Option (Outcome Json) :=
  match x.line with
  | .setting call =>
      let (d, response) := Transports.overHttp keyValue d x.answers call
      (d, response.map (httpJson call.uri))
  | .other _ => (d, none)

def Happening.after (d : Device) : Happening → Device
  | .line x => (x.asked keyValue d).1
  | .elsewhere e => e.effect d

/-- The device after one thing after the other. -/
def after (d : Device) (history : List Happening) : Device :=
  history.foldl (Happening.after keyValue) d

theorem after_append (d : Device) (xs ys : List Happening) :
    after keyValue d (xs ++ ys) = after keyValue (after keyValue d xs) ys :=
  List.foldl_append

theorem valid_happening {d : Device} (valid : Valid d) (h : Happening) :
    Valid (h.after keyValue d) := by
  cases h with
  | line x =>
      dsimp only [Happening.after, Exchange.asked]
      split
      · exact valid_ask keyValue valid _ x.answers
      · exact valid
  | elsewhere e =>
      cases e with
      | request a => exact valid_step valid a
      | radio scanning advertising advAutoSuspend otaQuiesce =>
          obtain ⟨level, mhz, li, duty⟩ := valid.ram
          exact ⟨⟨level, mhz, li, duty⟩, valid.hostname⟩

theorem valid_after {d : Device} (valid : Valid d) (history : List Happening) :
    Valid (after keyValue d history) := by
  induction history generalizing d with
  | nil => exact valid
  | cons h rest ih => exact ih (valid_happening keyValue valid h)

/-- Over HTTP a line does the same, if it arrives. -/
theorem overHttp_eq {d : Device} {x : Exchange} (valid : Valid d) (portable : x.line.Portable)
    (on : Transport.http.up d = true) : (x.overHttp keyValue d).1 = (x.asked keyValue d).1 := by
  unfold Exchange.overHttp Exchange.asked
  cases line : x.line with
  | setting call =>
      rw [line] at portable
      show (Transports.overHttp keyValue d x.answers call).1 = _
      rw [overHttp_of_up keyValue valid portable x.answers on]
  | other line => rfl

end

theorem mem_requests {history : List Happening} {request : Nat} :
    request ∈ requests history ↔ ∃ x, .line x ∈ history ∧ x.request = request := by
  simp only [requests, List.mem_map, List.mem_filterMap]
  refine ⟨?_, ?_⟩
  · rintro ⟨x, ⟨h, mem, isLine⟩, same⟩
    cases h with
    | line y =>
        cases isLine
        exact ⟨x, mem, same⟩
    | elsewhere e => cases isLine
  · rintro ⟨x, mem, same⟩
    exact ⟨x, ⟨_, mem, rfl⟩, same⟩

theorem requests_line (history : List Happening) (x : Exchange) :
    requests (history ++ [.line x]) = requests history ++ [x.request] := by
  simp [requests, Happening.line?]

theorem requests_elsewhere (history : List Happening) (e : Elsewhere) :
    requests (history ++ [.elsewhere e]) = requests history := by
  simp [requests, Happening.line?]

/-- The fragments that the page hears of a response are those that `send_response` sends. -/
theorem fragments_sent (notify : Nat → Nat → Bool) (request : Nat) (payload : List UInt8)
    (isError : Bool) :
    let id := UInt8.ofNat (reqId request)
    ((fragments (reqId request) isError payload).take
        (sendResponse (some notify) id payload isError).length).map (wire id) =
      sendResponse (some notify) id payload isError := by
  intro id
  have byte : id.toNat = reqId request := UInt8.toNat_ofNat_of_lt' (Nat.mod_lt _ (by decide))
  rw [sendResponse_eq, List.length_map, byte]
  generalize fragments (reqId request) isError payload = frames
  have whole := List.prefix_iff_eq_take.mp
    (List.takeWhile_prefix (l := frames.zipIdx) fun p => attempts (notify p.2))
  generalize frames.zipIdx.takeWhile (fun p => attempts (notify p.2)) = front at whole ⊢
  have first := congrArg (List.map Prod.fst) whole
  rw [List.map_take, List.zipIdx_map_fst] at first
  rw [← first, List.map_map]
  rfl

theorem onWrite_other (keyValue : KeyValue) (others : Others) (d : Device) {line : List UInt8}
    (portable : (Line.other line).Portable) (answers : Answers) (id : UInt8) :
    ∃ payload isError,
      ReqCb.onWrite keyValue others d (encode true false id line) answers =
        (d, some (id, payload, isError)) := by
  rw [onWrite_marked]
  dsimp only [Line.Portable] at portable
  cases split : cut 32 (upToNul (line.take 255)) with
  | none => exact ⟨_, _, rfl⟩
  | some parts =>
      rw [split, Option.all_some, decide_eq_true_eq] at portable
      have absent : endpoints.find? (fun endpoint =>
          path endpoint = ((cut 63 parts.2).getD (parts.2, [])).1) = none := by
        rw [List.find?_eq_none]
        intro endpoint mem
        rw [decide_eq_true_eq]
        intro same
        exact portable (List.mem_map.mpr ⟨endpoint, mem, same⟩)
      simp only [dispatch, absent]
      exact ⟨_, _, rfl⟩

section Replies

variable (keyValue : KeyValue) (others : Others) {d : Device} (x : Exchange)

/-- **One line**: the device does what it is for, and what it answers goes under the byte of the
request. For a setting it is what the call comes to. -/
theorem reply_eq (valid : Valid d) (portable : x.line.Portable) :
    ∃ payload isError,
      x.reply keyValue others d =
        ((x.asked keyValue d).1, some (UInt8.ofNat (reqId x.request), payload, isError)) ∧
      ∀ call, x.line = .setting call →
        bleJson payload isError = (ask keyValue d x.answers call).2 := by
  unfold Exchange.reply Exchange.asked
  cases line_eq : x.line with
  | setting call =>
      rw [line_eq] at portable
      obtain ⟨payload, written, outcome⟩ := bluetooth_asks keyValue others valid portable x.answers
        (UInt8.ofNat (reqId x.request))
      refine ⟨payload, false, ?_, ?_⟩
      · exact written
      · rintro _ ⟨⟩
        exact outcome
  | other line =>
      rw [line_eq] at portable
      obtain ⟨payload, isError, written⟩ := onWrite_other keyValue others d portable x.answers
        (UInt8.ofNat (reqId x.request))
      exact ⟨payload, isError, written, nofun⟩

end Replies

/-! ## What holds in every run -/

structure Inv (keyValue : KeyValue) (d₀ : Device) (s : State) : Prop where
  portable : ∀ request, (s.lines request).Portable
  lines : ∀ x, .line x ∈ s.history → s.lines x.request = x.line ∧ x.request ≤ s.page.counter
  device : s.device = after keyValue d₀ s.history
  handled : ∀ request, s.page.produced request ≠ none ↔ request ∈ requests s.history
  nodup : (requests s.history).Nodup
  produced : ∀ before x rest, s.history = before ++ .line x :: rest →
    ∃ payload isError, s.page.produced x.request = some (payload, isError) ∧
      ∀ call, x.line = .setting call → bleJson payload isError =
        (ask keyValue (after keyValue d₀ before) x.answers call).2

section

variable {keyValue : KeyValue} {d₀ : Device} {s : State}

theorem inv_init : Inv keyValue d₀ { device := d₀ } where
  portable _ := show (Line.other []).Portable by decide
  lines _ mem := absurd mem List.not_mem_nil
  device := rfl
  handled _ := iff_of_false (fun some_ => some_ rfl) List.not_mem_nil
  nodup := List.nodup_nil
  produced _ _ _ split := absurd split (by simp)

/-- Something happens to the page, or to nothing that is handled. -/
theorem Inv.page (inv : Inv keyValue d₀ s) {page : BleFetch.State}
    (produced : page.produced = s.page.produced) (counter : s.page.counter ≤ page.counter) :
    Inv keyValue d₀ { s with page } where
  portable := inv.portable
  lines x mem := ⟨(inv.lines x mem).1, Nat.le_trans (inv.lines x mem).2 counter⟩
  device := inv.device
  handled request := by
    show page.produced request ≠ none ↔ _
    rw [produced]
    exact inv.handled request
  nodup := inv.nodup
  produced before x rest split := by
    show ∃ payload isError, page.produced x.request = some (payload, isError) ∧ _
    rw [produced]
    exact inv.produced before x rest split

/-- What the page does by itself. -/
theorem own_page (page : BleFetch.State) {a : BleFetch.Action} (isOwn : own a = true) :
    (BleFetch.effect page a).produced = page.produced ∧
      (BleFetch.effect page a).counter = page.counter := by
  cases a with
  | begin_ | onWrite _ _ _ => cases isOwn
  | writeDone =>
      simp only [BleFetch.effect]
      split <;> exact ⟨rfl, rfl⟩
  | writeFails | resume | lose _ => exact ⟨rfl, rfl⟩
  | timeout =>
      simp only [BleFetch.effect]
      split
      · exact ⟨rfl, rfl⟩
      · unfold BleFetch.onTimeout
        split <;> exact ⟨rfl, rfl⟩
  | notify =>
      simp only [BleFetch.effect]
      split
      · exact ⟨rfl, rfl⟩
      · unfold BleFetch.onNotify
        dsimp only
        repeat' split
        all_goals exact ⟨rfl, rfl⟩

theorem inv_call (inv : Inv keyValue d₀ s) {line : Line} (portable : line.Portable) :
    Inv keyValue d₀
      { s with
        page := BleFetch.begin_ s.page
        lines := Function.update s.lines (s.page.counter + 1) line } := by
  have next : Inv keyValue d₀ { s with page := BleFetch.begin_ s.page } :=
    inv.page rfl (Nat.le_succ _)
  refine { next with portable := fun request => ?_, lines := fun x mem => ?_ }
  · show (Function.update s.lines (s.page.counter + 1) line request).Portable
    by_cases new : request = s.page.counter + 1
    · rw [new, Function.update_self]
      exact portable
    · rw [Function.update_of_ne new]
      exact inv.portable request
  · have old := inv.lines x mem
    have earlier : x.request ≠ s.page.counter + 1 := by omega
    show Function.update s.lines (s.page.counter + 1) line x.request = x.line ∧ _
    rw [Function.update_of_ne earlier]
    exact ⟨old.1, Nat.le_succ_of_le old.2⟩

theorem inv_elsewhere (inv : Inv keyValue d₀ s) (e : Elsewhere) :
    Inv keyValue d₀
      { s with device := e.effect s.device, history := s.history ++ [.elsewhere e] } := by
  have old : ∀ {x}, .line x ∈ s.history ++ [.elsewhere e] → .line x ∈ s.history := by
    intro x mem
    rcases List.mem_append.mp mem with old | last
    · exact old
    · cases List.mem_singleton.mp last
  refine ⟨inv.portable, fun x mem => inv.lines x (old mem), ?_, ?_, ?_, ?_⟩
  · dsimp only
    rw [after_append, ← inv.device]
    rfl
  · dsimp only
    rw [requests_elsewhere]
    exact inv.handled
  · dsimp only
    rw [requests_elsewhere]
    exact inv.nodup
  · intro before x rest split
    rcases List.eq_nil_or_concat' rest with rfl | ⟨front, last, rfl⟩
    · obtain ⟨-, lastSame⟩ := List.append_inj' split rfl
      cases lastSame
    · rw [← List.cons_append, ← List.append_assoc] at split
      obtain ⟨earlier, -⟩ := List.append_inj' split rfl
      exact inv.produced before x front earlier

variable (keyValue) in
/-- What the device does with the next line. -/
theorem handle_eq (valid : Valid s.device) (portable : ∀ request, (s.lines request).Portable)
    {request : Nat} {rest : List Nat} (outbox : s.page.outbox = request :: rest) (others : Others)
    (answers : Answers) (notify : Nat → Nat → Bool) :
    let x : Exchange := ⟨request, s.lines request, answers⟩
    ∃ payload isError fragments,
      handle keyValue s others answers notify =
        { s with
          page := BleFetch.effect s.page (.onWrite payload isError fragments)
          device := (x.asked keyValue s.device).1
          history := s.history ++ [.line x] } ∧
      ∀ call, x.line = .setting call →
        bleJson payload isError = (ask keyValue s.device answers call).2 := by
  obtain ⟨payload, isError, replied, outcome⟩ :=
    reply_eq keyValue others ⟨request, s.lines request, answers⟩ valid (portable request)
  generalize afterwards : (Exchange.asked keyValue s.device _).1 = device at replied
  let fragments := sent device notify (UInt8.ofNat (reqId request)) payload isError
  refine ⟨payload, isError, fragments, ?_, outcome⟩
  unfold handle
  rw [outbox]
  dsimp only
  rw [replied, afterwards]

theorem inv_handle (inv : Inv keyValue d₀ s) (known : Known s.page) (valid : Valid d₀)
    (some_ : s.page.outbox ≠ []) (others : Others) (answers : Answers)
    (notify : Nat → Nat → Bool) :
    Inv keyValue d₀ (handle keyValue s others answers notify) := by
  obtain ⟨request, rest, outbox⟩ := List.exists_cons_of_ne_nil some_
  have here : s.device = after keyValue d₀ s.history := inv.device
  have validHere : Valid s.device := by
    rw [here]
    exact valid_after keyValue valid s.history
  have waiting := known.outbox request (by rw [outbox]; exact List.mem_cons_self)
  have new : request ∉ requests s.history := by
    rw [← inv.handled request, not_not]
    exact waiting.2
  obtain ⟨payload, isError, fragments, next, outcome⟩ :=
    handle_eq keyValue validHere inv.portable outbox others answers notify
  rw [next]
  have produced : (BleFetch.effect s.page (.onWrite payload isError fragments)).produced =
      Function.update s.page.produced request (some (payload, isError)) := by
    simp only [BleFetch.effect, outbox]
    rfl
  have counter : (BleFetch.effect s.page (.onWrite payload isError fragments)).counter =
      s.page.counter := by
    simp only [BleFetch.effect, outbox]
    rfl
  refine ⟨inv.portable, ?_, ?_, ?_, ?_, ?_⟩
  · dsimp only
    rw [counter]
    intro x mem
    rcases List.mem_append.mp mem with old | last
    · exact inv.lines x old
    · cases List.mem_singleton.mp last
      exact ⟨rfl, waiting.1⟩
  · dsimp only
    rw [after_append, ← here]
    rfl
  · dsimp only
    intro other
    rw [produced, requests_line, List.mem_append, List.mem_singleton]
    by_cases this : other = request
    · rw [this, Function.update_self]
      exact iff_of_true (Option.some_ne_none _) (.inr rfl)
    · rw [Function.update_of_ne this, or_iff_left this]
      exact inv.handled other
  · dsimp only
    rw [requests_line]
    refine List.nodup_append.mpr ⟨inv.nodup, List.nodup_singleton _, fun a old b last same => ?_⟩
    rw [same, List.mem_singleton.mp last] at old
    exact new old
  · dsimp only
    rw [produced]
    intro before x rest split
    rcases List.eq_nil_or_concat' rest with rfl | ⟨front, last, rfl⟩
    · -- the line that has just been handled
      obtain ⟨same, lastSame⟩ := List.append_inj' split rfl
      cases lastSame
      rw [Function.update_self, ← same, ← here]
      exact ⟨payload, isError, rfl, outcome⟩
    · rw [← List.cons_append, ← List.append_assoc] at split
      obtain ⟨earlier, -⟩ := List.append_inj' split rfl
      have old := inv.produced before x front earlier
      have other : x.request ≠ request := by
        rintro rfl
        apply new
        rw [mem_requests]
        exact ⟨x, by rw [earlier]; simp, rfl⟩
      rw [Function.update_of_ne other]
      exact old

/-- The page goes through a run of its own. -/
theorem page_reachable (path : (system keyValue d₀).ReachableWhen Fresh s) :
    BleFetch.system.ReachableWhen FreshId s.page := by
  apply path.invariant (P := fun s => BleFetch.system.ReachableWhen FreshId s.page)
  · intro s a held guard fresh
    cases a with
    | call line => exact held.step BleFetch.Action.begin_ guard fresh.1
    | page a =>
        have free : FreshId s.page a := by
          cases a with
          | begin_ => cases guard.1
          | _ => trivial
        exact held.step a guard.2 free
    | elsewhere e => exact held
    | handle others answers notify =>
        obtain ⟨request, rest, outbox⟩ := List.exists_cons_of_ne_nil guard.1
        have first : request ∈ s.page.outbox := by
          rw [outbox]
          exact List.mem_cons_self
        show BleFetch.system.ReachableWhen FreshId (handle keyValue s others answers notify).page
        unfold handle
        rw [outbox]
        dsimp only
        split
        · exact held.step (BleFetch.Action.lose request) first trivial
        · exact held.step (BleFetch.Action.onWrite _ _ _) guard.1 trivial
  · exact .refl

theorem inv_reachable (valid : Valid d₀) (path : (system keyValue d₀).ReachableWhen Fresh s) :
    Inv keyValue d₀ s := by
  suffices both : (system keyValue d₀).ReachableWhen Fresh s ∧ Inv keyValue d₀ s from both.2
  apply path.invariant (P := fun s => (system keyValue d₀).ReachableWhen Fresh s ∧ Inv keyValue d₀ s)
  · intro s a held guard fresh
    refine ⟨held.1.step a guard fresh, ?_⟩
    have inv := held.2
    cases a with
    | call line => exact inv_call inv fresh.2
    | page a =>
        obtain ⟨produced, counter⟩ := own_page s.page guard.1
        exact inv.page produced (Nat.le_of_eq counter.symm)
    | elsewhere e => exact inv_elsewhere inv e
    | handle others answers notify =>
        have known : Known s.page := known_reachable (page_reachable held.1).reachable
        exact inv_handle inv known valid guard.1 others answers notify
  · exact ⟨.refl, inv_init⟩

end

/-- **The dashboard over Bluetooth.** In a run in which every request takes a byte of which nothing
is left, and every line for a setting fits the buffers of the httpd, whatever is lost, late or
given up, and whatever is done to the device elsewhere: the device has handled each line once at
most, and is where the calls lead it, one after the other; over HTTP each does the same, if WiFi
is on. A promise that a notification settles is that of a line that was handled, and for a setting
it is what the call comes to on the device as everything before has left it, as it would be over
HTTP if WiFi is and stays on (but for the body that is cut there). -/
theorem calls_in_order (keyValue : KeyValue) (nvs : Api.Settings.Nvs) (stored : Option String)
    (scanStart advStart : Bool) {s : State}
    (path : (system keyValue (boot nvs stored scanStart advStart)).ReachableWhen Fresh s) :
    let d₀ := boot nvs stored scanStart advStart
    (requests s.history).Nodup ∧
    s.device = after keyValue d₀ s.history ∧
    (∀ before x rest, s.history = before ++ .line x :: rest →
      let d := after keyValue d₀ before
      Transport.http.up d = true → (x.overHttp keyValue d).1 = (x.asked keyValue d).1) ∧
    ∀ answer ∈ s.page.answers, ∃ before x rest,
      s.history = before ++ .line x :: rest ∧ x.request = answer.request ∧
      s.lines answer.request = x.line ∧
      ∀ call, x.line = .setting call →
        let d := after keyValue d₀ before
        let asked := ask keyValue d x.answers call
        bleJson answer.text answer.rejected = asked.2 ∧
        (Transport.http.up d = true → Transport.http.up asked.1 = true →
          ((x.overHttp keyValue d).2 = some asked.2 ↔ ¬ call.Cut d)) := by
  intro d₀
  have valid : Valid d₀ := valid_boot nvs stored scanStart advStart
  have inv := inv_reachable valid path
  have matching : Matches s.page := matches_reachable (page_reachable path)
  have fits : ∀ {before x rest}, s.history = before ++ .line x :: rest → x.line.Portable := by
    intro before x rest split
    rw [← (inv.lines x (by rw [split]; simp)).1]
    exact inv.portable x.request
  refine ⟨inv.nodup, inv.device, fun before x rest split on => ?_, fun answer mem => ?_⟩
  · exact overHttp_eq keyValue (valid_after keyValue valid before) (fits split) on
  have own := matching answer mem
  have made : answer.request ∈ requests s.history :=
    (inv.handled answer.request).mp (by rw [own]; exact Option.some_ne_none _)
  obtain ⟨x, handled, same⟩ := mem_requests.mp made
  obtain ⟨before, rest, split⟩ := List.append_of_mem handled
  obtain ⟨payload, isError, produced, outcome⟩ := inv.produced before x rest split
  rw [same, own] at produced
  obtain ⟨rfl, rfl⟩ := Prod.mk.inj (Option.some.inj produced)
  have asked := inv.lines x handled
  rw [same] at asked
  refine ⟨before, x, rest, split, same, asked.1, fun call isCall => ?_⟩
  have portable : call.Portable := by
    have own := fits split
    rwa [isCall] at own
  have validHere := valid_after keyValue valid before
  obtain ⟨-, -, body⟩ := http_asks keyValue validHere portable x.answers
  refine ⟨outcome call isCall, fun on still => ?_⟩
  rw [← body, Exchange.overHttp, isCall]
  dsimp only
  rw [overHttp_of_up keyValue validHere portable x.answers on, if_pos still]
  exact Option.some_inj

/-- `httpd_query_key_value` of `nimble=3`. -/
def threeValue : KeyValue := fun _ query key =>
  if query = ascii "nimble=3" ∧ key = "nimble" then some "3" else none

/-- What the other routes answer here. -/
def emptyLog : Others := fun _ _ _ => some (ascii "0000000000\n")

/-- A level is set, asked for, and in between the log, and the supervisor stops the scan. -/
def levelCalls : List Action :=
  [.call (.setting (.post .level (ascii "nimble=3"))), .handle emptyLog {} fun _ _ => true,
   .page .notify, .page .writeDone, .page .resume,
   .call (.other (ascii "GET /log?since=0")), .handle emptyLog {} fun _ _ => true,
   .elsewhere (.radio false true false false), .page .writeDone, .page .notify, .page .resume,
   .call (.setting (.get .level)), .page .writeDone,
   .handle emptyLog {} fun _ attempt => attempt == 4, .page .notify]

theorem calls_in_order_level : ∃ s : State,
    s.page.answers.map BleFetch.Answer.text =
      [ascii "\x7b\"ok\":true\x7d", ascii "0000000000\n", ascii "\x7b\"nimble\":3\x7d"] ∧
    s.device = after threeValue (boot (fun _ => none) none true true) s.history := by
  let start := system threeValue (boot (fun _ => none) none true true)
  let s := start.finalFrom Fresh start.init levelCalls
  have path : start.ReachableWhen Fresh s := start.reachable_finalFrom Fresh start.init levelCalls
  exact ⟨s, by decide +kernel, (calls_in_order threeValue (fun _ => none) none true true path).2.1⟩

end NimbleProxy.Dashboard.Calls
