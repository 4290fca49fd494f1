/-
# Ota.Partitions -- an update is all or nothing

`update_post` writes the image into the slot that does not run, and says that it is to boot
only after `esp_ota_end` has accepted it. The device may lose its power or crash between any
two steps; a call that is cut is one that fails, with anything left in the slot, before a
`reset`.

What is in the slot that boots was accepted in full: it is all that was received of the last
upload that got so far, and the slot that runs is never written (`update_atomic`). A peer that
hangs up looks like the end of the body (`httpd_req_recv` answers 0 to both), so that a part of
a body is not booted rests on `esp_ota_end` alone.

The two slots are those of `partitions.csv`. What the image check looks at is a parameter,
`valid`: `esp_ota_end` answers `ESP_OK` for a valid image only. `Ota.Update` has the answer of
`update_post` as a function; `Exact` says that the steps give the same.
-/
import NimbleProxy.Theory.ActionSystem
import NimbleProxy.Ota.Update

namespace NimbleProxy.Ota

open NimbleProxy.Theory ActionSystem

set_option autoImplicit false

/-! ## The flash -/

abbrev Image := List UInt8

inductive Slot
  | ota0
  | ota1
  deriving DecidableEq

namespace Slot

/-- `esp_ota_get_next_update_partition(nullptr)`, of the slot that runs. -/
def next : Slot → Slot
  | ota0 => ota1
  | ota1 => ota0

theorem next_ne (slot : Slot) : slot.next ≠ slot := by
  cases slot <;> decide

end Slot

/-! ## The steps -/

/-- Where `update_post` is. -/
inductive UpdatePc
  | idle
  /-- in the loop, with `total` -/
  | receiving (target : Slot) (total : Nat)
  /-- before `esp_ota_set_boot_partition` -/
  | ended (target : Slot) (total : Nat)
  /-- before `esp_restart` -/
  | replied
  deriving DecidableEq

/-- What no step reads. -/
structure History where
  /-- what was in the slot that runs when it was started -/
  started : Image
  /-- what was answered in this upload -/
  recvs : List Recv := []
  /-- what was received in this upload -/
  body : Image := []
  /-- what was made to boot -/
  accepted : List Image := []
  responses : List (Answers × Response) := []

structure State where
  slots : Slot → Image
  /-- in `otadata` -/
  boot : Slot
  running : Slot
  pc : UpdatePc := .idle
  history : History

namespace State

variable (s : State)

def store (slot : Slot) (image : Image) : State :=
  { s with slots := Function.update s.slots slot image }

/-- What was answered in this upload. -/
def answers (begun ended bootSet : Bool) : Answers :=
  ⟨true, begun, s.history.recvs, ended, bootSet, true, true, true⟩

/-- `update_post` has answered. -/
def respond (answers : Answers) (response : Response) (pc : UpdatePc) : State :=
  { s with pc, history.responses := s.history.responses ++ [(answers, response)] }

def heard (recv : Recv) (bytes : Image) : State :=
  { s with
    history.recvs := s.history.recvs ++ [recv]
    history.body := s.history.body ++ bytes }

/-- What the bootloader starts: the other slot if there is no image in the one that is to boot. -/
def reset (valid : Image → Bool) : State :=
  let running := if valid (s.slots s.boot) then s.boot else s.boot.next
  { s with running, pc := .idle, history.started := s.slots running }

end State

inductive Action
  /-- `POST /update`; `esp_ota_begin` answers `begun` and has erased the slot, or left `junk` -/
  | post (begun : Bool) (junk : Image)
  /-- `httpd_req_recv` has `bytes`; `esp_ota_write` answers `written`, or has left `junk` -/
  | recv (target : Slot) (total : Nat) (bytes : Image) (written : Bool) (junk : Image)
  | timeout (target : Slot) (total : Nat)
  | recvError (target : Slot) (total : Nat)
  /-- `httpd_req_recv` answers 0, `esp_ota_end` answers `ok` -/
  | eof (target : Slot) (total : Nat) (ok : Bool)
  /-- `esp_ota_set_boot_partition` answers `ok` -/
  | setBoot (target : Slot) (total : Nat) (ok : Bool)
  | restart
  /-- a crash, or no power -/
  | reset

def Guard (valid : Image → Bool) (s : State) : Action → Prop
  | .post _ _ => s.pc = .idle
  | .recv target total bytes _ _ => s.pc = .receiving target total ∧ bytes ≠ []
  | .timeout target total | .recvError target total => s.pc = .receiving target total
  | .eof target total ok =>
      s.pc = .receiving target total ∧ (ok = true → valid (s.slots target) = true)
  | .setBoot target total _ => s.pc = .ended target total
  | .restart => s.pc = .replied
  | .reset => True

instance (valid : Image → Bool) (s : State) : (a : Action) → Decidable (Guard valid s a)
  | .recv .. => inferInstanceAs (Decidable (_ = _ ∧ _ ≠ _))
  | .eof .. => inferInstanceAs (Decidable (_ = _ ∧ (_ = _ → _ = _)))
  | .post .. | .timeout .. | .recvError .. | .setBoot .. | .restart =>
      inferInstanceAs (Decidable (_ = _))
  | .reset => inferInstanceAs (Decidable True)

def effect (valid : Image → Bool) (s : State) : Action → State
  | .post begun junk =>
      let target := s.running.next
      let s := { s with history.recvs := [], history.body := [] }
      if begun then { s.store target [] with pc := .receiving target 0 }
      else
        (s.store target junk).respond (s.answers false false false)
          (.error 500 "ota_begin failed") .idle
  | .recv target total bytes written junk =>
      let heard := s.heard (.data bytes.length written) bytes
      if written then
        { heard.store target (s.slots target ++ bytes) with
          pc := .receiving target (total + bytes.length) }
      else
        (heard.store target junk).respond (heard.answers true false false)
          (.error 500 "ota_write failed") .idle
  | .timeout _ _ => s.heard .timeout []
  | .recvError _ _ =>
      let heard := s.heard .error []
      heard.respond (heard.answers true false false) (.error 500 "recv failed") .idle
  | .eof target total ok =>
      if ok then { s with pc := .ended target total }
      else
        s.respond (s.answers true false false) (.error 400 "ota_end failed — bad image?") .idle
  | .setBoot target total ok =>
      if ok then
        { s with boot := target, history.accepted := s.history.accepted ++ [s.history.body] }.respond
          (s.answers true true true) (.ok total) .replied
      else s.respond (s.answers true true false) (.error 500 "set_boot failed") .idle
  | .restart | .reset => s.reset valid

/-- A device that runs what it booted. -/
def system (valid : Image → Bool) (slots : Slot → Image) (boot : Slot) :
    ActionSystem State Action where
  init := { slots, boot, running := boot, history := { started := slots boot } }
  Guard := Guard valid
  guardDecidable := inferInstance
  effect := effect valid

/-! ## The answers are those of the function -/

/-- What `update_post` answers. -/
def result (answers : Answers) : Response :=
  match upload answers with
  | .error response => response
  | .ok total => .ok total

theorem receive_append (recvs more : List Recv) (total : Nat) :
    receive (recvs ++ more) total = (receive recvs total).bind (receive more) := by
  induction recvs generalizing total with
  | nil => rfl
  | cons recv rest ih =>
      cases recv with
      | timeout => exact ih total
      | error => rfl
      | data bytes written =>
          cases written with
          | false => rfl
          | true => exact ih (total + bytes)

section

variable {valid : Image → Bool} {first image : Image} {s : State} {slot target : Slot} {total : Nat}

/-- Every answer is the one of `update_post`, and what was made to boot is as long as it says. -/
structure Exact (s : State) : Prop where
  answers : ∀ x ∈ s.history.responses, x.2 = result x.1
  total : ∀ x ∈ s.history.responses, ∀ total, x.2 = .ok total →
    ∃ image ∈ s.history.accepted, image.length = total

theorem Exact.failed (exact_ : Exact s) {answers : Answers} {status : Nat} {text : String}
    (is : result answers = .error status text) (pc : UpdatePc) :
    Exact (s.respond answers (.error status text) pc) := by
  constructor
  · intro x inside
    rcases List.mem_append.mp inside with before | last
    · exact exact_.answers x before
    · rw [List.mem_singleton.mp last]
      exact is.symm
  · intro x inside total isOk
    rcases List.mem_append.mp inside with before | last
    · exact exact_.total x before total isOk
    · rw [List.mem_singleton.mp last] at isOk
      cases isOk

/-! ## What the slots hold -/

/-- What the steps of an upload have done so far. -/
structure Uploading (s : State) (target : Slot) (total : Nat) : Prop where
  boot : s.boot = s.running
  isNext : target = s.running.next
  holds : s.slots target = s.history.body
  length : s.history.body.length = total
  receive : receive s.history.recvs 0 = .ok total

def At (valid : Image → Bool) (s : State) : UpdatePc → Prop
  | .idle => s.boot = s.running
  | .receiving target total => Uploading s target total
  | .ended target total => Uploading s target total ∧ valid (s.slots target) = true
  | .replied => True

/-- The slot that boots, and the one that runs. -/
structure Bootable (valid : Image → Bool) (first : Image) (s : State) : Prop where
  isValid : valid (s.slots s.boot) = true
  last : (first :: s.history.accepted).getLast? = some (s.slots s.boot)
  started : s.slots s.running = s.history.started
  startedValid : valid s.history.started = true

structure Inv (valid : Image → Bool) (first : Image) (s : State) : Prop where
  bootable : Bootable valid first s
  exact_ : Exact s
  at_ : At valid s s.pc

theorem Bootable.store (inv : Bootable valid first s) (boot : slot ≠ s.boot)
    (running : slot ≠ s.running) (image : Image) : Bootable valid first (s.store slot image) := by
  have isBoot : (s.store slot image).slots s.boot = s.slots s.boot :=
    Function.update_of_ne (Ne.symm boot) ..
  have isRunning : (s.store slot image).slots s.running = s.slots s.running :=
    Function.update_of_ne (Ne.symm running) ..
  refine ⟨?_, ?_, isRunning.trans inv.started, inv.startedValid⟩
  · show valid ((s.store slot image).slots s.boot) = true
    rw [isBoot]
    exact inv.isValid
  · show (first :: s.history.accepted).getLast? = some ((s.store slot image).slots s.boot)
    rw [isBoot]
    exact inv.last

theorem Uploading.away (upload : Uploading s target total) :
    target ≠ s.boot ∧ target ≠ s.running := by
  rw [upload.boot, upload.isNext]
  exact ⟨s.running.next_ne, s.running.next_ne⟩

/-- What boots is started, and nothing else. -/
theorem inv_reset (inv : Inv valid first s) : Inv valid first (s.reset valid) := by
  have boots : s.reset valid =
      { s with running := s.boot, pc := .idle, history.started := s.slots s.boot } := by
    unfold State.reset
    rw [if_pos inv.bootable.isValid]
  rw [boots]
  exact ⟨⟨inv.bootable.isValid, inv.bootable.last, rfl, inv.bootable.isValid⟩,
    ⟨inv.exact_.answers, inv.exact_.total⟩, rfl⟩

/-- The upload fails after `receive`. -/
theorem inv_failed (inv : Inv valid first s) (upload : Uploading s target total)
    {answers : Answers} {status : Nat} {text : String} (is : result answers = .error status text) :
    Inv valid first (s.respond answers (.error status text) .idle) :=
  ⟨⟨inv.bootable.isValid, inv.bootable.last, inv.bootable.started, inv.bootable.startedValid⟩,
    inv.exact_.failed is .idle, upload.boot⟩

theorem inv_step (inv : Inv valid first s) (a : Action) (guard : Guard valid s a) :
    Inv valid first (effect valid s a) := by
  have at_ := inv.at_
  cases a with
  | post begun junk =>
      have idle : s.pc = .idle := guard
      rw [idle] at at_
      have isBoot : s.boot = s.running := at_
      have away : s.running.next ≠ s.boot := by
        rw [isBoot]
        exact s.running.next_ne
      have stored (image : Image) := inv.bootable.store away s.running.next_ne image
      cases begun with
      | true =>
          refine ⟨⟨(stored []).isValid, (stored []).last, (stored []).started,
            (stored []).startedValid⟩, ⟨inv.exact_.answers, inv.exact_.total⟩, ?_⟩
          exact ⟨isBoot, rfl, Function.update_self .., rfl, rfl⟩
      | false =>
          refine ⟨⟨(stored junk).isValid, (stored junk).last, (stored junk).started,
            (stored junk).startedValid⟩, ?_, isBoot⟩
          exact Exact.failed (s := { s.store s.running.next junk with
            history.recvs := [], history.body := [] }) ⟨inv.exact_.answers, inv.exact_.total⟩ rfl .idle
  | recv target total bytes written junk =>
      rw [guard.1] at at_
      have upload : Uploading s target total := at_
      have stored (image : Image) := inv.bootable.store upload.away.1 upload.away.2 image
      cases written with
      | true =>
          let next := s.slots target ++ bytes
          refine ⟨⟨(stored next).isValid, (stored next).last, (stored next).started,
            (stored next).startedValid⟩, ⟨inv.exact_.answers, inv.exact_.total⟩, ?_⟩
          refine ⟨upload.boot, upload.isNext, ?_, ?_, ?_⟩
          · show Function.update s.slots target next target = s.history.body ++ bytes
            rw [Function.update_self, ← upload.holds]
          · show (s.history.body ++ bytes).length = total + bytes.length
            rw [List.length_append, upload.length]
          · show receive (s.history.recvs ++ [.data bytes.length true]) 0 = .ok (total + bytes.length)
            rw [receive_append, upload.receive]
            rfl
      | false =>
          refine ⟨⟨(stored junk).isValid, (stored junk).last, (stored junk).started,
            (stored junk).startedValid⟩, ?_, upload.boot⟩
          apply Exact.failed (s := (s.heard (.data bytes.length false) bytes).store target junk)
            ⟨inv.exact_.answers, inv.exact_.total⟩
          simp [result, Ota.upload, State.answers, State.heard, receive_append, upload.receive,
            Except.bind, receive]
  | timeout target total =>
      have upload : Uploading s target total := by
        rw [show s.pc = .receiving target total from guard] at at_
        exact at_
      refine ⟨⟨inv.bootable.isValid, inv.bootable.last, inv.bootable.started,
        inv.bootable.startedValid⟩, ⟨inv.exact_.answers, inv.exact_.total⟩, ?_⟩
      show At valid (s.heard .timeout []) s.pc
      rw [show s.pc = .receiving target total from guard]
      refine ⟨upload.boot, upload.isNext, ?_, ?_, ?_⟩
      · exact upload.holds.trans (List.append_nil _).symm
      · exact (congrArg List.length (List.append_nil _)).trans upload.length
      · show receive (s.history.recvs ++ [.timeout]) 0 = .ok total
        rw [receive_append, upload.receive]
        rfl
  | recvError target total =>
      rw [show s.pc = .receiving target total from guard] at at_
      have upload : Uploading s target total := at_
      refine ⟨⟨inv.bootable.isValid, inv.bootable.last, inv.bootable.started,
        inv.bootable.startedValid⟩, ?_, upload.boot⟩
      apply Exact.failed (s := s.heard .error []) ⟨inv.exact_.answers, inv.exact_.total⟩
      simp [result, Ota.upload, State.answers, State.heard, receive_append, upload.receive,
        Except.bind, receive]
  | eof target total ok =>
      rw [guard.1] at at_
      have upload : Uploading s target total := at_
      cases ok with
      | true =>
          exact ⟨⟨inv.bootable.isValid, inv.bootable.last, inv.bootable.started,
            inv.bootable.startedValid⟩, ⟨inv.exact_.answers, inv.exact_.total⟩,
            ⟨upload.boot, upload.isNext, upload.holds, upload.length, upload.receive⟩, guard.2 rfl⟩
      | false =>
          apply inv_failed inv upload
          simp [result, Ota.upload, State.answers, upload.receive]
  | setBoot target total ok =>
      rw [show s.pc = .ended target total from guard] at at_
      obtain ⟨upload, complete⟩ := at_
      cases ok with
      | true =>
          refine ⟨⟨complete, ?_, inv.bootable.started, inv.bootable.startedValid⟩, ⟨?_, ?_⟩, trivial⟩
          · show (first :: (s.history.accepted ++ [s.history.body])).getLast? = some (s.slots target)
            rw [← List.cons_append, List.getLast?_append, upload.holds]
            rfl
          · intro x inside
            rcases List.mem_append.mp inside with before | last
            · exact inv.exact_.answers x before
            · rw [List.mem_singleton.mp last]
              simp [result, Ota.upload, State.answers, upload.receive]
          · intro x inside total' isOk
            rcases List.mem_append.mp inside with before | last
            · obtain ⟨image, accepted, long⟩ := inv.exact_.total x before total' isOk
              exact ⟨image, List.mem_append_left _ accepted, long⟩
            · rw [List.mem_singleton.mp last] at isOk
              cases isOk
              exact ⟨s.history.body, List.mem_append_right _ (List.mem_singleton_self _),
                upload.length⟩
      | false =>
          apply inv_failed inv upload
          simp [result, Ota.upload, State.answers, upload.receive]
  | restart => exact inv_reset inv
  | reset => exact inv_reset inv

/-! ## An upload that nothing stops -/

section

variable {slots : Slot → Image} {boot : Slot}

variable (valid slots boot) in
theorem receives_chunks (chunks : List Image) (some_ : ∀ chunk ∈ chunks, chunk ≠ [])
    (at_ : s.pc = .receiving target total) :
    ∃ t, (system valid slots boot).ReachableFrom always s t ∧
      t.pc = .receiving target (total + chunks.flatten.length) ∧
      t.slots target = s.slots target ++ chunks.flatten ∧ t.running = s.running := by
  induction chunks generalizing s total with
  | nil => exact ⟨s, .refl, at_, (List.append_nil _).symm, rfl⟩
  | cons chunk rest ih =>
      rw [List.forall_mem_cons] at some_
      let next := effect valid s (.recv target total chunk true [])
      obtain ⟨t, path, pc, holds, running⟩ := ih (s := next) some_.2 rfl
      refine ⟨t, .head (.recv target total chunk true []) ⟨at_, some_.1⟩ trivial path, ?_, ?_, running⟩
      · rw [pc, List.flatten_cons, List.length_append, Nat.add_assoc]
      · rw [holds, List.flatten_cons, ← List.append_assoc]
        apply congrArg (· ++ rest.flatten)
        exact Function.update_self ..

theorem update_completes (idle : s.pc = .idle) (chunks : List Image)
    (some_ : ∀ chunk ∈ chunks, chunk ≠ []) (isValid : valid chunks.flatten = true) :
    ∃ t, (system valid slots boot).ReachableFrom always s t ∧ t.pc = .idle ∧
      t.running = s.running.next ∧ t.slots t.running = chunks.flatten := by
  let begun := effect valid s (.post true [])
  have atBegun : begun.pc = .receiving s.running.next 0 := rfl
  obtain ⟨received, loop, pc, holds, running⟩ :=
    receives_chunks valid slots boot chunks some_ atBegun
  have empty : begun.slots s.running.next = [] := Function.update_self ..
  rw [empty, List.nil_append] at holds
  have path := ReachableFrom.head (M := system valid slots boot) (.post true []) idle trivial loop
  have ended := path.step (Action.eof s.running.next (0 + chunks.flatten.length) true)
    ⟨pc, fun _ => holds.symm ▸ isValid⟩ trivial
  have replied := ended.step (Action.setBoot s.running.next (0 + chunks.flatten.length) true) rfl trivial
  refine ⟨_, replied.step Action.restart rfl trivial, rfl, ?_, ?_⟩
  · show (if valid (received.slots s.running.next) then s.running.next else _) = s.running.next
    rw [holds, if_pos isValid]
  · show received.slots (if valid (received.slots s.running.next) then s.running.next else _) = _
    rw [holds, if_pos isValid, holds]

end

end

/-- **An update is all or nothing.** Wherever the device loses its power, crashes, fails to write or
loses the peer: the slot that is to boot holds a valid image, all that was received of the last
upload that made it boot, or the image of the beginning; the slot that runs holds what was
started; and every answer is the one of `update_post`. (What was received is the whole body, unless
the peer has hung up: then it is the part that the check has let through.) An upload of a valid
image that nothing stops runs in the end. -/
theorem update_atomic (valid : Image → Bool) (slots : Slot → Image) (boot : Slot)
    (bootable : valid (slots boot) = true) (s : State)
    (path : (system valid slots boot).Reachable s) :
    Bootable valid (slots boot) s ∧ Exact s ∧
      (s.pc = .idle → ∀ chunks : List Image, (∀ chunk ∈ chunks, chunk ≠ []) →
        valid chunks.flatten = true → ∃ t, (system valid slots boot).ReachableFrom always s t ∧
          t.pc = .idle ∧ t.running = s.running.next ∧ t.slots t.running = chunks.flatten) := by
  have inv : Inv valid (slots boot) s := by
    refine path.invariant (P := Inv valid (slots boot)) ?_ fun s a inv guard => inv_step inv a guard
    exact ⟨⟨bootable, rfl, rfl, bootable⟩, ⟨nofun, nofun⟩, rfl⟩
  exact ⟨inv.bootable, inv.exact_, fun idle chunks some_ isValid =>
    update_completes idle chunks some_ isValid⟩

/-- The first byte of an image. -/
def magic (image : Image) : Bool := image.head? == some 0xE9

def factory : Slot → Image := fun _ => [0xE9]

/-- The power fails in the middle of one upload, and behind the next. -/
def cutSchedule : List Action :=
  [.post true [], .recv .ota1 0 [0xE9, 1] true [], .recv .ota1 2 [2] false [7], .reset,
   .post true [], .recv .ota1 0 [0xE9] true [], .timeout .ota1 1, .recv .ota1 1 [3, 4] true [],
   .eof .ota1 3 true, .setBoot .ota1 3 true, .reset]

theorem update_atomic_cut :
    ∃ s, (system magic factory .ota0).Reachable s ∧ s.running = .ota1 ∧
      s.slots s.boot = [0xE9, 3, 4] ∧ Bootable magic (factory .ota0) s ∧ Exact s := by
  have path := (system magic factory .ota0).reachable_final cutSchedule
  obtain ⟨bootable, exact_, -⟩ := update_atomic magic factory .ota0 rfl _ path
  exact ⟨_, path, by decide, by decide, bootable, exact_⟩

end NimbleProxy.Ota
