/-
# Dashboard.ResponseMatching -- whose response a promise is settled with

The argument goes by byte. Under the byte of a request that waits there is, as long as
nothing was left when the request took it, one response at most: what the browser has
collected and what is on its way are its beginning (`Answered`), or there is nothing yet
(`Unanswered`). The last notification then completes exactly this response
(`Answered.complete`). Once the timer has fired nobody waits, and anything goes.

If something is left when a request takes the byte, it arrives before the response of
the request, or has arrived (`Sent.delivered`): either it settles the request itself, or
it stands in front of what does (`Sent.mismatch`).
-/
import NimbleProxy.Dashboard.BleFetch
import Mathlib.Data.List.Nodup

namespace NimbleProxy.Dashboard.BleFetch

open NimbleProxy.Theory ActionSystem

set_option autoImplicit false

/-! ## What holds in every run -/

structure Known (s : State) : Prop where
  nodup : s.outbox.Nodup
  outbox : ∀ request ∈ s.outbox, request ≤ s.counter ∧ s.produced request = none
  later : ∀ request, s.counter < request → s.produced request = none
  collected : ∀ id parts, s.chunks id = some parts → parts.flatten ≠ []
  frames : ∀ frame ∈ s.channel, frame.fin = false → frame.bytes ≠ []

section Known

variable {s : State}

/-- What is collected under one byte has changed. -/
theorem Known.collected_update (known : Known s) {id : Nat} {parts : Option (List (List UInt8))}
    (new : ∀ parts' ∈ parts, parts'.flatten ≠ []) (id' : Nat) (parts' : List (List UInt8))
    (held : Function.update s.chunks id parts id' = some parts') : parts'.flatten ≠ [] := by
  by_cases this : id' = id
  · rw [this, Function.update_self] at held
    exact new parts' held
  · rw [Function.update_of_ne this] at held
    exact known.collected id' parts' held

theorem known_onNotify (known : Known s) {frame : Frame} {rest : List Frame}
    (channel : s.channel = frame :: rest) : Known (onNotify { s with channel := rest } frame) := by
  have tail : ∀ f ∈ rest, f.fin = false → f.bytes ≠ [] := fun f mem =>
    known.frames f (by rw [channel]; exact List.mem_cons_of_mem _ mem)
  unfold onNotify
  dsimp only
  split
  · split
    · exact ⟨known.nodup, known.outbox, known.later, known.collected_update nofun, tail⟩
    · exact ⟨known.nodup, known.outbox, known.later, known.collected_update nofun, tail⟩
  · rename_i more
    refine ⟨known.nodup, known.outbox, known.later, known.collected_update ?_, tail⟩
    rintro parts ⟨⟩
    have some : frame.bytes ≠ [] :=
      known.frames frame (by rw [channel]; exact List.mem_cons_self) (by simpa using more)
    simp [some]

theorem known_onTimeout (known : Known s) (request : Nat) : Known (onTimeout s request) := by
  unfold onTimeout
  split
  · exact ⟨known.nodup, known.outbox, known.later, known.collected_update nofun, known.frames⟩
  · exact known

theorem known_onWrite (known : Known s) {request : Nat} {rest : List Nat}
    (outbox : s.outbox = request :: rest) (payload : List UInt8) (err : Bool) (sent : Nat) :
    Known (onWrite { s with outbox := rest } request payload err sent) := by
  have nodup := known.nodup
  rw [outbox, List.nodup_cons] at nodup
  have here := known.outbox request (by rw [outbox]; exact List.mem_cons_self)
  refine ⟨nodup.2, ?_, ?_, known.collected, ?_⟩
  · intro m mem
    have old := known.outbox m (by rw [outbox]; exact List.mem_cons_of_mem _ mem)
    have other : m ≠ request := by
      rintro rfl
      exact nodup.1 mem
    simp only [onWrite, Function.update_of_ne other]
    exact old
  · intro m after
    have other : m ≠ request := by
      rintro rfl
      exact absurd after (Nat.not_lt.mpr here.1)
    simp only [onWrite, Function.update_of_ne other]
    exact known.later m after
  · intro frame mem
    rcases List.mem_append.mp mem with old | new
    · exact known.frames frame old
    · exact (whole_fragments _ err payload).nonempty frame (List.mem_of_mem_take new)

theorem known_begin (known : Known s) : Known (begin_ s) := by
  refine ⟨?_, ?_, ?_, known.collected, known.frames⟩
  · refine List.nodup_append.mpr ⟨known.nodup, List.nodup_singleton _, ?_⟩
    intro m mem m' mem' same
    rw [List.mem_singleton.mp mem'] at same
    have old := (known.outbox m mem).1
    omega
  · intro m mem
    rcases List.mem_append.mp mem with old | new
    · exact ⟨Nat.le_succ_of_le (known.outbox m old).1, (known.outbox m old).2⟩
    · rw [List.mem_singleton.mp new]
      exact ⟨Nat.le_refl _, known.later _ (Nat.lt_succ_self _)⟩
  · intro m after
    exact known.later m (Nat.lt_of_succ_lt after)

theorem known_step (known : Known s) (a : Action) : Known (effect s a) := by
  cases a with
  | begin_ => exact known_begin known
  | writeDone =>
      simp only [effect]
      split
      · exact ⟨known.nodup, known.outbox, known.later, known.collected, known.frames⟩
      · exact known
  | writeFails => exact ⟨known.nodup, known.outbox, known.later, known.collected, known.frames⟩
  | resume => exact ⟨known.nodup, known.outbox, known.later, known.collected, known.frames⟩
  | timeout =>
      simp only [effect]
      split
      · exact known
      · rename_i request rest _
        have shorter : Known { s with timers := rest } :=
          ⟨known.nodup, known.outbox, known.later, known.collected, known.frames⟩
        exact known_onTimeout shorter request
  | notify =>
      simp only [effect]
      split
      · exact known
      · rename_i frame rest channel
        exact known_onNotify known channel
  | onWrite payload err sent =>
      simp only [effect]
      split
      · exact known
      · rename_i request rest outbox
        exact known_onWrite known outbox payload err sent
  | lose request =>
      refine ⟨known.nodup.erase request, ?_, known.later, known.collected, known.frames⟩
      intro m mem
      exact known.outbox m (List.mem_of_mem_erase mem)

theorem known_reachable (path : system.Reachable s) : Known s := by
  refine path.invariant (P := Known) ?_ fun s a known _ => known_step known a
  exact ⟨List.nodup_nil, nofun, fun _ _ => rfl, nofun, nofun⟩

end Known

/-! ## Runs on fresh bytes -/

/-- The notifications on their way that carry a byte. -/
def inFlight (s : State) (id : Nat) : List Frame := s.channel.filter fun frame => frame.id = id

/-- What `g_chunks` has after some notifications. -/
def collect (frames : List Frame) : Option (List (List UInt8)) :=
  if frames = [] then none else some (frames.map Frame.bytes)

theorem getD_collect (frames : List Frame) : (collect frames).getD [] = frames.map Frame.bytes := by
  unfold collect
  split
  · rename_i empty
    rw [empty]
    rfl
  · rfl

theorem collect_append (before : List Frame) (frame : Frame) :
    collect (before ++ [frame]) = some (before.map Frame.bytes ++ [frame.bytes]) := by
  simp [collect]

/-- The device has not answered, and there is nothing under the byte. -/
structure Unanswered (s : State) (request : Nat) : Prop where
  produced : s.produced request = none
  chunks : s.chunks (reqId request) = none
  inFlight : inFlight s (reqId request) = []
  outbox : ∀ other ∈ s.outbox, reqId other = reqId request → other = request

/-- The device has answered: what is collected and what is on its way is the response from its
beginning, as far as it was sent. -/
structure Answered (s : State) (request : Nat) (payload : List UInt8) (err : Bool)
    (before : List Frame) : Prop where
  produced : s.produced request = some (payload, err)
  response : before ++ inFlight s (reqId request) <+: fragments (reqId request) err payload
  chunks : s.chunks (reqId request) = collect before
  outbox : ∀ other ∈ s.outbox, reqId other ≠ reqId request

/-- What waits under a byte is the request that was the last to take it. -/
def Waits (s : State) (request : Nat) : Prop :=
  Unanswered s request ∨ ∃ payload err before, Answered s request payload err before

structure Sound (s : State) : Prop where
  matching : Matches s
  pending : ∀ id request, s.pending id = some request → reqId request = id ∧ Waits s request

section Sound

variable {s t : State} {request : Nat}

/-- Nothing has changed that has to do with the byte of the request. -/
theorem Waits.congr (waits : Waits s request) (produced : t.produced request = s.produced request)
    (chunks : t.chunks (reqId request) = s.chunks (reqId request))
    (flight : inFlight t (reqId request) = inFlight s (reqId request))
    (outbox : ∀ other ∈ t.outbox, reqId other = reqId request → other ∈ s.outbox) :
    Waits t request := by
  rcases waits with unanswered | ⟨payload, err, before, answered⟩
  · left
    refine ⟨produced.trans unanswered.produced, chunks.trans unanswered.chunks,
      flight.trans unanswered.inFlight, fun other mem same => ?_⟩
    exact unanswered.outbox other (outbox other mem same) same
  · right
    refine ⟨payload, err, before, produced.trans answered.produced, ?_,
      chunks.trans answered.chunks, fun other mem same => ?_⟩
    · rw [flight]
      exact answered.response
    · exact answered.outbox other (outbox other mem same) same

theorem sound_begin (sound : Sound s) (known : Known s) (fresh : Unused s (reqId (s.counter + 1))) :
    Sound (begin_ s) := by
  obtain ⟨chunks, channel, outbox⟩ := fresh
  refine ⟨sound.matching, fun id request pending => ?_⟩
  simp only [begin_] at pending
  by_cases this : id = reqId (s.counter + 1)
  · rw [this, Function.update_self] at pending
    cases pending
    refine ⟨this.symm, .inl ⟨known.later _ (Nat.lt_succ_self _), chunks, ?_, ?_⟩⟩
    · exact List.filter_eq_nil_iff.mpr fun frame mem => by simpa using channel frame mem
    · intro other mem same
      rcases List.mem_append.mp mem with old | new
      · exact absurd same (outbox other old)
      · exact List.mem_singleton.mp new
  · rw [Function.update_of_ne this] at pending
    obtain ⟨same, waits⟩ := sound.pending id request pending
    refine ⟨same, waits.congr rfl rfl rfl fun other mem same' => ?_⟩
    rcases List.mem_append.mp mem with old | new
    · exact old
    · rw [List.mem_singleton.mp new] at same'
      exact absurd (same.symm.trans same'.symm) this

/-- A notification under another byte is no matter. -/
theorem inFlight_cons_of_ne {frame : Frame} {rest : List Frame} {id : Nat}
    (channel : s.channel = frame :: rest) (other : frame.id ≠ id) :
    inFlight { s with channel := rest } id = inFlight s id := by
  simp [inFlight, channel, other]

theorem inFlight_cons_self {frame : Frame} {rest : List Frame} (channel : s.channel = frame :: rest) :
    inFlight s frame.id = frame :: inFlight { s with channel := rest } frame.id := by
  simp [inFlight, channel]

/-- What waits under the byte of a notification has been answered, and this is the next part of
the response. -/
theorem Sound.answered (sound : Sound s) {frame : Frame} {rest : List Frame}
    (channel : s.channel = frame :: rest) (pending : s.pending frame.id = some request) :
    reqId request = frame.id ∧ ∃ payload err before, Answered s request payload err before ∧
      ∃ after, before ++ frame :: after = fragments (reqId request) err payload := by
  obtain ⟨same, unanswered | ⟨payload, err, before, answered⟩⟩ := sound.pending frame.id request pending
  · have nothing := unanswered.inFlight
    rw [same, inFlight_cons_self channel] at nothing
    cases nothing
  · refine ⟨same, payload, err, before, answered, ?_⟩
    obtain ⟨suffix, whole⟩ := answered.response
    rw [same, inFlight_cons_self channel, List.append_assoc, List.cons_append] at whole
    rw [same]
    exact ⟨_, whole⟩

/-- **The last notification completes the response.** -/
theorem Answered.complete {payload : List UInt8} {err : Bool} {before after : List Frame}
    {frame : Frame} (answered : Answered s request payload err before)
    (whole : before ++ frame :: after = fragments (reqId request) err payload)
    (fin : frame.fin = true) :
    ((s.chunks (reqId request)).getD [] ++ [frame.bytes]).flatten = payload ∧ frame.err = err := by
  have response := whole_fragments (reqId request) err payload
  have last : after = [] := (response.fin_iff before frame after whole.symm).mp fin
  subst last
  constructor
  · have parts : (before ++ [frame]).map Frame.bytes = before.map Frame.bytes ++ [frame.bytes] := by
      simp
    rw [answered.chunks, getD_collect, ← parts, whole]
    exact response.bytes
  · exact (response.same frame (by rw [← whole]; simp)).2

theorem sound_onNotify (sound : Sound s) {frame : Frame} {rest : List Frame}
    (channel : s.channel = frame :: rest) : Sound (onNotify { s with channel := rest } frame) := by
  -- what waits under the other bytes
  have others (parts : Option (List (List UInt8))) (id waiting : Nat) (other : id ≠ frame.id)
      (pending : s.pending id = some waiting) {t : State} (produced : t.produced = s.produced)
      (chunks : t.chunks = Function.update s.chunks frame.id parts) (flight : t.channel = rest)
      (outbox : t.outbox = s.outbox) : reqId waiting = id ∧ Waits t waiting := by
    obtain ⟨same, waits⟩ := sound.pending id waiting pending
    refine ⟨same, waits.congr (by rw [produced]) ?_ ?_ fun other mem _ => by rwa [outbox] at mem⟩
    · rw [chunks, same, Function.update_of_ne other]
    · have away : inFlight { s with channel := rest } id = inFlight s id :=
        inFlight_cons_of_ne channel (Ne.symm other)
      simp only [inFlight, same, flight] at away ⊢
      exact away
  unfold onNotify
  dsimp only
  split
  · rename_i fin
    split
    · rename_i nobody
      refine ⟨sound.matching, fun id waiting pending => ?_⟩
      have other : id ≠ frame.id := by
        rintro rfl
        rw [nobody] at pending
        cases pending
      exact others none id waiting other pending rfl rfl rfl rfl
    · rename_i request pending
      obtain ⟨same, payload, err, before, answered, after, whole⟩ := sound.answered channel pending
      obtain ⟨text, flag⟩ := answered.complete whole fin
      rw [same] at text
      refine ⟨fun answer mem => ?_, fun id waiting pending' => ?_⟩
      · rcases List.mem_append.mp mem with old | new
        · exact sound.matching answer old
        · rw [List.mem_singleton.mp new]
          simp only [text, flag]
          exact answered.produced
      · dsimp only at pending'
        have other : id ≠ frame.id := by
          rintro rfl
          rw [Function.update_self] at pending'
          cases pending'
        rw [Function.update_of_ne other] at pending'
        exact others none id waiting other pending' rfl rfl rfl rfl
  · refine ⟨sound.matching, fun id waiting pending => ?_⟩
    dsimp only at pending
    by_cases this : id = frame.id
    · subst this
      obtain ⟨same, payload, err, before, answered, after, whole⟩ := sound.answered channel pending
      refine ⟨same, .inr ⟨payload, err, before ++ [frame], answered.produced, ?_, ?_,
        answered.outbox⟩⟩
      · have response := answered.response
        rw [same, inFlight_cons_self channel] at response
        rw [same, List.append_assoc]
        exact response
      · have held := answered.chunks
        rw [same] at held ⊢
        dsimp only
        rw [Function.update_self, held, getD_collect, collect_append]
    · exact others _ id waiting this pending rfl rfl rfl rfl

theorem sound_onTimeout (sound : Sound s) (request : Nat) : Sound (onTimeout s request) := by
  unfold onTimeout
  split
  · refine ⟨sound.matching, fun id waiting pending => ?_⟩
    dsimp only at pending
    by_cases this : id = reqId request
    · rw [this, Function.update_self] at pending
      cases pending
    · rw [Function.update_of_ne this] at pending
      obtain ⟨same, waits⟩ := sound.pending id waiting pending
      refine ⟨same, waits.congr rfl ?_ rfl fun other mem _ => mem⟩
      rw [same]
      exact Function.update_of_ne this none s.chunks
  · exact sound

theorem sound_onWrite (sound : Sound s) (known : Known s) {rest : List Nat}
    (outbox : s.outbox = request :: rest) (payload : List UInt8) (err : Bool) (sent : Nat) :
    Sound (onWrite { s with outbox := rest } request payload err sent) := by
  have here : request ∈ s.outbox := by
    rw [outbox]
    exact List.mem_cons_self
  have none : s.produced request = none := (known.outbox request here).2
  have nodup := known.nodup
  rw [outbox, List.nodup_cons] at nodup
  have response := whole_fragments (reqId request) err payload
  refine ⟨fun answer mem => ?_, fun id waiting pending => ?_⟩
  · have old := sound.matching answer mem
    have other : answer.request ≠ request := by
      rintro same
      rw [same, none] at old
      cases old
    simp only [onWrite, Function.update_of_ne other]
    exact old
  · obtain ⟨same, waits⟩ := sound.pending id waiting pending
    refine ⟨same, ?_⟩
    by_cases this : reqId request = reqId waiting
    · -- it is the one that waits, and now has its answer
      have unanswered : Unanswered s waiting := by
        rcases waits with unanswered | ⟨_, _, _, answered⟩
        · exact unanswered
        · exact absurd this (answered.outbox request here)
      obtain rfl : request = waiting := unanswered.outbox request here this
      refine .inr ⟨payload, err, [], ?_, ?_, unanswered.chunks, ?_⟩
      · simp [onWrite]
      · have old := unanswered.inFlight
        have all : ((fragments (reqId request) err payload).take sent).filter
            (fun frame => frame.id = reqId request) =
              (fragments (reqId request) err payload).take sent := by
          refine List.filter_eq_self.mpr fun frame mem => ?_
          simp [(response.same frame (List.mem_of_mem_take mem)).1]
        unfold inFlight at old ⊢
        simp only [onWrite, List.filter_append, old, all, List.nil_append]
        exact List.take_prefix _ _
      · intro other mem same'
        have first := unanswered.outbox other (by rw [outbox]; exact List.mem_cons_of_mem _ mem) same'
        rw [first] at mem
        exact nodup.1 mem
    · have other : waiting ≠ request := by
        rintro rfl
        exact this rfl
      refine waits.congr ?_ rfl ?_ fun other mem _ => ?_
      · simp only [onWrite, Function.update_of_ne other]
      · have apart : ((fragments (reqId request) err payload).take sent).filter
            (fun frame => frame.id = reqId waiting) = [] := by
          refine List.filter_eq_nil_iff.mpr fun frame mem => ?_
          simp [(response.same frame (List.mem_of_mem_take mem)).1, this]
        simp only [inFlight, onWrite, List.filter_append, apart, List.append_nil]
      · rw [outbox]
        exact List.mem_cons_of_mem _ mem

theorem sound_step (sound : Sound s) (known : Known s) (a : Action) (fresh : FreshId s a) :
    Sound (effect s a) := by
  -- the steps that change neither the messages nor what is collected
  have same {t : State} (answers : t.answers = s.answers) (produced : t.produced = s.produced)
      (pending : t.pending = s.pending) (chunks : t.chunks = s.chunks) (channel : t.channel = s.channel)
      (outbox : ∀ other ∈ t.outbox, other ∈ s.outbox) : Sound t := by
    refine ⟨?_, fun id request waiting => ?_⟩
    · unfold Matches
      rw [answers, produced]
      exact sound.matching
    · rw [pending] at waiting
      obtain ⟨same, waits⟩ := sound.pending id request waiting
      refine ⟨same, waits.congr (by rw [produced]) (by rw [chunks]) ?_ fun other mem _ =>
        outbox other mem⟩
      unfold inFlight
      rw [channel]
  cases a with
  | begin_ => exact sound_begin sound known fresh
  | writeDone =>
      simp only [effect]
      split
      · exact same rfl rfl rfl rfl rfl fun _ mem => mem
      · exact sound
  | writeFails => exact same rfl rfl rfl rfl rfl fun _ mem => mem
  | resume => exact same rfl rfl rfl rfl rfl fun _ mem => mem
  | timeout =>
      simp only [effect]
      split
      · exact sound
      · rename_i request rest _
        have shorter : Sound { s with timers := rest } := same rfl rfl rfl rfl rfl fun _ mem => mem
        exact sound_onTimeout shorter request
  | notify =>
      simp only [effect]
      split
      · exact sound
      · rename_i frame rest channel
        exact sound_onNotify sound channel
  | onWrite payload err sent =>
      simp only [effect]
      split
      · exact sound
      · rename_i request rest outbox
        exact sound_onWrite sound known outbox payload err sent
  | lose request => exact same rfl rfl rfl rfl rfl fun _ mem => List.mem_of_mem_erase mem

theorem matches_reachable (path : system.ReachableWhen FreshId s) : Matches s := by
  have sound : Sound s := by
    refine path.invariant_with (K := Known) (P := Sound) (fun _ => known_reachable) ⟨nofun, nofun⟩ ?_
    intro s a known sound _ fresh
    exact sound_step sound known a fresh
  exact sound.matching

end Sound

/-! ## A byte of which something is left -/

section Left

variable {s : State} {request : Nat}

theorem one_step (a : Action) (guard : Guard s a) : system.ReachableFrom always s (effect s a) :=
  ReachableFrom.step a .refl guard trivial

/-- A request waits under its byte, and the device has not got it yet. -/
structure Sent (s : State) (request : Nat) : Prop where
  known : Known s
  pending : s.pending (reqId request) = some request
  produced : s.produced request = none

/-- The last notification of an earlier response settles the request. -/
theorem Sent.early (sent : Sent s request) {frame : Frame} {rest : List Frame}
    (channel : s.channel = frame :: rest) (same : frame.id = reqId request) (fin : frame.fin = true) :
    ¬ Matches (effect s .notify) := by
  intro matching
  have answer := matching ⟨request, ((s.chunks frame.id).getD [] ++ [frame.bytes]).flatten, frame.err⟩
    (by simp [effect, channel, onNotify, fin, same, sent.pending])
  have nothing : (effect s .notify).produced request = none := by
    simpa [effect, channel, onNotify, fin, same, sent.pending] using sent.produced
  rw [nothing] at answer
  cases answer

/-- Another notification leaves the request waiting; what it brings under the byte is kept. -/
theorem Sent.notify (sent : Sent s request) {frame : Frame} {rest : List Frame}
    (channel : s.channel = frame :: rest) (other : frame.id = reqId request → frame.fin = false) :
    Sent (effect s .notify) request ∧ (effect s .notify).channel = rest ∧
      (effect s .notify).outbox = s.outbox ∧
      (s.chunks (reqId request) ≠ none ∨ frame.id = reqId request →
        (effect s .notify).chunks (reqId request) ≠ none) := by
  have known : Known (effect s .notify) := known_step sent.known .notify
  have next : effect s .notify = onNotify { s with channel := rest } frame := by
    simp only [effect, channel]
  rw [next] at known ⊢
  by_cases this : reqId request = frame.id
  · rw [onNotify_of_more (other this.symm)] at known ⊢
    refine ⟨⟨known, sent.pending, sent.produced⟩, rfl, rfl, fun _ => ?_⟩
    dsimp only
    rw [this, Function.update_self]
    exact nofun
  · refine ⟨⟨known, ?_, ?_⟩, channel_onNotify, outbox_onNotify, fun left => ?_⟩
    · rw [pending_onNotify_of_ne this]
      exact sent.pending
    · rw [produced_onNotify]
      exact sent.produced
    · rw [chunks_onNotify_of_ne this]
      exact left.resolve_right (Ne.symm this)

/-- All the notifications on their way are delivered: one of them settles the request, or what
they brought under its byte is kept. -/
theorem Sent.delivered (sent : Sent s request) :
    ∃ t, system.ReachableFrom always s t ∧ (¬ Matches t ∨
      Sent t request ∧ t.channel = [] ∧ t.outbox = s.outbox ∧
        (s.chunks (reqId request) ≠ none ∨ (∃ frame ∈ s.channel, frame.id = reqId request) →
          t.chunks (reqId request) ≠ none)) := by
  generalize flight : s.channel = channel
  induction channel generalizing s with
  | nil =>
      refine ⟨s, .refl, .inr ⟨sent, flight, rfl, fun left => ?_⟩⟩
      exact left.resolve_right (by simp)
  | cons frame rest ih =>
      have guard : Guard s .notify := by
        rw [Guard, flight]
        exact nofun
      have first := one_step .notify guard
      by_cases last : frame.id = reqId request ∧ frame.fin = true
      · exact ⟨_, first, .inl (sent.early flight last.1 last.2)⟩
      · obtain ⟨sent', channel', outbox', keeps⟩ := sent.notify flight fun same => by
          simpa [same] using last
        obtain ⟨t, path, done⟩ := ih sent' channel'
        refine ⟨t, first.trans path, done.imp id ?_⟩
        rintro ⟨sentT, channelT, outboxT, keepsT⟩
        refine ⟨sentT, channelT, outboxT.trans outbox', fun left => keepsT ?_⟩
        rcases left with held | ⟨later, mem, same⟩
        · exact .inl (keeps (.inl held))
        · rcases List.mem_cons.mp mem with rfl | mem
          · exact .inl (keeps (.inr same))
          · exact .inr ⟨later, mem, same⟩

/-- The answer of the device, in one notification. -/
def shortBody : List UInt8 := [123, 125]

theorem fragments_shortBody (id : Nat) : fragments id false shortBody = [⟨true, false, id, shortBody⟩] := rfl

/-- The device gets the requests one after the other. An earlier one with the same byte is
answered under the eyes of the request; the answer to the request itself comes behind what is
left. -/
theorem Sent.mismatch (sent : Sent s request) (idle : s.channel = []) {before : List Nat}
    (outbox : s.outbox = before ++ [request])
    (left : s.chunks (reqId request) ≠ none ∨ ∃ other ∈ before, reqId other = reqId request) :
    ∃ t, system.ReachableFrom always s t ∧ ¬ Matches t := by
  induction before generalizing s with
  | nil =>
      have held : s.chunks (reqId request) ≠ none := left.resolve_right (by simp)
      obtain ⟨parts, collected⟩ := Option.ne_none_iff_exists'.mp held
      have written : effect s (.onWrite shortBody false 1) =
          { s with
            outbox := []
            produced := Function.update s.produced request (some (shortBody, false))
            channel := [⟨true, false, reqId request, shortBody⟩] } := by
        simp [effect, outbox, onWrite, idle, fragments_shortBody]
      have first := one_step (s := s) (.onWrite shortBody false 1) (by simp [Guard, outbox])
      refine ⟨effect (effect s (.onWrite shortBody false 1)) .notify,
        first.step Action.notify (by rw [written]; exact List.cons_ne_nil _ _) trivial, ?_⟩
      rw [written]
      intro matching
      have answer := matching ⟨request, (parts ++ [shortBody]).flatten, false⟩
        (by simp [effect, onNotify, sent.pending, collected])
      have produced : (effect { s with
          outbox := []
          produced := Function.update s.produced request (some (shortBody, false))
          channel := [⟨true, false, reqId request, shortBody⟩] } .notify).produced request =
            some (shortBody, false) := by
        simp [effect, onNotify, sent.pending]
      rw [produced] at answer
      simp only [Option.some.injEq, Prod.mk.injEq, List.flatten_append, List.flatten_singleton,
        and_true, List.self_eq_append_left] at answer
      exact sent.known.collected _ _ collected answer
  | cons other rest ih =>
      have nodup := sent.known.nodup
      rw [outbox, List.cons_append, List.nodup_cons] at nodup
      have different : request ≠ other := by
        rintro rfl
        exact nodup.1 (by simp)
      by_cases same : reqId other = reqId request
      · have written : effect s (.onWrite shortBody false 1) =
            { s with
              outbox := rest ++ [request]
              produced := Function.update s.produced other (some (shortBody, false))
              channel := [⟨true, false, reqId other, shortBody⟩] } := by
          simp [effect, outbox, onWrite, idle, fragments_shortBody]
        have first := one_step (s := s) (.onWrite shortBody false 1) (by simp [Guard, outbox])
        have sent' : Sent (effect s (.onWrite shortBody false 1)) request := by
          refine ⟨known_step sent.known _, ?_, ?_⟩
          · rw [written]
            exact sent.pending
          · rw [written]
            simp only [Function.update_of_ne different]
            exact sent.produced
        refine ⟨_, first.step Action.notify (by rw [written]; exact List.cons_ne_nil _ _) trivial, ?_⟩
        exact sent'.early (by rw [written]) same rfl
      · have lost : effect s (.lose other) = { s with outbox := rest ++ [request] } := by
          simp [effect, outbox]
        have first := one_step (s := s) (.lose other) (by simp [Guard, outbox])
        have sent' : Sent (effect s (.lose other)) request :=
          ⟨known_step sent.known _, sent.pending, sent.produced⟩
        have left' : s.chunks (reqId request) ≠ none ∨ ∃ m ∈ rest, reqId m = reqId request := by
          rcases left with held | ⟨m, mem, same'⟩
          · exact .inl held
          · rcases List.mem_cons.mp mem with rfl | mem
            · exact absurd same' same
            · exact .inr ⟨m, mem, same'⟩
        obtain ⟨t, path, mismatch⟩ := ih sent' idle (by rw [lost]) left'
        exact ⟨t, first.trans path, mismatch⟩

end Left

/-- **Requests and responses.** In a run in which every request takes a byte of which nothing is
left, every promise that a notification settles gets exactly the payload that the device has
produced for its request. A request that takes another byte can get something else. -/
theorem responses_match (s : State) :
    (system.ReachableWhen FreshId s → Matches s) ∧
      ∀ a, system.Reachable s → system.Guard s a → ¬ FreshId s a →
        ∃ t, system.ReachableFrom always (system.effect s a) t ∧ ¬ Matches t := by
  refine ⟨matches_reachable, fun a path _ stale => ?_⟩
  cases a with
  | begin_ =>
      have known : Known s := known_reachable path
      have sent : Sent (begin_ s) (s.counter + 1) := by
        refine ⟨known_begin known, ?_, known.later _ (Nat.lt_succ_self _)⟩
        simp [begin_]
      obtain ⟨t, path', mismatch | ⟨sentT, idle, outbox, keeps⟩⟩ := sent.delivered
      · exact ⟨t, path', mismatch⟩
      · have left : t.chunks (reqId (s.counter + 1)) ≠ none ∨
            ∃ other ∈ s.outbox, reqId other = reqId (s.counter + 1) := by
          by_contra nothing
          rw [not_or, not_not] at nothing
          refine stale ⟨?_, ?_, ?_⟩
          · by_contra held
            exact keeps (.inl held) nothing.1
          · intro frame mem same
            exact keeps (.inr ⟨frame, mem, same⟩) nothing.1
          · intro other mem same
            exact nothing.2 ⟨other, mem, same⟩
        obtain ⟨u, path'', mismatch⟩ := sentT.mismatch idle outbox left
        exact ⟨u, path'.trans path'', mismatch⟩
  | _ => exact absurd trivial stale

/-- One request with its response. -/
def round : List Action := [.begin_, .onWrite shortBody false 1, .notify, .writeDone, .resume]

/-- The first response has two notifications, of which the second cannot be sent, and the first
arrives after the timeout. 255 requests later the next one takes the same byte. -/
def lateNotification : List Action :=
  ([.begin_, .onWrite (List.replicate 243 32) false 1, .writeDone, .timeout, .resume,
   .notify] : List Action) ++
    (List.replicate 255 round).flatten ++
    ([.begin_, .onWrite shortBody false 1, .notify] : List Action)

/-- Request 257 is resolved with the leftover of request 1 in front of its own response. -/
theorem late_notification :
    (system.final lateNotification).answers.getLast? =
        some ⟨257, List.replicate 242 32 ++ shortBody, false⟩ ∧
      (system.final lateNotification).produced 257 = some (shortBody, false) := by
  decide +kernel

/-- A response in two notifications, in a run that meets the condition. -/
theorem responses_match_round :
    ∃ s, system.ReachableWhen FreshId s ∧ Matches s ∧
      s.answers = [⟨1, List.replicate 243 32, false⟩] := by
  let s := system.finalFrom FreshId system.init
    [.begin_, .onWrite (List.replicate 243 32) false 2, .notify, .writeDone, .notify, .resume]
  have path : system.ReachableWhen FreshId s := system.reachable_finalFrom FreshId system.init _
  exact ⟨s, path, (responses_match s).1 path, by decide +kernel⟩

end NimbleProxy.Dashboard.BleFetch
