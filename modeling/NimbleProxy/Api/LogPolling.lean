/-
# Api.LogPolling -- GET /log over HTTP against the log stream

`stats.cpp`, `log_get`, and `index.html`, `apiText` and `tickLog`. One response is made
of several slices, with the ring free between them. The header says where the next poll
begins: at the end of the log as it was at the first slice. A later slice may be longer
than that, for `build_log_slice` gives all it has, and what has been logged meanwhile is
given now and once more to the next poll.

Between two slices anybody may log, and the connection may break: the browser then has
no response and asks for the same position again. `InTime` is the condition under which
a slice ends where the header says; `log_polling` is that in its runs the responses are
the stream (`Exact`), and that nothing less will do.
-/
import NimbleProxy.Api.LogRing

namespace NimbleProxy.Api.LogPolling

open NimbleProxy.Theory ActionSystem RingStream NimbleProxy.Api.LogRing

set_option autoImplicit false

/-! ## The system -/

/-- `log_get` between two of its chunks. -/
structure Response where
  since : Nat
  /-- `target_seq`, which is also the header -/
  target : Nat
  sent : List Piece
  deriving DecidableEq

structure State where
  log : Log := {}
  /-- all that was appended -/
  stream : List UInt8 := []
  /-- `g_logSeq` of the browser -/
  next : Nat
  /-- where the first poll began -/
  origin : Option Nat := none
  /-- the bodies of the responses that are complete -/
  delivered : List Piece := []
  response : Option Response := none

/-- `CHUNK`. -/
def chunk : Nat := 1024

/-- The chunks of the response under way. -/
def State.body (s : State) : List Piece := (s.response.map Response.sent).getD []

/-- The terminator: the browser has the body and the header. -/
def complete (s : State) (r : Response) : State :=
  { s with next := r.target, delivered := s.delivered ++ r.sent, response := none }

/-- `log_get` to its first chunk. -/
def request (size : Nat) (s : State) : State :=
  let slice := buildLogSlice size s.log s.next chunk
  let s := { s with origin := some (s.origin.getD (min s.next s.stream.length)) }
  if slice.bytes.length = 0 then { s with next := slice.seq }
  else
    { s with
      response := some
        { since := (slice.since + slice.bytes.length) % 2 ^ 32
          target := slice.seq
          sent := [⟨slice.since, slice.bytes⟩] } }

/-- One round of its loop. -/
def drain (size : Nat) (s : State) (r : Response) : State :=
  let slice := buildLogSlice size s.log r.since chunk
  if slice.bytes.length = 0 then complete s r
  else
    { s with
      response := some
        { r with
          since := (slice.since + slice.bytes.length) % 2 ^ 32
          sent := r.sent ++ [⟨slice.since, slice.bytes⟩] } }

inductive Action
  | append (data : List UInt8)
  | request
  | drain
  | finish
  /-- a chunk cannot be sent -/
  | sendFails

/-- `httpd` has one task, and the stream stays below 2^32 bytes. -/
def Guard (size : Nat) (s : State) : Action → Prop
  | .append data => s.stream.length + (kept size data).length < 2 ^ 32
  | .request => s.response = none
  | .drain => ∃ r ∈ s.response, r.since < r.target
  | .finish => ∃ r ∈ s.response, r.target ≤ r.since
  | .sendFails => s.response.isSome

instance (size : Nat) (s : State) : (a : Action) → Decidable (Guard size s a)
  | .append _ => inferInstanceAs (Decidable (_ < _))
  | .request => inferInstanceAs (Decidable (s.response = none))
  | .drain => inferInstanceAs (Decidable (∃ r ∈ s.response, r.since < r.target))
  | .finish => inferInstanceAs (Decidable (∃ r ∈ s.response, r.target ≤ r.since))
  | .sendFails => inferInstanceAs (Decidable (s.response.isSome = true))

def effect (size : Nat) (s : State) : Action → State
  | .append data =>
      { s with log := logRingAppend size s.log data, stream := s.stream ++ kept size data }
  | .request => request size s
  | .drain => (s.response.map (drain size s)).getD s
  | .finish => (s.response.map (complete s)).getD s
  | .sendFails => { s with response := none }

/-- A browser that asks for `first` when it begins. -/
def system (debug : Bool) (first : Nat) : ActionSystem State Action where
  init := { next := first }
  Guard := Guard (logRingSize debug)
  guardDecidable := inferInstance
  effect := effect (logRingSize debug)

/-! ## The condition -/

/-- Where a slice for `since` ends: with the log, at the end of the ring, or after a chunk. -/
def sliceEnd (size seq since : Nat) : Nat :=
  let start := max since (seq - size)
  min seq (min (start + (size - start % size)) (start + chunk))

/-- A slice that ends where the header says, or before. -/
def InTime (size : Nat) (s : State) : Action → Prop
  | .drain => ∀ r ∈ s.response, sliceEnd size s.log.seq r.since ≤ r.target
  | _ => True

instance (size : Nat) (s : State) : (a : Action) → Decidable (InTime size s a)
  | .drain => inferInstanceAs (Decidable (∀ r ∈ s.response, sliceEnd size s.log.seq r.since ≤ r.target))
  | .append _ | .request | .finish | .sendFails => isTrue trivial

/-- **What the browser is given is the stream** from its first position on: nothing twice, and
nothing left out but what the ring had lost. -/
def Exact (size : Nat) (s : State) : Prop :=
  ∀ origin ∈ s.origin, InOrder size s.stream origin (s.delivered ++ s.body)

/-! ## What a slice gives -/

section Slices

variable {size : Nat} {s : State} {r : Response}

theorem sliceEnd_spec (pos : 0 < size) {seq since : Nat} (within : since < seq) :
    max since (seq - size) < sliceEnd size seq since ∧ sliceEnd size seq since ≤ seq := by
  have inRing : max since (seq - size) % size < size := Nat.mod_lt _ pos
  unfold sliceEnd chunk
  dsimp only
  omega

/-- The slice for a position that is not ahead. -/
theorem slice_eq {log : Log} {stream : List UInt8} (refines : Refines size log stream)
    (pos : 0 < size) {since : Nat} (within : since < stream.length) :
    ∃ piece : Piece, buildLogSlice size log since chunk =
        ⟨piece.start, piece.bytes, stream.length⟩ ∧
      piece.start = max since (stream.length - size) ∧
      piece.stop = sliceEnd size stream.length since ∧ piece.Of stream := by
  have inside : max since (stream.length - size) ≤ stream.length := by omega
  obtain ⟨start, n, slice, begins, takes⟩ := refines.slice pos since chunk
  obtain ⟨nonempty, ends⟩ := sliceEnd_spec pos within
  have reached : start = max since (stream.length - size) :=
    begins.trans (Nat.min_eq_left inside)
  rw [← reached] at inside
  have stop : start + n = sliceEnd size stream.length since := by
    unfold sliceEnd
    rw [← reached]
    dsimp only
    -- what is left of the ring
    generalize size - start % size = left at takes ⊢
    clear nonempty ends begins
    omega
  have whole : ((stream.drop start).take n).length = n := by
    rw [List.length_take, List.length_drop]
    exact Nat.min_eq_left (by omega)
  refine ⟨⟨start, (stream.drop start).take n⟩, slice, reached, ?_, ?_, ?_⟩
  · simp only [Piece.stop, whole, stop]
  · simp only [Piece.stop, whole]
    omega
  · simp only [whole]

/-- There is nothing for a position at the end, or ahead. -/
theorem slice_empty {log : Log} {stream : List UInt8} (refines : Refines size log stream)
    (pos : 0 < size) {since : Nat} (ahead : stream.length ≤ since) :
    buildLogSlice size log since chunk = ⟨stream.length, [], stream.length⟩ := by
  obtain ⟨start, n, slice, begins, takes⟩ := refines.slice pos since chunk
  have reached : start = stream.length := by omega
  have none : n = 0 := by omega
  rw [slice, reached, none, List.take_zero]

end Slices

/-! ## The steps -/

section Steps

variable {debug : Bool} {first size : Nat} {s : State} {r : Response}

/-- What is known of a response: it is somewhere in the stream, behind what it has sent. -/
structure Response.In (r : Response) (s : State) : Prop where
  since : r.since ≤ s.stream.length
  target : r.target ≤ s.stream.length
  begun : s.origin.isSome
  sent : ∀ pos, reach pos r.sent = r.since

structure Known (size : Nat) (s : State) : Prop where
  refines : Refines size s.log s.stream
  short : s.stream.length < 2 ^ 32
  response : ∀ r ∈ s.response, r.In s

theorem Response.In.reach_eq {r : Response} (inside : r.In s) (response : s.response = some r)
    (origin : Nat) : reach origin (s.delivered ++ s.body) = r.since := by
  rw [reach_append, State.body, response]
  exact inside.sent _

/-- A poll that is answered with an empty body, or the first chunk. -/
theorem request_cases (known : Known size s) (pos : 0 < size) :
    (s.stream.length ≤ s.next ∧
        request size s =
          { s with
            origin := some (s.origin.getD s.stream.length)
            next := s.stream.length }) ∨
      (s.next < s.stream.length ∧ ∃ piece : Piece,
        piece.start = max s.next (s.stream.length - size) ∧ piece.stop ≤ s.stream.length ∧
        piece.start < piece.stop ∧ piece.Of s.stream ∧
        request size s =
          { s with
            origin := some (s.origin.getD s.next)
            response := some
              { since := piece.stop, target := s.stream.length, sent := [piece] } }) := by
  unfold request
  rcases Nat.lt_or_ge s.next s.stream.length with behind | ahead
  · obtain ⟨piece, slice, begins, ends, of⟩ := slice_eq known.refines pos behind
    obtain ⟨nonempty, within⟩ := sliceEnd_spec pos behind
    rw [← begins, ← ends] at nonempty
    have nonzero : piece.bytes.length ≠ 0 := by
      unfold Piece.stop at nonempty
      omega
    have small : (piece.start + piece.bytes.length) % 2 ^ 32 = piece.stop :=
      Nat.mod_eq_of_lt (Nat.lt_of_le_of_lt of.within known.short)
    right
    refine ⟨behind, piece, begins, of.within, nonempty, of, ?_⟩
    rw [slice, Nat.min_eq_left (Nat.le_of_lt behind), if_neg nonzero]
    simp only [small]
  · left
    refine ⟨ahead, ?_⟩
    rw [slice_empty known.refines pos ahead, Nat.min_eq_right ahead]
    rfl

/-- One chunk more. -/
theorem drain_eq (known : Known size s) (pos : 0 < size) (response : s.response = some r)
    (under : r.since < r.target) :
    ∃ piece : Piece, piece.start = max r.since (s.stream.length - size) ∧
      piece.stop = sliceEnd size s.log.seq r.since ∧ piece.stop ≤ s.stream.length ∧
      piece.start < piece.stop ∧ piece.Of s.stream ∧
      drain size s r =
        { s with response := some { r with since := piece.stop, sent := r.sent ++ [piece] } } := by
  have target := (known.response r response).target
  have behind : r.since < s.stream.length := Nat.lt_of_lt_of_le under target
  obtain ⟨piece, slice, begins, ends, of⟩ := slice_eq known.refines pos behind
  obtain ⟨nonempty, within⟩ := sliceEnd_spec pos behind
  rw [← begins, ← ends] at nonempty
  have nonzero : piece.bytes.length ≠ 0 := by
    unfold Piece.stop at nonempty
    omega
  have small : (piece.start + piece.bytes.length) % 2 ^ 32 = piece.stop :=
    Nat.mod_eq_of_lt (Nat.lt_of_le_of_lt of.within known.short)
  refine ⟨piece, begins, by rw [known.refines.seq, ends], of.within, nonempty, of, ?_⟩
  unfold drain
  rw [slice, if_neg nonzero]
  simp only [small]

theorem known_step (pos : 0 < size) (known : Known size s) (a : Action) (guard : Guard size s a) :
    Known size (effect size s a) := by
  cases a with
  | append data =>
      refine ⟨known.refines.append pos guard, ?_, ?_⟩
      · simp only [effect, List.length_append]
        exact guard
      · intro r response
        have inside := known.response r response
        refine ⟨?_, ?_, inside.begun, inside.sent⟩
        · simp only [effect, List.length_append]
          exact Nat.le_add_right_of_le inside.since
        · simp only [effect, List.length_append]
          exact Nat.le_add_right_of_le inside.target
  | request =>
      rcases request_cases known pos with
        ⟨_, asked⟩ | ⟨_, piece, _, within, _, _, asked⟩
      · simp only [effect, asked]
        refine ⟨known.refines, known.short, fun r response => ?_⟩
        have inside := known.response r response
        exact ⟨inside.since, inside.target, rfl, inside.sent⟩
      · simp only [effect, asked]
        refine ⟨known.refines, known.short, ?_⟩
        rintro r ⟨⟩
        exact ⟨within, Nat.le_refl _, rfl, fun _ => rfl⟩
  | drain =>
      obtain ⟨r, response, under⟩ := guard
      have inside := known.response r response
      obtain ⟨piece, _, _, within, _, _, drained⟩ := drain_eq known pos response under
      have same : effect size s .drain = drain size s r := by
        simp only [effect, Option.mem_def.mp response, Option.map_some, Option.getD_some]
      rw [same, drained]
      refine ⟨known.refines, known.short, ?_⟩
      rintro r' ⟨⟩
      refine ⟨within, inside.target, inside.begun, fun pos => ?_⟩
      rw [reach_append]
      rfl
  | finish =>
      obtain ⟨r, response, _⟩ := guard
      have same : effect size s .finish = complete s r := by
        simp only [effect, Option.mem_def.mp response, Option.map_some, Option.getD_some]
      rw [same]
      exact ⟨known.refines, known.short, nofun⟩
  | sendFails => exact ⟨known.refines, known.short, nofun⟩

theorem known_reachable (path : (system debug first).Reachable s) :
    Known (logRingSize debug) s := by
  refine path.invariant (P := Known (logRingSize debug)) ?_ ?_
  · exact ⟨refines_start _, Nat.two_pow_pos 32, nofun⟩
  · intro s a known guard
    exact known_step (logRingSize_pos debug) known a guard

end Steps

/-! ## Runs in which every slice is in time -/

section InTime

variable {debug : Bool} {first size : Nat} {s : State}

/-- The browser has what it should have, and the response under way does not go further than
its header. -/
structure OnTime (size : Nat) (s : State) : Prop where
  exact : Exact size s
  next : ∀ origin ∈ s.origin, reach origin s.delivered = s.next ∧ s.next ≤ s.stream.length
  fresh : s.origin = none → s.delivered = []
  response : ∀ r ∈ s.response, r.since ≤ r.target

/-- One piece more, at the position that is reached or at the oldest byte of the ring. -/
theorem inOrder_piece {stream : List UInt8} {origin : Nat} {pieces : List Piece} {piece : Piece}
    (inOrder : InOrder size stream origin pieces) (of : piece.Of stream)
    (begins : piece.start = max (reach origin pieces) (stream.length - size)) :
    InOrder size stream origin (pieces ++ [piece]) := by
  have within := of.within
  rw [inOrder_append]
  refine ⟨inOrder, ?_, ?_, of, trivial⟩
  · omega
  · intro gap
    omega

theorem onTime_append (onTime : OnTime size s) (data : List UInt8) :
    OnTime size (effect size s (.append data)) := by
  refine ⟨?_, ?_, onTime.fresh, onTime.response⟩
  · intro origin begun
    exact (onTime.exact origin begun).grow (kept size data)
  · intro origin begun
    obtain ⟨reached, within⟩ := onTime.next origin begun
    refine ⟨reached, ?_⟩
    simp only [effect, List.length_append]
    exact Nat.le_add_right_of_le within

/-- Where the browser stands between two polls. -/
theorem OnTime.stands (onTime : OnTime size s) (idle : s.response = none) (position : Nat)
    (here : ∀ origin ∈ s.origin, s.next = position) :
    InOrder size s.stream (s.origin.getD position) s.delivered ∧
      reach (s.origin.getD position) s.delivered = position := by
  cases begun : s.origin with
  | none =>
      rw [onTime.fresh begun]
      exact ⟨trivial, rfl⟩
  | some origin =>
      have order := onTime.exact origin begun
      rw [State.body, idle, Option.map_none, Option.getD_none, List.append_nil] at order
      exact ⟨order, (onTime.next origin begun).1.trans (here origin begun)⟩

theorem onTime_request (known : Known size s) (onTime : OnTime size s) (pos : 0 < size)
    (idle : s.response = none) : OnTime size (request size s) := by
  rcases request_cases known pos with
    ⟨ahead, asked⟩ | ⟨behind, piece, begins, _, _, of, asked⟩
  · obtain ⟨order, reached⟩ := onTime.stands idle s.stream.length fun origin begun =>
      Nat.le_antisymm (onTime.next origin begun).2 ahead
    rw [asked]
    refine ⟨?_, ?_, nofun, fun r response => ?_⟩
    · rintro origin ⟨⟩
      simpa only [State.body, idle, Option.map_none, Option.getD_none, List.append_nil] using order
    · rintro origin ⟨⟩
      exact ⟨reached, Nat.le_refl _⟩
    · rw [idle] at response
      cases response
  · obtain ⟨order, reached⟩ := onTime.stands idle s.next fun _ _ => rfl
    rw [asked]
    refine ⟨?_, ?_, nofun, ?_⟩
    · rintro origin ⟨⟩
      exact inOrder_piece order of (by rw [reached, begins])
    · rintro origin ⟨⟩
      exact ⟨reached, Nat.le_of_lt behind⟩
    · rintro r ⟨⟩
      exact of.within

theorem onTime_drain (known : Known size s) (onTime : OnTime size s) (pos : 0 < size) {r : Response}
    (response : s.response = some r) (under : r.since < r.target)
    (inTime : sliceEnd size s.log.seq r.since ≤ r.target) : OnTime size (drain size s r) := by
  obtain ⟨piece, begins, ends, _, _, of, drained⟩ := drain_eq known pos response under
  rw [drained]
  refine ⟨?_, onTime.next, onTime.fresh, ?_⟩
  · intro origin begun
    have order := onTime.exact origin begun
    have reached := (known.response r response).reach_eq response origin
    simp only [State.body, response, Option.map_some, Option.getD_some] at order reached ⊢
    rw [← List.append_assoc]
    exact inOrder_piece order of (by rw [reached, begins])
  · rintro r' ⟨⟩
    rw [ends]
    exact inTime

theorem onTime_complete (known : Known size s) (onTime : OnTime size s) {r : Response}
    (response : s.response = some r) (all : r.target ≤ r.since) : OnTime size (complete s r) := by
  have header : r.target = r.since := Nat.le_antisymm all (onTime.response r response)
  have inside := known.response r response
  refine ⟨?_, ?_, ?_, nofun⟩
  · intro origin begun
    have order := onTime.exact origin begun
    simpa only [State.body, complete, response, Option.map_some, Option.getD_some, Option.map_none,
      Option.getD_none, List.append_nil] using order
  · intro origin begun
    have reached := inside.reach_eq response origin
    simp only [State.body, response, Option.map_some, Option.getD_some] at reached
    exact ⟨reached.trans header.symm, inside.target⟩
  · intro fresh
    have begun := inside.begun
    simp only [complete] at fresh
    rw [fresh] at begun
    cases begun

theorem onTime_sendFails (onTime : OnTime size s) : OnTime size { s with response := none } := by
  refine ⟨?_, onTime.next, onTime.fresh, nofun⟩
  intro origin begun
  have order := (inOrder_append.mp (onTime.exact origin begun)).1
  simpa only [State.body, Option.map_none, Option.getD_none, List.append_nil] using order

theorem onTime_step (known : Known size s) (onTime : OnTime size s) (pos : 0 < size) (a : Action)
    (guard : Guard size s a) (inTime : InTime size s a) : OnTime size (effect size s a) := by
  cases a with
  | append data => exact onTime_append onTime data
  | request => exact onTime_request known onTime pos guard
  | drain =>
      obtain ⟨r, response, under⟩ := guard
      have same : effect size s .drain = drain size s r := by
        simp only [effect, Option.mem_def.mp response, Option.map_some, Option.getD_some]
      rw [same]
      exact onTime_drain known onTime pos response under (inTime r response)
  | finish =>
      obtain ⟨r, response, all⟩ := guard
      have same : effect size s .finish = complete s r := by
        simp only [effect, Option.mem_def.mp response, Option.map_some, Option.getD_some]
      rw [same]
      exact onTime_complete known onTime response all
  | sendFails => exact onTime_sendFails onTime

theorem exact_reachable (path : (system debug first).ReachableWhen (InTime (logRingSize debug)) s) :
    Exact (logRingSize debug) s := by
  have onTime : OnTime (logRingSize debug) s := by
    refine path.invariant_with (K := Known (logRingSize debug)) (P := OnTime (logRingSize debug))
      (fun _ => known_reachable) ?_ ?_
    · exact ⟨nofun, nofun, fun _ => rfl, nofun⟩
    · intro s a known onTime guard inTime
      exact onTime_step known onTime (logRingSize_pos debug) a guard inTime
  exact onTime.exact

end InTime

/-! ## A slice that is not in time -/

section Late

variable {debug : Bool} {first size : Nat} {s : State}

/-- What follows on a late slice: the response ends, and the next poll is given again what the
slice had beyond the header. -/
theorem late_repeats (known : Known size s) (pos : 0 < size) {r : Response}
    (response : s.response = some r) (under : r.since < r.target)
    (late : r.target < sliceEnd size s.log.seq r.since) :
    Guard size (drain size s r) .finish ∧
      Guard size (effect size (drain size s r) .finish) .request ∧
      ¬ Exact size (effect size (effect size (drain size s r) .finish) .request) := by
  obtain ⟨piece, begins, ends, within, nonempty, of, drained⟩ := drain_eq known pos response under
  have ended : effect size (drain size s r) .finish =
      { s with
        next := r.target
        delivered := s.delivered ++ (r.sent ++ [piece])
        response := none } := by
    rw [drained]
    rfl
  refine ⟨?_, ?_, ?_⟩
  · rw [drained]
    exact ⟨_, rfl, by dsimp only; omega⟩
  · rw [ended]
    rfl
  · rw [ended]
    obtain ⟨origin, begun⟩ := Option.isSome_iff_exists.mp (known.response r response).begun
    have known' : Known size
        { s with
          next := r.target
          delivered := s.delivered ++ (r.sent ++ [piece])
          response := none } := ⟨known.refines, known.short, nofun⟩
    rcases request_cases known' pos with ⟨ahead, _⟩ | ⟨_, again, restarts, _, _, _, asked⟩
    · dsimp only at ahead
      omega
    · simp only [effect, asked]
      intro exact
      have order := exact origin (by simp [begun])
      refine not_inOrder_of_overlap ?_ order
      rw [reach_append, reach_append]
      simp only [reach]
      dsimp only at restarts
      omega

end Late

/-- **HTTP polling.** In a run in which every slice ends where the header says or before, the
browser is given the stream: nothing twice, and nothing is left out but what the ring had lost.
A slice that ends behind that can be followed by a poll that is given a byte for the second
time. -/
theorem log_polling (debug : Bool) (first : Nat) (s : State) :
    ((system debug first).ReachableWhen (InTime (logRingSize debug)) s →
        Exact (logRingSize debug) s) ∧
      ∀ a, (system debug first).Reachable s → (system debug first).Guard s a →
        ¬ InTime (logRingSize debug) s a →
        ∃ t, (system debug first).ReachableFrom always ((system debug first).effect s a) t ∧
          ¬ Exact (logRingSize debug) t := by
  refine ⟨exact_reachable, ?_⟩
  intro a path guard tooLate
  have known := known_reachable path
  cases a with
  | append data => exact absurd trivial tooLate
  | request => exact absurd trivial tooLate
  | finish => exact absurd trivial tooLate
  | sendFails => exact absurd trivial tooLate
  | drain =>
      obtain ⟨r, response, under⟩ := guard
      have late : r.target < sliceEnd (logRingSize debug) s.log.seq r.since := by
        refine Nat.lt_of_not_le fun inTime => tooLate fun r' response' => ?_
        rw [response] at response'
        cases response'
        exact inTime
      obtain ⟨ends, asks, repeats⟩ := late_repeats known (logRingSize_pos debug) response under late
      have same : (system debug first).effect s .drain = drain (logRingSize debug) s r := by
        simp only [system, effect, Option.mem_def.mp response, Option.map_some, Option.getD_some]
      rw [same]
      have finished : (system debug first).ReachableFrom always (drain (logRingSize debug) s r)
          (effect (logRingSize debug) (drain (logRingSize debug) s r) .finish) :=
        ReachableFrom.step Action.finish .refl ends trivial
      exact ⟨_, finished.step Action.request asks trivial, repeats⟩

/-- A log that is one byte longer than a chunk, and one more byte while the first chunk is sent:
the byte with position 1025 is the last one of the first response and the first of the next. -/
def lateByte : List Action :=
  [.append (List.replicate 1025 0), .request, .append [10], .drain, .finish, .request]

theorem byte_given_twice :
    ((system false 0).final lateByte).delivered.map (fun piece => (piece.start, piece.stop)) =
        [(0, 1024), (1024, 1026)] ∧
      ((system false 0).final lateByte).body.map (fun piece => (piece.start, piece.stop)) =
        [(1025, 1026)] := by
  decide +kernel

/-- Two polls with a line between them. -/
def twoPolls : List Action :=
  [.append [72, 105, 10], .request, .finish, .append [33, 10], .request, .finish]

theorem log_polling_two_polls :
    Exact 8192 ((system false 0).finalFrom (InTime 8192) (system false 0).init twoPolls) ∧
      ((system false 0).finalFrom (InTime 8192) (system false 0).init twoPolls).delivered =
        [⟨0, [72, 105, 10]⟩, ⟨3, [33, 10]⟩] :=
  ⟨(log_polling false 0 _).1
    ((system false 0).reachable_finalFrom (InTime 8192) (system false 0).init twoPolls),
    by decide +kernel⟩

end NimbleProxy.Api.LogPolling
