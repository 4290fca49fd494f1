/-
# Clone.MirrorRebuild -- session attempts that fail after the structure was captured

The header calls `build_from` idempotent, and it is once `g_built` is set: it turns
into `rebind_upstream`. But `g_built` is set at the very end of `finalize_server`.
An attempt that fails between the two (the disconnect does not complete in time, the
server does not start) leaves its rows and local services behind, and the next
attempt adds them a second time.

`rebind_upstream` can give two rows one characteristic too: it goes by UUIDs, and of
two characteristics with the same ones it finds the first for both rows.

With the same well-formed table at each discovery, `BuildsOnce` names the two cases,
and the table stays as one build leaves it exactly as long as it is met.
-/
import Mathlib.Data.List.Dedup
import Mathlib.Data.List.Flatten
import NimbleProxy.Clone.Session

namespace NimbleProxy.Clone.Session

open NimbleProxy.Theory NimbleProxy.Clone.Mirror ActionSystem
open NimbleProxy.Backend.GattDiscovery (RemoteService)

set_option autoImplicit false

/-! ## The property and the condition -/

/-- An attribute table as a GATT server has it: handles are unique, and 0 is none. -/
structure WellFormed (table : List RemoteService) : Prop where
  services : (table.map fun svc => svc.handle).Nodup
  characteristics : ((entries table).map fun e => e.chr.handle).Nodup
  reserved : ∀ svc ∈ table, svc.handle ≠ 0

/-- Each characteristic occurs in at most one row, and `g_service_count` is the number of
upstream services that have a local one. -/
def BuiltOnce (m : Mirror.State) : Prop :=
  (m.chars.map MirrorChar.upstreamHandle).Nodup ∧ m.serviceCount.toNat = m.origins.dedup.length

instance (m : Mirror.State) : Decidable (BuiltOnce m) := inferInstanceAs (Decidable (_ ∧ _))

/-- The UUIDs by which `rebind_upstream` finds a row's characteristic. -/
def uuidPair (row : MirrorChar) : List UInt8 × List UInt8 :=
  (row.localChar.service.uuid.to128, row.localChar.uuid.to128)

/-- No two rows are found by the same UUIDs. -/
def RebindsApart (m : Mirror.State) : Prop :=
  m.built = true → (m.chars.map uuidPair).Nodup

/-- What `build_from` is about to mirror was not mirrored before. -/
def CapturesAnew (m : Mirror.State) (table : List RemoteService) (refused : List Nat) : Prop :=
  m.built = false → ∀ svc ∈ mirrored table refused, svc.1.handle ∉ m.origins

/-- **The condition.** -/
def BuildsOnce (s : State) : Action → Prop
  | .upstream (.supervisor _ _) answers =>
      (isAt .buildFrom s.up.pc = true →
        CapturesAnew s.mirror s.table answers.refused ∧ RebindsApart s.mirror) ∧
      (isAt .rebind s.up.pc = true → RebindsApart s.mirror)
  | _ => True

/-- The supervisor is about to call `discoverAttributes`. -/
def discovering (pc : Upstream.Pc) : Bool :=
  match pc with
  | .session (.discover _) _ => true
  | _ => false

/-- Every discovery finds this table. -/
def SameTable (table : List RemoteService) (s : State) : Action → Prop
  | .upstream (.supervisor outcome _) answers =>
      (discovering s.up.pc && outcome) = true → answers.found = table
  | _ => True

instance (s : State) : (a : Action) → Decidable (BuildsOnce s a)
  | .upstream (.supervisor ..) _ => inferInstanceAs (Decidable
      ((_ → (_ → ∀ _ ∈ _, _) ∧ (_ → _)) ∧ (_ → (_ → _))))
  | .upstream (.configure _) _ | .upstream .established _ | .upstream .attemptFailed _
  | .upstream (.linkLost _) _ | .upstream (.onConnect _) _ | .upstream (.onConnectFail _) _
  | .upstream (.onDisconnect _) _ | .onWrite .. | .onWriteLocated .. | .enqueueWrite _
  | .drainWrite .. => inferInstanceAs (Decidable True)

instance (table : List RemoteService) (s : State) : (a : Action) → Decidable (SameTable table s a)
  | .upstream (.supervisor ..) _ => inferInstanceAs (Decidable (_ → _ = _))
  | .upstream (.configure _) _ | .upstream .established _ | .upstream .attemptFailed _
  | .upstream (.linkLost _) _ | .upstream (.onConnect _) _ | .upstream (.onConnectFail _) _
  | .upstream (.onDisconnect _) _ | .onWrite .. | .onWriteLocated .. | .enqueueWrite _
  | .drainWrite .. => inferInstanceAs (Decidable True)

/-! ## The table -/

section Table

variable {table : List RemoteService}

theorem mem_entries {e : Entry} :
    e ∈ entries table ↔ ∃ svc ∈ table.zipIdx, e ∈ entriesOf svc.1 svc.2 := by
  simp [entries]

/-- In a well-formed table a handle belongs to one characteristic. -/
theorem WellFormed.entry_eq (wf : WellFormed table) {e e' : Entry} (mem : e ∈ entries table)
    (mem' : e' ∈ entries table) (same : e.chr.handle = e'.chr.handle) : e = e' :=
  List.inj_on_of_nodup_map wf.characteristics mem mem' same

theorem WellFormed.length_lt (wf : WellFormed table) : table.length < UInt16.size := by
  have distinct : (0 :: table.map fun svc => svc.handle.toNat).Nodup := by
    rw [List.nodup_cons]
    constructor
    · intro zero
      obtain ⟨svc, mem, handle⟩ := List.mem_map.mp zero
      exact wf.reserved svc mem (UInt16.toNat_inj.mp handle)
    · have mapped := wf.services.map (fun a b => UInt16.toNat_inj.mp)
      rwa [List.map_map] at mapped
  have inRange : (0 :: table.map fun svc => svc.handle.toNat) ⊆ List.range UInt16.size := by
    intro h mem
    rcases List.mem_cons.mp mem with rfl | among
    · simp [UInt16.size]
    · obtain ⟨svc, -, rfl⟩ := List.mem_map.mp among
      exact List.mem_range.mpr svc.handle.toNat_lt
  have bound := (distinct.subperm inRange).length_le
  simp only [List.length_cons, List.length_map, List.length_range] at bound
  exact bound

theorem captured_sublist (table : List RemoteService) (refused : List Nat) :
    (captured table refused).Sublist (entries table) := by
  unfold captured entries mirrored
  exact List.filter_sublist.flatMap _

theorem findUpstream_some {chr : LocalChar} {e : Entry} (found : findUpstream table chr = some e) :
    e ∈ entries table ∧ e.service.uuid.to128 = chr.service.uuid.to128 ∧
      e.chr.uuid.to128 = chr.uuid.to128 := by
  obtain ⟨svc, mem, here⟩ := List.exists_of_findSome?_eq_some found
  dsimp only at here
  split at here
  · rename_i sameService
    have among := List.mem_of_find?_eq_some here
    have sameChr := List.find?_some here
    refine ⟨mem_entries.mpr ⟨svc, mem, among⟩, ?_, by simpa [sameUuid] using sameChr⟩
    rw [service_of_mem_entriesOf among]
    simpa [sameUuid] using sameService
  · cases here

/-- A characteristic with these UUIDs is found. -/
theorem findUpstream_isSome {chr : LocalChar} {e : Entry} (mem : e ∈ entries table)
    (service : chr.service.uuid = e.service.uuid) (uuid : chr.uuid = e.chr.uuid) :
    ∃ e', findUpstream table chr = some e' := by
  obtain ⟨svc, at_, among⟩ := mem_entries.mp mem
  rw [← Option.ne_none_iff_exists']
  intro none
  have here := List.findSome?_eq_none_iff.mp none svc at_
  dsimp only at here
  rw [if_pos (by simp [sameUuid, service, service_of_mem_entriesOf among])] at here
  exact absurd (by simp [sameUuid, uuid]) (List.find?_eq_none.mp here e among)

theorem findUpstream_congr {chr chr' : LocalChar}
    (service : chr.service.uuid.to128 = chr'.service.uuid.to128)
    (uuid : chr.uuid.to128 = chr'.uuid.to128) :
    findUpstream table chr = findUpstream table chr' := by
  have sameService (u) : sameUuid u chr.service.uuid = sameUuid u chr'.service.uuid := by
    simp only [sameUuid, service]
  have sameChr (u) : sameUuid u chr.uuid = sameUuid u chr'.uuid := by
    simp only [sameUuid, uuid]
  simp only [findUpstream, sameService, sameChr]

theorem service_of_mem_captured {refused : List Nat} {e : Entry} (mem : e ∈ captured table refused) :
    ∃ svc ∈ mirrored table refused, svc.1 = e.service := by
  obtain ⟨svc, isMirrored, among⟩ := List.mem_flatMap.mp mem
  exact ⟨svc, isMirrored, (service_of_mem_entriesOf among).symm⟩

/-- The mirrored services, by their handles, are a part of the table. -/
theorem mirrored_handles_sublist (table : List RemoteService) (refused : List Nat) :
    ((mirrored table refused).map fun svc => svc.1.handle).Sublist
      (table.map fun svc => svc.handle) := by
  have all := congrArg (List.map fun svc => svc.handle) (List.zipIdx_map_fst 0 table)
  rw [List.map_map] at all
  rw [← all]
  exact List.filter_sublist.map _

end Table

/-! ## The mirror as one build leaves it -/

/-- The invariant. Until the server is registered every row still stands for the characteristic
it was built from, in a service that has its local one. -/
structure Once (table : List RemoteService) (m : Mirror.State) : Prop where
  named : ∀ row ∈ m.chars, ∃ e ∈ entries table,
    row.localChar.service.uuid = e.service.uuid ∧ row.localChar.uuid = e.chr.uuid
  captured : m.built = false → ∀ row ∈ m.chars, ∃ e ∈ entries table,
    Mirrors row e ∧ e.service.handle ∈ m.origins
  handles : (m.chars.map MirrorChar.upstreamHandle).Nodup
  origins : m.origins.Nodup
  among : ∀ handle ∈ m.origins, handle ∈ table.map fun svc => svc.handle
  count : m.serviceCount = UInt16.ofNat m.origins.length

section Once

variable {table : List RemoteService} {config : Config} {m : Mirror.State} {discovery : Nat}
  {refused : List Nat}

theorem once_init : Once table {} := by
  constructor <;> simp [Mirror.State.origins]

theorem Once.length_lt (once : Once table m) (wf : WellFormed table) :
    m.origins.length < UInt16.size := by
  have part := (once.origins.subperm once.among).length_le
  rw [List.length_map] at part
  exact part.trans_lt wf.length_lt

theorem Once.builtOnce (once : Once table m) (wf : WellFormed table) : BuiltOnce m := by
  refine ⟨once.handles, ?_⟩
  rw [once.origins.dedup, once.count, UInt16.toNat_ofNat']
  exact Nat.mod_eq_of_lt (once.length_lt wf)

theorem once_disconnectUpstream (once : Once table m) : Once table (disconnectUpstream m) := by
  unfold disconnectUpstream
  split
  · rename_i built
    refine ⟨?_, fun open_ => absurd (built.symm.trans open_) (by simp), ?_, once.origins, once.among,
      once.count⟩
    · intro row mem
      obtain ⟨before, among, rfl⟩ := List.mem_map.mp mem
      exact once.named before among
    · rw [List.map_map]
      exact once.handles
  · exact once

theorem once_finalizeServer {started : Bool} (once : Once table m) :
    Once table (finalizeServer config m started).1 := by
  rcases finalizeServer_spec config m started with same | ⟨activated, registered, same⟩
  · rw [same]
    exact once
  · rw [same]
    exact ⟨once.named, fun open_ => absurd open_ (by simp), once.handles, once.origins, once.among,
      once.count⟩

/-- Invalidating a cache. -/
theorem once_modify (i : Nat) (once : Once table m) : Once table { m with
    chars := m.chars.modify i fun row => { row with cache := [], primed := false } } := by
  refine ⟨?_, ?_, ?_, once.origins, once.among, once.count⟩
  · intro row mem
    obtain ⟨before, among, -, sameLocal, -⟩ := of_mem_modify i mem
    rw [sameLocal]
    exact once.named before among
  · intro open_ row mem
    obtain ⟨before, among, -, sameLocal, sameHandle⟩ := of_mem_modify i mem
    obtain ⟨e, inTable, mirrors, known⟩ := once.captured open_ before among
    refine ⟨e, inTable, ⟨?_, ?_, ?_, ?_⟩, known⟩
    · rw [sameHandle, mirrors.handle]
    · rw [sameLocal, mirrors.uuid]
    · rw [sameLocal, mirrors.serviceUuid]
    · rw [sameLocal, mirrors.origin]
  · have same : (m.chars.modify i fun row => { row with cache := [], primed := false }).map
        MirrorChar.upstreamHandle = m.chars.map MirrorChar.upstreamHandle := by
      refine List.ext_getElem (by simp) fun k inRange inRange' => ?_
      simp only [List.getElem_map, List.getElem_modify]
      split <;> rfl
    rw [same]
    exact once.handles

/-- The handles of rows that were built from these characteristics. -/
theorem handles_of_forall₂ {rows : List MirrorChar} {es : List Entry}
    (bound : List.Forall₂ (fun row e => Mirrors row e ∧ row.upstream = some (e.ptr discovery)) rows es) :
    rows.map MirrorChar.upstreamHandle = es.map fun e => e.chr.handle := by
  induction bound with
  | nil => rfl
  | cons head _ ih => rw [List.map_cons, List.map_cons, ih, head.1.handle]

/-- A first build, and any that mirrors new services only. -/
theorem once_buildFrom (once : Once table m) (wf : WellFormed table) (open_ : m.built = false)
    (anew : ∀ svc ∈ mirrored table refused, svc.1.handle ∉ m.origins) :
    Once table (buildFrom config m discovery table refused).1 := by
  have grows := (buildFrom_grows config m discovery table refused open_).2.2
  obtain ⟨rows, chars, bound⟩ := grows.rows
  have part := (List.take_sublist (config.maxChars - m.chars.length) (captured table refused)).trans
    (captured_sublist table refused)
  have fresh : ∀ row ∈ rows, ∃ e ∈ captured table refused, Mirrors row e := by
    intro row mem
    obtain ⟨e, taken, mirrors, -⟩ := exists_of_forall₂ bound mem
    exact ⟨e, List.mem_of_mem_take taken, mirrors⟩
  have inTable : ∀ e ∈ captured table refused, e ∈ entries table :=
    fun e mem => (captured_sublist table refused).subset mem
  refine ⟨?_, ?_, ?_, ?_, ?_, ?_⟩
  · intro row mem
    rw [chars] at mem
    rcases List.mem_append.mp mem with old | new
    · exact once.named row old
    · obtain ⟨e, among, mirrors⟩ := fresh row new
      exact ⟨e, inTable e among, mirrors.serviceUuid, mirrors.uuid⟩
  · intro _ row mem
    rw [grows.origins]
    rw [chars] at mem
    rcases List.mem_append.mp mem with old | new
    · obtain ⟨e, among, mirrors, known⟩ := once.captured open_ row old
      exact ⟨e, among, mirrors, List.mem_append_left _ known⟩
    · obtain ⟨e, among, mirrors⟩ := fresh row new
      obtain ⟨svc, isMirrored, same⟩ := service_of_mem_captured among
      refine ⟨e, inTable e among, mirrors, List.mem_append_right _ ?_⟩
      exact List.mem_map.mpr ⟨svc, isMirrored, by rw [same]⟩
  · rw [chars, List.map_append]
    refine List.Nodup.append once.handles ?_ ?_
    · rw [handles_of_forall₂ bound]
      exact (part.map _).nodup wf.characteristics
    · -- a handle is that of one characteristic, and its service cannot be both old and new
      intro handle old new
      obtain ⟨row, mem, rfl⟩ := List.mem_map.mp old
      obtain ⟨row', mem', same⟩ := List.mem_map.mp new
      obtain ⟨e, among, mirrors, known⟩ := once.captured open_ row mem
      obtain ⟨e', among', mirrors'⟩ := fresh row' mem'
      have one : e = e' := by
        refine wf.entry_eq among (inTable e' among') ?_
        rw [← mirrors.handle, ← mirrors'.handle, same]
      obtain ⟨svc, isMirrored, service⟩ := service_of_mem_captured among'
      apply anew svc isMirrored
      rw [service, ← one]
      exact known
  · rw [grows.origins]
    refine List.Nodup.append once.origins
      ((mirrored_handles_sublist table refused).nodup wf.services) ?_
    intro handle old new
    obtain ⟨svc, isMirrored, rfl⟩ := List.mem_map.mp new
    exact anew svc isMirrored old
  · intro handle mem
    rw [grows.origins] at mem
    rcases List.mem_append.mp mem with old | new
    · exact once.among handle old
    · exact (mirrored_handles_sublist table refused).subset new
  · rw [grows.count, grows.origins, once.count, List.length_append, UInt16.ofNat_add]

/-- A counter that wraps around still tells repetitions, if it was below its size before the last
part was added. -/
theorem nodup_of_wrapped_count {α : Type} [DecidableEq α] {size : Nat} {before added : List α}
    (once : added.Nodup) (small : before.length < size)
    (counted : (before.length + added.length) % size = (before ++ added).dedup.length) :
    (before ++ added).Nodup := by
  have atLeast : added.length ≤ (before ++ added).dedup.length :=
    (once.subperm fun h mem => List.mem_dedup.mpr (List.mem_append_right _ mem)).length_le
  have noWrap : (before.length + added.length) / size = 0 := by
    by_contra wraps
    have below := Nat.le_mul_of_pos_right size (Nat.pos_of_ne_zero wraps)
    have division := Nat.div_add_mod (before.length + added.length) size
    omega
  have whole : (before ++ added).dedup.length = (before ++ added).length := by
    have division := Nat.div_add_mod (before.length + added.length) size
    rw [noWrap] at division
    rw [List.length_append]
    omega
  rw [← List.dedup_eq_self]
  exact (List.dedup_sublist _).eq_of_length whole

/-- A build that mirrors a service again counts it twice. The 16 bits of the counter do not
hide that: one build adds fewer services than they can count. -/
theorem not_builtOnce_buildFrom (once : Once table m) (wf : WellFormed table)
    (open_ : m.built = false) (again : ¬ CapturesAnew m table refused) :
    ¬ BuiltOnce (buildFrom config m discovery table refused).1 := by
  have grows := (buildFrom_grows config m discovery table refused open_).2.2
  rintro ⟨-, counted⟩
  let added := (mirrored table refused).map fun svc => svc.1.handle
  have origins : (buildFrom config m discovery table refused).1.origins = m.origins ++ added :=
    grows.origins
  have total : (buildFrom config m discovery table refused).1.serviceCount.toNat =
      (m.origins.length + added.length) % UInt16.size := by
    rw [grows.count, once.count, ← UInt16.ofNat_add, UInt16.toNat_ofNat']
  rw [total, origins] at counted
  have distinct := nodup_of_wrapped_count
    ((mirrored_handles_sublist table refused).nodup wf.services) (once.length_lt wf) counted
  refine again fun _ svc isMirrored known => ?_
  exact List.disjoint_of_nodup_append distinct known (List.mem_map.mpr ⟨svc, isMirrored, rfl⟩)

/-- What `rebind_upstream` makes of a row's handle. -/
theorem Once.rebound (once : Once table m) (discovery : Nat) {row : MirrorChar}
    (mem : row ∈ m.chars) :
    ∃ e, findUpstream table row.localChar = some e ∧
      (rebindRow discovery table row).upstreamHandle = e.chr.handle := by
  obtain ⟨e, among, service, uuid⟩ := once.named row mem
  obtain ⟨e', found⟩ := findUpstream_isSome among service uuid
  exact ⟨e', found, by simp only [rebindRow, found]⟩

/-- Two rows get the same handle exactly if they have the same UUIDs. -/
theorem Once.rebound_eq_iff (once : Once table m) (wf : WellFormed table) {row row' : MirrorChar}
    (mem : row ∈ m.chars) (mem' : row' ∈ m.chars) :
    (rebindRow discovery table row).upstreamHandle = (rebindRow discovery table row').upstreamHandle ↔
      uuidPair row = uuidPair row' := by
  obtain ⟨e, found, handle⟩ := once.rebound discovery mem
  obtain ⟨e', found', handle'⟩ := once.rebound discovery mem'
  obtain ⟨among, service, uuid⟩ := findUpstream_some found
  obtain ⟨among', service', uuid'⟩ := findUpstream_some found'
  rw [handle, handle']
  constructor
  · intro same
    obtain rfl := wf.entry_eq among among' same
    rw [uuidPair, uuidPair, ← service, ← uuid, service', uuid']
  · intro same
    obtain ⟨sameService, sameUuids⟩ := Prod.mk.inj same
    rw [findUpstream_congr sameService sameUuids, found'] at found
    rw [Option.some.inj found]

theorem Once.rebound_nodup_iff (once : Once table m) (wf : WellFormed table) :
    ((m.chars.map (rebindRow discovery table)).map MirrorChar.upstreamHandle).Nodup ↔
      (m.chars.map uuidPair).Nodup := by
  rw [List.map_map]
  unfold List.Nodup
  rw [List.pairwise_map, List.pairwise_map]
  constructor
  · exact List.Pairwise.imp_of_mem fun mem mem' apart same =>
      apart ((once.rebound_eq_iff wf mem mem').mpr same)
  · exact List.Pairwise.imp_of_mem fun mem mem' apart same =>
      apart ((once.rebound_eq_iff wf mem mem').mp same)

theorem once_rebindUpstream (once : Once table m) (wf : WellFormed table) (apart : RebindsApart m) :
    Once table (rebindUpstream m discovery table).1 := by
  unfold rebindUpstream
  split
  · rename_i built
    refine ⟨?_, fun open_ => absurd (built.symm.trans open_) (by simp),
      (once.rebound_nodup_iff wf).mpr (apart built), once.origins, once.among, once.count⟩
    intro row mem
    obtain ⟨before, among, rfl⟩ := List.mem_map.mp mem
    have same : (rebindRow discovery table before).localChar = before.localChar := by
      unfold rebindRow
      split <;> rfl
    rw [same]
    exact once.named before among
  · exact once

theorem not_builtOnce_rebindUpstream (once : Once table m) (wf : WellFormed table)
    (clash : ¬ RebindsApart m) : ¬ BuiltOnce (rebindUpstream m discovery table).1 := by
  rintro ⟨handles, -⟩
  refine clash fun built => ?_
  rw [rebindUpstream, if_pos built] at handles
  exact (once.rebound_nodup_iff wf).mp handles

/-- The same for `build_from` in either of its two shapes. -/
theorem not_builtOnce_twice (once : Once table m) (wf : WellFormed table)
    (twice : ¬ (CapturesAnew m table refused ∧ RebindsApart m)) :
    ¬ BuiltOnce (buildFrom config m discovery table refused).1 := by
  cases built : m.built with
  | true =>
      rw [buildFrom, if_pos built]
      refine not_builtOnce_rebindUpstream once wf fun apart => twice ⟨fun open_ => ?_, apart⟩
      exact absurd (built.symm.trans open_) (by simp)
  | false =>
      refine not_builtOnce_buildFrom once wf built fun anew => twice ⟨anew, fun isBuilt => ?_⟩
      exact absurd (built.symm.trans isBuilt) (by simp)

end Once

/-! ## Runs -/

/-- Where the supervisor builds or binds, the client holds the table. -/
structure OnceInv (table : List RemoteService) (s : State) : Prop where
  current : isAt .buildFrom s.up.pc = true ∨ isAt .rebind s.up.pc = true → s.table = table
  once : Once table s.mirror

section Runs

variable {table : List RemoteService} {config : Config} {s : State}

/-- The supervisor gets there by a discovery. -/
theorem discovers_before {s : Upstream.State} {outcome : Bool} {mtu : UInt16}
    (there : isAt .buildFrom (Upstream.supervisorTask s outcome mtu).pc = true ∨
      isAt .rebind (Upstream.supervisorTask s outcome mtu).pc = true) :
    (discovering s.pc && outcome) = true := by
  have edge : ∃ pos target, s.pc = .session pos target ∧
      (Upstream.Edge s outcome pos .buildFrom ∨ Upstream.Edge s outcome pos .rebind) := by
    rcases there with there | there <;> obtain ⟨target, pc⟩ := isAt_iff.mp there <;>
      obtain ⟨other, -⟩ | ⟨pos, before, edge⟩ := Upstream.edge_supervisorTask pc
    · cases other
    · exact ⟨pos, target, before, .inl edge⟩
    · cases other
    · exact ⟨pos, target, before, .inr edge⟩
  obtain ⟨pos, target, pc, edge | edge⟩ := edge
  · cases edge with
    | unknown done _ => simp [discovering, pc, done]
  · cases edge with
    | known phase done => simp [discovering, pc, done]

theorem current_supervisor {outcome : Bool} {mtu : UInt16} {answers : Answers}
    (same : SameTable table s (.upstream (.supervisor outcome mtu) answers))
    (there : isAt .buildFrom (Upstream.supervisorTask s.up outcome mtu).pc = true ∨
      isAt .rebind (Upstream.supervisorTask s.up outcome mtu).pc = true) :
    clientTable s outcome answers = table := by
  have discovered := discovers_before there
  have found := same discovered
  obtain ⟨at_, rfl⟩ := Bool.and_eq_true_iff.mp discovered
  unfold discovering at at_
  unfold clientTable
  split at at_
  · rename_i phase target pc
    simp only [pc]
    exact found
  · cases at_

theorem once_mirrorCall {outcome : Bool} {mtu : UInt16} {answers : Answers} (inv : OnceInv table s)
    (wf : WellFormed table) (once : BuildsOnce s (.upstream (.supervisor outcome mtu) answers)) :
    Once table (mirrorCall config s outcome answers).1 := by
  unfold mirrorCall
  split
  · rename_i target pc
    have at_ : isAt .buildFrom s.up.pc = true := isAt_iff.mpr ⟨target, pc⟩
    obtain ⟨anew, apart⟩ := once.1 at_
    rw [inv.current (.inl at_)] at anew ⊢
    cases built : s.mirror.built with
    | true =>
        rw [buildFrom, if_pos built]
        exact once_rebindUpstream inv.once wf apart
    | false => exact once_buildFrom inv.once wf built (anew built)
  · exact once_disconnectUpstream inv.once
  · exact once_finalizeServer inv.once
  · rename_i target pc
    have at_ : isAt .rebind s.up.pc = true := isAt_iff.mpr ⟨target, pc⟩
    rw [inv.current (.inr at_)]
    exact once_rebindUpstream inv.once wf (once.2 at_)
  · exact inv.once

theorem once_step {a : Action} (inv : OnceInv table s) (wf : WellFormed table)
    (same : SameTable table s a) (once : BuildsOnce s a) : OnceInv table (effect config s a) := by
  cases a with
  | upstream a answers =>
      cases a with
      | supervisor outcome mtu =>
          exact ⟨fun there => current_supervisor same there, once_mirrorCall inv wf once⟩
      | onDisconnect reason => exact ⟨inv.current, once_disconnectUpstream inv.once⟩
      | _ => exact ⟨inv.current, inv.once⟩
  | onWrite chr data =>
      simp only [effect, onWrite]
      split <;> exact ⟨inv.current, inv.once⟩
  | onWriteLocated row up data => exact ⟨inv.current, once_modify row inv.once⟩
  | enqueueWrite request =>
      simp only [effect, enqueueWrite]
      split <;> exact ⟨inv.current, inv.once⟩
  | drainWrite request rest => exact ⟨inv.current, inv.once⟩

/-- A step that does not meet the condition leaves a duplicate. -/
theorem not_builtOnce_step {a : Action} (inv : OnceInv table s) (wf : WellFormed table)
    (again : ¬ BuildsOnce s a) : ¬ BuiltOnce (effect config s a).mirror := by
  cases a with
  | upstream a answers =>
      cases a with
      | supervisor outcome mtu =>
          simp only [effect, upstreamStep]
          by_cases build : isAt .buildFrom s.up.pc = true →
              CapturesAnew s.mirror s.table answers.refused ∧ RebindsApart s.mirror
          · obtain ⟨rebind, clash⟩ := Classical.not_imp.mp fun rebinds => again ⟨build, rebinds⟩
            obtain ⟨target, pc⟩ := isAt_iff.mp rebind
            simp only [mirrorCall, pc]
            rw [inv.current (.inr rebind)]
            exact not_builtOnce_rebindUpstream inv.once wf clash
          · obtain ⟨at_, twice⟩ := Classical.not_imp.mp build
            obtain ⟨target, pc⟩ := isAt_iff.mp at_
            simp only [mirrorCall, pc]
            rw [inv.current (.inl at_)] at twice ⊢
            exact not_builtOnce_twice inv.once wf twice
      | _ => exact absurd trivial again
  | onWrite chr data => exact absurd trivial again
  | onWriteLocated row up data => exact absurd trivial again
  | enqueueWrite request => exact absurd trivial again
  | drainWrite request rest => exact absurd trivial again

end Runs

/-- **The mirror is as one build leaves it, as long as nothing is built twice.** With the same
table at each discovery, in every state of a run whose steps meet the condition no
characteristic has two rows and the service count is right; and the first step that does
not meet it leaves a characteristic with two rows or a wrong count. -/
theorem mirror_built_once (config : Config) (table : List RemoteService) (wf : WellFormed table) :
    (∀ s, (system config).ReachableWhen (fun s a => SameTable table s a ∧ BuildsOnce s a) s →
      BuiltOnce s.mirror) ∧
    ∀ s a, (system config).ReachableWhen (fun s a => SameTable table s a ∧ BuildsOnce s a) s →
      ¬ BuildsOnce s a → ¬ BuiltOnce (effect config s a).mirror := by
  have inv : ∀ s, (system config).ReachableWhen
      (fun s a => SameTable table s a ∧ BuildsOnce s a) s → OnceInv table s := by
    intro s path
    refine ReachableFrom.invariant (P := OnceInv table) ?_ path ?_
    · intro s a before _ meets
      exact once_step before wf meets.1 meets.2
    · exact ⟨fun there => by simp [isAt, system] at there, once_init⟩
  exact ⟨fun s path => (inv s path).once.builtOnce wf,
    fun s a path again => not_builtOnce_step (inv s path) wf again⟩

/-- In the first attempt the disconnect does not complete in time. The second attempt finds the
structure again and is about to build. -/
def secondAttemptSchedule : List Action :=
  capturedSchedule.dropLast ++
  ([.upstream (.supervisor false 0) {}, link (.onDisconnect 22)] : List Action) ++
  steps 10 ++ [link .established, link (.onConnect false)] ++ steps 4

theorem wellFormed_levelTable : WellFormed levelTable := by
  constructor <;> decide

theorem mirror_built_once_session :
    (∃ s : State, s.up.gState = .ready ∧ s.mirror.chars.length = 1 ∧ s.mirror.serviceCount = 1 ∧
      BuiltOnce s.mirror) ∧
    ∃ s : State, BuiltOnce s.mirror ∧
      ¬ BuiltOnce (effect smallConfig s (.upstream (.supervisor true 247) {})).mirror := by
  have once := mirror_built_once smallConfig levelTable wellFormed_levelTable
  have path := (system smallConfig).reachable_finalFrom
    (fun s a => SameTable levelTable s a ∧ BuildsOnce s a) (system smallConfig).init
  refine ⟨⟨_, by decide +kernel, by decide +kernel, by decide +kernel,
    once.1 _ (path bringUpSchedule)⟩, _, once.1 _ (path secondAttemptSchedule), ?_⟩
  exact once.2 _ _ (path secondAttemptSchedule) (by decide +kernel)

/-- The second attempt builds: the level has two rows, and its service is counted twice. -/
theorem rows_built_twice :
    ∃ s, (system smallConfig).ReachableWhen (SameTable levelTable) s ∧
      s.mirror.chars.map MirrorChar.upstreamHandle = [3, 3] ∧ s.mirror.serviceCount = 2 ∧
      s.mirror.origins.dedup = [1] ∧ ¬ BuiltOnce s.mirror :=
  ⟨_, (system smallConfig).reachable_finalFrom (SameTable levelTable) (system smallConfig).init
    (secondAttemptSchedule ++ steps 1), by decide +kernel, by decide +kernel, by decide +kernel,
    by decide +kernel⟩

end NimbleProxy.Clone.Session
