/-
# Clone.Routing -- which row an upstream value goes to

A value of the upstream device arrives with a handle: a notification
(`on_upstream_notify`, host task) or the answer of a read (`prime_cache`, supervisor).
Both put it into the first row that stores this handle and into the row's local
characteristic. `rebind_upstream` stores the current handle in the rows whose
characteristic it finds. A row whose characteristic is missing loses its pointer and
keeps the handle of an earlier session, and if a later row's characteristic has moved
to that handle, the values of the one go to the other.

`Clone.Session` with the values of the local characteristics. `bound` and `boundAt`
are bookkeeping: the table and the number of the discovery of the last
`rebind_upstream` of a built mirror.
-/
import NimbleProxy.Clone.Rebinding

namespace NimbleProxy.Clone.Routing

open NimbleProxy.Theory NimbleProxy.Clone.Mirror ActionSystem
open NimbleProxy.Backend.GattDiscovery (RemoteService)

set_option autoImplicit false

/-! ## The system -/

structure State where
  session : Session.State := {}
  /-- the values of the local characteristics, by their `id` -/
  values : Nat → List UInt8 := fun _ => []
  bound : List RemoteService := []
  boundAt : Nat := 0

/-- The value is stored in row `i`, and `value` in its local characteristic. -/
def State.put (config : Config) (s : State) (i : Nat) (row : MirrorChar) (data value : List UInt8) :
    State :=
  { s with
    session := { s.session with
      mirror := { s.session.mirror with
        chars := s.session.mirror.chars.set i
          { row with cache := data.take config.cacheBytes, primed := true } } }
    values := Function.update s.values row.localChar.id value }

/-- The loop of `prime_cache` and of `on_upstream_notify`. -/
def route (config : Config) (s : State) (handle : UInt16) (data value : List UInt8) : State :=
  match s.session.mirror.chars.findIdx? fun row => row.upstreamHandle == handle with
  | some i =>
      match s.session.mirror.chars[i]? with
      | some row => s.put config i row data value
      | none => s
  | none => s

/-- `prime_cache`. -/
def primeCache (config : Config) (s : State) (handle : UInt16) (data : List UInt8) : State :=
  route config s handle data (data.take config.cacheBytes)

/-- `on_upstream_notify`. The local characteristic gets the whole value. -/
def onUpstreamNotify (config : Config) (s : State) (handle : UInt16) (data : List UInt8) : State :=
  if s.session.mirror.built then route config s handle data data else s

inductive Action
  | session (a : Session.Action)
  | onUpstreamNotify (handle : UInt16) (data : List UInt8)
  | primeCache (handle : UInt16) (data : List UInt8)

/-- The step is a `rebind_upstream` of a built mirror. -/
def rebinds (s : State) : Action → Bool
  | .session (.upstream (.supervisor _ _) _) =>
      (Session.isAt .rebind s.session.up.pc || Session.isAt .buildFrom s.session.up.pc) &&
        s.session.mirror.built
  | _ => false

def Guard (config : Config) (s : State) : Action → Prop
  | .session a => Session.Guard config s.session a
  | .onUpstreamNotify _ _ => s.session.host = .idle
  | .primeCache _ _ => Session.isAt .prime s.session.up.pc = true

instance (config : Config) (s : State) : (a : Action) → Decidable (Guard config s a)
  | .session a => inferInstanceAs (Decidable (Session.Guard config s.session a))
  | .onUpstreamNotify .. | .primeCache .. => inferInstanceAs (Decidable (_ = _))

def effect (config : Config) (s : State) : Action → State
  | .session a =>
      { s with
        session := Session.effect config s.session a
        bound := if rebinds s (.session a) then s.session.table else s.bound
        boundAt := if rebinds s (.session a) then s.session.discovery else s.boundAt }
  | .onUpstreamNotify handle data => onUpstreamNotify config s handle data
  | .primeCache handle data => primeCache config s handle data

def system (config : Config) : ActionSystem State Action where
  init := {}
  Guard := Guard config
  guardDecidable := inferInstance
  effect := effect config

/-! ## The property and the condition -/

/-- The row's local characteristic has the UUIDs of this characteristic. -/
def Names (row : MirrorChar) (e : Entry) : Prop :=
  e.service.uuid.to128 = row.localChar.service.uuid.to128 ∧ e.chr.uuid.to128 = row.localChar.uuid.to128

instance (row : MirrorChar) (e : Entry) : Decidable (Names row e) := inferInstanceAs (Decidable (_ ∧ _))

/-- **Routing.** A value for the handle of a characteristic that row `i` is bound to changes row
`i` and its local characteristic, which has the UUIDs of that one, and nothing else. -/
def Routed (config : Config) (s : State) : Prop :=
  ∀ (i : Nat) (row : MirrorChar) (e : Entry), s.session.mirror.chars[i]? = some row →
    e ∈ entries s.bound → row.upstream = some (e.ptr s.boundAt) →
      Names row e ∧ ∀ data,
        onUpstreamNotify config s e.chr.handle data = s.put config i row data data ∧
        primeCache config s e.chr.handle data =
          s.put config i row data (data.take config.cacheBytes)

/-- What every table is: a handle and a pair of UUIDs belong to one characteristic. -/
structure Distinct (table : List RemoteService) : Prop where
  handles : ((entries table).map fun e => e.chr.handle).Nodup
  uuids : ((entries table).map fun e => (e.service.uuid.to128, e.chr.uuid.to128)).Nodup

instance (table : List RemoteService) : Decidable (Distinct table) :=
  decidable_of_iff (_ ∧ _) ⟨fun both => ⟨both.1, both.2⟩, fun both => ⟨both.handles, both.uuids⟩⟩

/-- Every discovery finds such a table. -/
def FindsDistinct (s : State) : Action → Prop
  | .session (.upstream (.supervisor outcome _) answers) =>
      (Session.discovering s.session.up.pc && outcome) = true → Distinct answers.found
  | _ => True

/-- No row before another has the UUIDs of its characteristic, or has lost its own and still
stores the handle of the other's. -/
def Apart (table : List RemoteService) (row row' : MirrorChar) : Prop :=
  ∀ e ∈ entries table, Names row' e →
    ¬ Names row e ∧ ((∀ e' ∈ entries table, ¬ Names row e') → row.upstreamHandle ≠ e.chr.handle)

/-- **The condition** on a rebind: what the rows store apart from the new table. -/
def RebindsApart (s : State) (a : Action) : Prop :=
  rebinds s a = true → s.session.mirror.chars.Pairwise (Apart s.session.table)

instance (s : State) : (a : Action) → Decidable (FindsDistinct s a)
  | .session (.upstream (.supervisor ..) _) => inferInstanceAs (Decidable (_ → Distinct _))
  | .session (.upstream (.configure _) _) | .session (.upstream .established _)
  | .session (.upstream .attemptFailed _) | .session (.upstream (.linkLost _) _)
  | .session (.upstream (.onConnect _) _) | .session (.upstream (.onConnectFail _) _)
  | .session (.upstream (.onDisconnect _) _) | .session (.onWrite ..)
  | .session (.onWriteLocated ..) | .session (.enqueueWrite _) | .session (.drainWrite ..)
  | .onUpstreamNotify .. | .primeCache .. => inferInstanceAs (Decidable True)

instance (table : List RemoteService) (row row' : MirrorChar) : Decidable (Apart table row row') :=
  inferInstanceAs (Decidable (∀ _ ∈ _, _ → _ ∧ ((∀ _ ∈ _, _) → _)))

instance (s : State) (a : Action) : Decidable (RebindsApart s a) :=
  inferInstanceAs (Decidable (_ → _))

/-! ## The lookup -/

section Lookup

variable {table : List RemoteService} {row : MirrorChar} {e : Entry}

/-- In such a table the lookup finds the characteristic with the row's UUIDs. -/
theorem findUpstream_eq_some_iff_names (distinct : Distinct table) :
    findUpstream table row.localChar = some e ↔ e ∈ entries table ∧ Names row e := by
  rw [findUpstream_eq_find?]
  constructor
  · intro found
    refine ⟨List.mem_of_find?_eq_some found, ?_⟩
    simpa [Names, sameUuid] using List.find?_some found
  · rintro ⟨mem, names⟩
    cases found : (entries table).find? fun e =>
        sameUuid e.service.uuid row.localChar.service.uuid && sameUuid e.chr.uuid row.localChar.uuid with
    | none =>
        have nothing := List.find?_eq_none.mp found e mem
        exact absurd (by simpa [Names, sameUuid] using names) nothing
    | some e' =>
        have names' : Names row e' := by simpa [Names, sameUuid] using List.find?_some found
        have same : e' = e := by
          refine List.inj_on_of_nodup_map distinct.uuids (List.mem_of_find?_eq_some found) mem ?_
          rw [names'.1, names'.2, names.1, names.2]
        rw [same]

theorem findUpstream_eq_none_iff_names :
    findUpstream table row.localChar = none ↔ ∀ e ∈ entries table, ¬ Names row e := by
  rw [findUpstream_eq_find?, List.find?_eq_none]
  simp only [Names, sameUuid, Bool.and_eq_true, beq_iff_eq]

end Lookup

/-! ## The loop -/

section Loop

variable {config : Config} {s : State} {i : Nat} {row : MirrorChar} {handle : UInt16}
  {data value : List UInt8}

theorem route_eq (at_ : s.session.mirror.chars[i]? = some row) (stores : row.upstreamHandle = handle)
    (first : ∀ k row', k < i → s.session.mirror.chars[k]? = some row' →
      row'.upstreamHandle ≠ handle) :
    route config s handle data value = s.put config i row data value := by
  obtain ⟨inRange, here⟩ := List.getElem?_eq_some_iff.mp at_
  have found : (s.session.mirror.chars.findIdx? fun row => row.upstreamHandle == handle) = some i := by
    rw [List.findIdx?_eq_some_iff_getElem]
    refine ⟨inRange, by simp [here, stores], ?_⟩
    intro k less
    simpa using first k _ less (List.getElem?_eq_getElem (less.trans inRange))
  simp only [route, found, at_]

/-- The value goes to the row or to one before it. -/
theorem route_early (config : Config) (at_ : s.session.mirror.chars[i]? = some row)
    (stores : row.upstreamHandle = handle) :
    ∃ k row', k ≤ i ∧ s.session.mirror.chars[k]? = some row' ∧
      ∀ data value, route config s handle data value = s.put config k row' data value := by
  cases found : s.session.mirror.chars.findIdx? fun row => row.upstreamHandle == handle with
  | none =>
      have nowhere := List.findIdx?_eq_none_iff.mp found row (List.mem_of_getElem? at_)
      simp [stores] at nowhere
  | some k =>
      obtain ⟨inRange, -, first⟩ := List.findIdx?_eq_some_iff_getElem.mp found
      have notLater : k ≤ i := by
        by_contra later
        obtain ⟨inRange', here⟩ := List.getElem?_eq_some_iff.mp at_
        exact first i (by omega) (by simp [here, stores])
      refine ⟨k, _, notLater, List.getElem?_eq_getElem inRange, ?_⟩
      intro data value
      simp only [route, found, List.getElem?_eq_getElem inRange]

end Loop

/-! ## Rows that keep what they stand for -/

/-- The row may have lost its remote characteristic. -/
def Keeps (row row' : MirrorChar) : Prop :=
  row'.localChar = row.localChar ∧ row'.upstreamHandle = row.upstreamHandle ∧
    (row'.upstream = row.upstream ∨ row'.upstream = none)

def KeepsRows (m m' : Mirror.State) : Prop :=
  List.Forall₂ Keeps m.chars m'.chars ∧ m'.created = m.created ∧ (m.built = true → m'.built = true)

section KeepsRows

variable {config : Config} {m m' : Mirror.State}

theorem keeps_refl (row : MirrorChar) : Keeps row row := ⟨rfl, rfl, .inl rfl⟩

theorem KeepsRows.refl (m : Mirror.State) : KeepsRows m m :=
  ⟨List.forall₂_same.mpr fun row _ => keeps_refl row, rfl, id⟩

theorem keepsRows_disconnectUpstream : KeepsRows m (disconnectUpstream m) := by
  unfold disconnectUpstream
  split
  · refine ⟨?_, rfl, id⟩
    rw [List.forall₂_map_right_iff, List.forall₂_same]
    intro row _
    exact ⟨rfl, rfl, .inr rfl⟩
  · exact .refl m

theorem keepsRows_finalizeServer {started : Bool} :
    KeepsRows m (finalizeServer config m started).1 := by
  rcases finalizeServer_spec config m started with unchanged | ⟨activated, registered, finalized⟩
  · rw [unchanged]
    exact .refl m
  · rw [finalized]
    exact ⟨(KeepsRows.refl m).1, rfl, fun _ => rfl⟩

/-- A change of one row. -/
theorem forall₂_modify {α : Type} {R : α → α → Prop} {f : α → α} (refl : ∀ a, R a a)
    (changed : ∀ a, R a (f a)) (xs : List α) (i : Nat) : List.Forall₂ R xs (xs.modify i f) := by
  rw [List.forall₂_iff_get]
  refine ⟨(List.length_modify ..).symm, ?_⟩
  intro k inRange inRange'
  simp only [List.get_eq_getElem, List.getElem_modify]
  split
  · exact changed _
  · exact refl _

theorem keepsRows_modify (i : Nat) : KeepsRows m { m with
    chars := m.chars.modify i fun row => { row with cache := [], primed := false } } := by
  refine ⟨forall₂_modify keeps_refl ?_ m.chars i, rfl, id⟩
  intro row
  exact ⟨rfl, rfl, .inl rfl⟩

theorem keepsRows_put {s : State} {i : Nat} {row : MirrorChar} {data value : List UInt8}
    (at_ : s.session.mirror.chars[i]? = some row) :
    KeepsRows s.session.mirror (s.put config i row data value).session.mirror := by
  refine ⟨?_, rfl, id⟩
  rw [List.forall₂_iff_get]
  refine ⟨(List.length_set ..).symm, ?_⟩
  intro k inRange inRange'
  simp only [State.put, List.get_eq_getElem, List.getElem_set]
  split
  · rename_i here
    subst here
    obtain ⟨_, stands⟩ := List.getElem?_eq_some_iff.mp at_
    rw [stands]
    exact ⟨rfl, rfl, .inl rfl⟩
  · exact keeps_refl _

theorem keepsRows_route {s : State} {handle : UInt16} {data value : List UInt8} :
    KeepsRows s.session.mirror (route config s handle data value).session.mirror := by
  unfold route
  split
  · split
    · rename_i at_
      exact keepsRows_put at_
    · exact .refl _
  · exact .refl _

end KeepsRows

/-! ## The steps of a session -/

/-- What a step that rebinds nothing does to the mirror. -/
def Quiet (config : Config) (s : Session.State) (m' : Mirror.State) : Prop :=
  KeepsRows s.mirror m' ∨
    (s.mirror.built = false ∧
      ∃ refused, m' = (buildFrom config s.mirror s.discovery s.table refused).1)

section Steps

variable {config : Config} {s : State}

/-- The step of the supervisor. -/
theorem mirror_supervisor (outcome : Bool) (mtu : UInt16) (answers : Session.Answers) :
    (rebinds s (.session (.upstream (.supervisor outcome mtu) answers)) = true ∧
      (Session.mirrorCall config s.session outcome answers).1 =
        (rebindUpstream s.session.mirror s.session.discovery s.session.table).1) ∨
    (rebinds s (.session (.upstream (.supervisor outcome mtu) answers)) = false ∧
      Quiet config s.session (Session.mirrorCall config s.session outcome answers).1) := by
  unfold rebinds Session.mirrorCall
  cases pc : s.session.up.pc with
  | session pos target =>
      cases pos with
      | buildFrom =>
          cases built : s.session.mirror.built with
          | true => exact .inl ⟨rfl, by simp only [buildFrom, built, if_true]⟩
          | false => exact .inr ⟨rfl, .inr ⟨built, _, rfl⟩⟩
      | rebind =>
          cases built : s.session.mirror.built with
          | true => exact .inl ⟨rfl, rfl⟩
          | false =>
              refine .inr ⟨rfl, .inl ?_⟩
              simp only [rebindUpstream, built]
              exact .refl _
      | dropMirror => exact .inr ⟨rfl, .inl keepsRows_disconnectUpstream⟩
      | finalizeServer => exact .inr ⟨rfl, .inl keepsRows_finalizeServer⟩
      | _ => exact .inr ⟨rfl, .inl (.refl _)⟩
  | _ => exact .inr ⟨rfl, .inl (.refl _)⟩

/-- **What a step of a session does to the mirror.** -/
theorem mirror_effect (config : Config) (s : State) (a : Session.Action) :
    (rebinds s (.session a) = true ∧ (Session.effect config s.session a).mirror =
        (rebindUpstream s.session.mirror s.session.discovery s.session.table).1) ∨
    (rebinds s (.session a) = false ∧
      Quiet config s.session (Session.effect config s.session a).mirror) := by
  cases a with
  | upstream a answers =>
      cases a with
      | supervisor outcome mtu => exact mirror_supervisor outcome mtu answers
      | onDisconnect reason => exact .inr ⟨rfl, .inl keepsRows_disconnectUpstream⟩
      | configure target | established | attemptFailed | linkLost announced | onConnect lost
      | onConnectFail reason => exact .inr ⟨rfl, .inl (.refl _)⟩
  | onWrite chr data =>
      refine .inr ⟨rfl, .inl ?_⟩
      simp only [Session.effect, Session.onWrite]
      split <;> exact .refl _
  | onWriteLocated row up data => exact .inr ⟨rfl, .inl (keepsRows_modify row)⟩
  | enqueueWrite request =>
      refine .inr ⟨rfl, .inl ?_⟩
      simp only [Session.effect, Session.enqueueWrite]
      split <;> exact .refl _
  | drainWrite request rest => exact .inr ⟨rfl, .inl (.refl _)⟩

/-- The client's table is what a discovery has found, or empty. -/
theorem distinct_table (config : Config) (distinct : Distinct s.session.table) (a : Session.Action)
    (finds : FindsDistinct s (.session a)) :
    Distinct (Session.effect config s.session a).table := by
  have empty : Distinct [] := by decide
  cases a with
  | upstream a answers =>
      cases a with
      | supervisor outcome mtu =>
          simp only [Session.effect, Session.upstreamStep, Session.clientTable]
          split
          · split
            · exact empty
            · exact distinct
          · rename_i phase target pc
            split
            · rename_i done
              exact finds (by simp [Session.discovering, pc, done])
            · exact distinct
          · exact distinct
      | configure target | established | attemptFailed | linkLost announced | onConnect lost
      | onConnectFail reason | onDisconnect reason => exact distinct
  | onWrite chr data =>
      simp only [Session.effect, Session.onWrite]
      split <;> exact distinct
  | enqueueWrite request =>
      simp only [Session.effect, Session.enqueueWrite]
      split <;> exact distinct
  | onWriteLocated row up data | drainWrite request rest => exact distinct

end Steps

/-! ## Local characteristics -/

/-- Every row has a local characteristic of its own. -/
structure OwnIds (m : Mirror.State) : Prop where
  nodup : (m.chars.map fun row => row.localChar.id).Nodup
  below : ∀ row ∈ m.chars, row.localChar.id < m.created

section OwnIds

variable {config : Config} {m m' : Mirror.State} {discovery : Nat}

theorem OwnIds.of_keepsRows (own : OwnIds m) (kept : KeepsRows m m') : OwnIds m' := by
  have same : (m'.chars.map fun row => row.localChar.id) = m.chars.map fun row => row.localChar.id := by
    rw [← List.forall₂_eq_eq_eq, List.forall₂_map_left_iff, List.forall₂_map_right_iff]
    apply kept.1.flip.imp
    intro row' row keeps
    rw [keeps.1]
  constructor
  · rw [same]
    exact own.nodup
  · intro row' mem
    obtain ⟨row, among, keeps⟩ := exists_of_forall₂ kept.1.flip mem
    rw [kept.2.1, keeps.1]
    exact own.below row among

theorem OwnIds.rebindUpstream (own : OwnIds m) (table : List RemoteService) :
    OwnIds (rebindUpstream m discovery table).1 := by
  have sameLocal : ∀ row, (rebindRow discovery table row).localChar = row.localChar := by
    intro row
    unfold rebindRow
    split <;> rfl
  unfold Mirror.rebindUpstream
  split
  · constructor
    · simpa [List.map_map, Function.comp_def, sameLocal] using own.nodup
    · intro row mem
      obtain ⟨before, among, rfl⟩ := List.mem_map.mp mem
      rw [sameLocal]
      exact own.below before among
  · exact own

theorem OwnIds.buildChar (own : OwnIds m) (svc : LocalService) (e : Entry) :
    OwnIds (buildChar config discovery svc m e) := by
  unfold Mirror.buildChar
  split
  · exact own
  · constructor
    · simp only [List.map_append, List.map_cons, List.map_nil]
      refine List.Nodup.append own.nodup (List.nodup_singleton _) ?_
      intro id old new
      obtain ⟨row, mem, rfl⟩ := List.mem_map.mp old
      exact absurd (List.mem_singleton.mp new) (own.below row mem).ne
    · intro row mem
      rcases List.mem_append.mp mem with old | new
      · exact (own.below row old).trans (Nat.lt_succ_self _)
      · obtain rfl := List.mem_singleton.mp new
        exact Nat.lt_succ_self _

theorem OwnIds.buildService (own : OwnIds m) (refused : List Nat) (svc : RemoteService × Nat) :
    OwnIds (buildService config discovery refused m svc) := by
  unfold Mirror.buildService
  split
  · exact own
  split
  · exact own
  · refine List.foldlRecOn _ _ (motive := OwnIds) ⟨own.nodup, own.below⟩ ?_
    intro m own e _
    exact own.buildChar _ e

theorem OwnIds.buildFrom (own : OwnIds m) (table : List RemoteService) (refused : List Nat) :
    OwnIds (buildFrom config m discovery table refused).1 := by
  unfold Mirror.buildFrom
  split
  · exact own.rebindUpstream table
  · refine List.foldlRecOn _ _ (motive := OwnIds) ⟨own.nodup, own.below⟩ ?_
    intro m own svc _
    exact own.buildService refused svc

/-- Two rows with one local characteristic are one row. -/
theorem OwnIds.row_eq (own : OwnIds m) {i k : Nat} {row row' : MirrorChar}
    (at_ : m.chars[i]? = some row) (at' : m.chars[k]? = some row')
    (same : row.localChar.id = row'.localChar.id) : i = k := by
  obtain ⟨inRange, here⟩ := List.getElem?_eq_some_iff.mp at_
  obtain ⟨inRange', here'⟩ := List.getElem?_eq_some_iff.mp at'
  have inMap : i < (m.chars.map fun row => row.localChar.id).length := by simpa using inRange
  have inMap' : k < (m.chars.map fun row => row.localChar.id).length := by simpa using inRange'
  have ids : (m.chars.map fun row => row.localChar.id)[i] =
      (m.chars.map fun row => row.localChar.id)[k] := by
    simp only [List.getElem_map, here, here', same]
  exact own.nodup.getElem_inj_iff.mp ids

end OwnIds

/-! ## The invariant -/

/-- What holds in every run. -/
structure Inv (s : State) : Prop where
  ids : OwnIds s.session.mirror
  unbound : s.session.mirror.built = false → s.bound = []
  table : Distinct s.session.table

/-- A bound row is the first that stores the handle of its characteristic. -/
def FirstRows (s : State) : Prop :=
  ∀ (i : Nat) (row : MirrorChar) (e : Entry), s.session.mirror.chars[i]? = some row → e ∈ entries s.bound →
    row.upstream = some (e.ptr s.boundAt) →
      Names row e ∧ row.upstreamHandle = e.chr.handle ∧
        ∀ (k : Nat) (row' : MirrorChar), k < i → s.session.mirror.chars[k]? = some row' →
          row'.upstreamHandle ≠ e.chr.handle

section Invariant

variable {config : Config} {s : State}

theorem Inv.built (inv : Inv s) {e : Entry} (mem : e ∈ entries s.bound) :
    s.session.mirror.built = true := by
  cases open_ : s.session.mirror.built with
  | true => rfl
  | false =>
      rw [inv.unbound open_] at mem
      cases mem

theorem FirstRows.routed (first : FirstRows s) (inv : Inv s) : Routed config s := by
  intro i row e at_ mem bound
  obtain ⟨names, stores, none⟩ := first i row e at_ mem bound
  refine ⟨names, fun data => ⟨?_, ?_⟩⟩
  · rw [onUpstreamNotify, if_pos (inv.built mem)]
    exact route_eq at_ stores none
  · exact route_eq at_ stores none

/-- Rows that only lose their characteristics stay the first ones. -/
theorem FirstRows.of_keepsRows {s' : State} (first : FirstRows s) (bound : s'.bound = s.bound)
    (boundAt : s'.boundAt = s.boundAt) (kept : KeepsRows s.session.mirror s'.session.mirror) :
    FirstRows s' := by
  have before : ∀ (k : Nat) (row' : MirrorChar), s'.session.mirror.chars[k]? = some row' →
      ∃ row, s.session.mirror.chars[k]? = some row ∧ Keeps row row' := by
    intro k row' at_
    obtain ⟨inRange', here'⟩ := List.getElem?_eq_some_iff.mp at_
    have inRange : k < s.session.mirror.chars.length := by
      rw [kept.1.length_eq]
      exact inRange'
    refine ⟨_, List.getElem?_eq_getElem inRange, ?_⟩
    rw [← here']
    exact kept.1.get inRange inRange'
  intro i row' e at_ mem isBound
  rw [bound] at mem
  rw [boundAt] at isBound
  obtain ⟨row, had, sameLocal, sameHandle, upstream⟩ := before i row' at_
  have wasBound : row.upstream = some (e.ptr s.boundAt) := by
    rcases upstream with same | lost
    · rw [← same]
      exact isBound
    · rw [lost] at isBound
      cases isBound
  obtain ⟨names, stores, none⟩ := first i row e had mem wasBound
  refine ⟨?_, by rw [sameHandle, stores], ?_⟩
  · unfold Names
    rw [sameLocal]
    exact names
  · intro k other' less at'
    obtain ⟨other, hadOther, -, handle, -⟩ := before k other' at'
    rw [handle]
    exact none k other less hadOther

/-- A rebind gives a row the characteristic with its UUIDs. -/
theorem rebindRow_of_names {table : List RemoteService} (distinct : Distinct table) {discovery : Nat}
    {row : MirrorChar} {e : Entry} (mem : e ∈ entries table) (names : Names row e) :
    rebindRow discovery table row =
      { row with upstream := some (e.ptr discovery), upstreamHandle := e.chr.handle } := by
  unfold rebindRow
  rw [(findUpstream_eq_some_iff_names distinct).mpr ⟨mem, names⟩]

/-- Without such a one the row keeps its handle. -/
theorem rebindRow_of_missing {table : List RemoteService} {discovery : Nat} {row : MirrorChar}
    (missing : ∀ e ∈ entries table, ¬ Names row e) :
    rebindRow discovery table row = { row with upstream := none } := by
  unfold rebindRow
  rw [findUpstream_eq_none_iff_names.mpr missing]

theorem named_or_missing (table : List RemoteService) (row : MirrorChar) :
    (∃ e ∈ entries table, Names row e) ∨ ∀ e ∈ entries table, ¬ Names row e := by
  by_cases named : ∃ e ∈ entries table, Names row e
  · exact .inl named
  · exact .inr fun e mem names => named ⟨e, mem, names⟩

/-- The rebind of rows that are apart. -/
theorem firstRows_rebind {s' : State} {table : List RemoteService} (distinct : Distinct table)
    (apart : s.session.mirror.chars.Pairwise (Apart table))
    (bound : s'.bound = table)
    (rows : s'.session.mirror.chars = s.session.mirror.chars.map (rebindRow s'.boundAt table)) :
    FirstRows s' := by
  intro i row' e at_ mem isBound
  rw [bound] at mem
  rw [rows, List.getElem?_map, Option.map_eq_some_iff] at at_
  obtain ⟨row, had, rfl⟩ := at_
  rcases named_or_missing table row with ⟨e', mem', names⟩ | missing
  · rw [rebindRow_of_names distinct mem' names] at isBound ⊢
    obtain rfl : e' = e :=
      List.inj_on_of_nodup_map (places_nodup table s'.boundAt) mem' mem (Option.some.inj isBound)
    refine ⟨names, rfl, ?_⟩
    intro k other' less at'
    rw [rows, List.getElem?_map, Option.map_eq_some_iff] at at'
    obtain ⟨other, hadOther, rfl⟩ := at'
    obtain ⟨inRange, here⟩ := List.getElem?_eq_some_iff.mp had
    obtain ⟨inRange', here'⟩ := List.getElem?_eq_some_iff.mp hadOther
    have separate := List.pairwise_iff_getElem.mp apart k i inRange' inRange less
    rw [here, here'] at separate
    obtain ⟨notBoth, notStale⟩ := separate e' mem names
    rcases named_or_missing table other with ⟨e'', among, itsNames⟩ | missing
    · rw [rebindRow_of_names distinct among itsNames]
      intro same
      have one : e'' = e' := List.inj_on_of_nodup_map distinct.handles among mem same
      exact notBoth (one ▸ itsNames)
    · rw [rebindRow_of_missing missing]
      exact notStale missing
  · rw [rebindRow_of_missing missing] at isBound
    cases isBound

/-- A value changes neither table nor binding. -/
theorem route_frame (config : Config) (s : State) (handle : UInt16) (data value : List UInt8) :
    (route config s handle data value).bound = s.bound ∧
      (route config s handle data value).boundAt = s.boundAt ∧
      (route config s handle data value).session.table = s.session.table := by
  unfold route
  split
  · split <;> exact ⟨rfl, rfl, rfl⟩
  · exact ⟨rfl, rfl, rfl⟩

theorem built_of_rebinds {a : Action} (yes : rebinds s a = true) : s.session.mirror.built = true := by
  unfold rebinds at yes
  split at yes
  · rw [Bool.and_eq_true] at yes
    exact yes.2
  · cases yes

theorem Inv.of_keepsRows {s' : State} (inv : Inv s) (bound : s'.bound = s.bound)
    (table : Distinct s'.session.table) (kept : KeepsRows s.session.mirror s'.session.mirror) :
    Inv s' := by
  refine ⟨inv.ids.of_keepsRows kept, ?_, table⟩
  intro open_
  rw [bound]
  apply inv.unbound
  rw [Bool.eq_false_iff]
  intro built
  rw [kept.2.2 built] at open_
  cases open_

theorem inv_step (config : Config) (inv : Inv s) (a : Action) (finds : FindsDistinct s a) :
    Inv (effect config s a) := by
  cases a with
  | session a =>
      have table := distinct_table config inv.table a finds
      rcases mirror_effect config s a with
        ⟨yes, rebound⟩ | ⟨no, kept | ⟨open_, refused, built⟩⟩
      · refine ⟨?_, ?_, table⟩
        · simp only [effect, rebound]
          exact inv.ids.rebindUpstream _
        · intro open_
          simp only [effect, rebound, rebindUpstream, built_of_rebinds yes, if_true] at open_
          cases open_
      · exact inv.of_keepsRows (by simp [effect, no]) table kept
      · refine ⟨?_, ?_, table⟩
        · simp only [effect, built]
          exact inv.ids.buildFrom _ _
        · intro _
          simp only [effect, no]
          exact inv.unbound open_
  | onUpstreamNotify handle data =>
      simp only [effect, onUpstreamNotify]
      split
      · obtain ⟨bound, -, table⟩ := route_frame config s handle data data
        exact inv.of_keepsRows bound (by rw [table]; exact inv.table) keepsRows_route
      · exact inv
  | primeCache handle data =>
      obtain ⟨bound, -, table⟩ := route_frame config s handle data (data.take config.cacheBytes)
      exact inv.of_keepsRows bound (by rw [effect, primeCache, table]; exact inv.table) keepsRows_route

theorem firstRows_step (inv : Inv s) (first : FirstRows s) (a : Action)
    (apart : RebindsApart s a) : FirstRows (effect config s a) := by
  cases a with
  | session a =>
      rcases mirror_effect config s a with
        ⟨yes, rebound⟩ | ⟨no, kept | ⟨open_, refused, built⟩⟩
      · refine firstRows_rebind inv.table (apart yes) (by simp [effect, yes]) ?_
        simp [effect, rebound, rebindUpstream, built_of_rebinds yes, yes]
      · exact first.of_keepsRows (by simp [effect, no]) (by simp [effect, no]) kept
      · -- before the registration nothing was rebound
        intro i row e _ mem
        simp only [effect, no, Bool.false_eq_true, if_false, inv.unbound open_] at mem
        cases mem
  | onUpstreamNotify handle data =>
      simp only [effect, onUpstreamNotify]
      split
      · obtain ⟨bound, boundAt, -⟩ := route_frame config s handle data data
        exact first.of_keepsRows bound boundAt keepsRows_route
      · exact first
  | primeCache handle data =>
      obtain ⟨bound, boundAt, -⟩ := route_frame config s handle data (data.take config.cacheBytes)
      exact first.of_keepsRows bound boundAt keepsRows_route

/-- Behind a row with the same handle a bound row gets nothing. -/
theorem not_routed (inv : Inv s) {i k : Nat} {row row' : MirrorChar} {e : Entry} (less : k < i)
    (at_ : s.session.mirror.chars[i]? = some row) (at' : s.session.mirror.chars[k]? = some row')
    (mem : e ∈ entries s.bound) (bound : row.upstream = some (e.ptr s.boundAt))
    (stores : row'.upstreamHandle = e.chr.handle) : ¬ Routed config s := by
  intro routed
  obtain ⟨j, first, early, stands, goes⟩ := route_early config at' stores
  -- a value that the local characteristic does not have yet
  let data := s.values row.localChar.id ++ [0]
  have arrives := ((routed i row e at_ mem bound).2 data).1
  rw [onUpstreamNotify, if_pos (inv.built mem), goes] at arrives
  have other : row.localChar.id ≠ first.localChar.id := by
    intro same
    have one := inv.ids.row_eq at_ stands same
    omega
  have value := congrArg (fun s => s.values row.localChar.id) arrives
  simp only [State.put, Function.update_self, Function.update_of_ne other] at value
  have longer := congrArg List.length value
  simp [data] at longer

/-- The rebind of rows that are not apart. -/
theorem not_routed_rebind {s' : State} {table : List RemoteService} (distinct : Distinct table)
    (inv' : Inv s') (close : ¬ s.session.mirror.chars.Pairwise (Apart table))
    (bound : s'.bound = table)
    (rows : s'.session.mirror.chars = s.session.mirror.chars.map (rebindRow s'.boundAt table)) :
    ¬ Routed config s' := by
  simp only [List.pairwise_iff_getElem, not_forall] at close
  obtain ⟨k, i, inRange', inRange, less, close⟩ := close
  simp only [Apart, Classical.not_imp, not_forall, not_and_or, not_not] at close
  obtain ⟨e, mem, names, same⟩ := close
  have place : ∀ (k : Nat) (inRange : k < s.session.mirror.chars.length),
      s'.session.mirror.chars[k]? = some (rebindRow s'.boundAt table s.session.mirror.chars[k]) := by
    intro k inRange
    rw [rows, List.getElem?_map, List.getElem?_eq_getElem inRange]
    rfl
  refine not_routed inv' less (place i inRange) (place k inRange') (bound ▸ mem) ?_ ?_
  · rw [rebindRow_of_names distinct mem names]
  · rcases same with named | ⟨missing, stale⟩
    · rw [rebindRow_of_names distinct mem named]
    · rw [rebindRow_of_missing missing]
      exact stale

theorem misroutes (inv : Inv s) (a : Action) (finds : FindsDistinct s a)
    (clash : ¬ RebindsApart s a) : ¬ Routed config (effect config s a) := by
  rw [RebindsApart, Classical.not_imp] at clash
  have after := inv_step config inv a finds
  match a with
  | .session a =>
      rcases mirror_effect config s a with ⟨yes, rebound⟩ | ⟨no, -⟩
      · refine not_routed_rebind inv.table after clash.2 (by simp [effect, yes]) ?_
        simp [effect, rebound, rebindUpstream, built_of_rebinds yes, yes]
      · rw [clash.1] at no
        cases no
  | .onUpstreamNotify _ _ | .primeCache _ _ => cases clash.1

end Invariant

/-! ## The result -/

theorem inv_reachable {config : Config} {s : State}
    (path : (system config).ReachableWhen FindsDistinct s) : Inv s := by
  have empty : Distinct [] := by decide
  refine ReachableFrom.invariant (P := Inv) (fun s a inv _ finds => inv_step config inv a finds) path ?_
  exact ⟨⟨List.nodup_nil, fun _ mem => by cases mem⟩, fun _ => rfl, empty⟩

/-- **Values are routed while the rows stay apart.** With handles and pairs of UUIDs that are
distinct within each table, in every state of a run whose rebinds all find the rows apart from the
new table, a value for a bound characteristic goes to its row and its local characteristic and
nowhere else. A rebind that finds two rows close leaves a bound row whose values go elsewhere. -/
theorem values_routed (config : Config) :
    (∀ s, (system config).ReachableWhen (fun s a => FindsDistinct s a ∧ RebindsApart s a) s →
      Routed config s) ∧
    ∀ s a, (system config).ReachableWhen FindsDistinct s → Guard config s a → FindsDistinct s a →
      ¬ RebindsApart s a → ¬ Routed config (effect config s a) := by
  constructor
  · intro s path
    have distinct : (system config).ReachableWhen FindsDistinct s := path.mono fun _ _ ok => ok.1
    suffices both : Inv s ∧ FirstRows s from both.2.routed (inv_reachable distinct)
    refine ReachableFrom.invariant (P := fun s => Inv s ∧ FirstRows s) ?_ path ?_
    · intro s a held _ ok
      exact ⟨inv_step config held.1 a ok.1, firstRows_step held.1 held.2 a ok.2⟩
    · refine ⟨inv_reachable ReachableFrom.refl, ?_⟩
      intro i row e _ mem
      cases mem
  · intro s a path _ finds clash
    exact misroutes (inv_reachable path) a finds clash

/-- Successful steps of the supervisor with a device that has this table. -/
def stepsOn (table : List RemoteService) (n : Nat) : List Action :=
  List.replicate n (Action.session (.upstream (.supervisor true 247) { found := table }))

def link (a : Upstream.Action) : Action := .session (.upstream a {})

/-- The first session with a device. -/
def bringUpOn (table : List RemoteService) : List Action :=
  [link (.configure ⟨true, 7, 0⟩)] ++ stepsOn table 9 ++
  [link .established, link (.onConnect false)] ++ stepsOn table 8 ++ [link (.onDisconnect 22)] ++
  stepsOn table 5 ++ [link .established, link (.onConnect false)] ++ stepsOn table 8

/-- The link is lost, and the next session finds this table. -/
def reconnectOn (table : List RemoteService) : List Action :=
  [link (.linkLost true), link (.onDisconnect 8)] ++ stepsOn table 10 ++
  [link .established, link (.onConnect false)] ++ stepsOn table 5

/-- A level at handle 3 and a state at handle 5. -/
def levelAndState : List RemoteService :=
  [⟨1, .uuid16 0x180f, [⟨3, .uuid16 0x2a19, { read := true, notify := true }, []⟩,
    ⟨5, .uuid16 0x2a1a, { read := true, notify := true }, []⟩]⟩]

/-- The same device without the level: the state has moved to handle 3. -/
def stateOnly : List RemoteService :=
  [⟨1, .uuid16 0x180f, [⟨3, .uuid16 0x2a1a, { read := true, notify := true }, []⟩]⟩]

/-- In the first session both values are routed. -/
theorem values_routed_first_session :
    ∃ s, (system Session.smallConfig).ReachableWhen
        (fun s a => FindsDistinct s a ∧ RebindsApart s a) s ∧
      s.session.mirror.chars.map MirrorChar.upstream = [some ⟨2, 0, 0⟩, some ⟨2, 0, 1⟩] ∧
      Routed Session.smallConfig s := by
  let s := (system Session.smallConfig).finalFrom (fun s a => FindsDistinct s a ∧ RebindsApart s a) {}
    (bringUpOn levelAndState)
  refine ⟨s, ActionSystem.reachable_finalFrom _ _ _ _, by decide +kernel, ?_⟩
  exact (values_routed Session.smallConfig).1 s (ActionSystem.reachable_finalFrom _ _ _ _)

/-- The level is gone and its handle is the state's: the state goes into the row of the level. -/
theorem state_routed_to_level :
    ¬ ∀ config s, (system config).ReachableWhen FindsDistinct s → Routed config s := by
  intro always
  let s := (system Session.smallConfig).finalFrom FindsDistinct {}
    (bringUpOn levelAndState ++ reconnectOn stateOnly)
  have reached : (system Session.smallConfig).ReachableWhen FindsDistinct s :=
    ActionSystem.reachable_finalFrom _ _ _ _
  have state : s.session.mirror.chars[1]?.map MirrorChar.upstream = some (some ⟨3, 0, 0⟩) := by
    decide +kernel
  have level : s.session.mirror.chars[0]?.map MirrorChar.upstreamHandle = some 3 := by
    decide +kernel
  have bound : s.boundAt = 3 ∧
      (entries s.bound).map (fun e => (e.serviceAt, e.chrAt, e.chr.handle)) = [(0, 0, 3)] := by
    decide +kernel
  obtain ⟨row, at_, upstream⟩ := Option.map_eq_some_iff.mp state
  obtain ⟨row', at', stores⟩ := Option.map_eq_some_iff.mp level
  obtain ⟨e, mem, place⟩ : ∃ e ∈ entries s.bound, (e.serviceAt, e.chrAt, e.chr.handle) = (0, 0, 3) := by
    rw [← List.mem_map, bound.2]
    exact List.mem_singleton_self _
  obtain ⟨service, chr, handle⟩ : e.serviceAt = 0 ∧ e.chrAt = 0 ∧ e.chr.handle = 3 := by
    simpa using place
  refine not_routed (inv_reachable reached) Nat.zero_lt_one at_ at' mem ?_ (stores.trans handle.symm)
    (always Session.smallConfig s reached)
  rw [upstream, bound.1, Entry.ptr, service, chr]

end NimbleProxy.Clone.Routing
