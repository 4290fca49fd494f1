/-
# Clone.Rebinding -- finding the characteristics again

`build_from` walks the attribute table by position and makes a row for each
characteristic it captures. `rebind_upstream` looks the row's characteristic up by
the UUIDs of the service and of the characteristic, because handles can shift, and
takes the first one with these UUIDs. Of two characteristics with the same UUIDs
(HID reports, a second battery service) the first is found for both rows, so the
second row loses its own.

On an identical table a row is bound to the characteristic it was built from exactly
if that is the first with its UUIDs (`findUpstream_eq_some_iff`), in the order in
which both functions walk the table (`Entry.before`).
-/
import Mathlib.Data.List.Find
import NimbleProxy.Clone.MirrorRebuild

namespace NimbleProxy.Clone.Mirror

open NimbleProxy.Backend.GattDiscovery (RemoteService)
open NimbleProxy.Clone.Session

set_option autoImplicit false

/-! ## The property and the condition -/

/-- The mirror that was built from the table, after `finalize_server`. -/
def registeredFrom (config : Config) (table : List RemoteService) (refused : List Nat)
    (discovery : Nat) (started : Bool) : State × Bool :=
  finalizeServer config (buildFrom config {} discovery table refused).1 started

/-- The row is bound to the characteristic at the place of `before`, found in another discovery. -/
def SameCharacteristic (discovery : Nat) (before after : MirrorChar) : Prop :=
  after.upstream = before.upstream.map (fun ptr => { ptr with discovery }) ∧
    after.upstreamHandle = before.upstreamHandle

/-- Rebinding to the table the mirror was built from gives every row its characteristic back, and
no characteristic to two rows. -/
def RebindsFaithfully (config : Config) (table : List RemoteService) (refused : List Nat)
    (discovery discovery' : Nat) (started : Bool) : Prop :=
  let built := (buildFrom config {} discovery table refused).1
  let registered := (registeredFrom config table refused discovery started).1
  let rebound := (rebindUpstream (disconnectUpstream registered) discovery' table).1
  List.Forall₂ (SameCharacteristic discovery') built.chars rebound.chars ∧
    (rebound.chars.map MirrorChar.upstream).Nodup

/-- The order in which the table is walked. -/
def Entry.before (e e' : Entry) : Prop :=
  e.serviceAt < e'.serviceAt ∨ (e.serviceAt = e'.serviceAt ∧ e.chrAt < e'.chrAt)

instance (e e' : Entry) : Decidable (e.before e') := inferInstanceAs (Decidable (_ ∨ _))

/-- The same UUIDs of service and characteristic. -/
def Entry.sameUuids (e e' : Entry) : Prop :=
  sameUuid e.service.uuid e'.service.uuid = true ∧ sameUuid e.chr.uuid e'.chr.uuid = true

instance (e e' : Entry) : Decidable (e.sameUuids e') := inferInstanceAs (Decidable (_ ∧ _))

/-- **The condition.** No characteristic that gets a row has the UUIDs of one before it. -/
def FirstOfItsUuids (config : Config) (table : List RemoteService) (refused : List Nat) : Prop :=
  ∀ e ∈ (captured table refused).take config.maxChars,
    ∀ e' ∈ entries table, e'.before e → ¬ e'.sameUuids e

instance (config : Config) (table : List RemoteService) (refused : List Nat) :
    Decidable (FirstOfItsUuids config table refused) :=
  inferInstanceAs (Decidable (∀ _ ∈ _, ∀ _ ∈ _, _ → _))

/-! ## The order of the table -/

theorem Entry.before_asymm {e e' : Entry} (first : e.before e') : ¬ e'.before e := by
  unfold Entry.before at first ⊢
  omega

theorem entriesOf_ordered (svc : RemoteService) (i : Nat) :
    (entriesOf svc i).Pairwise Entry.before := by
  unfold entriesOf
  rw [List.pairwise_map, List.pairwise_iff_getElem]
  intro k l inRange inRange' less
  refine .inr ⟨rfl, ?_⟩
  simpa using less

theorem serviceAt_of_mem_entriesOf {svc : RemoteService} {i : Nat} {e : Entry}
    (mem : e ∈ entriesOf svc i) : e.serviceAt = i := by
  obtain ⟨pair, -, rfl⟩ := List.mem_map.mp mem
  rfl

theorem entries_ordered (table : List RemoteService) : (entries table).Pairwise Entry.before := by
  unfold entries
  rw [List.pairwise_flatMap]
  constructor
  · intro svc _
    exact entriesOf_ordered svc.1 svc.2
  · rw [List.pairwise_iff_getElem]
    intro k l inRange inRange' less e mem e' mem'
    left
    rw [serviceAt_of_mem_entriesOf mem, serviceAt_of_mem_entriesOf mem']
    simpa using less

/-- At one place of the table stands one characteristic. -/
theorem places_nodup (table : List RemoteService) (discovery : Nat) :
    ((entries table).map fun e => e.ptr discovery).Nodup := by
  rw [List.Nodup, List.pairwise_map]
  refine (entries_ordered table).imp ?_
  intro e e' less same
  obtain ⟨-, service, chr⟩ := RemotePtr.mk.inj same
  unfold Entry.before at less
  omega

/-- In a list in the order of `R`, the first with `p` is the one with none before it. -/
theorem find?_eq_some_iff_first {α : Type} {R : α → α → Prop} {p : α → Bool} {xs : List α} {x : α}
    (ordered : xs.Pairwise R) (asymm : ∀ a b, R a b → ¬ R b a) (mem : x ∈ xs) (holds : p x = true) :
    xs.find? p = some x ↔ ∀ y ∈ xs, R y x → p y = false := by
  rw [List.find?_eq_some_iff_append]
  constructor
  · rintro ⟨-, before, after, rfl, none⟩ y among less
    rw [List.pairwise_append, List.pairwise_cons] at ordered
    rcases List.mem_append.mp among with early | late
    · simpa using none y early
    · rcases List.mem_cons.mp late with rfl | later
      · exact absurd less (asymm _ _ less)
      · exact absurd less (asymm _ _ (ordered.2.1.1 y later))
  · intro first
    obtain ⟨before, after, rfl⟩ := List.append_of_mem mem
    refine ⟨holds, before, after, rfl, ?_⟩
    intro y early
    rw [List.pairwise_append] at ordered
    simpa using first y (by simp [early]) (ordered.2.2 y early x List.mem_cons_self)

/-- The lookup goes through the table in its order. -/
theorem findUpstream_eq_find? (table : List RemoteService) (chr : LocalChar) :
    findUpstream table chr = (entries table).find? fun e =>
      sameUuid e.service.uuid chr.service.uuid && sameUuid e.chr.uuid chr.uuid := by
  unfold findUpstream entries
  rw [List.find?_flatMap]
  congr 1
  funext ⟨svc, i⟩
  dsimp only
  by_cases same : sameUuid svc.uuid chr.service.uuid = true
  · rw [if_pos same]
    refine List.find?_congr ?_
    intro e mem
    rw [service_of_mem_entriesOf mem, same, Bool.true_and]
  · rw [if_neg same]
    refine (List.find?_eq_none.mpr ?_).symm
    intro e mem
    simp [service_of_mem_entriesOf mem, same]

/-- **What the lookup finds.** For a row of `e`, it is `e` if nothing before has the same UUIDs. -/
theorem findUpstream_eq_some_iff {table : List RemoteService} {row : MirrorChar} {e : Entry}
    (mem : e ∈ entries table) (mirrors : Mirrors row e) :
    findUpstream table row.localChar = some e ↔
      ∀ e' ∈ entries table, e'.before e → ¬ e'.sameUuids e := by
  rw [findUpstream_eq_find?, mirrors.serviceUuid, mirrors.uuid,
    find?_eq_some_iff_first (entries_ordered table) (fun _ _ => Entry.before_asymm) mem
      (by simp [sameUuid])]
  simp only [Entry.sameUuids, ← Bool.and_eq_true, Bool.not_eq_true]

/-! ## The rows -/

section Rows

variable {config : Config} {table : List RemoteService} {refused : List Nat}
  {discovery discovery' : Nat} {started : Bool}

/-- The rows of a first build, in the order of the table. -/
theorem buildFrom_rows (config : Config) (table : List RemoteService) (refused : List Nat)
    (discovery : Nat) :
    List.Forall₂ (fun row e => Mirrors row e ∧ row.upstream = some (e.ptr discovery))
      (buildFrom config {} discovery table refused).1.chars
      ((captured table refused).take config.maxChars) := by
  obtain ⟨rows, chars, bound⟩ := (buildFrom_grows config {} discovery table refused rfl).2.2.rows
  rw [chars]
  exact bound

/-- The rows after the registration, without a link. -/
theorem disconnect_registeredFrom
    (registers : (registeredFrom config table refused discovery started).2 = true) :
    disconnectUpstream (registeredFrom config table refused discovery started).1 =
      { (registeredFrom config table refused discovery started).1 with
        chars := (buildFrom config {} discovery table refused).1.chars.map fun row =>
          { row with upstream := none, primed := false } } := by
  have chars : (registeredFrom config table refused discovery started).1.chars =
      (buildFrom config {} discovery table refused).1.chars := by
    unfold registeredFrom
    rcases finalizeServer_spec config (buildFrom config {} discovery table refused).1 started with
      same | ⟨activated, registered, same⟩
    · rw [same]
    · rw [same]
  have built : (registeredFrom config table refused discovery started).1.built = true :=
    built_of_finalizeServer registers
  unfold disconnectUpstream
  rw [if_pos built, chars]

/-- A row gets its characteristic back exactly if the lookup finds it. -/
theorem sameCharacteristic_iff {row : MirrorChar} {e : Entry} (mem : e ∈ entries table)
    (upstream : row.upstream = some (e.ptr discovery))
    (mirrors : Mirrors row e) :
    SameCharacteristic discovery' row
        (rebindRow discovery' table { row with upstream := none, primed := false }) ↔
      findUpstream table row.localChar = some e := by
  unfold SameCharacteristic rebindRow
  dsimp only
  rw [upstream, mirrors.handle]
  constructor
  · rintro ⟨place, -⟩
    cases found : findUpstream table row.localChar with
    | none =>
        rw [found] at place
        cases place
    | some e' =>
        rw [found] at place
        have same : e'.ptr discovery' = e.ptr discovery' := Option.some.inj place
        rw [List.inj_on_of_nodup_map (places_nodup table discovery') (findUpstream_some found).1 mem
          same]
  · intro found
    rw [found]
    exact ⟨rfl, rfl⟩

/-- Rows that have their characteristics back have different ones. -/
theorem nodup_of_same
    (same : ∀ row ∈ (buildFrom config {} discovery table refused).1.chars,
      SameCharacteristic discovery' row
        (rebindRow discovery' table { row with upstream := none, primed := false })) :
    ((buildFrom config {} discovery table refused).1.chars.map fun row =>
      (rebindRow discovery' table { row with upstream := none, primed := false }).upstream).Nodup := by
  have places : ((buildFrom config {} discovery table refused).1.chars.map fun row =>
      (rebindRow discovery' table { row with upstream := none, primed := false }).upstream) =
        ((captured table refused).take config.maxChars).map fun e => some (e.ptr discovery') := by
    rw [List.map_congr_left fun row mem => (same row mem).1, ← List.forall₂_eq_eq_eq,
      List.forall₂_map_left_iff, List.forall₂_map_right_iff]
    refine (buildFrom_rows config table refused discovery).imp ?_
    intro row e isBuilt
    rw [isBuilt.2]
    rfl
  have part := (List.take_sublist config.maxChars (captured table refused)).trans
    (captured_sublist table refused)
  have distinct := (part.map fun e => e.ptr discovery').nodup (places_nodup table discovery')
  have somes := distinct.map (Option.some_injective RemotePtr)
  rw [List.map_map] at somes
  rw [places]
  exact somes

end Rows

/-- **Rebinding is faithful for the first characteristic of each kind.** Rebinding a registered
mirror to the table it was built from gives every row its characteristic back, and no
characteristic to two rows, exactly if no characteristic with a row has the UUIDs of one before it. -/
theorem rebind_faithful (config : Config) (table : List RemoteService) (refused : List Nat)
    (discovery discovery' : Nat) (started : Bool)
    (registers : (registeredFrom config table refused discovery started).2 = true) :
    RebindsFaithfully config table refused discovery discovery' started ↔
      FirstOfItsUuids config table refused := by
  have rows := buildFrom_rows config table refused discovery
  have inTable : ∀ e ∈ (captured table refused).take config.maxChars, e ∈ entries table :=
    fun e mem => (captured_sublist table refused).subset (List.mem_of_mem_take mem)
  -- each row with its characteristic
  have row_iff : ∀ row e, e ∈ entries table →
      Mirrors row e ∧ row.upstream = some (e.ptr discovery) →
      (SameCharacteristic discovery' row
          (rebindRow discovery' table { row with upstream := none, primed := false }) ↔
        ∀ e' ∈ entries table, e'.before e → ¬ e'.sameUuids e) := by
    intro row e mem built
    rw [sameCharacteristic_iff mem built.2 built.1, findUpstream_eq_some_iff mem built.1]
  have built : (registeredFrom config table refused discovery started).1.built = true :=
    built_of_finalizeServer registers
  unfold RebindsFaithfully
  simp only [disconnect_registeredFrom registers, rebindUpstream, built, if_true, List.map_map]
  constructor
  · rintro ⟨same, -⟩ e mem
    obtain ⟨row, among, isBuilt⟩ := exists_of_forall₂ rows.flip mem
    rw [List.forall₂_map_right_iff, List.forall₂_same] at same
    exact (row_iff row e (inTable e mem) isBuilt).mp (same row among)
  · intro first
    have same : ∀ row ∈ (buildFrom config {} discovery table refused).1.chars,
        SameCharacteristic discovery' row
          (rebindRow discovery' table { row with upstream := none, primed := false }) := by
      intro row mem
      obtain ⟨e, taken, isBuilt⟩ := exists_of_forall₂ rows mem
      exact (row_iff row e (inTable e taken) isBuilt).mpr (first e taken)
    refine ⟨?_, ?_⟩
    · rw [List.forall₂_map_right_iff, List.forall₂_same]
      exact same
    · exact nodup_of_same same

/-- The level of a battery service is found again. -/
theorem rebind_faithful_level :
    (registeredFrom smallConfig levelTable [] 1 true).2 = true ∧
      FirstOfItsUuids smallConfig levelTable [] ∧
      RebindsFaithfully smallConfig levelTable [] 1 2 true :=
  ⟨by decide, by decide, (rebind_faithful smallConfig levelTable [] 1 2 true (by decide)).mpr (by decide)⟩

/-- A device with two batteries: two services with one UUID, and a level in each. -/
def twoBatteries : List RemoteService :=
  levelTable ++ [⟨5, .uuid16 0x180f, [⟨7, .uuid16 0x2a19, { read := true, write := true }, []⟩]⟩]

/-- After the rebind both rows have the level of the first battery. -/
theorem second_battery_lost :
    ¬ ∀ config table refused discovery discovery' started,
      (registeredFrom config table refused discovery started).2 = true →
        RebindsFaithfully config table refused discovery discovery' started := by
  intro always
  have faithful := always smallConfig twoBatteries [] 1 2 true (by decide)
  have twice : ¬ ((rebindUpstream (disconnectUpstream
      (registeredFrom smallConfig twoBatteries [] 1 true).1) 2 twoBatteries).1.chars.map
        MirrorChar.upstream).Nodup := by
    decide
  exact twice faithful.2

end NimbleProxy.Clone.Mirror
