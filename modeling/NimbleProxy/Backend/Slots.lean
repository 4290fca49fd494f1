/-
# Backend.Slots -- the connection slot table and its lookups

`connection.cpp` keeps a fixed array `g_slots` of `proxy::MAX_CONNECTIONS`
slots. This module has the data (`Slot`, `SlotState`), the three linear
searches that run under `g_mutex` (`findByAddrLocked`, `findByClientLocked`,
`allocLocked`), the two read-outs (`freeSlots`, `inUseAddresses`) and one
specification lemma for each.

A `NimBLEClient *` is a number (`ClientPtr`), the null pointer is `none`. The
code only copies, clears and calls a `ConnectCallback`, so a callback is
identified with the `connect` call that passed it (`CallId`): two calls that
pass the same function are told apart, which is what the callback discipline
is about. Every caller passes a function, never `nullptr`.
-/
import Mathlib.Data.List.FinRange
import Mathlib.Data.Fintype.Card

namespace NimbleProxy.Backend

set_option autoImplicit false

/-- `proxy::MAX_CONNECTIONS`. -/
abbrev maxConnections : Nat := 4

abbrev SlotIdx := Fin maxConnections
abbrev ClientPtr := Nat
abbrev CallId := Nat
abbrev ConnectCallback := CallId

/-- The slot `g_slots[n]`. -/
def slotNo (n : Nat) : SlotIdx := Fin.ofNat maxConnections n

/-- `connection::State`. -/
inductive SlotState
  | free | connecting | connected | disconnecting
  deriving DecidableEq, Repr

/-- Whether a slot in use waits for its outcome (`false`) or has a link (`true`). -/
def SlotState.live? : SlotState → Option Bool
  | .free => none
  | .connecting => some false
  | .connected | .disconnecting => some true

theorem SlotState.live?_eq_none {st : SlotState} : st.live? = none ↔ st = .free := by
  cases st <;> simp [live?]

/-- `connection::Slot`. -/
structure Slot where
  state : SlotState := .free
  address : UInt64 := 0
  addressType : UInt8 := 0
  client : Option ClientPtr := none
  cb : Option ConnectCallback := none
  deriving DecidableEq

/-- `connection::ConnectionResult`. -/
structure ConnectionResult where
  connected : Bool
  mtu : UInt16
  error : Int32
  deriving DecidableEq

abbrev SlotTable := SlotIdx → Slot

namespace Slot

/-- The four assignments every release path makes; the client is kept for reuse. -/
def reset (slot : Slot) : Slot :=
  { slot with state := .free, address := 0, addressType := 0, cb := none }

@[simp] theorem reset_state (slot : Slot) : slot.reset.state = .free := rfl
@[simp] theorem reset_address (slot : Slot) : slot.reset.address = 0 := rfl
@[simp] theorem reset_client (slot : Slot) : slot.reset.client = slot.client := rfl
@[simp] theorem reset_cb (slot : Slot) : slot.reset.cb = none := rfl

end Slot

namespace SlotTable

/-- `find_by_addr_locked`. -/
def findByAddrLocked (slots : SlotTable) (address : UInt64) : Option SlotIdx :=
  (List.finRange maxConnections).find? fun i =>
    decide ((slots i).state ≠ .free ∧ (slots i).address = address)

/-- `find_by_client_locked`. -/
def findByClientLocked (slots : SlotTable) (client : ClientPtr) : Option SlotIdx :=
  (List.finRange maxConnections).find? fun i => decide ((slots i).client = some client)

/-- `alloc_locked`. -/
def allocLocked (slots : SlotTable) : Option SlotIdx :=
  (List.finRange maxConnections).find? fun i => decide ((slots i).state = .free)

/-- `free_slots`. -/
def freeSlots (slots : SlotTable) : Nat :=
  (List.finRange maxConnections).foldl
    (fun n i => if (slots i).state = .free then n + 1 else n) 0

/-- `in_use_addresses`; the filled part of `out`, whose length is the return value. -/
def inUseAddresses (slots : SlotTable) (cap : Nat) : List UInt64 :=
  (List.finRange maxConnections).foldl
    (fun out i => if (slots i).state ≠ .free ∧ out.length < cap then out ++ [(slots i).address]
      else out) []

variable {slots : SlotTable} {address : UInt64} {client : ClientPtr} {i : SlotIdx}

theorem findByAddrLocked_some (found : slots.findByAddrLocked address = some i) :
    (slots i).state ≠ .free ∧ (slots i).address = address := by
  simpa using List.find?_some found

theorem findByAddrLocked_none :
    slots.findByAddrLocked address = none ↔
      ∀ i, (slots i).state ≠ .free → (slots i).address ≠ address := by
  simp [findByAddrLocked]

theorem findByClientLocked_some (found : slots.findByClientLocked client = some i) :
    (slots i).client = some client := by
  simpa using List.find?_some found

theorem findByClientLocked_none :
    slots.findByClientLocked client = none ↔ ∀ i, (slots i).client ≠ some client := by
  simp [findByClientLocked]

theorem allocLocked_some (found : slots.allocLocked = some i) : (slots i).state = .free := by
  simpa using List.find?_some found

/-! ## The read-outs are a count and a filter -/

theorem freeSlots_eq_countP (slots : SlotTable) :
    slots.freeSlots = (List.finRange maxConnections).countP fun i => (slots i).state = .free := by
  have counted : ∀ (l : List SlotIdx) (n : Nat),
      l.foldl (fun n i => if (slots i).state = .free then n + 1 else n) n =
        n + l.countP fun i => (slots i).state = .free := by
    intro l
    induction l with
    | nil => intro n; rfl
    | cons i rest ih =>
        intro n
        rw [List.foldl_cons, ih, List.countP_cons]
        by_cases free : (slots i).state = .free
        · simp only [free, if_true, decide_true]; omega
        · simp [free]
  simpa [freeSlots] using counted (List.finRange maxConnections) 0

/-- With room for the whole table nothing is cut off: the result is the
addresses of the slots in use, in slot order. -/
theorem inUseAddresses_eq_map (slots : SlotTable) :
    slots.inUseAddresses maxConnections =
      ((List.finRange maxConnections).filter fun i => (slots i).state ≠ .free).map
        fun i => (slots i).address := by
  have listed : ∀ (l : List SlotIdx) (out : List UInt64), out.length + l.length ≤ maxConnections →
      l.foldl (fun out i => if (slots i).state ≠ .free ∧ out.length < maxConnections
        then out ++ [(slots i).address] else out) out =
        out ++ (l.filter fun i => (slots i).state ≠ .free).map fun i => (slots i).address := by
    intro l
    induction l with
    | nil => intro out _; simp
    | cons i rest ih =>
        intro out room
        rw [List.length_cons] at room
        rw [List.foldl_cons]
        by_cases used : (slots i).state ≠ .free
        · rw [if_pos ⟨used, by omega⟩, ih _ (by simp; omega)]
          simp [used]
        · rw [if_neg (fun both => used both.1), ih _ (by omega)]
          simp [used]
  simpa [inUseAddresses] using listed (List.finRange maxConnections) [] (by simp)

theorem mem_inUseAddresses :
    address ∈ slots.inUseAddresses maxConnections ↔
      ∃ i, (slots i).state ≠ .free ∧ (slots i).address = address := by
  rw [inUseAddresses_eq_map]
  simp

/-- Free and used slots partition the table. -/
theorem freeSlots_add_inUse (slots : SlotTable) :
    slots.freeSlots + (slots.inUseAddresses maxConnections).length = maxConnections := by
  rw [freeSlots_eq_countP, inUseAddresses_eq_map, List.length_map, ← List.countP_eq_length_filter]
  have split := List.length_eq_countP_add_countP
    (fun i => decide ((slots i).state = .free)) (l := List.finRange maxConnections)
  simp only [List.length_finRange] at split
  simpa using split.symm

/-- Distinct addresses in use give a list without repetition. -/
theorem inUseAddresses_nodup
    (distinct : ∀ i j, (slots i).state ≠ .free → (slots j).state ≠ .free →
      (slots i).address = (slots j).address → i = j) :
    (slots.inUseAddresses maxConnections).Nodup := by
  rw [inUseAddresses_eq_map]
  refine List.Nodup.map_on ?_ ((List.nodup_finRange maxConnections).filter _)
  intro i usedI j usedJ same
  simp only [List.mem_filter, decide_eq_true_eq] at usedI usedJ
  exact distinct i j usedI.2 usedJ.2 same

end SlotTable

end NimbleProxy.Backend
