/-
# Backend.SlotInvariant -- the slot table is consistent under every interleaving

The property wanted of the table (`TableOk`) is not kept by the steps alone: a
callback finds its slot through the client pointer, so it has to be known which
NimBLE event is still owed for which slot. `Inv` adds that: every client with
an attempt or a link sits in a slot in the matching state (`linked`), every
slot that is not Free is claimed by a `connect` still on its way or has an
attempt or a link (`backed`), and a claimed slot is untouched until its
`connect` moves on (`claims`, `claimOnce`).

The actions fall into few kinds -- a task moves on without giving up or taking
a slot (`Inv.congr`), a link moves on (`Inv.setLink`), a slot is claimed
(`Inv.claim`), changes its state (`Inv.setState`) or is released
(`Inv.release`) -- and one lemma for each kind carries the whole proof.
-/
import NimbleProxy.Backend.Connection

namespace NimbleProxy.Backend.Connection

open NimbleProxy.Theory

set_option autoImplicit false

/-! ## The invariant -/

/-- The frame of a `connect` that holds a claimed slot. -/
def TaskPc.frame? : TaskPc → Option Frame
  | .claimed _ f => some f
  | _ => none

/-- What the slot of a client with this link looks like. -/
def Link.Fits : Link → Slot → Prop
  | .idle, _ => True
  | .attempting k, slot => slot.state = .connecting ∧ slot.cb = some k
  | .failed k, slot => slot.state = .connecting ∧ slot.cb = some k
  | .up k false _, slot => slot.state = .connecting ∧ slot.cb = some k
  | .up k true _, slot =>
      (slot.state = .connected ∨ slot.state = .disconnecting) ∧ slot.cb = some k

/-- A claimed slot is as `connect` left it, and its client is at rest. -/
structure Claims (s : State) (f : Frame) : Prop where
  state : (s.slots f.slot).state = .connecting
  address : (s.slots f.slot).address = f.address
  client : (s.slots f.slot).client = some f.client
  cb : (s.slots f.slot).cb = some f.call
  quiet : s.links f.client = .idle

structure Inv (s : State) : Prop where
  clean : ∀ i, (s.slots i).state = .free → (s.slots i).address = 0 ∧ (s.slots i).cb = none
  distinct : ∀ i j, (s.slots i).state ≠ .free → (s.slots j).state ≠ .free →
    (s.slots i).address = (s.slots j).address → i = j
  ownClient : ∀ i j c, (s.slots i).client = some c → (s.slots j).client = some c → i = j
  known : ∀ i c, (s.slots i).client = some c → c < s.nextClient
  linked : ∀ c, s.links c ≠ .idle →
    ∃ i, (s.slots i).client = some c ∧ (s.links c).Fits (s.slots i)
  claims : ∀ t f, (s.tasks t).frame? = some f → Claims s f
  claimOnce : ∀ t t' f f', (s.tasks t).frame? = some f → (s.tasks t').frame? = some f' →
    f.slot = f'.slot → t = t'
  backed : ∀ i, (s.slots i).state ≠ .free → ∃ c, (s.slots i).client = some c ∧
    (s.links c ≠ .idle ∨ ∃ t f, (s.tasks t).frame? = some f ∧ f.slot = i)

theorem inv_init : Inv ({} : State) := by
  constructor <;> simp [TaskPc.frame?]

/-! ## Reading the invariant -/

theorem Link.Fits.not_free {link : Link} {slot : Slot} (fits : link.Fits slot)
    (busy : link ≠ .idle) : slot.state ≠ .free := by
  intro free
  cases link with
  | idle => exact busy rfl
  | attempting k | failed k => simp [Link.Fits, free] at fits
  | up k announced lost => cases announced <;> simp [Link.Fits, free] at fits

theorem Link.Fits.cb {link : Link} {slot : Slot} (fits : link.Fits slot) {k : CallId}
    (of : link.call? = some k) : slot.cb = some k := by
  cases link with
  | idle => cases of
  | attempting k' | failed k' =>
      simp only [Link.call?, Option.some.injEq] at of
      exact of ▸ fits.2
  | up k' announced lost =>
      simp only [Link.call?, Option.some.injEq] at of
      cases announced <;> exact of ▸ fits.2

section

variable {s s' : State}

/-- The slot a callback for `c` works on. -/
theorem Inv.lookup (inv : Inv s) {c : ClientPtr} (busy : s.links c ≠ .idle) :
    ∃ i, s.slots.findByClientLocked c = some i ∧ (s.slots i).client = some c ∧
      (s.links c).Fits (s.slots i) := by
  obtain ⟨i, client, fits⟩ := inv.linked c busy
  cases found : s.slots.findByClientLocked c with
  | none => exact absurd client (SlotTable.findByClientLocked_none.mp found i)
  | some j =>
      have same := inv.ownClient j i c (SlotTable.findByClientLocked_some found) client
      exact ⟨j, rfl, same ▸ client, same ▸ fits⟩

/-- The slot a lookup by address finds is the only one in use with that address. -/
theorem Inv.lookupAddr (inv : Inv s) {i : SlotIdx} (used : (s.slots i).state ≠ .free) :
    s.slots.findByAddrLocked (s.slots i).address = some i := by
  cases found : s.slots.findByAddrLocked (s.slots i).address with
  | none => exact absurd rfl (SlotTable.findByAddrLocked_none.mp found i used)
  | some j =>
      obtain ⟨usedJ, same⟩ := SlotTable.findByAddrLocked_some found
      rw [inv.distinct j i usedJ used same]

/-- A client at work is not the client of a claimed slot. -/
theorem Inv.not_claimed (inv : Inv s) {c : ClientPtr} {i : SlotIdx}
    (client : (s.slots i).client = some c) (busy : s.links c ≠ .idle) {t : TaskId} {f : Frame}
    (held : (s.tasks t).frame? = some f) : f.slot ≠ i := by
  intro here
  subst here
  have claims := inv.claims t f held
  have same : f.client = c := Option.some.inj (claims.client.symm.trans client)
  exact busy (same ▸ claims.quiet)

/-- The client of a Free slot is at rest. -/
theorem Inv.free_quiet (inv : Inv s) {c : ClientPtr} {i : SlotIdx}
    (client : (s.slots i).client = some c) (free : (s.slots i).state = .free) :
    s.links c = .idle := by
  by_contra busy
  obtain ⟨j, clientJ, fits⟩ := inv.linked c busy
  exact fits.not_free busy (inv.ownClient j i c clientJ client ▸ free)

/-- A client no slot has yet is at rest. -/
theorem Inv.fresh_quiet (inv : Inv s) : s.links s.nextClient = .idle := by
  by_contra busy
  obtain ⟨i, client, -⟩ := inv.linked _ busy
  exact absurd (inv.known i _ client) (Nat.lt_irrefl _)

/-! ## What keeps it -/

/-- A step that moves no slot, no link and no claim. -/
theorem Inv.congr (inv : Inv s) (slots : s'.slots = s.slots) (links : s'.links = s.links)
    (nextClient : s'.nextClient = s.nextClient)
    (frames : ∀ t, (s'.tasks t).frame? = (s.tasks t).frame?) : Inv s' := by
  obtain ⟨clean, distinct, ownClient, known, linked, claims, claimOnce, backed⟩ := inv
  refine ⟨?_, ?_, ?_, ?_, ?_, ?_, ?_, ?_⟩
  · rw [slots]; exact clean
  · rw [slots]; exact distinct
  · rw [slots]; exact ownClient
  · rw [slots, nextClient]; exact known
  · rw [slots, links]; exact linked
  · intro t f held
    rw [frames] at held
    obtain ⟨a, b, c, d, e⟩ := claims t f held
    exact ⟨slots ▸ a, slots ▸ b, slots ▸ c, slots ▸ d, links ▸ e⟩
  · intro t t' f f' held held'
    rw [frames] at held held'
    exact claimOnce t t' f f' held held'
  · simp only [slots, links, frames]
    exact backed

/-- A step of one task that keeps its claim, or has none before and after. -/
theorem frames_update {t : TaskId} {pc : TaskPc} (same : pc.frame? = (s.tasks t).frame?)
    (u : TaskId) : ((Function.update s.tasks t pc) u).frame? = (s.tasks u).frame? := by
  by_cases here : u = t
  · subst here
    rw [Function.update_self, same]
  · rw [Function.update_of_ne here]

/-- A step of a link that is at work before and after, in the same slot state. -/
theorem Inv.setLink (inv : Inv s) {c : ClientPtr} {link : Link} (busy : s.links c ≠ .idle)
    (stays : link ≠ .idle) (fits : ∀ slot, (s.links c).Fits slot → link.Fits slot)
    (slots : s'.slots = s.slots) (links : s'.links = Function.update s.links c link)
    (nextClient : s'.nextClient = s.nextClient)
    (frames : ∀ t, (s'.tasks t).frame? = (s.tasks t).frame?) : Inv s' := by
  obtain ⟨clean, distinct, ownClient, known, linked, claims, claimOnce, backed⟩ := inv
  refine ⟨?_, ?_, ?_, ?_, ?_, ?_, ?_, ?_⟩
  · rw [slots]; exact clean
  · rw [slots]; exact distinct
  · rw [slots]; exact ownClient
  · rw [slots, nextClient]; exact known
  · intro d busyD
    rw [slots, links]
    by_cases here : d = c
    · subst here
      obtain ⟨i, client, was⟩ := linked d busy
      rw [Function.update_self]
      exact ⟨i, client, fits _ was⟩
    · rw [links, Function.update_of_ne here] at busyD
      rw [Function.update_of_ne here]
      exact linked d busyD
  · intro t f held
    rw [frames] at held
    obtain ⟨st, ad, cl, cb, quiet⟩ := claims t f held
    have elsewhere : f.client ≠ c := fun same => busy (same ▸ quiet)
    refine ⟨slots ▸ st, slots ▸ ad, slots ▸ cl, slots ▸ cb, ?_⟩
    rw [links, Function.update_of_ne elsewhere]
    exact quiet
  · intro t t' f f' held held'
    rw [frames] at held held'
    exact claimOnce t t' f f' held held'
  · intro i used
    rw [slots] at used
    obtain ⟨d, client, why⟩ := backed i used
    simp only [slots, links, frames]
    refine ⟨d, client, why.imp_left fun busyD => ?_⟩
    by_cases here : d = c
    · rw [here, Function.update_self]; exact stays
    · rw [Function.update_of_ne here]; exact busyD

/-- A Free slot is claimed for an address that is not in use. -/
theorem Inv.claim (inv : Inv s) {t : TaskId} {address : UInt64} {addressType : UInt8} {i : SlotIdx}
    (idle : (s.tasks t).frame? = none) (free : (s.slots i).state = .free)
    (unused : ∀ j, (s.slots j).state ≠ .free → (s.slots j).address ≠ address) :
    Inv (claim s t address addressType i) := by
  have quiet : s.links ((s.slots i).client.getD s.nextClient) = .idle := by
    cases client : (s.slots i).client with
    | none => exact inv.fresh_quiet
    | some c => exact inv.free_quiet client free
  have notHeld : ∀ u f, (s.tasks u).frame? = some f → f.slot ≠ i := by
    intro u f held here
    have := (inv.claims u f held).state
    rw [here, free] at this
    cases this
  have others : ∀ j, j ≠ i → (s.slots j).client ≠ some ((s.slots i).client.getD s.nextClient) := by
    intro j elsewhere same
    cases client : (s.slots i).client with
    | none =>
        rw [client] at same
        exact absurd (inv.known j _ same) (Nat.lt_irrefl _)
    | some c =>
        rw [client] at same
        exact elsewhere (inv.ownClient j i c same client)
  obtain ⟨clean, distinct, ownClient, known, linked, claims, claimOnce, backed⟩ := inv
  refine ⟨?_, ?_, ?_, ?_, ?_, ?_, ?_, ?_⟩
  · intro j
    simp only [Connection.claim, Function.update_apply]
    split
    · intro impossible; cases impossible
    · exact clean j
  · intro j k
    simp only [Connection.claim, Function.update_apply]
    grind
  · intro j k c
    simp only [Connection.claim, Function.update_apply]
    grind
  · intro j c
    simp only [Connection.claim, Function.update_apply]
    cases client : (s.slots i).client with
    | none => grind
    | some d => grind
  · intro c busy
    obtain ⟨j, client, fits⟩ := linked c busy
    have elsewhere : j ≠ i := fun here => fits.not_free busy (here ▸ free)
    refine ⟨j, ?_⟩
    simp only [Connection.claim, Function.update_of_ne elsewhere]
    exact ⟨client, fits⟩
  · intro u f held
    simp only [Connection.claim, Function.update_apply] at held
    split at held
    · simp only [TaskPc.frame?, Option.some.injEq] at held
      subst held
      refine ⟨?_, ?_, ?_, ?_, quiet⟩ <;> simp [Connection.claim]
    · have elsewhere := notHeld u f held
      obtain ⟨st, ad, cl, cb, q⟩ := claims u f held
      refine ⟨?_, ?_, ?_, ?_, q⟩ <;> simp only [Connection.claim, Function.update_of_ne elsewhere]
      all_goals assumption
  · intro u u' f f'
    simp only [Connection.claim, Function.update_apply]
    grind [TaskPc.frame?]
  · intro j used
    by_cases here : j = i
    · subst here
      refine ⟨(s.slots j).client.getD s.nextClient, by simp [Connection.claim], .inr ⟨t, ?_⟩⟩
      simp [Connection.claim, TaskPc.frame?]
    · simp only [Connection.claim, Function.update_of_ne here] at used ⊢
      obtain ⟨c, client, why⟩ := backed j used
      refine ⟨c, client, why.imp_right ?_⟩
      rintro ⟨u, f, held, atJ⟩
      have notT : u ≠ t := by
        rintro rfl
        rw [idle] at held
        cases held
      exact ⟨u, f, by rw [Function.update_of_ne notT]; exact held, atJ⟩

/-- A slot with a link at work takes another state in use, and the link follows. -/
theorem Inv.setState (inv : Inv s) {i : SlotIdx} {c : ClientPtr} {st : SlotState} {l : Link}
    (client : (s.slots i).client = some c) (busy : s.links c ≠ .idle) (stays : l ≠ .idle)
    (used : st ≠ .free) (fits : l.Fits { s.slots i with state := st })
    (slots : s'.slots = Function.update s.slots i { s.slots i with state := st })
    (links : s'.links = Function.update s.links c l)
    (nextClient : s'.nextClient = s.nextClient)
    (frames : ∀ t, (s'.tasks t).frame? = (s.tasks t).frame?) : Inv s' := by
  have was : (s.slots i).state ≠ .free := by
    obtain ⟨j, clientJ, fitsJ⟩ := inv.linked c busy
    exact inv.ownClient j i c clientJ client ▸ fitsJ.not_free busy
  have elsewhere : ∀ t f, (s.tasks t).frame? = some f → f.slot ≠ i :=
    fun t f held => inv.not_claimed client busy held
  have address : ∀ j, (s'.slots j).address = (s.slots j).address := by
    intro j
    rw [slots, Function.update_apply]
    split
    · rename_i here; rw [here]
    · rfl
  have clients : ∀ j, (s'.slots j).client = (s.slots j).client := by
    intro j
    rw [slots, Function.update_apply]
    split
    · rename_i here; rw [here]
    · rfl
  have free : ∀ j, (s'.slots j).state = .free ↔ (s.slots j).state = .free := by
    intro j
    rw [slots, Function.update_apply]
    split
    · rename_i here; rw [here]; exact ⟨fun h => absurd h used, fun h => absurd h was⟩
    · rfl
  obtain ⟨clean, distinct, ownClient, known, linked, claims, claimOnce, backed⟩ := inv
  refine ⟨?_, ?_, ?_, ?_, ?_, ?_, ?_, ?_⟩
  · intro j isFree
    rw [free] at isFree
    have elsewhereJ : j ≠ i := fun here => was (here ▸ isFree)
    rw [slots, Function.update_of_ne elsewhereJ]
    exact clean j isFree
  · simp only [ne_eq, free, address]
    exact distinct
  · simp only [clients]
    exact ownClient
  · simp only [clients, nextClient]
    exact known
  · intro d busyD
    by_cases here : d = c
    · subst here
      refine ⟨i, (clients i).trans client, ?_⟩
      rw [slots, links, Function.update_self, Function.update_self]
      exact fits
    · rw [links, Function.update_of_ne here] at busyD
      obtain ⟨j, clientJ, fitsJ⟩ := linked d busyD
      have notI : j ≠ i := by
        rintro rfl
        exact here (Option.some.inj (clientJ.symm.trans client))
      refine ⟨j, (clients j).trans clientJ, ?_⟩
      rw [slots, links, Function.update_of_ne here, Function.update_of_ne notI]
      exact fitsJ
  · intro t f held
    rw [frames] at held
    have notI := elsewhere t f held
    obtain ⟨st', ad, cl, cb, quiet⟩ := claims t f held
    have notC : f.client ≠ c := fun same => busy (same ▸ quiet)
    have sameSlot : s'.slots f.slot = s.slots f.slot := by
      rw [slots, Function.update_of_ne notI]
    refine ⟨sameSlot ▸ st', sameSlot ▸ ad, sameSlot ▸ cl, sameSlot ▸ cb, ?_⟩
    rw [links, Function.update_of_ne notC]
    exact quiet
  · intro t t' f f' held held'
    rw [frames] at held held'
    exact claimOnce t t' f f' held held'
  · intro j usedJ
    obtain ⟨d, clientJ, why⟩ := backed j (fun isFree => usedJ ((free j).mpr isFree))
    simp only [clients, frames, links]
    refine ⟨d, clientJ, why.imp_left fun busyD => ?_⟩
    by_cases here : d = c
    · rw [here, Function.update_self]; exact stays
    · rw [Function.update_of_ne here]; exact busyD

/-- A slot is released together with its link or its claim. -/
theorem Inv.release (inv : Inv s) {i : SlotIdx} {c : ClientPtr}
    (client : (s.slots i).client = some c)
    (slots : s'.slots = Function.update s.slots i (s.slots i).reset)
    (links : s'.links = Function.update s.links c .idle)
    (nextClient : s'.nextClient = s.nextClient)
    (frames : ∀ t f, (s'.tasks t).frame? = some f ↔ (s.tasks t).frame? = some f ∧ f.slot ≠ i) :
    Inv s' := by
  have clients : ∀ j, (s'.slots j).client = (s.slots j).client := by
    intro j
    rw [slots, Function.update_apply]
    split
    · rename_i here; rw [here]; rfl
    · rfl
  have other : ∀ j, (s'.slots j).state ≠ .free → j ≠ i ∧ s'.slots j = s.slots j := by
    intro j used
    have notI : j ≠ i := by
      rintro rfl
      rw [slots, Function.update_self] at used
      exact used rfl
    exact ⟨notI, by rw [slots, Function.update_of_ne notI]⟩
  have quietC : s'.links c = .idle := by rw [links, Function.update_self]
  obtain ⟨clean, distinct, ownClient, known, linked, claims, claimOnce, backed⟩ := inv
  refine ⟨?_, ?_, ?_, ?_, ?_, ?_, ?_, ?_⟩
  · intro j
    rw [slots, Function.update_apply]
    split
    · exact fun _ => ⟨rfl, rfl⟩
    · exact clean j
  · intro j k usedJ usedK same
    obtain ⟨-, sameJ⟩ := other j usedJ
    obtain ⟨-, sameK⟩ := other k usedK
    rw [sameJ] at usedJ same
    rw [sameK] at usedK same
    exact distinct j k usedJ usedK same
  · simp only [clients]
    exact ownClient
  · simp only [clients, nextClient]
    exact known
  · intro d busy
    have notC : d ≠ c := fun here => busy (here ▸ quietC)
    rw [links, Function.update_of_ne notC] at busy ⊢
    obtain ⟨j, clientJ, fits⟩ := linked d busy
    have notI : j ≠ i := by
      rintro rfl
      exact notC (Option.some.inj (clientJ.symm.trans client))
    exact ⟨j, (clients j).trans clientJ, by rw [slots, Function.update_of_ne notI]; exact fits⟩
  · intro t f held
    obtain ⟨heldBefore, notI⟩ := (frames t f).mp held
    obtain ⟨st, ad, cl, cb, quiet⟩ := claims t f heldBefore
    have sameSlot : s'.slots f.slot = s.slots f.slot := by
      rw [slots, Function.update_of_ne notI]
    refine ⟨sameSlot ▸ st, sameSlot ▸ ad, sameSlot ▸ cl, sameSlot ▸ cb, ?_⟩
    rw [links, Function.update_apply]
    split
    · rfl
    · exact quiet
  · intro t t' f f' held held'
    exact claimOnce t t' f f' ((frames t f).mp held).1 ((frames t' f').mp held').1
  · intro j used
    obtain ⟨notI, same⟩ := other j used
    rw [same] at used
    obtain ⟨d, clientJ, why⟩ := backed j used
    have notC : d ≠ c := by
      rintro rfl
      exact notI (ownClient j i d clientJ client)
    refine ⟨d, (clients j).trans clientJ, ?_⟩
    rw [links, Function.update_of_ne notC]
    apply why.imp_right
    rintro ⟨t, f, held, atJ⟩
    exact ⟨t, f, (frames t f).mpr ⟨held, atJ ▸ notI⟩, atJ⟩

/-! ## Every action keeps it -/

theorem inv_connectLocked (inv : Inv s) {t : TaskId} (idle : s.tasks t = .idle)
    (address : UInt64) (addressType : UInt8) : Inv (connectLocked s t address addressType) := by
  unfold connectLocked
  cases found : s.slots.findByAddrLocked address with
  | some i => exact inv.congr rfl rfl rfl fun _ => rfl
  | none =>
      cases alloc : s.slots.allocLocked with
      | none => exact inv.congr rfl rfl rfl fun _ => rfl
      | some i =>
          exact inv.claim (by rw [idle]; rfl) (SlotTable.allocLocked_some alloc)
            (SlotTable.findByAddrLocked_none.mp found)

/-- The claimed slot goes over to its attempt, or stays claimed for the release. -/
theorem inv_connectIssue (inv : Inv s) {t : TaskId} {f : Frame}
    (guard : s.tasks t = .claimed .issue f) (issued : Bool) : Inv (connectIssue s t f issued) := by
  have held : (s.tasks t).frame? = some f := by rw [guard]; rfl
  cases issued with
  | false => exact inv.congr rfl rfl rfl (frames_update held.symm)
  | true =>
      have claim := inv.claims t f held
      have once : ∀ u g, (s.tasks u).frame? = some g → u ≠ t → g.slot ≠ f.slot :=
        fun u g heldU notT same => notT (inv.claimOnce u t g f heldU held same)
      obtain ⟨clean, distinct, ownClient, known, linked, claims, claimOnce, backed⟩ := inv
      have frames : ∀ u g, ((Function.update s.tasks t .idle) u).frame? = some g →
          (s.tasks u).frame? = some g ∧ g.slot ≠ f.slot := by
        intro u g heldU
        rw [Function.update_apply] at heldU
        split at heldU
        · cases heldU
        · rename_i notT
          exact ⟨heldU, once u g heldU notT⟩
      refine ⟨clean, distinct, ownClient, known, ?_, ?_, ?_, ?_⟩
      · intro c busy
        simp only [connectIssue, if_true, Function.update_apply] at busy ⊢
        split at busy
        · rename_i here
          exact ⟨f.slot, here ▸ claim.client, by rw [if_pos here]; exact ⟨claim.state, claim.cb⟩⟩
        · rename_i notHere
          rw [if_neg notHere]
          exact linked c busy
      · intro u g heldU
        obtain ⟨before, notSlot⟩ := frames u g heldU
        obtain ⟨st, ad, cl, cb, quiet⟩ := claims u g before
        have notClient : g.client ≠ f.client :=
          fun same => notSlot (ownClient _ _ _ cl (same ▸ claim.client))
        refine ⟨st, ad, cl, cb, ?_⟩
        simp only [connectIssue, if_true, Function.update_of_ne notClient]
        exact quiet
      · intro u u' g g' heldU heldU'
        exact claimOnce u u' g g' (frames u g heldU).1 (frames u' g' heldU').1
      · intro i used
        obtain ⟨c, client, why⟩ := backed i used
        refine ⟨c, client, ?_⟩
        simp only [connectIssue, if_true, Function.update_apply]
        rcases why with busy | ⟨u, g, heldU, atI⟩
        · left
          split
          · exact Link.noConfusion
          · exact busy
        · by_cases here : u = t
          · subst here
            have same : g = f := Option.some.inj (heldU.symm.trans held)
            subst same
            subst atI
            have sameClient : c = g.client := Option.some.inj (client.symm.trans claim.client)
            left; rw [if_pos sameClient]; simp
          · right
            exact ⟨u, g, by rw [if_neg here]; exact heldU, atI⟩

theorem inv_connectUnissued (inv : Inv s) {t : TaskId} {f : Frame}
    (guard : s.tasks t = .claimed .unissued f) : Inv (connectUnissued s t f) := by
  have held : (s.tasks t).frame? = some f := by rw [guard]; rfl
  have claim := inv.claims t f held
  refine inv.release claim.client rfl ?_ rfl ?_
  · rw [← claim.quiet, Function.update_eq_self]
    rfl
  · intro u g
    simp only [connectUnissued, Function.update_apply]
    split
    · rename_i here
      subst here
      rw [held]
      simp only [TaskPc.frame?, reduceCtorEq, false_iff, not_and, not_not]
      intro same
      rw [Option.some.inj same]
    · rename_i notT
      exact ⟨fun heldU => ⟨heldU, fun same => notT (inv.claimOnce u t g f heldU held same)⟩,
        And.left⟩

theorem inv_disconnectLocked (inv : Inv s) {t : TaskId} (idle : s.tasks t = .idle)
    (address : UInt64) : Inv (disconnectLocked s t address) := by
  unfold disconnectLocked
  cases found : s.slots.findByAddrLocked address with
  | none => exact inv
  | some i =>
      by_cases isConnected : (s.slots i).state = .connected
      · simp only [isConnected, if_true]
        obtain ⟨c, client, why⟩ := inv.backed i (by rw [isConnected]; decide)
        have busy : s.links c ≠ .idle := by
          rcases why with busy | ⟨u, g, held, atI⟩
          · exact busy
          · have := (inv.claims u g held).state
            rw [atI, isConnected] at this
            cases this
        obtain ⟨j, clientJ, fits⟩ := inv.linked c busy
        have same := inv.ownClient j i c clientJ client
        subst same
        refine inv.setState (l := s.links c) client busy busy (by decide) ?_ rfl
          (Function.update_eq_self c s.links).symm rfl (frames_update ?_)
        · cases link : s.links c with
          | idle => trivial
          | attempting k | failed k => simp [link, Link.Fits, isConnected] at fits
          | up k announced lost =>
              cases announced with
              | false => simp [link, Link.Fits, isConnected] at fits
              | true =>
                  rw [link] at fits
                  exact ⟨.inr rfl, fits.2⟩
        · rw [client, idle]; rfl
      · simp only [isConnected, if_false]
        exact inv

/-! The three callbacks find the slot that waits for them. -/

theorem onConnect_spec (inv : Inv s) {c : ClientPtr} {k : CallId} {lost : Bool}
    (link : s.links c = .up k false lost) (mtu : UInt16) :
    ∃ i, (s.slots i).client = some c ∧ (s.slots i).state = .connecting ∧
      (s.slots i).cb = some k ∧
      onConnect s c k lost mtu =
        { s with
          links := Function.update s.links c (.up k true lost)
          slots := Function.update s.slots i { s.slots i with state := .connected }
          host := .callback (some k) (s.slots i).address ⟨true, mtu, 0⟩ } := by
  obtain ⟨i, found, client, fits⟩ := inv.lookup (by rw [link]; simp : s.links c ≠ .idle)
  rw [link] at fits
  refine ⟨i, client, fits.1, fits.2, ?_⟩
  simp only [onConnect, found, fits.1, fits.2, if_true]

theorem onConnectFail_spec (inv : Inv s) {c : ClientPtr} {k : CallId}
    (link : s.links c = .failed k) (reason : Int32) :
    ∃ i, (s.slots i).client = some c ∧ (s.slots i).state = .connecting ∧
      (s.slots i).cb = some k ∧
      onConnectFail s c reason =
        { s with
          links := Function.update s.links c .idle
          slots := Function.update s.slots i (s.slots i).reset
          host := .callback (some k) (s.slots i).address ⟨false, 0, reason⟩ } := by
  obtain ⟨i, found, client, fits⟩ := inv.lookup (by rw [link]; simp : s.links c ≠ .idle)
  rw [link] at fits
  refine ⟨i, client, fits.1, fits.2, ?_⟩
  simp only [onConnectFail, found, fits.2]

theorem onDisconnect_spec (inv : Inv s) {c : ClientPtr} {k : CallId} {lost : Bool}
    (link : s.links c = .up k true lost) (reason : Int32) :
    ∃ i, (s.slots i).client = some c ∧
      ((s.slots i).state = .connected ∨ (s.slots i).state = .disconnecting) ∧
      (s.slots i).cb = some k ∧
      onDisconnect s c reason =
        { s with
          links := Function.update s.links c .idle
          slots := Function.update s.slots i (s.slots i).reset
          host := .callback (some k) (s.slots i).address ⟨false, 0, reason⟩ } := by
  obtain ⟨i, found, client, fits⟩ := inv.lookup (by rw [link]; simp : s.links c ≠ .idle)
  rw [link] at fits
  refine ⟨i, client, fits.1, fits.2, ?_⟩
  simp only [onDisconnect, found, fits.2]

/-- Releasing the slot of a link takes no claim away. -/
theorem Inv.frames_release (inv : Inv s) {i : SlotIdx} {c : ClientPtr}
    (client : (s.slots i).client = some c) (busy : s.links c ≠ .idle) (t : TaskId) (f : Frame) :
    (s.tasks t).frame? = some f ↔ (s.tasks t).frame? = some f ∧ f.slot ≠ i :=
  ⟨fun held => ⟨held, inv.not_claimed client busy held⟩, And.left⟩

theorem Link.Fits.hangUp {link : Link} {slot : Slot} (fits : link.Fits slot) :
    link.hangUp.Fits slot := by
  cases link with
  | idle | attempting k | failed k => exact fits
  | up k announced lost => cases announced <;> exact fits

theorem inv_disconnectCall (inv : Inv s) {t : TaskId} {c : ClientPtr}
    (guard : s.tasks t = .disconnectCall c) : Inv (effect s (.disconnectCall t c)) := by
  have frames : TaskPc.idle.frame? = (s.tasks t).frame? := by rw [guard]; rfl
  by_cases busy : s.links c = .idle
  · refine inv.congr rfl ?_ rfl (frames_update frames)
    have atRest : (s.links c).hangUp = s.links c := by rw [busy]; rfl
    simp only [effect, atRest, Function.update_eq_self]
  · refine inv.setLink busy ?_ (fun _ => Link.Fits.hangUp) rfl rfl rfl (frames_update frames)
    cases link : s.links c with
    | idle => exact absurd link busy
    | attempting k | failed k | up k announced lost => exact Link.noConfusion

theorem inv_step (inv : Inv s) (a : Action) (guard : Guard s a) : Inv (effect s a) := by
  cases a with
  | connectLocked t address addressType => exact inv_connectLocked inv guard address addressType
  | connectNotify t f | connectStopScan t f | releaseNotify t f cb | connectCallback t f cb =>
      refine inv.congr rfl rfl rfl (frames_update ?_)
      rw [show s.tasks t = _ from guard]
      rfl
  | connectIssue t f issued => exact inv_connectIssue inv guard issued
  | connectUnissued t f => exact inv_connectUnissued inv guard
  | disconnectLocked t address => exact inv_disconnectLocked inv guard address
  | disconnectCall t c => exact inv_disconnectCall inv guard
  | established c k | attemptFailed c k | linkLost c k announced =>
      have link : s.links c = _ := guard
      refine inv.setLink (by rw [link]; simp) (by simp) ?_ rfl rfl rfl fun _ => rfl
      intro slot fits
      rw [link] at fits
      first
      | exact fits
      | (cases announced <;> exact fits)
  | onConnect c k lost mtu =>
      obtain ⟨i, client, st, cb, spec⟩ := onConnect_spec inv guard.2 mtu
      rw [effect, spec]
      exact inv.setState (l := .up k true lost) client (by rw [guard.2]; simp) (by simp)
        (by decide) ⟨.inl rfl, cb⟩ rfl rfl rfl fun _ => rfl
  | onConnectFail c k reason =>
      obtain ⟨i, client, st, cb, spec⟩ := onConnectFail_spec inv guard.2 reason
      rw [effect, spec]
      exact inv.release client rfl rfl rfl (inv.frames_release client (by rw [guard.2]; simp))
  | onDisconnect c k reason =>
      obtain ⟨i, client, st, cb, spec⟩ := onDisconnect_spec inv guard.2 reason
      rw [effect, spec]
      exact inv.release client rfl rfl rfl (inv.frames_release client (by rw [guard.2]; simp))
  | hostCallback cb address r | hostNotify | hostResume =>
      exact inv.congr rfl rfl rfl fun _ => rfl

end

theorem inv_reachable {s : State} (path : system.Reachable s) : Inv s :=
  path.invariant inv_init fun _ a held guard => inv_step held a guard

/-! ## What the table looks like from outside -/

/-- **The slot table is consistent in every reachable state.** Slots in use have
pairwise distinct addresses, no client belongs to two slots, a Free slot is
empty, and the two read-outs agree with the table and with each other. -/
theorem slot_table_consistent (s : State) (path : system.Reachable s) :
    (∀ i j, (s.slots i).state ≠ .free → (s.slots j).state ≠ .free →
      (s.slots i).address = (s.slots j).address → i = j) ∧
    (∀ i j c, (s.slots i).client = some c → (s.slots j).client = some c → i = j) ∧
    (∀ i, (s.slots i).state = .free → (s.slots i).address = 0 ∧ (s.slots i).cb = none) ∧
    s.slots.freeSlots + (s.slots.inUseAddresses maxConnections).length = maxConnections ∧
    (s.slots.inUseAddresses maxConnections).Nodup ∧
    ∀ address, address ∈ s.slots.inUseAddresses maxConnections ↔
      ∃ i, (s.slots i).state ≠ .free ∧ (s.slots i).address = address := by
  have inv := inv_reachable path
  exact ⟨inv.distinct, inv.ownClient, inv.clean, SlotTable.freeSlots_add_inUse s.slots,
    SlotTable.inUseAddresses_nodup inv.distinct, fun _ => SlotTable.mem_inUseAddresses⟩

/-- Two calls race for one address and a third takes another: the run is real
and the table holds two used slots. -/
def raceSchedule : List Action :=
  [.connectLocked 0 7 0, .connectLocked 1 7 0, .connectLocked 2 9 1,
   .connectNotify 0 ⟨0, 7, 0, slotNo 0, 0⟩, .connectStopScan 0 ⟨0, 7, 0, slotNo 0, 0⟩,
   .connectIssue 0 ⟨0, 7, 0, slotNo 0, 0⟩ true, .established 0 0, .onConnect 0 0 false 247]

theorem slot_table_consistent_race :
    ∃ s, system.Reachable s ∧ s.slots.inUseAddresses maxConnections = [7, 9] ∧
      s.slots.freeSlots + (s.slots.inUseAddresses maxConnections).length = maxConnections := by
  have path := system.reachable_final raceSchedule
  exact ⟨_, path, by decide, (slot_table_consistent _ path).2.2.2.1⟩

end NimbleProxy.Backend.Connection
