/-
# Theory.Brackets -- how deep a JSON text is nested at its end

A text is scanned byte by byte for what nests it: brackets outside of strings. A reader that
has read a value has scanned as many closing as opening brackets (`balanced_of_read`), so a
text that ends inside of a bracket is none (`parse_eq_none`). How deep a cut text ends is
bounded from below by counting: a closing bracket leads out of one level at most
(`depth_le`).
-/
import NimbleProxy.Theory.Json

namespace NimbleProxy.Theory.Json

set_option autoImplicit false

/-- Where a scan is. -/
inductive Place
  | outside
  | string
  /-- behind a backslash -/
  | escaped
  deriving DecidableEq

def isOpening (c : UInt8) : Bool := c = 91 ∨ c = 123

def isClosing (c : UInt8) : Bool := c = 93 ∨ c = 125

/-- A byte, at a place and a depth. -/
def scanByte : Place × Nat → UInt8 → Place × Nat
  | (.outside, depth), c =>
      if c = 34 then (.string, depth)
      else if isOpening c then (.outside, depth + 1)
      else if isClosing c then (.outside, depth - 1)
      else (.outside, depth)
  | (.string, depth), c =>
      if c = 92 then (.escaped, depth) else if c = 34 then (.outside, depth) else (.string, depth)
  | (.escaped, depth), _ => (.string, depth)

def scan (start : Place × Nat) (bytes : List UInt8) : Place × Nat := bytes.foldl scanByte start

/-- A piece that leads from one place to another and back to the same depth. -/
def Leads (p q : Place) (bytes : List UInt8) : Prop :=
  ∀ depth, scan (p, depth) bytes = (q, depth)

/-- A piece that is as a whole outside of strings. -/
abbrev Balanced (bytes : List UInt8) : Prop := Leads .outside .outside bytes

section Pieces

variable {p q r : Place} {front back bytes : List UInt8} {c : UInt8} {start : Place × Nat}

theorem scan_nil : scan start [] = start := rfl

theorem scan_cons : scan start (c :: bytes) = scan (scanByte start c) bytes := rfl

theorem scan_append : scan start (front ++ back) = scan (scan start front) back :=
  List.foldl_append

theorem Leads.refl (p : Place) : Leads p p [] := fun _ => rfl

theorem Leads.append (first : Leads p q front) (second : Leads q r back) :
    Leads p r (front ++ back) := by
  intro depth
  rw [scan_append, first depth, second depth]

theorem Leads.cons (first : ∀ depth, scanByte (p, depth) c = (q, depth)) (second : Leads q r bytes) :
    Leads p r (c :: bytes) := by
  intro depth
  rw [scan_cons, first depth, second depth]

/-- A byte that nests nothing. -/
theorem scanByte_outside (noQuote : c ≠ 34) (noOpening : isOpening c = false)
    (noClosing : isClosing c = false) (depth : Nat) :
    scanByte (.outside, depth) c = (.outside, depth) := by
  simp [scanByte, noQuote, noOpening, noClosing]

theorem scanByte_string (noQuote : c ≠ 34) (noBackslash : c ≠ 92) (depth : Nat) :
    scanByte (.string, depth) c = (.string, depth) := by
  simp [scanByte, noQuote, noBackslash]

theorem balanced_of_forall
    (plain : ∀ c ∈ bytes, c ≠ 34 ∧ isOpening c = false ∧ isClosing c = false) : Balanced bytes := by
  induction bytes with
  | nil => exact Leads.refl _
  | cons c rest ih =>
      rw [List.forall_mem_cons] at plain
      exact Leads.cons (scanByte_outside plain.1.1 plain.1.2.1 plain.1.2.2) (ih plain.2)

theorem leads_string_of_forall (plain : ∀ c ∈ bytes, c ≠ 34 ∧ c ≠ 92) :
    Leads .string .string bytes := by
  induction bytes with
  | nil => exact Leads.refl _
  | cons c rest ih =>
      rw [List.forall_mem_cons] at plain
      exact Leads.cons (scanByte_string plain.1.1 plain.1.2) (ih plain.2)

/-- A list between its brackets. -/
theorem Balanced.enclose {opening closing : UInt8} (opens : opening = 91 ∧ closing = 93 ∨
    opening = 123 ∧ closing = 125) (inner : Balanced bytes) :
    Balanced (opening :: (bytes ++ [closing])) := by
  intro depth
  rw [scan_cons, scan_append]
  have enters : scanByte (.outside, depth) opening = (.outside, depth + 1) := by
    rcases opens with ⟨rfl, -⟩ | ⟨rfl, -⟩ <;> rfl
  have leaves : scanByte (.outside, depth + 1) closing = (.outside, depth) := by
    rcases opens with ⟨-, rfl⟩ | ⟨-, rfl⟩ <;> rfl
  rw [enters, inner (depth + 1)]
  exact leaves

end Pieces

/-! ## What a reader has read -/

/-- A reader stops behind a piece that leads from `p` outside. -/
def Consumes {α : Type} (p : Place) (item : List UInt8 → Option (α × List UInt8)) : Prop :=
  ∀ bytes x rest, item bytes = some (x, rest) →
    ∃ used, bytes = used ++ rest ∧ Leads p .outside used

theorem isDigit_facts {c : UInt8} (digit : isDigit c = true) :
    c ≠ 34 ∧ isOpening c = false ∧ isClosing c = false := by
  refine ⟨?_, ?_, ?_⟩
  · rintro rfl
    cases digit
  · by_contra opening
    rw [Bool.not_eq_false, isOpening, decide_eq_true_eq] at opening
    rcases opening with rfl | rfl <;> cases digit
  · by_contra closing
    rw [Bool.not_eq_false, isClosing, decide_eq_true_eq] at closing
    rcases closing with rfl | rfl <;> cases digit

theorem consumes_readNatural : Consumes .outside readNatural := by
  intro bytes n rest read
  unfold readNatural at read
  dsimp only at read
  split at read
  · cases read
  · rw [Option.some.injEq, Prod.mk.injEq] at read
    obtain ⟨-, rfl⟩ := read
    exact ⟨_, List.takeWhile_append_dropWhile.symm,
      balanced_of_forall fun c mem => isDigit_facts (List.mem_takeWhile_imp mem)⟩

theorem consumes_readInteger : Consumes .outside readInteger := by
  intro bytes i rest read
  unfold readInteger at read
  split at read
  · rename_i minus
    obtain ⟨⟨n, rest'⟩, natural, same⟩ := Option.map_eq_some_iff.mp read
    cases same
    obtain ⟨used, split, leads⟩ := consumes_readNatural _ n rest natural
    obtain ⟨tail, rfl⟩ := List.head?_eq_some_iff.mp minus
    exact ⟨45 :: used, congrArg (45 :: ·) split,
      Leads.cons (scanByte_outside (by decide) rfl rfl) leads⟩
  · obtain ⟨⟨n, rest'⟩, natural, same⟩ := Option.map_eq_some_iff.mp read
    cases same
    exact consumes_readNatural _ n rest natural

theorem consumes_readWord : Consumes .outside readWord := by
  intro bytes v rest read
  obtain ⟨word, found, same⟩ := Option.map_eq_some_iff.mp read
  cases same
  have front : word.1.isPrefixOf bytes = true :=
    List.find?_some (p := fun word : List UInt8 × Json => word.1.isPrefixOf bytes) found
  have plain : ∀ word ∈ words, ∀ c ∈ word.1,
      c ≠ 34 ∧ isOpening c = false ∧ isClosing c = false := by
    intro word mem c inside
    have all : words.all (fun word => word.1.all fun c =>
        c != 34 && (isOpening c == false && isClosing c == false)) = true := by decide
    have each := List.all_eq_true.mp (List.all_eq_true.mp all word mem) c inside
    simpa only [Bool.and_eq_true, bne_iff_ne, beq_iff_eq] using each
  have whole := List.prefix_iff_eq_append.mp (List.isPrefixOf_iff_prefix.mp front)
  exact ⟨word.1, whole.symm,
    balanced_of_forall (plain word (List.mem_of_find?_eq_some found))⟩

theorem hexValue_facts {c : UInt8} {v : Nat} (value : hexValue c = some v) : c ≠ 34 ∧ c ≠ 92 := by
  constructor <;> rintro rfl <;> cases value

/-- A character of a string that is not its end. -/
theorem leads_readChar {bytes c rest : List UInt8} (inside : bytes.head? ≠ some 34)
    (read : readChar bytes = some (c, rest)) :
    ∃ used, bytes = used ++ rest ∧ Leads .string .string used := by
  have single {c : UInt8} (noBackslash : c ≠ 92) (noQuote : c ≠ 34) : Leads .string .string [c] :=
    leads_string_of_forall (List.forall_mem_singleton.mpr ⟨noQuote, noBackslash⟩)
  rcases bytes with _ | ⟨c, _ | ⟨e, tail⟩⟩
  · cases read
  · simp only [readChar] at read
    split at read
    · cases read
    · rename_i plain
      cases read
      exact ⟨[c], rfl, single (fun same => plain (.inl same)) (by simpa using inside)⟩
  · simp only [readChar] at read
    split at read
    · rename_i backslash
      subst backslash
      have escape : Leads .string .string [92, e] := fun _ => rfl
      split at read
      · rename_i unicode
        subst unicode
        rcases tail with _ | ⟨x, _ | ⟨y, _ | ⟨z, _ | ⟨w, tail⟩⟩⟩⟩
        · cases read
        · cases read
        · cases read
        · cases read
        · simp only [readUnicode, Option.bind_eq_bind, Option.bind_eq_some_iff] at read
          obtain ⟨_, hx, _, hy, _, hz, _, hw, _, -, same⟩ := read
          cases same
          refine ⟨[92, 117] ++ [x, y, z, w], rfl, escape.append (leads_string_of_forall ?_)⟩
          simp only [List.forall_mem_cons, List.not_mem_nil, false_imp_iff, implies_true, and_true]
          exact ⟨hexValue_facts hx, hexValue_facts hy, hexValue_facts hz, hexValue_facts hw⟩
      · obtain ⟨_, -, same⟩ := Option.map_eq_some_iff.mp read
        cases same
        exact ⟨[92, e], rfl, escape⟩
    · split at read
      · cases read
      · rename_i noBackslash _
        cases read
        exact ⟨[c], rfl, single noBackslash (by simpa using inside)⟩

theorem consumes_readString (fuel : Nat) : Consumes .string (readString fuel) := by
  induction fuel with
  | zero => exact nofun
  | succ fuel ih =>
      intro bytes s rest read
      simp only [readString] at read
      split at read
      · rename_i quote
        obtain ⟨tail, rfl⟩ := List.head?_eq_some_iff.mp quote
        cases read
        exact ⟨[34], rfl, fun _ => rfl⟩
      · rename_i inside
        simp only [Option.bind_eq_bind, Option.bind_eq_some_iff] at read
        obtain ⟨⟨c, rest'⟩, char, ⟨s', rest''⟩, tail, same⟩ := read
        cases same
        obtain ⟨used, rfl, leads⟩ := leads_readChar inside char
        obtain ⟨used', rfl, leads'⟩ := ih _ _ _ tail
        exact ⟨used ++ used', (List.append_assoc _ _ _).symm, leads.append leads'⟩

section Elements

variable {α : Type} {close : UInt8} {item : List UInt8 → Option (α × List UInt8)}

/-- Items up to the closing bracket, which is not among them. -/
theorem consumes_readElements (items : Consumes .outside item) {fuel : Nat} {bytes : List UInt8}
    {xs : List α} {rest : List UInt8} (read : readElements close item fuel bytes = some (xs, rest)) :
    ∃ used, bytes = used ++ close :: rest ∧ Balanced used := by
  induction fuel generalizing bytes xs with
  | zero => cases read
  | succ fuel ih =>
      simp only [readElements, Option.bind_eq_bind, Option.bind_eq_some_iff] at read
      obtain ⟨⟨x, rest'⟩, first, read⟩ := read
      obtain ⟨used, rfl, leads⟩ := items _ _ _ first
      dsimp only at read
      split at read
      · rename_i closes
        obtain ⟨tail, rfl⟩ := List.head?_eq_some_iff.mp closes
        cases read
        exact ⟨used, rfl, leads⟩
      · split at read
        · cases read
        · rename_i comma
          rw [Decidable.not_not] at comma
          obtain ⟨tail, rfl⟩ := List.head?_eq_some_iff.mp comma
          simp only [Option.bind_eq_some_iff] at read
          obtain ⟨⟨xs', rest''⟩, more, same⟩ := read
          cases same
          obtain ⟨used', tail_eq, leads'⟩ := ih more
          refine ⟨used ++ 44 :: used', ?_, leads.append (Leads.cons (fun _ => rfl) leads')⟩
          rw [List.tail_cons] at tail_eq
          rw [tail_eq, List.append_assoc, List.cons_append]

theorem consumes_readList (items : Consumes .outside item) {fuel : Nat} {bytes : List UInt8}
    {xs : List α} {rest : List UInt8} (read : readList close item fuel bytes = some (xs, rest)) :
    ∃ used, bytes = used ++ close :: rest ∧ Balanced used := by
  unfold readList at read
  split at read
  · rename_i closes
    obtain ⟨tail, rfl⟩ := List.head?_eq_some_iff.mp closes
    cases read
    exact ⟨[], rfl, Leads.refl _⟩
  · exact consumes_readElements items read

theorem consumes_readMember (items : Consumes .outside item) (fuel : Nat) :
    Consumes .outside (readMember item fuel) := by
  intro bytes m rest read
  simp only [readMember, Option.bind_eq_bind] at read
  split at read
  · cases read
  · rename_i quote
    rw [Decidable.not_not] at quote
    obtain ⟨tail, rfl⟩ := List.head?_eq_some_iff.mp quote
    simp only [Option.bind_eq_some_iff] at read
    obtain ⟨⟨key, rest'⟩, name, read⟩ := read
    obtain ⟨used, tail_eq, leads⟩ := consumes_readString fuel _ _ _ name
    dsimp only at read
    split at read
    · cases read
    · rename_i colon
      rw [Decidable.not_not] at colon
      obtain ⟨tail', rfl⟩ := List.head?_eq_some_iff.mp colon
      simp only [Option.bind_eq_some_iff] at read
      obtain ⟨⟨value, rest''⟩, second, same⟩ := read
      cases same
      obtain ⟨used', tail_eq', leads'⟩ := items _ _ _ second
      rw [List.tail_cons] at tail_eq tail_eq'
      refine ⟨34 :: (used ++ 58 :: used'), ?_, ?_⟩
      · rw [tail_eq, tail_eq', List.cons_append, List.append_assoc, List.cons_append]
      · exact Leads.cons (fun _ => rfl) (leads.append (Leads.cons (fun _ => rfl) leads'))

end Elements

theorem consumes_read (fuel : Nat) : Consumes .outside (read fuel) := by
  induction fuel with
  | zero => exact nofun
  | succ fuel ih =>
      intro bytes v rest value
      simp only [read] at value
      split at value
      · rename_i quote
        obtain ⟨tail, rfl⟩ := List.head?_eq_some_iff.mp quote
        obtain ⟨⟨s, rest'⟩, string, same⟩ := Option.map_eq_some_iff.mp value
        cases same
        obtain ⟨used, split, leads⟩ := consumes_readString fuel _ _ _ string
        exact ⟨34 :: used, congrArg (34 :: ·) split, Leads.cons (fun _ => rfl) leads⟩
      split at value
      · rename_i bracket
        obtain ⟨tail, rfl⟩ := List.head?_eq_some_iff.mp bracket
        obtain ⟨⟨items, rest'⟩, list, same⟩ := Option.map_eq_some_iff.mp value
        cases same
        obtain ⟨used, split, leads⟩ := consumes_readList ih list
        refine ⟨91 :: (used ++ [93]), ?_, leads.enclose (.inl ⟨rfl, rfl⟩)⟩
        rw [List.tail_cons] at split
        simp [split]
      split at value
      · rename_i brace
        obtain ⟨tail, rfl⟩ := List.head?_eq_some_iff.mp brace
        obtain ⟨⟨members, rest'⟩, list, same⟩ := Option.map_eq_some_iff.mp value
        cases same
        obtain ⟨used, split, leads⟩ := consumes_readList (consumes_readMember ih fuel) list
        refine ⟨123 :: (used ++ [125]), ?_, leads.enclose (.inr ⟨rfl, rfl⟩)⟩
        rw [List.tail_cons] at split
        simp [split]
      rcases Option.or_eq_some_iff.mp value with word | ⟨-, number⟩
      · exact consumes_readWord _ v rest word
      · obtain ⟨⟨n, rest'⟩, integer, same⟩ := Option.map_eq_some_iff.mp number
        cases same
        exact consumes_readInteger _ _ _ integer

/-- **A text that ends inside of a bracket or of a string is not read.** -/
theorem parse_eq_none {bytes : List UInt8} (open_ : scan (.outside, 0) bytes ≠ (.outside, 0)) :
    parse bytes = none := by
  unfold parse
  split
  · rename_i v value
    obtain ⟨used, split, leads⟩ := consumes_read _ _ v [] value
    rw [List.append_nil] at split
    exact absurd (split ▸ leads 0) open_
  · rfl

/-- What is written is balanced. -/
theorem balanced_render (v : Json) : Balanced v.render := by
  have value := read_render v _ (Nat.le_refl _) [] stops_nil
  obtain ⟨used, split, leads⟩ := consumes_read _ _ v [] value
  rw [List.append_nil, List.append_nil] at split
  exact split ▸ leads

/-- A closing bracket leads out of one level. -/
theorem depth_le (start : Place × Nat) (bytes : List UInt8) :
    start.2 ≤ (scan start bytes).2 + bytes.countP isClosing := by
  induction bytes generalizing start with
  | nil => exact Nat.le_refl _
  | cons c rest ih =>
      have tail := ih (scanByte start c)
      have head : start.2 ≤ (scanByte start c).2 + (isClosing c).toNat := by
        obtain ⟨p, depth⟩ := start
        cases p with
        | outside =>
            simp only [scanByte]
            repeat' split
            all_goals simp_all <;> omega
        | string =>
            simp only [scanByte]
            repeat' split
            all_goals exact Nat.le_add_right _ _
        | escaped => exact Nat.le_add_right _ _
      rw [scan_cons, List.countP_cons]
      cases closes : isClosing c with
      | false =>
          simp only [closes, Bool.toNat_false] at head
          simp only [Bool.false_eq_true, if_false]
          omega
      | true =>
          simp only [closes, Bool.toNat_true] at head
          simp only [if_true]
          omega

end NimbleProxy.Theory.Json
