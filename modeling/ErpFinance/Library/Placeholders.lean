import ErpFinance.Library.Text
import Mathlib.Data.List.Chain

/-!
# Numbered places in a text

Texts with places `$1`, `$2`, … that are written from an offset on, and the
scan that renumbers the places of a finished text.  The scan knows digits and
dollar signs only, so that it agrees with the text written from the new offset
exactly when no other dollar sign stands before a digit.
-/

namespace ErpFinance.Library.Placeholders

/-! ## Texts with places -/

inductive Token where
  | char (c : Char)
  | place (n : Nat)

def Token.write (offset : Nat) : Token → List Char
  | .char c => [c]
  | .place n => '$' :: Nat.toDigits 10 (offset + n)

def write (offset : Nat) (tokens : List Token) : List Char := tokens.flatMap (Token.write offset)

def Token.isDigit : Token → Bool
  | .char c => c.isDigit
  | .place _ => false

/-- The second token, written after the first, is not taken for the digits of a place. -/
def Apart (a b : Token) : Prop := a = .char '$' → b.isDigit = false

/-- No dollar sign other than that of a place stands before a digit. -/
def Plain (tokens : List Token) : Prop := tokens.IsChain Apart

def Separate (tokens : List Token) : Prop :=
  tokens.IsChain fun a b => ∀ n, a = .place n → b.isDigit = false

/-- No dollar sign of the text stands before a digit. -/
def PlainText (text : List Char) : Prop := text.IsChain fun a b => a = '$' → b.isDigit = false

instance (text : List Char) : Decidable (PlainText text) :=
  inferInstanceAs (Decidable (text.IsChain fun a b => a = '$' → b.isDigit = false))

/-- The text from an index on, some characters of which have been read already. -/
def rescan (renumber : List Char → List Char) : Nat → List Char → List Char
  | _, [] => []
  | skip + 1, _ :: rest => rescan renumber skip rest
  | 0, c :: rest =>
    let digits := rest.takeWhile Char.isDigit
    if c = '$' ∧ digits ≠ [] then
      '$' :: renumber digits ++ rescan renumber digits.length rest
    else c :: rescan renumber 0 rest

theorem rescan_skip {renumber : List Char → List Char} (part rest : List Char) :
    rescan renumber part.length (part ++ rest) = rescan renumber 0 rest := by
  induction part with
  | nil => rfl
  | cons c part ih =>
    rw [List.cons_append, List.length_cons, rescan]
    exact ih

/-! ## Plain texts -/

theorem plainText_cons {c : Char} {rest : List Char} :
    PlainText (c :: rest) ↔
      (∀ d ∈ rest.head?, c = '$' → d.isDigit = false) ∧ PlainText rest := List.isChain_cons

theorem plainText_append {front rest : List Char}
    (apart : ∀ a ∈ front.getLast?, a = '$' → ∀ b ∈ rest.head?, b.isDigit = false) :
    PlainText (front ++ rest) ↔ PlainText front ∧ PlainText rest := by
  rw [PlainText, List.isChain_append, PlainText, PlainText, ← and_assoc, and_iff_left]
  exact fun a last b first dollar => apart a last dollar b first

/-- Doubling a quote changes nothing about dollar signs. -/
theorem plainText_double {quote : Char} (other : quote ≠ '$') (text : List Char) :
    PlainText (text.flatMap fun c => if c = quote then [quote, quote] else [c]) ↔
      PlainText text := by
  have heads : ∀ text : List Char,
      (text.flatMap fun c => if c = quote then [quote, quote] else [c]).head? = text.head? := by
    rintro (- | ⟨c, rest⟩)
    · rfl
    · by_cases same : c = quote <;> simp [same]
  induction text with
  | nil => rfl
  | cons c rest ih =>
    rw [List.flatMap_cons]
    by_cases same : c = quote
    · subst same
      simp [plainText_cons, other, ih]
    · rw [if_neg same, List.singleton_append, plainText_cons, plainText_cons, heads]
      exact and_congr_right fun _ => ih

/-! ## The scan -/

/-- The digits in front end where something else follows. -/
theorem takeWhile_append_stops {front rest : List Char}
    (stops : ∀ d ∈ rest.head?, d.isDigit = false) :
    (front ++ rest).takeWhile Char.isDigit = front.takeWhile Char.isDigit := by
  induction front with
  | nil =>
    cases rest with
    | nil => rfl
    | cons d rest => exact List.takeWhile_cons_of_neg (by simp [stops d rfl])
  | cons c front ih => rw [List.cons_append, List.takeWhile_cons, List.takeWhile_cons, ih]

section Scan

variable {renumber : List Char → List Char}

theorem rescan_cons_of_plain {c : Char} {rest : List Char}
    (plain : c = '$' → ∀ d ∈ rest.head?, d.isDigit = false) :
    rescan renumber 0 (c :: rest) = c :: rescan renumber 0 rest := by
  rw [rescan]
  refine if_neg ?_
  rintro ⟨rfl, digits⟩
  cases rest with
  | nil => exact digits rfl
  | cons d rest =>
    have other := plain rfl d rfl
    rw [List.takeWhile_cons_of_neg (by simp [other])] at digits
    exact digits rfl

/-- The dollar sign, all digits after it and what does not begin with a digit. -/
theorem rescan_place {digits rest : List Char} (some : digits ≠ [])
    (all : ∀ d ∈ digits, d.isDigit = true) (ends : ∀ d ∈ rest.head?, d.isDigit = false) :
    rescan renumber 0 ('$' :: (digits ++ rest)) =
      '$' :: renumber digits ++ rescan renumber 0 rest := by
  have taken : (digits ++ rest).takeWhile Char.isDigit = digits := by
    rw [takeWhile_append_stops ends, List.takeWhile_eq_self_iff]
    exact all
  rw [rescan, taken, if_pos ⟨rfl, some⟩, rescan_skip]

/-- The scan keeps a first character. -/
theorem head?_rescan (text : List Char) : (rescan renumber 0 text).head? = text.head? := by
  cases text with
  | nil => rfl
  | cons c rest =>
    rw [rescan]
    split
    case isTrue place => simp [place.1]
    case isFalse => rfl

end Scan

/-! ## What is written -/

theorem head?_write (offset : Nat) (tokens : List Token) :
    (∀ d ∈ (write offset tokens).head?, d.isDigit = false) ↔
      ∀ t ∈ tokens.head?, t.isDigit = false := by
  cases tokens with
  | nil => simp [write]
  | cons t rest =>
    cases t with
    | char c => simp [write, Token.write, Token.isDigit]
    | place n => simp [write, Token.write, Token.isDigit]

/-- The digits in front do not depend on where the places are numbered from. -/
theorem takeWhile_write (offset other : Nat) (tokens : List Token) :
    (write offset tokens).takeWhile Char.isDigit = (write other tokens).takeWhile Char.isDigit := by
  induction tokens with
  | nil => rfl
  | cons t rest ih =>
    cases t with
    | char c =>
      simp only [write, List.flatMap_cons, Token.write, List.singleton_append] at ih ⊢
      rw [List.takeWhile_cons, List.takeWhile_cons, ih]
    | place n =>
      simp only [write, List.flatMap_cons, Token.write, List.cons_append]
      rw [List.takeWhile_cons_of_neg (by decide), List.takeWhile_cons_of_neg (by decide)]

theorem write_cons (offset : Nat) (t : Token) (tokens : List Token) :
    write offset (t :: tokens) = t.write offset ++ write offset tokens := List.flatMap_cons

/-! ## Renumbering -/

/-- A renumbering by an offset: it moves the numbers of places, and leaves no digits as they are. -/
structure Renumbers (renumber : List Char → List Char) (offset : Nat) (tokens : List Token) :
    Prop where
  places : ∀ n, .place n ∈ tokens →
    renumber (Nat.toDigits 10 n) = Nat.toDigits 10 (offset + n)
  moves : ∀ digits, digits ≠ [] → (∀ d ∈ digits, d.isDigit = true) →
    (renumber digits).takeWhile Char.isDigit ≠ digits

variable {renumber : List Char → List Char} {offset : Nat} {tokens : List Token}

theorem Renumbers.tail {t : Token} (renumbers : Renumbers renumber offset (t :: tokens)) :
    Renumbers renumber offset tokens :=
  ⟨fun n member => renumbers.places n (List.mem_cons_of_mem _ member), renumbers.moves⟩

/-- After the renumbered digits of a stray dollar sign the texts differ. -/
theorem Renumbers.stray_ne (renumbers : Renumbers renumber offset tokens) {d : Char}
    {rest : List Token} (digit : d.isDigit = true) :
    rescan renumber 0 ('$' :: write 0 (.char d :: rest)) ≠
      '$' :: write offset (.char d :: rest) := by
  intro same
  let digits := (write 0 (.char d :: rest)).takeWhile Char.isDigit
  let others := (write 0 (.char d :: rest)).dropWhile Char.isDigit
  have split : write 0 (.char d :: rest) = digits ++ others :=
    List.takeWhile_append_dropWhile.symm
  have all : ∀ e ∈ digits, e.isDigit = true := fun e member => List.mem_takeWhile_imp member
  have some : digits ≠ [] := by
    simp only [digits, write_cons, Token.write, List.singleton_append]
    rw [List.takeWhile_cons_of_pos digit]
    exact List.cons_ne_nil _ _
  have ends : ∀ e ∈ others.head?, e.isDigit = false := by
    intro e first
    have stopped := List.head?_dropWhile_not Char.isDigit (write 0 (.char d :: rest))
    rw [show ((write 0 (.char d :: rest)).dropWhile Char.isDigit).head? = Option.some e from first]
      at stopped
    exact stopped
  rw [split, rescan_place some all ends, List.cons_append, List.cons.injEq] at same
  have fronts := congrArg (List.takeWhile Char.isDigit) same.2
  rw [takeWhile_write offset 0] at fronts
  rw [takeWhile_append_stops (by rwa [head?_rescan])] at fronts
  exact renumbers.moves digits some all fronts

/-- The renumbered text is the text of the new numbers exactly when the text is plain. -/
theorem rescan_write_iff (renumbers : Renumbers renumber offset tokens)
    (separate : Separate tokens) :
    rescan renumber 0 (write 0 tokens) = write offset tokens ↔ Plain tokens := by
  induction tokens with
  | nil => simp [write, rescan, Plain]
  | cons t rest ih =>
    have later := ih renumbers.tail separate.tail
    obtain ⟨ends, -⟩ := List.isChain_cons.mp separate
    rw [Plain, List.isChain_cons]
    cases t with
    | char c =>
      by_cases apart : ∀ s ∈ rest.head?, Apart (.char c) s
      · have plain : c = '$' → ∀ d ∈ (write 0 rest).head?, d.isDigit = false := by
          rintro rfl
          rw [head?_write]
          exact fun s first => apart s first rfl
        rw [write_cons, write_cons, Token.write, Token.write, List.singleton_append,
          List.singleton_append, rescan_cons_of_plain plain, List.cons.injEq,
          and_iff_right rfl, later, and_iff_right apart, Plain]
      · rw [iff_false_right (fun both => apart both.1)]
        rcases rest with - | ⟨s, rest⟩
        · exact absurd (by simp) apart
        · simp only [List.head?_cons, Option.mem_some_iff, forall_eq', Apart, Token.char.injEq,
            Classical.not_imp, Bool.not_eq_false] at apart
          obtain ⟨rfl, digit⟩ := apart
          cases s with
          | char d => exact renumbers.tail.stray_ne digit
          | place n => cases digit
    | place n =>
      have stops : ∀ d ∈ (write 0 rest).head?, d.isDigit = false := by
        rw [head?_write]
        exact fun s first => ends s first n rfl
      have digits : ∀ d ∈ Nat.toDigits 10 n, d.isDigit = true :=
        fun d member => Nat.isDigit_of_mem_toDigits (by decide) (by decide) member
      have moved := renumbers.places n List.mem_cons_self
      have free : ∀ s ∈ rest.head?, Apart (.place n) s := fun s _ impossible => by cases impossible
      rw [write_cons, write_cons, Token.write, Token.write, Nat.zero_add, List.cons_append,
        rescan_place Nat.toDigits_ne_nil digits stops, moved, List.cons_append,
        List.cons_append, List.cons.injEq, and_iff_right rfl, List.append_cancel_left_eq, later,
        and_iff_right free, Plain]

/-! ## Texts built from parts -/

structure Writes (text : Nat → String) (size : Nat) (plain : Prop) (tokens : List Token) :
    Prop where
  toList : ∀ offset, (text offset).toList = write offset tokens
  places : ∀ n, .place n ∈ tokens → n ≤ size
  opens : ∀ t ∈ tokens.head?, t.isDigit = false
  separate : Separate tokens
  plain : Plain tokens ↔ plain

/-- A text with places up to a number, which is plain under a condition. -/
def Templated (text : Nat → String) (size : Nat) (plain : Prop) : Prop :=
  ∃ tokens, Writes text size plain tokens

namespace Templated

variable {text other : Nat → String} {size : Nat} {plain otherPlain : Prop}

theorem empty : Templated (fun _ => "") size True :=
  ⟨[], by simp [write], by simp, by simp, by simp [Separate], by simp [Plain]⟩

theorem literal {s : String} (opens : ∀ d ∈ s.toList.head?, d.isDigit = false) :
    Templated (fun _ => s) size (PlainText s.toList) := by
  refine ⟨s.toList.map .char, fun offset => ?_, by simp, ?_, ?_, ?_⟩
  · simp [write, List.flatMap_map, Token.write]
  · rw [List.head?_map]
    intro t member
    obtain ⟨d, first, rfl⟩ := Option.mem_map.mp member
    exact opens d first
  · rw [Separate, List.isChain_map]
    induction s.toList with
    | nil => exact .nil
    | cons c rest ih => exact List.isChain_cons.mpr ⟨by simp, ih⟩
  · rw [Plain, List.isChain_map, PlainText]
    simp [Apart, Token.isDigit]

theorem place {n : Nat} (bound : n ≤ size) :
    Templated (fun offset => "$" ++ toString (offset + n)) size True := by
  refine ⟨[.place n], fun offset => ?_, ?_, ?_, ?_, ?_⟩
  · simp [write, Token.write, Nat.toString_eq_repr]
  · simpa using bound
  · simp [Token.isDigit]
  · exact .singleton _
  · simp [Plain]

theorem append (first : Templated text size plain) (second : Templated other size otherPlain) :
    Templated (fun offset => text offset ++ other offset) size (plain ∧ otherPlain) := by
  obtain ⟨tokens, writes⟩ := first
  obtain ⟨others, writesOther⟩ := second
  refine ⟨tokens ++ others, fun offset => ?_, fun n member => ?_, ?_, ?_, ?_⟩
  · rw [String.toList_append, writes.toList, writesOther.toList, write, write, write,
      List.flatMap_append]
  · rcases List.mem_append.mp member with inFirst | inSecond
    · exact writes.places n inFirst
    · exact writesOther.places n inSecond
  · cases tokens with
    | nil => exact writesOther.opens
    | cons t rest => exact writes.opens
  · refine List.isChain_append.mpr ⟨writes.separate, writesOther.separate, ?_⟩
    exact fun a _ b first n _ => writesOther.opens b first
  · rw [Plain, List.isChain_append, ← Plain, ← Plain, writes.plain, writesOther.plain,
      and_congr_right_iff]
    exact fun _ => and_iff_left fun a _ b first _ => writesOther.opens b first

theorem congr (templated : Templated text size plain) {more : Nat} (larger : size ≤ more)
    (same : ∀ offset, other offset = text offset) (iff : otherPlain ↔ plain) :
    Templated other more otherPlain := by
  obtain ⟨tokens, writes⟩ := templated
  refine ⟨tokens, fun offset => ?_, fun n member => ?_, writes.opens, writes.separate, ?_⟩
  · rw [same, writes.toList]
  · exact (writes.places n member).trans larger
  · exact writes.plain.trans iff.symm

theorem mono (templated : Templated text size plain) {more : Nat} (larger : size ≤ more) :
    Templated text more plain :=
  templated.congr larger (fun _ => rfl) Iff.rfl

theorem intercalate {separator : String} (opens : ∀ d ∈ separator.toList.head?, d.isDigit = false)
    (plainly : PlainText separator.toList) {parts : List ((Nat → String) × Prop)}
    (all : ∀ part ∈ parts, Templated part.1 size part.2) :
    Templated (fun offset => separator.intercalate (parts.map fun part => part.1 offset)) size
      (∀ part ∈ parts, part.2) := by
  induction parts with
  | nil => exact empty.congr le_rfl (by simp) (by simp)
  | cons part rest ih =>
    rw [List.forall_mem_cons] at all
    cases rest with
    | nil => exact all.1.congr le_rfl (by simp) (by simp)
    | cons second rest =>
      refine ((all.1.append (literal opens)).append (ih all.2)).congr le_rfl ?_ ?_
      · intro offset
        simp [String.intercalate_cons_cons]
      · rw [List.forall_mem_cons, and_iff_left plainly]

/-- Scanned from its numbering from 1 on, the text is the one numbered from an offset exactly
when it is plain. -/
theorem rescan_iff (templated : Templated text size plain) {renumber : List Char → List Char}
    {offset : Nat} (moves : ∀ digits, digits ≠ [] → (∀ d ∈ digits, d.isDigit = true) →
      (renumber digits).takeWhile Char.isDigit ≠ digits)
    (places : ∀ n ≤ size, renumber (Nat.toDigits 10 n) = Nat.toDigits 10 (offset + n)) :
    rescan renumber 0 (text 0).toList = (text offset).toList ↔ plain := by
  obtain ⟨tokens, writes⟩ := templated
  rw [writes.toList, writes.toList, rescan_write_iff ⟨_, moves⟩ writes.separate, writes.plain]
  exact fun n member => places n (writes.places n member)

end Templated

end ErpFinance.Library.Placeholders
