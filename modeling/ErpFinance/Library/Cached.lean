import Mathlib.Data.Option.Basic

/-!
# Caches behind a key

A cache keeps texts under keys.  It may be absent, refuse a call and lose an
entry at any time.  What every entry satisfies is kept by every operation, and
a value that is found was written in a text that satisfies it.
-/

namespace ErpFinance.Library

/-- How a value is written as a text and read again, where either may fail. -/
structure Codec (α Text : Type) where
  marshal : α → Option Text
  unmarshal : Text → Option α

/-- The texts of two kinds of values, each of which can be read back. -/
def Codec.left (α β : Type) : Codec α (α ⊕ β) where
  marshal value := some (.inl value)
  unmarshal := Sum.getLeft?

def Codec.right (α β : Type) : Codec β (α ⊕ β) where
  marshal value := some (.inr value)
  unmarshal := Sum.getRight?

/-- The entries of a cache, or no cache. -/
abbrev Cached (Key Text : Type) := Option (Key → Option Text)

namespace Cached

variable {Key Text α : Type}

/-- A cache without entries. -/
def empty : Cached Key Text := some fun _ => none

/-- A refused call and a text that cannot be read count as a miss. -/
def lookup (codec : Codec α Text) (cache : Cached Key Text) (refused : Bool) (key : Key) :
    Option α :=
  match cache with
  | none => none
  | some entries => if refused then none else (entries key).bind codec.unmarshal

variable [DecidableEq Key]

/-- A value that cannot be written and a refused call leave the cache as it is. -/
def store (codec : Codec α Text) (cache : Cached Key Text) (refused : Bool) (key : Key)
    (value : α) : Cached Key Text :=
  cache.map fun entries =>
    match codec.marshal value with
    | some text => if refused then entries else Function.update entries key (some text)
    | none => entries

/-- An entry expires or is evicted. -/
def lose (cache : Cached Key Text) (key : Key) : Cached Key Text :=
  cache.map fun entries => Function.update entries key none

/-- Every entry satisfies `Good`. -/
def Keeps (Good : Key → Text → Prop) (cache : Cached Key Text) : Prop :=
  ∀ entries, cache = some entries → ∀ key text, entries key = some text → Good key text

variable {Good : Key → Text → Prop} {cache : Cached Key Text} {codec : Codec α Text}
  {refused : Bool} {key : Key} {value : α}

omit [DecidableEq Key] in
theorem keeps_empty : Keeps Good (empty : Cached Key Text) := by
  intro entries same key text found
  cases same
  cases found

omit [DecidableEq Key] in
@[simp] theorem lookup_none : lookup codec (none : Cached Key Text) refused key = none := rfl

omit [DecidableEq Key] in
@[simp] theorem lookup_empty : lookup codec (empty : Cached Key Text) refused key = none := by
  cases refused <;> rfl

@[simp] theorem store_none :
    store codec (none : Cached Key Text) refused key value = none := rfl

@[simp] theorem lose_none : lose (none : Cached Key Text) key = none := rfl

omit [DecidableEq Key] in
theorem Keeps.of_lookup (keeps : Keeps Good cache)
    (found : lookup codec cache refused key = some value) :
    ∃ text, Good key text ∧ codec.unmarshal text = some value := by
  cases cache with
  | none => cases found
  | some entries =>
    cases refused with
    | true => cases found
    | false =>
      obtain ⟨text, entry, read⟩ := Option.bind_eq_some_iff.mp found
      exact ⟨text, keeps entries rfl key text entry, read⟩

theorem Keeps.store (keeps : Keeps Good cache)
    (good : ∀ text, codec.marshal value = some text → Good key text) :
    Keeps Good (store codec cache refused key value) := by
  intro entries same other text found
  obtain ⟨before, cached, rfl⟩ := Option.map_eq_some_iff.mp same
  have old := keeps before cached other text
  cases written : codec.marshal value with
  | none =>
    simp only [written] at found
    exact old found
  | some new =>
    cases refused with
    | true =>
      simp only [written, if_true] at found
      exact old found
    | false =>
      simp only [written, Bool.false_eq_true, if_false] at found
      by_cases here : other = key
      · subst here
        rw [Function.update_self] at found
        exact good text (written.trans found)
      · rw [Function.update_of_ne here] at found
        exact old found

theorem Keeps.lose (keeps : Keeps Good cache) : Keeps Good (lose cache key) := by
  intro entries same other text found
  obtain ⟨before, cached, rfl⟩ := Option.map_eq_some_iff.mp same
  by_cases here : other = key
  · rw [here, Function.update_self] at found
    cases found
  · rw [Function.update_of_ne here] at found
    exact keeps before cached other text found

theorem isSome_store : (store codec cache refused key value).isSome = cache.isSome :=
  Option.isSome_map

/-- What was just stored is found. -/
theorem lookup_store {text : Text} (present : cache.isSome = true)
    (written : codec.marshal value = some text) (read : codec.unmarshal text = some value) :
    lookup codec (store codec cache false key value) false key = some value := by
  obtain ⟨entries, rfl⟩ := Option.isSome_iff_exists.mp present
  simp [store, lookup, written, read]

end Cached

end ErpFinance.Library
