import Mathlib.Data.List.Basic

/-!
# Checked words

A sender splits its data into words of two symbols and puts a check symbol behind each. A receiver
takes a stream only if every word carries the symbol that belongs to it.
-/

namespace AirQuality.Foundation

variable {α : Type*}

/-- The symbols of the words, in order. -/
def symbols (words : List (α × α)) : List α := words.flatMap fun word => [word.1, word.2]

def encode (check : α → α → α) (words : List (α × α)) : List α :=
  words.flatMap fun word => [word.1, word.2, check word.1 word.2]

@[simp] theorem symbols_cons (word : α × α) (rest : List (α × α)) :
    symbols (word :: rest) = word.1 :: word.2 :: symbols rest := rfl

@[simp] theorem encode_cons (check : α → α → α) (word : α × α) (rest : List (α × α)) :
    encode check (word :: rest) = word.1 :: word.2 :: check word.1 word.2 :: encode check rest := rfl

theorem length_encode (check : α → α → α) (words : List (α × α)) :
    (encode check words).length = 3 * words.length := by
  induction words with
  | nil => rfl
  | cons word rest ih =>
    simp only [encode_cons, List.length_cons]
    omega

theorem encode_inj {check : α → α → α} {v w : List (α × α)} (same : encode check v = encode check w) : v = w := by
  induction v generalizing w with
  | nil =>
    cases w with
    | nil => rfl
    | cons word rest => cases same
  | cons word rest ih =>
    cases w with
    | nil => cases same
    | cons word' rest' =>
      simp only [encode_cons, List.cons.injEq] at same
      obtain ⟨first, second, _, tails⟩ := same
      rw [Prod.ext first second, ih tails]

/-- The first word decides, and then the rest of the stream. -/
theorem encoded_cons_iff {check : α → α → α} {a b c : α} {rest : List α} :
    (∃ words, a :: b :: c :: rest = encode check words) ↔ c = check a b ∧ ∃ words, rest = encode check words := by
  constructor
  · intro found
    obtain ⟨words, same⟩ := found
    cases words with
    | nil => cases same
    | cons word tail =>
      simp only [encode_cons, List.cons.injEq] at same
      obtain ⟨rfl, rfl, checked, tails⟩ := same
      exact ⟨checked, tail, tails⟩
  · rintro ⟨rfl, words, rfl⟩
    exact ⟨(a, b) :: words, rfl⟩

end AirQuality.Foundation
