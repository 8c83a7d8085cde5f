import Tabular.Text.Blank
import Tabular.Text.Digit
import Tabular.Text.Caseless

/-!
# Search expressions

A small language of expressions for the beginning of a text. `splits` lists every way to cut a text
behind a stretch that the expression describes, the preferred way first: earlier alternatives before
later ones, and long stretches before short ones. `source` is the written form of an expression.
-/

namespace Tabular.Text

/-- A set of characters that one place of a text is tested for. -/
inductive CharClass where
  /-- A decimal digit of any script. -/
  | digit
  /-- A blank character. -/
  | blank
  /-- A character from an interval. -/
  | between (first last : Char)
  /-- One of a few characters. -/
  | among (chars : List Char)
  /-- A character in either case. -/
  | letter (c : Char)
  /-- A character in just this case. -/
  | exactly (c : Char)
deriving DecidableEq

namespace CharClass

/-- Whether a character is of a class. -/
def holds : CharClass → Char → Bool
  | .digit, c => isDigit c
  | .blank, c => isBlank c
  | .between first last, c => first ≤ c && c ≤ last
  | .among chars, c => chars.contains c
  | .letter d, c => sameLetter d c
  | .exactly d, c => d == c

/-- The characters that a written expression has to escape. -/
def special : List Char :=
  "\\.^$*+?()\x7b\x7d[]|".toList

/-- The written form of a class. -/
def source : CharClass → List Char
  | .digit => ['\\', 'd']
  | .blank => ['\\', 's']
  | .between first last => ['[', first, '-', last, ']']
  | .among chars => '[' :: chars ++ [']']
  | .letter c => if special.contains c then ['\\', c] else [c]
  | .exactly c => "(?-i:".toList ++ [c, ')']

end CharClass

/-- An expression for the beginning of a text. -/
inductive Expression where
  /-- Nothing at all. -/
  | empty
  /-- One character of a class. -/
  | one (set : CharClass)
  /-- At least one character of a class. -/
  | many (set : CharClass)
  /-- Between one and some number of characters of a class. -/
  | upTo (most : Nat) (set : CharClass)
  /-- One expression behind the other. -/
  | both (first second : Expression)
  /-- One expression or else the other. -/
  | either (first second : Expression)
  /-- An expression, or nothing if need be. -/
  | optional (body : Expression)
  /-- A numbered group. -/
  | group (body : Expression)
  /-- A numbered group that has a letter for its name. -/
  | named (name : Char) (body : Expression)
deriving DecidableEq

namespace Expression

/-- Expressions one behind the other. -/
def sequence (es : List Expression) : Expression :=
  es.foldr both empty

/-- The first of several expressions, or else the second, and so on. -/
def choice : List Expression → Expression
  | [] => empty
  | [e] => e
  | e :: es => either e (choice es)

/-- One decimal digit of any script. -/
def digit : Expression := one .digit

/-- One character between two others. -/
def interval (first last : Char) : Expression := one (.between first last)

/-- A character in any case. -/
def char (c : Char) : Expression := one (.letter c)

/-- A word in any case of its letters. -/
def word (s : String) : Expression :=
  sequence (s.toList.map char)

/-- One of several words. -/
def words (names : List String) : Expression :=
  choice (names.map word)

/-- The cuts of a text behind a run of characters of a class, the longest run first. -/
def runSplits (set : CharClass) (run rest : List Char) : List (List Char × List Char) :=
  match rest with
  | [] => if run.isEmpty then [] else [(run, [])]
  | c :: cs =>
    (if set.holds c then runSplits set (run ++ [c]) cs else []) ++
      if run.isEmpty then [] else [(run, c :: cs)]

/-- The cuts of a text behind a stretch that an expression describes, the preferred first. -/
def splits : Expression → List Char → List (List Char × List Char)
  | .empty, cs => [([], cs)]
  | .one _, [] => []
  | .one set, c :: cs => if set.holds c then [([c], cs)] else []
  | .many set, cs => runSplits set [] cs
  | .upTo most set, cs =>
    (runSplits set [] (cs.take most)).map fun (run, rest) => (run, rest ++ cs.drop most)
  | .both first second, cs =>
    (first.splits cs).flatMap fun (front, rest) =>
      (second.splits rest).map fun (back, rest) => (front ++ back, rest)
  | .either first second, cs => first.splits cs ++ second.splits cs
  | .optional body, cs => body.splits cs ++ [([], cs)]
  | .group body, cs => body.splits cs
  | .named _ body, cs => body.splits cs

/-- The written form of an expression. -/
def source : Expression → List Char
  | .empty => []
  | .one set => set.source
  | .many set => set.source ++ ['+']
  | .upTo most set => set.source ++ "\x7b1,".toList ++ Nat.toDigits 10 most ++ "\x7d".toList
  | .both first second => first.source ++ second.source
  | .either first second => first.source ++ '|' :: second.source
  | .optional body => body.source ++ ['?']
  | .group body => '(' :: body.source ++ [')']
  | .named name body => "(?P<".toList ++ name :: '>' :: body.source ++ [')']

/-- The count of numbered groups, with and without names. -/
def groups : Expression → Nat
  | .both first second => first.groups + second.groups
  | .either first second => first.groups + second.groups
  | .optional body => body.groups
  | .group body => body.groups + 1
  | .named _ body => body.groups + 1
  | _ => 0

/-- A cut loses nothing of the text. -/
theorem append_of_mem_runSplits {set : CharClass} {run rest a b : List Char}
    (h : (a, b) ∈ runSplits set run rest) : a ++ b = run ++ rest := by
  induction rest generalizing run with
  | nil =>
    by_cases hr : run.isEmpty = true <;> simp_all [runSplits]
  | cons c cs ih =>
    rw [runSplits, List.mem_append] at h
    rcases h with h | h
    · split at h
      · simpa using ih h
      · simp at h
    · split at h
      · simp at h
      · simp only [List.mem_singleton, Prod.mk.injEq] at h
        rw [h.1, h.2]

/-- A cut loses nothing of the text. -/
theorem append_of_mem_splits {e : Expression} {cs a b : List Char}
    (h : (a, b) ∈ e.splits cs) : a ++ b = cs := by
  induction e generalizing cs a b with
  | empty => simp_all [splits]
  | one set =>
    cases cs with
    | nil => simp [splits] at h
    | cons c cs => rw [splits] at h; split at h <;> simp_all
  | many set => simpa using append_of_mem_runSplits h
  | upTo most set =>
    simp only [splits, List.mem_map, Prod.mk.injEq, Prod.exists] at h
    obtain ⟨x, y, hxy, rfl, rfl⟩ := h
    rw [← List.append_assoc, append_of_mem_runSplits hxy]
    simp
  | both first second ih₁ ih₂ =>
    simp only [splits, List.mem_flatMap, List.mem_map, Prod.mk.injEq, Prod.exists] at h
    obtain ⟨x, y, hxy, u, v, huv, rfl, rfl⟩ := h
    rw [List.append_assoc, ih₂ huv, ih₁ hxy]
  | either first second ih₁ ih₂ =>
    rw [splits, List.mem_append] at h
    exact h.elim ih₁ ih₂
  | optional body ih =>
    rw [splits, List.mem_append] at h
    rcases h with h | h
    · exact ih h
    · simp_all
  | group body ih => exact ih h
  | named name body ih => exact ih h

end Expression

end Tabular.Text
