/-!
# Cutting a source in two

Every lexeme is the front part of what is left of the source.  A `Cut` holds such a front part and
the rest; each function that makes one comes with the fact that nothing is lost, in the form
`(f cs).whole = cs`.
-/

namespace PhpOutline.Lexer

/-- A source cut in two. -/
structure Cut where
  text : List Char
  rest : List Char
deriving DecidableEq, Inhabited

namespace Cut

/-- The source that was cut. -/
def whole (k : Cut) : List Char := k.text ++ k.rest

/-- The cut with one more character at the front. -/
def push (c : Char) (k : Cut) : Cut := ⟨c :: k.text, k.rest⟩

/-- The cut with more characters at the front. -/
def prepend (cs : List Char) (k : Cut) : Cut := ⟨cs ++ k.text, k.rest⟩

/-- Cuts behind the longest front part whose characters satisfy `p`. -/
def span (p : Char → Bool) (cs : List Char) : Cut := ⟨cs.takeWhile p, cs.dropWhile p⟩

/-- Cuts at the first place where what is left satisfies `stop`, or at the end. -/
def before (stop : List Char → Bool) : List Char → Cut
  | [] => ⟨[], []⟩
  | c :: cs => if stop (c :: cs) then ⟨[], c :: cs⟩ else (before stop cs).push c

@[simp] theorem text_push (c : Char) (k : Cut) : (k.push c).text = c :: k.text := rfl

@[simp] theorem text_prepend (cs : List Char) (k : Cut) : (k.prepend cs).text = cs ++ k.text := rfl

@[simp] theorem whole_push (c : Char) (k : Cut) : (k.push c).whole = c :: k.whole := rfl

@[simp] theorem whole_prepend (cs : List Char) (k : Cut) :
    (k.prepend cs).whole = cs ++ k.whole := by
  simp [whole, prepend]

@[simp] theorem whole_span (p : Char → Bool) (cs : List Char) : (span p cs).whole = cs :=
  List.takeWhile_append_dropWhile

@[simp] theorem whole_before (stop : List Char → Bool) (cs : List Char) :
    (before stop cs).whole = cs := by
  induction cs with
  | nil => rfl
  | cons c cs ih =>
    unfold before
    split
    · rfl
    · simp [ih]

/-- The text of a cut is not empty if the cut does not stop at once. -/
theorem text_before_ne_nil {stop : List Char → Bool} {c : Char} {cs : List Char}
    (h : stop (c :: cs) = false) : (before stop (c :: cs)).text ≠ [] := by
  simp [before, h, push]

end Cut

end PhpOutline.Lexer
