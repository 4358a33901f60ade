/-! # Places in text

A place in a text is the number of bytes in front of it. Not every number is a place, as a character
may take several bytes. `splitAt?_append` says that a text is the sum of its two parts.
-/

namespace CallHistory.Text

/-- The text before and after a place, if there is such a place. -/
def splitAt? : Nat → List Char → Option (List Char × List Char)
  | 0, s => some ([], s)
  | _ + 1, [] => none
  | n + 1, c :: s =>
    if n + 1 < c.utf8Size then none
    else (splitAt? (n + 1 - c.utf8Size) s).map fun r => (c :: r.1, r.2)

def between? (start stop : Nat) (s : List Char) : Option (List Char) :=
  (splitAt? start s).bind fun r => (splitAt? (stop - start) r.2).map Prod.fst

/-- The place of the first of some characters, that character, and what follows it. -/
def mark? (marks : List Char) : List Char → Option (Nat × Char × List Char)
  | [] => none
  | c :: s =>
    if c ∈ marks then some (0, c, s)
    else (mark? marks s).map fun r => (c.utf8Size + r.1, r.2)

theorem splitAt?_append {n : Nat} {s : List Char} {r : List Char × List Char}
    (h : splitAt? n s = some r) : r.1 ++ r.2 = s := by
  fun_induction splitAt? n s generalizing r with
  | case1 => simp only [Option.some.injEq] at h; subst h; rfl
  | case2 => simp at h
  | case3 => simp at h
  | case4 n c s _ ih =>
    obtain ⟨q, hq, rfl⟩ := Option.map_eq_some_iff.mp h
    simp [ih hq]

end CallHistory.Text
