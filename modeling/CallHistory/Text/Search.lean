/-! # Searching and cutting text

Text is taken apart as a list of characters. `cut?` splits a text around the first place where a
pattern stands; the other functions are read off it.
-/

namespace CallHistory.Text

/-- The text before and after the first place where `pattern` stands. -/
def cut? (pattern : List Char) : List Char → Option (List Char × List Char)
  | [] => if pattern.isEmpty then some ([], []) else none
  | c :: s =>
    if pattern.isPrefixOf (c :: s) then some ([], (c :: s).drop pattern.length)
    else (cut? pattern s).map fun r => (c :: r.1, r.2)

def contains (pattern s : List Char) : Bool :=
  (cut? pattern s).isSome

def cutLast? (c : Char) : List Char → Option (List Char × List Char)
  | [] => none
  | d :: s =>
    match cutLast? c s with
    | some r => some (d :: r.1, r.2)
    | none => if d = c then some ([], s) else none

/-- The pieces of a text between the places where `c` stands; at least one piece. -/
def split (c : Char) : List Char → List (List Char)
  | [] => [[]]
  | d :: s =>
    match split c s with
    | [] => [[d]]
    | p :: ps => if d = c then [] :: p :: ps else (d :: p) :: ps

/-- The text after its first `skip` characters, with `new` in each place where `pattern` stands. -/
def replaceFrom (pattern new : List Char) : Nat → List Char → List Char
  | _, [] => []
  | skip + 1, _ :: s => replaceFrom pattern new skip s
  | 0, c :: s =>
    if pattern.isPrefixOf (c :: s) then new ++ replaceFrom pattern new (pattern.length - 1) s
    else c :: replaceFrom pattern new 0 s

/-- The text with `new` in each place, from left to right, where `pattern` stands. -/
def replaceAll (pattern new s : List Char) : List Char :=
  replaceFrom pattern new 0 s

def padLeft (c : Char) (n : Nat) (s : List Char) : List Char :=
  List.replicate (n - s.length) c ++ s

/-- Lower case of the letters A to Z and of the Kelvin sign, the only characters whose lower case
is an ASCII letter; any other character stays. -/
def lower (c : Char) : Char :=
  if c = '\u212a' then 'k' else c.toLower

theorem lower_eq_self {c : Char} (hascii : c.val < 128) (h : c.val < 'A'.val ∨ 'Z'.val < c.val) :
    lower c = c := by
  have hkelvin : c ≠ '\u212a' := by
    rintro rfl
    exact absurd hascii (by decide)
  have hcapital : ¬(c.val ≥ 'A'.val ∧ c.val ≤ 'Z'.val) := by
    rintro ⟨hfrom, hto⟩
    rcases h with h | h
    · exact UInt32.not_le.mpr h hfrom
    · exact UInt32.not_le.mpr h hto
  rw [lower, if_neg hkelvin]
  exact dif_neg hcapital

theorem cut?_append {pattern s : List Char} {r : List Char × List Char}
    (h : cut? pattern s = some r) :
    r.1 ++ pattern ++ r.2 = s := by
  induction s generalizing r with
  | nil =>
    cases pattern with
    | nil => simp only [cut?, List.isEmpty_nil, if_true, Option.some.injEq] at h; subst h; rfl
    | cons c p => simp [cut?] at h
  | cons c s ih =>
    simp only [cut?] at h
    split at h
    · rename_i hp
      obtain ⟨t, ht⟩ := List.isPrefixOf_iff_prefix.mp hp
      simp only [Option.some.injEq] at h
      subst h
      rw [← ht]
      simp
    · obtain ⟨q, hq, rfl⟩ := Option.map_eq_some_iff.mp h
      simp [← ih hq]

theorem cutLast?_append {c : Char} {s : List Char} {r : List Char × List Char}
    (h : cutLast? c s = some r) : r.1 ++ c :: r.2 = s := by
  induction s generalizing r with
  | nil => simp [cutLast?] at h
  | cons d s ih =>
    simp only [cutLast?] at h
    split at h
    · rename_i q hq
      simp only [Option.some.injEq] at h
      subst h
      simp [ih hq]
    · split at h
      · rename_i hd
        simp only [Option.some.injEq] at h
        subst h
        simp [hd]
      · simp at h

end CallHistory.Text
