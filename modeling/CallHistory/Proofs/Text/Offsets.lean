import CallHistory.Proofs.Text.Cutting
import CallHistory.Text.Bytes

/-! # Slices between places

A place is a number of bytes, and a text can be taken apart at it only if it is not within a character
or behind the end. What a search finds is such a place, since characters stand in front of it and
behind it.
-/

namespace CallHistory.Text

variable {before after s : List Char}

def byteLength : List Char → Nat
  | [] => 0
  | c :: s => c.utf8Size + byteLength s

@[simp] theorem byteLength_nil : byteLength [] = 0 := rfl

@[simp] theorem byteLength_cons (c : Char) (s : List Char) :
    byteLength (c :: s) = c.utf8Size + byteLength s := rfl

@[simp] theorem byteLength_append (s t : List Char) :
    byteLength (s ++ t) = byteLength s + byteLength t := by
  induction s with
  | nil => simp
  | cons c s ih => simp [ih, Nat.add_assoc]

theorem utf8ByteSize_ofList (s : List Char) : (String.ofList s).utf8ByteSize = byteLength s := by
  induction s with
  | nil => rfl
  | cons c s ih =>
    rw [String.ofList_cons, String.utf8ByteSize_append, String.utf8ByteSize_singleton, ih,
      byteLength_cons]

theorem splitAt?_byteLength (before after : List Char) :
    splitAt? (byteLength before) (before ++ after) = some (before, after) := by
  induction before with
  | nil => simp [splitAt?]
  | cons c before ih =>
    have hpos := c.utf8Size_pos
    obtain ⟨n, hn⟩ : ∃ n, byteLength (c :: before) = n + 1 :=
      ⟨c.utf8Size - 1 + byteLength before, by rw [byteLength_cons]; omega⟩
    have hrest : n + 1 - c.utf8Size = byteLength before := by
      rw [← hn, byteLength_cons]
      omega
    have hfits : ¬n + 1 < c.utf8Size := by
      rw [← hn, byteLength_cons]
      omega
    rw [hn, List.cons_append, splitAt?, if_neg hfits, hrest, ih]
    rfl

theorem byteLength_of_splitAt? {n : Nat} {r : List Char × List Char}
    (h : splitAt? n s = some r) : byteLength r.1 = n := by
  fun_induction splitAt? n s generalizing r with
  | case1 =>
    cases h
    rfl
  | case2 => cases h
  | case3 => cases h
  | case4 n c s hfits ih =>
    obtain ⟨q, hq, rfl⟩ := Option.map_eq_some_iff.mp h
    have hrest := ih hq
    rw [byteLength_cons, hrest]
    omega

/-- The places of a text are the valid positions of the string. -/
theorem exists_splitAt?_iff {n : Nat} :
    (∃ r, splitAt? n s = some r) ↔ String.Pos.Raw.IsValid (String.ofList s) ⟨n⟩ := by
  rw [String.Pos.Raw.isValid_iff_exists_append]
  constructor
  · rintro ⟨r, hr⟩
    refine ⟨.ofList r.1, .ofList r.2, ?_, ?_⟩
    · rw [← String.ofList_append, splitAt?_append hr]
    · rw [String.Pos.Raw.ext_iff, String.byteIdx_rawEndPos, utf8ByteSize_ofList,
        byteLength_of_splitAt? hr]
  · rintro ⟨front, back, hwhole, hn⟩
    have hs : s = front.toList ++ back.toList := by
      rw [← String.toList_append, ← hwhole, String.toList_ofList]
    have hplace : n = byteLength front.toList := by
      rw [String.Pos.Raw.ext_iff, String.byteIdx_rawEndPos] at hn
      rw [← utf8ByteSize_ofList, String.ofList_toList]
      exact hn
    exact ⟨_, by rw [hs, hplace, splitAt?_byteLength]⟩

/-! ## Searches -/

def find? (pattern s : List Char) : Option Nat :=
  (cut? pattern s).map fun r => byteLength r.1

def findLast? (c : Char) (s : List Char) : Option Nat :=
  (cutLast? c s).map fun r => byteLength r.1

/-! ## Slices -/

def upTo? (stop : Nat) (s : List Char) : Option (List Char) :=
  (splitAt? stop s).map Prod.fst

def from? (start : Nat) (s : List Char) : Option (List Char) :=
  (splitAt? start s).map Prod.snd

/-- The text between two places that are in order. -/
def slice? (start stop : Nat) (s : List Char) : Option (List Char) :=
  (upTo? stop s).bind (from? start)

/-- The text with `new` between two places that are in order. -/
def replaceSlice? (start stop : Nat) (new s : List Char) : Option (List Char) :=
  (splitAt? stop s).bind fun r => (upTo? start r.1).map fun front => front ++ new ++ r.2

theorem upTo?_append (before after : List Char) :
    upTo? (byteLength before) (before ++ after) = some before := by
  rw [upTo?, splitAt?_byteLength]
  rfl

theorem from?_append (before after : List Char) :
    from? (byteLength before) (before ++ after) = some after := by
  rw [from?, splitAt?_byteLength]
  rfl

theorem slice?_append (before between after : List Char) :
    slice? (byteLength before) (byteLength before + byteLength between) (before ++ between ++ after) =
      some between := by
  rw [slice?, ← byteLength_append, upTo?_append, Option.bind_some, from?_append]

theorem replaceSlice?_append (before between after new : List Char) :
    replaceSlice? (byteLength before) (byteLength before + byteLength between) new
      (before ++ between ++ after) = some (before ++ new ++ after) := by
  rw [replaceSlice?, ← byteLength_append, splitAt?_byteLength, Option.bind_some, upTo?_append,
    Option.map_some]

end CallHistory.Text
