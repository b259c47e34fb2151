import ComplexityHints.Score.Offset
import ComplexityHints.Text.Utf8
import Mathlib.Tactic

namespace ComplexityHints

namespace Utf8

theorem encode_append (cs ds : List Char) : encode (cs ++ ds) = encode cs ++ encode ds := by
  simp [encode]

theorem scalars_ofChars (cs : List Char) : scalars (Text.ofChars cs) = .ok cs := by
  rw [scalars, Text.chars?_ofChars]

theorem eq_ofChars_of_scalars {t : Text} {cs : List Char} (h : scalars t = .ok cs) :
    t = Text.ofChars cs := by
  unfold scalars at h
  split at h
  · cases h
    rename_i hcs
    exact Text.eq_ofChars_of_chars? hcs
  · cases h

end Utf8

namespace Score

theorem byteLength_append (cs ds : List Char) :
    byteLength (cs ++ ds) = byteLength cs + byteLength ds := by
  induction cs with
  | nil => simp [byteLength]
  | cons c cs ih => simp only [List.cons_append, byteLength, ih, Nat.add_assoc]

theorem length_le_byteLength (cs : List Char) : cs.length ≤ byteLength cs := by
  induction cs with
  | nil => exact le_rfl
  | cons c cs ih =>
    have hpos := c.utf8Size_pos
    simp only [List.length_cons, byteLength]
    omega

theorem length_encode (cs : List Char) : (Utf8.encode cs).length = byteLength cs := by
  induction cs with
  | nil => rfl
  | cons c cs ih =>
    change (String.utf8EncodeChar c ++ Utf8.encode cs).length = _
    rw [List.length_append, String.length_utf8EncodeChar, ih, byteLength]

def charStart (cs : List Char) (k : Nat) : Nat := byteLength (cs.take k)

theorem charStart_add_byteLength_drop (cs : List Char) (k : Nat) :
    charStart cs k + byteLength (cs.drop k) = byteLength cs := by
  rw [charStart, ← byteLength_append, List.take_append_drop]

theorem charStart_add (cs : List Char) (k n : Nat) :
    charStart cs (k + n) = charStart cs k + charStart (cs.drop k) n := by
  rw [charStart, List.take_add, byteLength_append]
  rfl

theorem charStart_lt {cs : List Char} {i k : Nat} (hik : i < k) (hk : k ≤ cs.length) :
    charStart cs i < charStart cs k := by
  obtain ⟨n, rfl⟩ := Nat.exists_eq_add_of_lt hik
  have hlen := length_le_byteLength ((cs.drop i).take (n + 1))
  rw [List.length_take, List.length_drop] at hlen
  rw [Nat.add_assoc, charStart_add]
  unfold charStart at *
  omega

theorem charStart_le {cs : List Char} {i k : Nat} (hik : i ≤ k) : charStart cs i ≤ charStart cs k := by
  obtain ⟨n, rfl⟩ := Nat.exists_eq_add_of_le hik
  rw [charStart_add]
  exact Nat.le_add_right _ _

theorem charStart_of_singleByte {cs : List Char} (h : byteLength cs = cs.length) {k : Nat}
    (hk : k ≤ cs.length) : charStart cs k = k := by
  have htotal := charStart_add_byteLength_drop cs k
  have hfront := length_le_byteLength (cs.take k)
  have hback := length_le_byteLength (cs.drop k)
  rw [List.length_take] at hfront
  rw [List.length_drop] at hback
  unfold charStart at *
  omega

@[simp] theorem length_byteStarts (from_ : Nat) (cs : List Char) :
    (byteStarts from_ cs).length = cs.length + 1 := by
  fun_induction byteStarts from_ cs with
  | case1 => rfl
  | case2 from_ c cs ih => simp [ih]

theorem getElem?_byteStarts (from_ : Nat) {cs : List Char} {k : Nat} (hk : k ≤ cs.length) :
    (byteStarts from_ cs)[k]? = some (from_ + charStart cs k) := by
  fun_induction byteStarts from_ cs generalizing k with
  | case1 from_ =>
    obtain rfl : k = 0 := by simpa using hk
    rfl
  | case2 from_ c cs ih =>
    cases k with
    | zero => rfl
    | succ k =>
      rw [List.getElem?_cons_succ, ih (by simpa using hk), charStart, charStart, List.take_succ_cons,
        byteLength, Nat.add_assoc]

theorem starts_ofText {cs : List Char} {k : Nat} (hk : k ≤ cs.length) :
    (OffsetIndex.ofText cs).starts.getD k 0 = charStart cs k := by
  have h := getElem?_byteStarts 0 hk
  rw [Nat.zero_add] at h
  simp [OffsetIndex.ofText, h]

theorem firstFrom_eq {index : OffsetIndex} {offset : Int} {lo hi r : Nat} (hlo : lo ≤ r)
    (hhi : r ≤ hi) (hbefore : ∀ i < r, (index.starts.getD i 0 : Int) < offset)
    (hbehind : ∀ i, r ≤ i → i < hi → offset ≤ (index.starts.getD i 0 : Int)) :
    index.firstFrom offset lo hi = r := by
  fun_induction OffsetIndex.firstFrom index offset lo hi with
  | case1 lo hi hlt middle hmiddle ih =>
    -- the middle starts before the offset, so the place is behind it
    have hr : middle < r := by
      by_contra hle
      have := hbehind middle (Nat.le_of_not_lt hle) (by omega)
      omega
    exact ih hr hhi hbehind
  | case2 lo hi hlt middle hmiddle ih =>
    have hr : r ≤ middle := by
      by_contra hlt
      exact hmiddle (hbefore middle (Nat.lt_of_not_le hlt))
    exact ih hlo hr fun i hi hlt => hbehind i hi (by omega)
  | case3 lo hi hle => omega

theorem firstFrom_ofText_eq {cs : List Char} {k : Nat} (hk : k ≤ cs.length) {offset : Int}
    (hbefore : ∀ i < k, (charStart cs i : Int) < offset) (hbehind : offset ≤ charStart cs k) :
    (OffsetIndex.ofText cs).firstFrom offset 0 (OffsetIndex.ofText cs).starts.size = k := by
  have hsize : (OffsetIndex.ofText cs).starts.size = cs.length + 1 := by simp [OffsetIndex.ofText]
  rw [hsize, firstFrom_eq (Nat.zero_le k) (Nat.le_succ_of_le hk)]
  · intro i hi
    rw [starts_ofText (by omega)]
    exact hbefore i hi
  · intro i hki hi
    rw [starts_ofText (by omega)]
    exact hbehind.trans (by exact_mod_cast charStart_le hki)

/-- The character offset of a byte offset is the first character that starts at or behind it. -/
theorem charOffset_eq {cs : List Char} {k : Nat} (hk : k ≤ cs.length) {offset : Int}
    (hpos : 0 ≤ offset) (hbefore : ∀ i < k, (charStart cs i : Int) < offset)
    (hbehind : offset ≤ charStart cs k) : charOffset cs offset = k := by
  unfold charOffset OffsetIndex.charOffset
  split_ifs with hsingle
  · -- every character takes one byte, so the offset is between the last index before and `k`
    have hsingle : byteLength cs = cs.length := by simpa [OffsetIndex.ofText] using hsingle
    rw [charStart_of_singleByte hsingle hk] at hbehind
    cases k with
    | zero => omega
    | succ k =>
      have hlast := hbefore k (Nat.lt_succ_self k)
      rw [charStart_of_singleByte hsingle (Nat.le_of_succ_le hk)] at hlast
      omega
  · rw [firstFrom_ofText_eq hk hbefore hbehind]

theorem charOffset_charStart {cs : List Char} {k : Nat} (hk : k ≤ cs.length) :
    charOffset cs (charStart cs k) = k := by
  refine charOffset_eq hk (Int.natCast_nonneg _) ?_ le_rfl
  intro i hi
  exact_mod_cast charStart_lt hi hk

theorem drop_encode (cs : List Char) (k : Nat) :
    (Utf8.encode cs).drop (charStart cs k) = Utf8.encode (cs.drop k) := by
  conv_lhs => rw [← List.take_append_drop k cs, Utf8.encode_append, List.take_append_drop]
  exact List.drop_left' (length_encode _)

theorem take_encode (cs : List Char) (k : Nat) :
    (Utf8.encode cs).take (charStart cs k) = Utf8.encode (cs.take k) := by
  conv_lhs => rw [← List.take_append_drop k cs, Utf8.encode_append, List.take_append_drop]
  exact List.take_left' (length_encode _)

/-- The bytes between two characters are the encoding of the characters between them. -/
theorem slice_encode (cs : List Char) (i j : Nat) :
    Utf8.slice (Utf8.encode cs) (charStart cs i) (charStart cs j) =
      Utf8.encode ((cs.take j).drop i) := by
  have hsize : charStart cs j - charStart cs i = charStart (cs.drop i) (j - i) := by
    rcases Nat.le_total i j with hij | hji
    · obtain ⟨n, rfl⟩ := Nat.exists_eq_add_of_le hij
      rw [charStart_add, Nat.add_sub_cancel_left, Nat.add_sub_cancel_left]
    · have hle : charStart cs j ≤ charStart cs i := charStart_le hji
      rw [Nat.sub_eq_zero_of_le hle, Nat.sub_eq_zero_of_le hji]
      rfl
  rw [Utf8.slice, drop_encode, hsize, take_encode, List.drop_take]

end Score

end ComplexityHints
