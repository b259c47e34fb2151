import ComplexityHints.Proofs.Score.Offset
import Mathlib.Order.Bounds.Basic

namespace ComplexityHints.Score

variable {cs : List Char}

/-- The character offset that halving finds, whether or not every character takes one byte. -/
def searchedOffset (cs : List Char) (offset : Int) : Nat :=
  (OffsetIndex.ofText cs).firstFrom offset 0 (OffsetIndex.ofText cs).starts.size

def OnBoundary (cs : List Char) (o : Nat) : Prop :=
  ∃ k ≤ cs.length, o = (Utf8.encode (cs.take k)).length

theorem length_encode_take (cs : List Char) (k : Nat) :
    (Utf8.encode (cs.take k)).length = charStart cs k :=
  length_encode _

theorem exists_isLeast {o : Nat} (ho : o ≤ (Utf8.encode cs).length) :
    ∃ k ≤ cs.length, IsLeast {k | o ≤ charStart cs k} k := by
  have hend : o ≤ charStart cs cs.length := by
    rwa [charStart, List.take_length, ← length_encode]
  have hex : ∃ k, o ≤ charStart cs k := ⟨cs.length, hend⟩
  exact ⟨Nat.find hex, Nat.find_min' hex hend, Nat.find_spec hex, fun _ => Nat.find_min' hex⟩

theorem lt_of_isLeast {o k : Nat} (h : IsLeast {k | o ≤ charStart cs k} k) (i : Nat) (hi : i < k) :
    (charStart cs i : Int) < o := by
  have hnot : ¬ o ≤ charStart cs i := fun hle => Nat.not_le_of_lt hi (h.2 hle)
  omega

theorem charOffset_of_isLeast {o k : Nat} (hk : k ≤ cs.length)
    (h : IsLeast {k | o ≤ charStart cs k} k) : charOffset cs o = k :=
  charOffset_eq hk (Int.natCast_nonneg o) (lt_of_isLeast h) (by exact_mod_cast h.1)

theorem searchedOffset_of_isLeast {o k : Nat} (hk : k ≤ cs.length)
    (h : IsLeast {k | o ≤ charStart cs k} k) : searchedOffset cs o = k :=
  firstFrom_ofText_eq hk (lt_of_isLeast h) (by exact_mod_cast h.1)

theorem utf8Size_eq_one_iff :
    (∀ c ∈ cs, c.utf8Size = 1) ↔ (Utf8.encode cs).length = cs.length := by
  rw [length_encode]
  induction cs with
  | nil => simp [byteLength]
  | cons c cs ih =>
    have hpos := c.utf8Size_pos
    have hle := length_le_byteLength cs
    rw [List.forall_mem_cons, ih, byteLength, List.length_cons]
    omega

theorem isLeast_of_singleByte (h : (Utf8.encode cs).length = cs.length) {o : Nat}
    (ho : o ≤ cs.length) : IsLeast {k | o ≤ charStart cs k} o := by
  rw [length_encode] at h
  refine ⟨(charStart_of_singleByte h ho).ge, ?_⟩
  intro k hk
  by_contra hlt
  have hlt : k < o := Nat.lt_of_not_le hlt
  have hsame : charStart cs k = k := charStart_of_singleByte h (by omega)
  exact absurd (hsame ▸ hk : o ≤ k) (by omega)

theorem charOffset_between {o o' : Nat} (hle : o ≤ o') (ho' : o' ≤ (Utf8.encode cs).length) :
    0 ≤ charOffset cs o ∧ charOffset cs o ≤ charOffset cs o' ∧ charOffset cs o' ≤ cs.length := by
  obtain ⟨k, hk, hleast⟩ := exists_isLeast (hle.trans ho')
  obtain ⟨k', hk', hleast'⟩ := exists_isLeast ho'
  have hmono : k ≤ k' := hleast.2 (hle.trans hleast'.1)
  rw [charOffset_of_isLeast hk hleast, charOffset_of_isLeast hk' hleast']
  omega

/-- The character offset of a byte offset in a text is the least index whose text before it encodes to
at least as many bytes. It undoes the encoding of the text before an index and keeps the order of
offsets, and the characters between two converted boundaries encode to the bytes between them. The
text has as many bytes as characters exactly if every character takes one byte, and then an offset is
kept, which is what halving finds. -/
theorem charOffset_converts (cs : List Char) :
    (∀ k ≤ cs.length, charOffset cs (Utf8.encode (cs.take k)).length = k) ∧
    (∀ o ≤ (Utf8.encode cs).length, ∃ k : Nat, charOffset cs o = k ∧ k ≤ cs.length ∧
      IsLeast {k | o ≤ (Utf8.encode (cs.take k)).length} k) ∧
    (∀ o o' : Nat, o ≤ o' → o' ≤ (Utf8.encode cs).length → charOffset cs o ≤ charOffset cs o') ∧
    (∀ s e : Nat, s ≤ e → OnBoundary cs s → OnBoundary cs e →
      Utf8.encode ((cs.take (charOffset cs e).toNat).drop (charOffset cs s).toNat) =
        Utf8.slice (Utf8.encode cs) s e) ∧
    ((∀ c ∈ cs, c.utf8Size = 1) ↔ (Utf8.encode cs).length = cs.length) ∧
    ((Utf8.encode cs).length = cs.length → ∀ o ≤ (Utf8.encode cs).length,
      charOffset cs o = o ∧ searchedOffset cs o = o) := by
  simp only [OnBoundary, length_encode_take]
  refine ⟨fun k hk => charOffset_charStart hk, ?_, ?_, ?_, utf8Size_eq_one_iff, ?_⟩
  · intro o ho
    obtain ⟨k, hk, hleast⟩ := exists_isLeast ho
    exact ⟨k, charOffset_of_isLeast hk hleast, hk, hleast⟩
  · intro o o' hle ho'
    obtain ⟨k, hk, hleast⟩ := exists_isLeast (hle.trans ho')
    obtain ⟨k', hk', hleast'⟩ := exists_isLeast ho'
    rw [charOffset_of_isLeast hk hleast, charOffset_of_isLeast hk' hleast']
    have hmono : k ≤ k' := hleast.2 (hle.trans hleast'.1)
    exact_mod_cast hmono
  · rintro s e - ⟨i, hi, rfl⟩ ⟨j, hj, rfl⟩
    rw [charOffset_charStart hi, charOffset_charStart hj, slice_encode]
    rfl
  · intro hsingle o ho
    have ho : o ≤ cs.length := hsingle ▸ ho
    have hleast := isLeast_of_singleByte hsingle ho
    exact ⟨charOffset_of_isLeast ho hleast, searchedOffset_of_isLeast ho hleast⟩

/-- Characters of one to four bytes, with the bytes of the second and the third. -/
theorem charOffset_converts_of_widths :
    let cs := "aé漢😀".toList
    OnBoundary cs 1 ∧ OnBoundary cs 6 ∧
      Utf8.encode ((cs.take (charOffset cs (6 : Nat)).toNat).drop (charOffset cs (1 : Nat)).toNat) =
        Utf8.slice (Utf8.encode cs) 1 6 := by
  intro cs
  have hfirst : OnBoundary cs 1 := ⟨1, by decide +kernel, by decide +kernel⟩
  have hlast : OnBoundary cs 6 := ⟨3, by decide +kernel, by decide +kernel⟩
  exact ⟨hfirst, hlast, (charOffset_converts cs).2.2.2.1 1 6 (by decide) hfirst hlast⟩

end ComplexityHints.Score
