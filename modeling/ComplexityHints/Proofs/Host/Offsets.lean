import ComplexityHints.Proofs.Host.Layout
import ComplexityHints.Proofs.Score.Offset
import ComplexityHints.Proofs.Score.Placement

namespace ComplexityHints.Host

open Syntax Score MetricUnit

theorem cut_congr {s t : Text} {i j : Nat} (h : ∀ k, i ≤ k → k < j → s[k]? = t[k]?) :
    cut s ⟨i, j⟩ = cut t ⟨i, j⟩ := by
  apply List.ext_getElem?
  intro n
  by_cases hn : i + n < j
  · have hs := getElem?_cut (t := s) (s := ⟨i, j⟩) (Nat.le_add_right i n) hn
    have ht := getElem?_cut (t := t) (s := ⟨i, j⟩) (Nat.le_add_right i n) hn
    rw [Nat.add_sub_cancel_left] at hs ht
    rw [hs, ht, h (i + n) (Nat.le_add_right i n) hn]
  · have hout (u : Text) : (cut u ⟨i, j⟩)[n]? = none := by
      apply List.getElem?_eq_none
      rw [length_cut]
      dsimp only
      omega
    rw [hout, hout]

theorem cut_ofChars (cs : List Char) (i j : Nat) :
    cut (Text.ofChars cs) ⟨i, j⟩ = Text.ofChars ((cs.take j).drop i) := by
  rw [cut, Text.ofChars, Text.ofChars, List.map_drop, List.map_take]

def Covers (t : Text) (u : MetricUnit) (bytes : Utf8.Bytes) : Prop :=
  ∃ start stop : Nat, u.start = start ∧ u.stop = stop ∧
    ∃ cs, Utf8.scalars (cut t ⟨start, stop⟩) = .ok cs ∧ Utf8.encode cs = bytes

/-- A node that starts and stops where characters do, with all of its characters inside a span. -/
def Inside (cs : List Char) (s : Span) (n : Node) : Prop :=
  ∃ i j, i ≤ cs.length ∧ j ≤ cs.length ∧ n.start = charStart cs i ∧ n.stop = charStart cs j ∧
    ∀ k, i ≤ k → k < j → s.start ≤ k ∧ k < s.stop

theorem covers_of_inside {t : Text} {cs : List Char} (hcs : mask t = Text.ofChars cs) {b : Span}
    (hb : b ∈ bodies t) {n : Node} (hn : Inside cs b n) {u : MetricUnit}
    (hstart : u.start = charOffset cs n.start) (hstop : u.stop = charOffset cs n.stop) :
    Covers t u (Utf8.slice (Utf8.encode cs) n.start n.stop) := by
  obtain ⟨i, j, hi, hj, hni, hnj, hin⟩ := hn
  rw [hni, charOffset_charStart hi] at hstart
  rw [hnj, charOffset_charStart hj] at hstop
  -- the node's stretch of the document is that of the masked text
  have hcut : cut t ⟨i, j⟩ = Text.ofChars ((cs.take j).drop i) := by
    rw [← cut_ofChars, ← hcs]
    apply cut_congr
    intro k hik hkj
    obtain ⟨hlo, hhi⟩ := hin k hik hkj
    exact (getElem?_mask_of_mem_bodies hb hlo hhi).symm
  refine ⟨i, j, hstart, hstop, (cs.take j).drop i, ?_, ?_⟩
  · rw [hcut, Utf8.scalars_ofChars]
  · rw [hni, hnj, slice_encode]

/-- Units of a host document whose nodes lie in a script body span the very text of the nodes in the
document, and its file spans the document. -/
theorem host_units_cover_nodes {grammar uri : String} {t : Text} (s : Settings)
    {source : TreeSource} {cs : List Char} {tree : Node} (hcs : Utf8.scalars (mask t) = .ok cs)
    (htree : (Engine.host grammar).tree uri source cs = .ok tree) :
    (∀ root, (Engine.host grammar).compute uri t s source = .ok root →
      root.start = 0 ∧ root.stop = t.length) ∧
    ∀ costs, s.script = .costs costs →
      ∃ root, (Engine.host grammar).compute uri t s source = .ok root ∧
        List.Forall₂ (fun v u => ∀ b ∈ bodies t, Inside cs b v.node →
            Covers t u (Utf8.slice (Utf8.encode cs) v.node.start v.node.stop))
          ((visits [] tree).filter (scored (Script.rules (Utf8.encode cs)) costs))
          root.preorder.tail := by
  have hmask := Utf8.eq_ofChars_of_scalars hcs
  have hlength : cs.length = t.length := by
    rw [← (aligned_mask t).length_eq, hmask, Text.length_ofChars]
  have hcompute : (Engine.host grammar).compute uri t s source =
      (metricTree (Script.rules (Utf8.encode cs)) s.script cs tree).mapError .fault :=
    compute_eq_score s hcs htree
  rw [hcompute]
  constructor
  · intro root hroot
    cases hscore : metricTree (Script.rules (Utf8.encode cs)) s.script cs tree with
    | error fault => simp [hscore, Except.mapError] at hroot
    | ok root' =>
      rw [hscore] at hroot
      cases hroot
      rw [← hlength]
      exact span_of_metricTree hscore
  · intro costs hcosts
    rw [hcosts, metricTree_costs]
    refine ⟨_, rfl, ?_⟩
    have htree := isMetricTree_file (Script.isDeclaration_eq (Utf8.encode cs)) costs cs tree
    refine (forall₂_units htree).imp ?_
    intro v u hu b hb hinside
    obtain ⟨hstart, hstop⟩ := span_of_unit? hu
    exact covers_of_inside hmask hb hinside hstart hstop

/-- The accent in the markup loses a byte to masking, the one in the script keeps both. -/
theorem host_units_cover_nodes_of_accents :
    let t := Text.ofString "é\n<script>/*é*/if(a);</script>"
    let cs := " \n/*crip*//*é*/if(a);         ".toList
    let branch := Node.mk "if_statement" 16 22 none true []
    let tree := Node.mk "program" 0 31 none true [branch]
    ⟨10, 21⟩ ∈ bodies t ∧ Inside cs ⟨10, 21⟩ branch ∧
      Utf8.slice (Utf8.encode cs) 16 22 = Utf8.encode "if(a);".toList ∧
      ∃ root, (Engine.host "typescript").compute "" t {} (.given (some tree)) = .ok root ∧
        List.Forall₂ (fun v u => ∀ b ∈ bodies t, Inside cs b v.node →
            Covers t u (Utf8.slice (Utf8.encode cs) v.node.start v.node.stop))
          ((visits [] tree).filter (scored (Script.rules (Utf8.encode cs)) .default))
          root.preorder.tail := by
  have hcs : Utf8.scalars (mask (Text.ofString "é\n<script>/*é*/if(a);</script>")) =
      .ok " \n/*crip*//*é*/if(a);         ".toList := by decide +kernel
  refine ⟨by decide +kernel, ⟨15, 21, by decide, by decide, by decide, by decide, ?_⟩,
    by decide +kernel, (host_units_cover_nodes {} hcs rfl).2 .default rfl⟩
  intro k hk hlt
  dsimp only
  omega

end ComplexityHints.Host
