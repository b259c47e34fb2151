import ComplexityHints.Command
import ComplexityHints.Proofs.Settings.Precedence
import Mathlib.Tactic.SplitIfs

namespace ComplexityHints

namespace Keyed

variable {α : Type} {key k : String} {m m' : Keyed α}

/-- Two maps have the same keys in the same order, and the same values under all of them but one. -/
structure AgreeBut (key : String) (m m' : Keyed α) : Prop where
  keys : m.map (·.1) = m'.map (·.1)
  lookup : ∀ k, k ≠ key → m.lookup k = m'.lookup k

theorem agreeBut_put (key : String) (v v' : α) (m : Keyed α) :
    AgreeBut key (put key v m) (put key v' m) := by
  refine ⟨by rw [keys_put, keys_put], ?_⟩
  intro k hk
  rw [lookup_put, lookup_put, if_neg hk, if_neg hk]

theorem AgreeBut.put (h : AgreeBut key m m') (k : String) (v : α) :
    AgreeBut key (put k v m) (put k v m') := by
  refine ⟨by rw [keys_put, keys_put, h.keys], ?_⟩
  intro k' hk'
  rw [lookup_put, lookup_put, h.lookup k' hk']

theorem AgreeBut.putAll (h : AgreeBut key m m') (entries : Keyed α) :
    AgreeBut key (putAll m entries) (putAll m' entries) := by
  induction entries generalizing m m' with
  | nil => exact h
  | cons e entries ih => exact ih (h.put e.1 e.2)

theorem AgreeBut.filter_ne (h : AgreeBut key m m') (k : String) :
    AgreeBut key (m.filter (·.1 ≠ k)) (m'.filter (·.1 ≠ k)) := by
  have hkeys (m : Keyed α) : (m.filter (·.1 ≠ k)).map (·.1) = (m.map (·.1)).filter (· ≠ k) := by
    rw [List.filter_map]
    rfl
  refine ⟨by rw [hkeys, hkeys, h.keys], ?_⟩
  intro k' hk'
  by_cases heq : k' = k
  · rw [heq, lookup_filter_self, lookup_filter_self]
  · rw [lookup_filter_ne heq, lookup_filter_ne heq, h.lookup k' hk']

theorem AgreeBut.append (h : AgreeBut key m m') (more : Keyed α) :
    AgreeBut key (m ++ more) (m' ++ more) := by
  refine ⟨by rw [List.map_append, List.map_append, h.keys], ?_⟩
  intro k hk
  rw [List.lookup_append, List.lookup_append, h.lookup k hk]

end Keyed

def Settings.withThreshold (s : Settings) (a : Amount) : Settings := { s with minimumVisible := a }

def Settings.thresholdKey : String := "minimum_visible_complexity"

namespace Settings

variable {m m' : Load.Merged} {s : Settings} {a a' : Amount}

theorem plainOr_eq (h : m.AgreeBut thresholdKey m') {key : String} (hkey : key ≠ thresholdKey)
    (default : Value) : plainOr m key default = plainOr m' key default := by
  rw [plainOr, plainOr, h.lookup key hkey]

theorem assemble_eq (h : m.AgreeBut thresholdKey m') (exclude : List String) :
    assemble m' exclude a' = (assemble m exclude a).withThreshold a' := by
  have hplain {key : String} (hkey : key ≠ thresholdKey) (default : Value) :
      plainOr m' key default = plainOr m key default := (plainOr_eq h hkey default).symm
  have hsection {key : String} (hkey : key ≠ thresholdKey) : m'.lookup key = m.lookup key :=
    (h.lookup key hkey).symm
  simp only [assemble, withThreshold, Settings.mk.injEq, true_and]
  refine ⟨hplain (by decide) _, funext fun language => hplain ?_ _, hplain (by decide) _,
    hplain (by decide) _, funext fun level => hplain ?_ _, funext fun level => hplain ?_ _, ?_, ?_⟩
  · cases language <;> decide
  · cases level <;> decide
  · cases level <;> decide
  · rw [hsection (by decide)]
  · rw [hsection (by decide)]

/-- Settings that are built with one threshold are built with any other. -/
theorem build_eq_ok_of_agreeBut (h : m.AgreeBut thresholdKey m') {n : Int}
    (hn : m'.lookup thresholdKey = some (.plain (.int n))) (hs : build m = .ok s) :
    build m' = .ok (s.withThreshold (.number n)) := by
  rw [build] at hs
  split at hs
  next => cases hs
  next hknown =>
    rw [build, List.find?_eq_none.2 ?known]
    case known =>
      rintro ⟨key, v⟩ he
      have hkey : key ∈ m.map (·.1) := h.keys ▸ List.mem_map_of_mem he
      obtain ⟨⟨_, v'⟩, he', rfl⟩ := List.mem_map.1 hkey
      exact List.find?_eq_none.1 hknown _ he'
    obtain ⟨exclude, hexclude, hs⟩ := ok_of_bind hs
    obtain ⟨a, -, hs⟩ := ok_of_bind hs
    obtain ⟨inOrder, hinOrder, hs⟩ := ok_of_bind hs
    split_ifs at hs with hrises
    cases hs
    rw [plainOr_eq h (by decide)] at hexclude
    have hthreshold (default : Value) : plainOr m' "minimum_visible_complexity" default = .int n := by
      rw [plainOr, ← thresholdKey, hn]
    have hassemble : assemble m' exclude (.number n) =
        (assemble m exclude a).withThreshold (.number n) := assemble_eq h exclude
    simp only [hexclude, hthreshold, threshold, Value.amount?, bind, Except.bind, hassemble,
      withThreshold, hinOrder, hrises, ↓reduceIte]
    rfl

end Settings

namespace Load

open Settings (thresholdKey)

variable {m m' : Merged} {s : Settings}

section Sections

variable {κ : Type} [Construct κ] {wrap : CostTable κ → Setting}
  {built? : Setting → Option (CostTable κ)}

theorem buildSection_of_lookup (h : buildSection κ wrap built? m = .ok m') :
    ∃ made, ∀ m₁ : Merged, m₁.lookup (Construct.table κ) = m.lookup (Construct.table κ) →
      buildSection κ wrap built? m₁ = .ok (m₁.filter (·.1 ≠ Construct.table κ) ++ made) := by
  rw [buildSection] at h
  split at h
  next hm =>
    refine ⟨[], fun m₁ hlookup => ?_⟩
    rw [buildSection, hlookup, hm, List.append_nil]
  next hm =>
    refine ⟨[], fun m₁ hlookup => ?_⟩
    rw [buildSection, hlookup, hm, List.append_nil]
  next => cases h
  next v _ hm =>
    obtain ⟨costs, hcosts, -⟩ := ok_of_bind h
    refine ⟨[(Construct.table κ, wrap costs)], fun m₁ hlookup => ?_⟩
    simp [buildSection, hlookup, hm, hcosts, bind, Except.bind, pure, Except.pure]
  next s _ _ _ hm =>
    split at h
    next costs hcosts =>
      refine ⟨[(Construct.table κ, wrap costs)], fun m₁ hlookup => ?_⟩
      simp [buildSection, hlookup, hm, hcosts]
    next => cases h

theorem buildSection_of_agreeBut {m₁ : Merged} (hκ : Construct.table κ ≠ thresholdKey)
    (h : m.AgreeBut thresholdKey m') (hm : buildSection κ wrap built? m = .ok m₁) :
    ∃ m₁', buildSection κ wrap built? m' = .ok m₁' ∧ m₁.AgreeBut thresholdKey m₁' ∧
      m₁'.lookup thresholdKey = m'.lookup thresholdKey := by
  obtain ⟨made, hmade⟩ := buildSection_of_lookup hm
  have hm' := hmade m' (h.lookup _ hκ).symm
  have hm₁ := Except.ok.inj (hm.symm.trans (hmade m rfl))
  refine ⟨_, hm', ?_, lookup_buildSection_of_ne hκ.symm hm'⟩
  rw [hm₁]
  exact (h.filter_ne _).append made

end Sections

theorem build_of_agreeBut (h : m.AgreeBut thresholdKey m') {n : Int}
    (hn : m'.lookup thresholdKey = some (.plain (.int n))) (hs : build m = .ok s) :
    build m' = .ok (s.withThreshold (.number n)) := by
  obtain ⟨m₁, m₂, h₁, h₂, hs⟩ := build_eq_ok hs
  obtain ⟨m₁', h₁', hagree, hlookup₁⟩ := buildSection_of_agreeBut (by decide) h h₁
  obtain ⟨m₂', h₂', hagree, hlookup₂⟩ := buildSection_of_agreeBut (by decide) hagree h₂
  have hs' := Settings.build_eq_ok_of_agreeBut hagree (hlookup₂.trans (hlookup₁.trans hn)) hs
  rw [build, h₁']
  simp only [bind, Except.bind, h₂', hs']
  rfl

end Load

namespace Command

open Settings (thresholdKey)

def Request.withThreshold (r : Request) (n : Int) : Request := { r with threshold := some n }

theorem Request.given_withThreshold (r : Request) : ∃ others : Load.Merged, others.Distinct ∧
    others.lookup thresholdKey = none ∧
    ∀ n, Load.given (r.withThreshold n).overrides = (thresholdKey, .plain (.int n)) :: others := by
  unfold Request.overrides Request.withThreshold
  cases r.diagnostics with
  | none => exact ⟨[], by decide, rfl, fun _ => rfl⟩
  | some on =>
    exact ⟨[("diagnostics_enabled", .plain (.bool on))], List.nodup_singleton _, rfl, fun _ => rfl⟩

/-- Another threshold on the command line loads the same settings around it. -/
theorem settings_withThreshold {w : World} {r : Request} {n : Int} {s : Settings} (n' : Int)
    (h : Load.settings w.tree w.environment r.config (r.withThreshold n).overrides = .ok s) :
    Load.settings w.tree w.environment r.config (r.withThreshold n').overrides =
      .ok (s.withThreshold (.number n')) := by
  obtain ⟨m, ambient, hm, hambient, hs⟩ := Load.settings_eq_ok h
  obtain ⟨others, hothers, hnone, hgiven⟩ := r.given_withThreshold
  rw [hgiven] at hs
  rw [Load.settings, hm, hambient, hgiven]
  refine Load.build_of_agreeBut ((Keyed.agreeBut_put thresholdKey _ _ _).putAll others) ?_ hs
  rw [Keyed.lookup_putAll hothers, hnone, Keyed.lookup_put]
  rfl

end Command

end ComplexityHints
