/-
  ConnectString.Proofs.Settings.Depth — the depth that is configured is the depth that is in force.

  A depth beyond the ceiling never gets into settings: a text that asks for one is refused (`maxDepth_of_parse`), and
  so is a layer of overrides (`maxDepth_of_override`), which then leaves the settings as they were. So the depth stays
  within the ceiling through any history of layers (`maxDepth_of_reachable`), and cutting it at the ceiling, as a
  resolver and the reader both do with what they are asked for, changes nothing.

  Main statement: a resolver made from settings, and a dialect that a plug-in adds with them, read descriptors under
  exactly the depth that is configured (`configured_depth_in_force`).
-/

import ConnectString.Proofs.Resolve.Coherence
import ConnectString.Registry
import ConnectString.Settings.Override
import ConnectString.Toml.Standard

namespace ConnectString

open Descriptor

namespace Settings

/-- Settings before any layer of overrides: the default ones, or those that a text holds in some environment. -/
inductive Loaded (codec : Toml.Codec) : Settings → Prop where
  | default : Loaded codec default
  | parsed {env : Environment} {t : Text} {s : Settings} (h : parse codec env t = .ok s) : Loaded codec s

/-- Settings that stand after some layers of overrides, each of them applied to the last good settings. -/
def Reachable (codec : Toml.Codec) (s : Settings) : Prop :=
  ∃ base, Loaded codec base ∧ (s = base ∨ ∃ envs, .ok s ∈ base.layers envs)

/-- The limit that a resolver keeps when it is made from settings. -/
def resolverLimit (s : Settings) : Nat := effectiveLimit s.maxDepth

end Settings

namespace Resolve

/-- A depth is in force in a resolver: it is the limit that descriptors are read under, as it stands. -/
structure InForce (depth : Nat) (resolver : Option Text → Logged Outcome) : Prop where
  /-- A descriptor that is refused as too deep is refused with this depth. -/
  reported : ∀ url t, HoldsDescriptor url t → ∀ k,
    (resolver (some url)).value.failure? = some (.nestingTooDeep k) → k = depth
  /-- Apart from that, what the reader says under this limit decides the outcome. -/
  agrees : ∀ url t, HoldsDescriptor url t →
    (resolver (some url)).value = .ofFound url ((parse depth t).bind foundIn)
  /-- The reader counts up to this depth, and to no lower one. -/
  uncut : ∀ t, parse depth t =
    if depth = 0 then .error (.nestingTooDeep 0) else State.run depth 0 .before t
  /-- A descriptor that some limit allows is refused as too deep exactly if it nests deeper. -/
  exact : ∀ url t, HoldsDescriptor url t → ∀ limit root, parse limit t = .ok root →
    ((∃ k, (resolver (some url)).value.failure? = some (.nestingTooDeep k)) ↔ depth < Text.nesting t)

end Resolve

/-! ## Settings -/

namespace Settings

variable {codec : Toml.Codec} {s s' : Settings} {env : Environment}

theorem depthFault?_eq_none_iff (depth : Nat) : depthFault? depth = none ↔ depth ≤ depthCeiling := by
  unfold depthFault?
  split
  · rename_i hbeyond
    simp only [reduceCtorEq, false_iff]
    omega
  · rename_i hwithin
    simp only [true_iff]
    omega

theorem maxDepth_of_parse {t : Text} (h : parse codec env t = .ok s) : s.maxDepth ≤ depthCeiling := by
  unfold parse at h
  split at h
  · cases h
  · split at h
    · cases h
    · split at h
      · cases h
      · rename_i hfault
        cases h
        exact (depthFault?_eq_none_iff _).mp hfault

theorem le_of_depthOverride {depth : Nat} (h : depthOverride env = .ok (some depth)) : depth ≤ depthCeiling := by
  unfold depthOverride at h
  split at h
  · split at h
    · cases h
    · rename_i hfault
      cases h
      exact (depthFault?_eq_none_iff _).mp hfault
  · rename_i hother
    exact absurd h (hother depth)

/-- Overrides take effect when each of the four variables can be used, and then all at once. -/
theorem override_eq_ok_iff : s.override env = .ok s' ↔
    ∃ enable trace size depth, booleanVariable env enableVariable = .ok enable ∧
      booleanVariable env traceVariable = .ok trace ∧ naturalVariable env sizeVariable = .ok size ∧
      depthOverride env = .ok depth ∧
      s' = {
        plugin := { s.plugin with
          enable := enable.getD s.plugin.enable
          traceSqlBindValue := trace.getD s.plugin.traceSqlBindValue
          maxSqlBindValueSize := size.getD s.plugin.maxSqlBindValueSize }
        maxDepth := depth.getD s.maxDepth } := by
  unfold override
  rcases booleanVariable env enableVariable with e | enable
  · simp [bind, Except.bind]
  rcases booleanVariable env traceVariable with e | trace
  · simp [bind, Except.bind]
  rcases naturalVariable env sizeVariable with e | size
  · simp [bind, Except.bind]
  rcases depthOverride env with e | depth
  · simp [bind, Except.bind]
  · simp [bind, Except.bind, pure, Except.pure, eq_comm]

/-- One layer keeps the depth within the ceiling. -/
theorem maxDepth_of_override (h : s.override env = .ok s') (hs : s.maxDepth ≤ depthCeiling) :
    s'.maxDepth ≤ depthCeiling := by
  obtain ⟨enable, trace, size, depth, -, -, -, hdepth, rfl⟩ := override_eq_ok_iff.mp h
  rcases depth with _ | depth
  · exact hs
  · exact le_of_depthOverride hdepth

/-- So do layers one after the other; one that is refused makes no difference. -/
theorem maxDepth_of_mem_layers {envs : List Environment} (hs : s.maxDepth ≤ depthCeiling)
    (h : .ok s' ∈ s.layers envs) : s'.maxDepth ≤ depthCeiling := by
  induction envs generalizing s with
  | nil => cases h
  | cons env envs ih =>
    rw [layers] at h
    split at h
    · rename_i next hnext
      have hwithin := maxDepth_of_override hnext hs
      rcases List.mem_cons.mp h with heq | hmem
      · cases heq
        exact hwithin
      · exact ih hwithin hmem
    · rcases List.mem_cons.mp h with heq | hmem
      · cases heq
      · exact ih hs hmem

/-- The depth of settings is within the ceiling, wherever they come from. -/
theorem maxDepth_of_reachable (h : Reachable codec s) : s.maxDepth ≤ depthCeiling := by
  obtain ⟨base, hbase, hs⟩ := h
  have hwithin : base.maxDepth ≤ depthCeiling := by
    cases hbase with
    | default => decide
    | parsed hparse => exact maxDepth_of_parse hparse
  rcases hs with rfl | ⟨envs, hmem⟩
  · exact hwithin
  · exact maxDepth_of_mem_layers hwithin hmem

end Settings

/-! ## Resolvers -/

namespace Resolve

variable {depth limit : Nat} {url t : Text} {root : Tree}

/-- Nothing but the reader finds that a descriptor is too deep. -/
theorem tooDeep_of_failure {k : Nat}
    (h : (Outcome.ofFound url ((parse depth t).bind foundIn)).failure? = some (.nestingTooDeep k)) :
    parse depth t = .error (.nestingTooDeep k) := by
  rcases hparse : parse depth t with e | root
  · rw [hparse] at h
    cases h
    rfl
  · rw [hparse] at h
    change (Outcome.ofFound url (foundIn root)).failure? = _ at h
    rcases hfound : foundIn root with e | found
    · rw [hfound] at h
      cases h
      rcases foundIn_error hfound with he | he
      · cases he
      · cases he
    · rw [hfound] at h
      cases h

/-- A text that some limit allows is too deep for a depth within the ceiling exactly if it nests deeper. -/
theorem parse_tooDeep_iff (hdepth : effectiveLimit depth = depth) (h : parse limit t = .ok root) :
    (∃ k, parse depth t = .error (.nestingTooDeep k)) ↔ depth < Text.nesting t := by
  have hpos := nesting_pos_of_parse_ok h
  constructor
  · rintro ⟨k, hdeep⟩
    have hlt := (limit_of_parse_tooDeep hdeep).2
    rw [hdepth] at hlt
    omega
  · intro hlt
    have hrefused : ∀ u, parse depth t ≠ .ok u := by
      intro u hu
      have hle := nesting_le_of_parse_ok hu
      rw [hdepth] at hle
      omega
    -- The wider of the two limits reads what the narrower one reads, so it is the depth that is narrower.
    rcases Nat.le_total limit depth with hle | hle
    · exact absurd (parse_ok_mono hle h) (hrefused root)
    · rcases cutOff_parse hle t with hdeep | hsame
      · exact ⟨_, hdeep⟩
      · rw [h] at hsame
        exact absurd hsame (hrefused root)

/-- A limit that is not cut at the ceiling is in force as it stands. -/
theorem inForce_resolve (hdepth : effectiveLimit depth = depth) : InForce depth (resolve depth) := by
  refine ⟨?reported, ?agrees, ?uncut, ?exact⟩
  case reported =>
    intro url t hurl k h
    rw [value_resolve_of_holdsDescriptor depth hurl] at h
    rw [(limit_of_parse_tooDeep (tooDeep_of_failure h)).1, hdepth]
  case agrees =>
    intro url t hurl
    exact value_resolve_of_holdsDescriptor depth hurl
  case uncut =>
    intro t
    rw [parse, hdepth]
  case exact =>
    intro url t hurl limit root h
    rw [← parse_tooDeep_iff hdepth h, value_resolve_of_holdsDescriptor depth hurl]
    constructor
    · rintro ⟨k, hfailure⟩
      exact ⟨k, tooDeep_of_failure hfailure⟩
    · rintro ⟨k, hdeep⟩
      refine ⟨k, ?_⟩
      rw [hdeep]
      rfl

end Resolve

namespace Settings

/-- The depth of settings that a process can come to is at most the ceiling, and a resolver that is made from them
    keeps it as it is. It is in force in this resolver, and in the dialect that the plug-in adds with it. -/
theorem configured_depth_in_force {codec : Toml.Codec} {s : Settings} (h : Reachable codec s) :
    s.maxDepth ≤ depthCeiling ∧ s.resolverLimit = s.maxDepth ∧
      Resolve.InForce s.maxDepth (resolve s.resolverLimit) ∧
      ∀ r : Registry, s.plugin.enable = true →
        ∃ d, (r.setup s.plugin s.resolverLimit).value = (true, r.add d) ∧ Resolve.InForce s.maxDepth d.resolve := by
  have hwithin := maxDepth_of_reachable h
  have hdepth : effectiveLimit s.maxDepth = s.maxDepth := Nat.min_eq_left hwithin
  have hlimit : s.resolverLimit = s.maxDepth := hdepth
  have hforce := Resolve.inForce_resolve hdepth
  rw [hlimit]
  refine ⟨hwithin, rfl, hforce, ?_⟩
  intro r henable
  refine ⟨.tibero s.maxDepth, ?_, hforce⟩
  unfold Registry.setup
  rw [henable]
  rfl

/-- A layer that asks for too much is left out, and the next one is in force. -/
theorem configured_depth_in_force_layers :
    let base : Settings := ⟨{ PluginSettings.default with enable := true }, 256⟩
    let tooMuch := Environment.ofList [(depthVariable.toList, "257".toList)]
    let two := Environment.ofList [(depthVariable.toList, " +2".toList)]
    parse Toml.standard tooMuch "[jdbc.tibero]\nenable=true\n[resolver]\nmax_depth=256".toList = .ok base ∧
      (∃ e, base.layers [tooMuch, two] = [.error e, .ok { base with maxDepth := 2 }]) ∧
      Resolve.InForce 2 (resolve 2) := by
  intro base tooMuch two
  have hparse : parse Toml.standard tooMuch "[jdbc.tibero]\nenable=true\n[resolver]\nmax_depth=256".toList = .ok base := by
    decide +kernel
  have hlayers : base.layers [tooMuch, two] =
      [.error (.invalidVariable depthVariable.toList "max_depth 257 exceeds the limit of 256".toList),
        .ok { base with maxDepth := 2 }] := by
    decide +kernel
  have hmem : .ok { base with maxDepth := 2 } ∈ base.layers [tooMuch, two] := by
    rw [hlayers]
    simp
  exact ⟨hparse, ⟨_, hlayers⟩, (configured_depth_in_force ⟨base, .parsed hparse, .inr ⟨_, hmem⟩⟩).2.2.1⟩

end Settings

end ConnectString
