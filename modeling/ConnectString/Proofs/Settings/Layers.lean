/-
  ConnectString.Proofs.Settings.Layers — layers of overrides, one on top of the other.

  Four settings have a variable. `Setting.Says` tells which values a text gives one of them. An environment in which
  every variable that is set gives a value is usable (`Usable`), and any other one is refused for the first variable
  that does not (`Refused`). A layer that is refused has no effect (`override_eq_error_iff`); any other one changes the
  settings whose variables it sets, and no more (`override_eq_ok_iff_read`).

  Main statement: what any row of layers does to settings, one layer after the other (`override_layers`).
-/

import ConnectString.Proofs.Settings.Depth
import ConnectString.Proofs.Settings.Variable

namespace ConnectString

/-- Both environments, of which the later one counts where both set a variable. -/
def Environment.overlay (env later : Environment) : Environment :=
  ⟨fun name => (later.get? name).or (env.get? name)⟩

theorem Environment.get?_overlay (env later : Environment) (name : Text) :
    (env.overlay later).get? name = (later.get? name).or (env.get? name) := rfl

namespace Settings

inductive Setting where
  | enable | trace | size | depth
  deriving DecidableEq, Repr

namespace Setting

def Value : Setting → Type
  | enable | trace => Bool
  | size | depth => Nat

def of (s : Settings) : (k : Setting) → k.Value
  | enable => s.plugin.enable
  | trace => s.plugin.traceSqlBindValue
  | size => s.plugin.maxSqlBindValueSize
  | depth => s.maxDepth

def name : Setting → Text
  | enable => enableVariable.toList
  | trace => traceVariable.toList
  | size => sizeVariable.toList
  | depth => depthVariable.toList

/-- The place in the order in which the variables are read. -/
def place : Setting → Nat
  | enable => 0
  | trace => 1
  | size => 2
  | depth => 3

def Says : (k : Setting) → Text → k.Value → Prop
  | enable => SaysBoolean
  | trace => SaysBoolean
  | size => SaysNatural
  | depth => fun t (n : Nat) => SaysNatural t n ∧ n ≤ 256

/-- What is said about a text that gives a setting no value. -/
inductive Complaint : Setting → Text → String → Prop
  | enable (t : Text) : Complaint enable t s!"expected a boolean, got '{String.ofList t}'"
  | trace (t : Text) : Complaint trace t s!"expected a boolean, got '{String.ofList t}'"
  | size (t : Text) : Complaint size t s!"expected a non-negative integer, got '{String.ofList t}'"
  | depth {t : Text} (h : ∀ n, ¬SaysNatural t n) :
      Complaint depth t s!"expected a non-negative integer, got '{String.ofList t}'"
  | tooDeep {t : Text} {n : Nat} (h : SaysNatural t n) (hn : 256 < n) :
      Complaint depth t s!"max_depth {n} exceeds the limit of 256"

def read (env : Environment) : (k : Setting) → Except Failure (Option k.Value)
  | enable => booleanVariable env enableVariable
  | trace => booleanVariable env traceVariable
  | size => naturalVariable env sizeVariable
  | depth => depthOverride env

end Setting

def Gives (env : Environment) (k : Setting) (v : k.Value) : Prop := ∃ t, env.get? k.name = some t ∧ k.Says t v

/-- If an environment sets the variable of a setting, then to a text that gives it a value. -/
def Valid (env : Environment) (k : Setting) : Prop := ∀ t, env.get? k.name = some t → ∃ v, k.Says t v

/-- An environment in which all variables are valid. -/
def Usable (env : Environment) : Prop := ∀ k, Valid env k

/-- An environment is refused for the first variable that is not valid. -/
def Refused (env : Environment) (e : Failure) : Prop :=
  ∃ k t m, env.get? k.name = some t ∧ (∀ v, ¬k.Says t v) ∧ (∀ j : Setting, j.place < k.place → Valid env j) ∧
    Setting.Complaint k t m ∧ e = .invalidVariable k.name m.toList

/-- The settings that no variable overrides. -/
def profile (s : Settings) : List Bool :=
  [s.plugin.profileSetAutoCommit, s.plugin.profileCommit, s.plugin.profileRollback, s.plugin.profileDisallow3Methods]

/-- The settings that stand after a row of layers: those of the last layer that was good. -/
def lastGood (s : Settings) (envs : List Environment) : Settings :=
  (s.layers envs).foldl (fun last r => r.toOption.getD last) s

variable {s s' s'' : Settings} {env env' : Environment} {k : Setting} {e : Failure}

/-! ## One variable -/

section Variable

variable {t : Text}

theorem readVariable_unset {α : Type} {name expected : String} {read? : Text → Option α}
    (h : env.get? name.toList = none) : readVariable env name read? expected = .ok none := by
  rw [readVariable, h]

theorem readVariable_given {α : Type} {name expected : String} {read? : Text → Option α} {a : α}
    (h : env.get? name.toList = some t) (ha : read? t = some a) :
    readVariable env name read? expected = .ok (some a) := by
  simp only [readVariable, h, ha]

theorem readVariable_spoiled {α : Type} {name expected : String} {read? : Text → Option α}
    (h : env.get? name.toList = some t) (hnone : read? t = none) : readVariable env name read? expected =
      .error (.invalidVariable name.toList s!"expected {expected}, got '{String.ofList t}'".toList) := by
  simp only [readVariable, h, hnone]

theorem read_of_unset (h : env.get? k.name = none) : k.read env = .ok none := by
  cases k with
  | enable | trace | size => exact readVariable_unset h
  | depth =>
    rw [Setting.read, depthOverride, naturalVariable, readVariable_unset h]
    rfl

theorem read_of_given {v : k.Value} (h : env.get? k.name = some t) (hv : k.Says t v) : k.read env = .ok (some v) := by
  cases k with
  | enable | trace => exact readVariable_given h ((boolean?_eq_some_iff v).mpr hv)
  | size => exact readVariable_given h ((natural?_eq_some_iff v).mpr hv)
  | depth =>
    have hwithin := (depthFault?_eq_none_iff v).mpr hv.2
    rw [Setting.read, depthOverride, naturalVariable, readVariable_given h ((natural?_eq_some_iff v).mpr hv.1)]
    simp only [hwithin]
    rfl

theorem depthFault?_of_lt {n : Nat} (h : 256 < n) :
    depthFault? n = some s!"max_depth {n} exceeds the limit of 256" := by
  have hlimit : " exceeds the limit of " ++ toString Descriptor.depthCeiling = " exceeds the limit of 256" := by
    decide
  have hceiling : Descriptor.depthCeiling < n := h
  rw [depthFault?, if_pos hceiling]
  simp only [toString, String.append_assoc] at hlimit ⊢
  rw [hlimit]

theorem read_of_spoiled (h : env.get? k.name = some t) (hnone : ∀ v, ¬k.Says t v) :
    ∃ m, Setting.Complaint k t m ∧ k.read env = .error (.invalidVariable k.name m.toList) := by
  cases k with
  | enable => exact ⟨_, .enable t, readVariable_spoiled h (boolean?_eq_none hnone)⟩
  | trace => exact ⟨_, .trace t, readVariable_spoiled h (boolean?_eq_none hnone)⟩
  | size => exact ⟨_, .size t, readVariable_spoiled h (natural?_eq_none hnone)⟩
  | depth =>
    by_cases hnatural : ∃ n, SaysNatural t n
    · obtain ⟨n, hn⟩ := hnatural
      have hbeyond : 256 < n := by
        by_contra hle
        exact hnone n ⟨hn, Nat.le_of_not_lt hle⟩
      refine ⟨_, .tooDeep hn hbeyond, ?_⟩
      rw [Setting.read, depthOverride, naturalVariable, readVariable_given h ((natural?_eq_some_iff n).mpr hn)]
      simp only [depthFault?_of_lt hbeyond]
      rfl
    · have hnone' : ∀ n, ¬SaysNatural t n := fun n hn => hnatural ⟨n, hn⟩
      refine ⟨_, .depth hnone', ?_⟩
      rw [Setting.read, depthOverride, naturalVariable, readVariable_spoiled h (natural?_eq_none hnone')]
      rfl

theorem valid_iff : Valid env k ↔ ∃ r, k.read env = .ok r := by
  constructor
  · intro hvalid
    rcases h : env.get? k.name with _ | t
    · exact ⟨_, read_of_unset h⟩
    · obtain ⟨v, hv⟩ := hvalid t h
      exact ⟨_, read_of_given h hv⟩
  · rintro ⟨r, hr⟩ t ht
    by_contra hgiven
    obtain ⟨m, -, hread⟩ := read_of_spoiled ht fun v hv => hgiven ⟨v, hv⟩
    rw [hr] at hread
    cases hread

/-- Only the variable of a setting tells what its value is. -/
theorem read_congr (h : env.get? k.name = env'.get? k.name) : k.read env = k.read env' := by
  have hvariable : ∀ {α : Type} {name expected : String} {read? : Text → Option α},
      env.get? name.toList = env'.get? name.toList →
        readVariable env name read? expected = readVariable env' name read? expected := by
    intro α name expected read? hname
    rw [readVariable, readVariable, hname]
  cases k with
  | enable | trace | size => exact hvariable h
  | depth => rw [Setting.read, Setting.read, depthOverride, depthOverride, naturalVariable, naturalVariable, hvariable h]

end Variable

/-! ## One layer -/

theorem eq_of_of (h : ∀ k : Setting, k.of s = k.of s') (hprofile : s.profile = s'.profile) : s = s' := by
  have henable : s.plugin.enable = s'.plugin.enable := h .enable
  have htrace : s.plugin.traceSqlBindValue = s'.plugin.traceSqlBindValue := h .trace
  have hsize : s.plugin.maxSqlBindValueSize = s'.plugin.maxSqlBindValueSize := h .size
  have hdepth : s.maxDepth = s'.maxDepth := h .depth
  obtain ⟨⟨⟩⟩ := s
  obtain ⟨⟨⟩⟩ := s'
  simp_all [profile]

/-- A layer that is not refused gives every setting the value that its variable gives it, and changes no other. -/
theorem override_eq_ok_iff_read : s.override env = .ok s' ↔
    (∀ k : Setting, ∃ r, k.read env = .ok r ∧ k.of s' = r.getD (k.of s)) ∧ s'.profile = s.profile := by
  rw [override_eq_ok_iff]
  constructor
  · rintro ⟨enable, trace, size, depth, henable, htrace, hsize, hdepth, rfl⟩
    refine ⟨fun k => ?_, rfl⟩
    cases k with
    | enable => exact ⟨enable, henable, rfl⟩
    | trace => exact ⟨trace, htrace, rfl⟩
    | size => exact ⟨size, hsize, rfl⟩
    | depth => exact ⟨depth, hdepth, rfl⟩
  · rintro ⟨hread, hprofile⟩
    obtain ⟨enable, henable, hofEnable⟩ := hread .enable
    obtain ⟨trace, htrace, hofTrace⟩ := hread .trace
    obtain ⟨size, hsize, hofSize⟩ := hread .size
    obtain ⟨depth, hdepth, hofDepth⟩ := hread .depth
    refine ⟨enable, trace, size, depth, henable, htrace, hsize, hdepth, eq_of_of (fun k => ?_) hprofile⟩
    cases k with
    | enable => exact hofEnable
    | trace => exact hofTrace
    | size => exact hofSize
    | depth => exact hofDepth

theorem bind_error {α β : Type} {x : Except Failure α} {f : α → Except Failure β} (h : (x >>= f) = .error e) :
    x = .error e ∨ ∃ a, x = .ok a ∧ f a = .error e := by
  cases x with
  | error e' =>
    cases h
    exact .inl rfl
  | ok a => exact .inr ⟨a, rfl, h⟩

/-- What a layer is refused for is the first variable that cannot be read. -/
theorem exists_first_of_override (h : s.override env = .error e) :
    ∃ k : Setting, k.read env = .error e ∧ ∀ j : Setting, j.place < k.place → ∃ r, j.read env = .ok r := by
  unfold override at h
  -- one variable after the other: what fails is the one at hand, and those before it are there to be named
  rcases bind_error h with henable | ⟨enable, henable, h⟩
  · refine ⟨.enable, henable, fun j hj => ?_⟩
    cases hj
  rcases bind_error h with htrace | ⟨trace, htrace, h⟩
  · refine ⟨.trace, htrace, fun j hj => ?_⟩
    cases j with
    | enable => exact ⟨enable, henable⟩
    | trace | size | depth => exact absurd hj (by decide)
  rcases bind_error h with hsize | ⟨size, hsize, h⟩
  · refine ⟨.size, hsize, fun j hj => ?_⟩
    cases j with
    | enable => exact ⟨enable, henable⟩
    | trace => exact ⟨trace, htrace⟩
    | size | depth => exact absurd hj (by decide)
  rcases bind_error h with hdepth | ⟨depth, hdepth, h⟩
  · refine ⟨.depth, hdepth, fun j hj => ?_⟩
    cases j with
    | enable => exact ⟨enable, henable⟩
    | trace => exact ⟨trace, htrace⟩
    | size => exact ⟨size, hsize⟩
    | depth => exact absurd hj (by decide)
  · cases h

theorem exists_override_iff : (∃ s', s.override env = .ok s') ↔ Usable env := by
  constructor
  · rintro ⟨s', h⟩ k
    obtain ⟨r, hr, -⟩ := (override_eq_ok_iff_read.mp h).1 k
    exact valid_iff.mpr ⟨r, hr⟩
  · intro husable
    rcases h : s.override env with e | s'
    · obtain ⟨k, hk, -⟩ := exists_first_of_override h
      obtain ⟨r, hr⟩ := valid_iff.mp (husable k)
      rw [hk] at hr
      cases hr
    · exact ⟨s', rfl⟩

theorem refused_of_override (h : s.override env = .error e) : Refused env e := by
  obtain ⟨k, hk, hfirst⟩ := exists_first_of_override h
  have hinvalid : ¬Valid env k := by
    rw [valid_iff, hk]
    rintro ⟨r, hr⟩
    cases hr
  obtain ⟨t, ht, hnone⟩ : ∃ t, env.get? k.name = some t ∧ ∀ v, ¬k.Says t v := by simpa [Valid] using hinvalid
  obtain ⟨m, hm, hread⟩ := read_of_spoiled ht hnone
  rw [hk] at hread
  cases hread
  exact ⟨k, t, m, ht, hnone, fun j hj => valid_iff.mpr (hfirst j hj), hm, rfl⟩

theorem eq_of_place_eq {j k : Setting} (h : j.place = k.place) : j = k := by
  cases j <;> cases k <;> first | rfl | cases h

theorem complaint_unique {t : Text} {m m' : String} (h : Setting.Complaint k t m) (h' : Setting.Complaint k t m') :
    m = m' := by
  cases h with
  | enable | trace | size =>
    cases h'
    rfl
  | depth hnone =>
    cases h' with
    | depth _ => rfl
    | tooDeep hn _ => exact absurd hn (hnone _)
  | tooDeep hn _ =>
    cases h' with
    | depth hnone => exact absurd hn (hnone _)
    | tooDeep hn' _ => rw [saysNatural_unique hn hn']

theorem refused_unique {e' : Failure} (h : Refused env e) (h' : Refused env e') : e = e' := by
  obtain ⟨k, t, m, ht, hnone, hfirst, hm, rfl⟩ := h
  obtain ⟨k', t', m', ht', hnone', hfirst', hm', rfl⟩ := h'
  -- neither of two first variables comes before the other
  have hplace : k.place = k'.place := by
    rcases Nat.lt_trichotomy k.place k'.place with hlt | heq | hlt
    · obtain ⟨v, hv⟩ := hfirst' k hlt t ht
      exact absurd hv (hnone v)
    · exact heq
    · obtain ⟨v, hv⟩ := hfirst k' hlt t' ht'
      exact absurd hv (hnone' v)
  obtain rfl := eq_of_place_eq hplace
  rw [ht] at ht'
  obtain rfl := Option.some.inj ht'
  rw [complaint_unique hm hm']

theorem override_eq_error_iff : s.override env = .error e ↔ Refused env e := by
  constructor
  · exact refused_of_override
  · intro hrefused
    rcases h : s.override env with e' | s'
    · rw [refused_unique hrefused (refused_of_override h)]
    · obtain ⟨k, t, m, ht, hnone, -⟩ := hrefused
      obtain ⟨v, hv⟩ := exists_override_iff.mp ⟨s', h⟩ k t ht
      exact absurd hv (hnone v)

theorem override_again (h : s.override env = .ok s') : s'.override env = .ok s' := by
  rw [override_eq_ok_iff_read] at h ⊢
  refine ⟨fun k => ?_, rfl⟩
  obtain ⟨r, hr, hof⟩ := h.1 k
  refine ⟨r, hr, ?_⟩
  rw [hof]
  cases r with
  | none => rfl
  | some v => rfl

theorem override_overlay (h : s.override env = .ok s') (h' : s'.override env' = .ok s'') :
    s.override (env.overlay env') = .ok s'' := by
  rw [override_eq_ok_iff_read] at h h' ⊢
  refine ⟨fun k => ?_, h'.2.trans h.2⟩
  obtain ⟨r, hr, hof⟩ := h.1 k
  obtain ⟨r', hr', hof'⟩ := h'.1 k
  rcases hset : env'.get? k.name with _ | t
  · -- only the earlier environment can set the variable
    rw [read_of_unset hset] at hr'
    cases hr'
    have hsame : (env.overlay env').get? k.name = env.get? k.name := by
      rw [Environment.get?_overlay, hset, Option.none_or]
    exact ⟨r, (read_congr hsame).trans hr, hof'.trans hof⟩
  · have hsame : (env.overlay env').get? k.name = env'.get? k.name := by
      rw [Environment.get?_overlay, hset, Option.some_or]
    refine ⟨r', (read_congr hsame).trans hr', ?_⟩
    -- the value that the variable gives counts, whatever the setting was before
    obtain ⟨v, hv⟩ := exists_override_iff.mp ⟨s'', override_eq_ok_iff_read.mpr h'⟩ k t hset
    rw [read_of_given hset hv] at hr'
    cases hr'
    exact hof'

/-! ## Layer after layer -/

def layered (s : Settings) (env : Environment) : Settings := (s.override env).toOption.getD s

theorem layered_of_not_usable (s : Settings) (h : ¬Usable env) : s.layered env = s := by
  rw [layered]
  rcases hoverride : s.override env with e | s'
  · rfl
  · exact absurd (exists_override_iff.mp ⟨s', hoverride⟩) h

theorem of_layered_of_gives (s : Settings) (h : Usable env) {v : k.Value} (hv : Gives env k v) :
    k.of (s.layered env) = v := by
  obtain ⟨t, ht, hgiven⟩ := hv
  obtain ⟨s', hs'⟩ := exists_override_iff.mpr h
  obtain ⟨r, hr, hof⟩ := (override_eq_ok_iff_read.mp hs').1 k
  rw [read_of_given ht hgiven] at hr
  cases hr
  rw [layered, hs']
  exact hof

theorem of_layered_of_unset (s : Settings) (h : env.get? k.name = none) : k.of (s.layered env) = k.of s := by
  rw [layered]
  rcases hoverride : s.override env with e | s'
  · rfl
  · obtain ⟨r, hr, hof⟩ := (override_eq_ok_iff_read.mp hoverride).1 k
    rw [read_of_unset h] at hr
    cases hr
    exact hof

theorem profile_layered (s : Settings) (env : Environment) : (s.layered env).profile = s.profile := by
  rw [layered]
  rcases hoverride : s.override env with e | s'
  · rfl
  · exact (override_eq_ok_iff_read.mp hoverride).2

theorem lastGood_cons (s : Settings) (env : Environment) (envs : List Environment) :
    s.lastGood (env :: envs) = (s.layered env).lastGood envs := by
  rw [lastGood, layers, layered]
  rcases s.override env with e | s'
  · rfl
  · rfl

theorem lastGood_append (s : Settings) (envs later : List Environment) :
    s.lastGood (envs ++ later) = (s.lastGood envs).lastGood later := by
  induction envs generalizing s with
  | nil => rfl
  | cons env envs ih => rw [List.cons_append, lastGood_cons, lastGood_cons, ih]

theorem getElem?_layers (s : Settings) (envs : List Environment) (i : Nat) :
    (s.layers envs)[i]? = envs[i]?.map (s.lastGood (envs.take i)).override := by
  induction envs generalizing s i with
  | nil => rfl
  | cons env envs ih =>
    cases i with
    | zero =>
      rw [layers]
      rcases h : s.override env with e | s'
      · exact congrArg some h.symm
      · exact congrArg some h.symm
    | succ i =>
      rw [List.take_succ_cons, lastGood_cons, List.getElem?_cons_succ, ← ih, layers, layered]
      rcases s.override env with e | s'
      · rfl
      · rfl

/-- A setting whose variable no good layer sets keeps its value. -/
theorem of_lastGood_of_unset (s : Settings) {envs : List Environment}
    (h : ∀ env ∈ envs, Usable env → env.get? k.name = none) : k.of (s.lastGood envs) = k.of s := by
  induction envs generalizing s with
  | nil => rfl
  | cons env envs ih =>
    obtain ⟨hfirst, hrest⟩ := List.forall_mem_cons.mp h
    rw [lastGood_cons, ih _ hrest]
    by_cases husable : Usable env
    · exact of_layered_of_unset s (hfirst husable)
    · rw [layered_of_not_usable s husable]

theorem profile_lastGood (s : Settings) (envs : List Environment) : (s.lastGood envs).profile = s.profile := by
  induction envs generalizing s with
  | nil => rfl
  | cons env envs ih => rw [lastGood_cons, ih, profile_layered]

/-- Whatever the settings are, a row of layers acts on them in this way. A layer acts on the settings of the last one
    before it that was good. It is good exactly if all variables that it sets are valid; otherwise the first one that
    is not valid is reported, and the row goes on as if the layer had been left out. In the end a setting has the
    value that the last good layer to set its variable gives it, or the one that it had, and what no variable overrides
    is as it was. A good layer makes no difference if it comes again at once, and two good layers make one, in which
    the later one counts where both set a variable. -/
theorem override_layers (s : Settings) :
    (∀ envs i, (s.layers envs)[i]? = envs[i]?.map (s.lastGood (envs.take i)).override) ∧
      (∀ env, (∃ s', s.override env = .ok s') ↔ Usable env) ∧
      (∀ env e, s.override env = .error e ↔ Refused env e) ∧
      (∀ before env later, ¬Usable env → s.lastGood (before ++ env :: later) = s.lastGood (before ++ later)) ∧
      (∀ (k : Setting) v before env later, Usable env → Gives env k v →
        (∀ env' ∈ later, Usable env' → env'.get? k.name = none) → k.of (s.lastGood (before ++ env :: later)) = v) ∧
      (∀ (k : Setting) envs, (∀ env ∈ envs, Usable env → env.get? k.name = none) →
        k.of (s.lastGood envs) = k.of s) ∧
      (∀ envs, (s.lastGood envs).profile = s.profile) ∧
      (∀ env s', s.override env = .ok s' → s'.override env = .ok s') ∧
      ∀ env later s' s'', s.override env = .ok s' → s'.override later = .ok s'' →
        s.override (env.overlay later) = .ok s'' := by
  refine ⟨getElem?_layers s, fun env => exists_override_iff, fun env e => override_eq_error_iff, ?refused, ?given,
    fun k envs => of_lastGood_of_unset s, profile_lastGood s, fun env s' => override_again,
    fun env later s' s'' => override_overlay⟩
  case refused =>
    intro before env later hunusable
    rw [lastGood_append, lastGood_append, lastGood_cons, layered_of_not_usable _ hunusable]
  case given =>
    intro k v before env later husable hgives hlater
    rw [lastGood_append, lastGood_cons, of_lastGood_of_unset _ hlater]
    exact of_layered_of_gives _ husable hgives

/-- The layer between two that are refused sets a depth and enables the plug-in. The first one is refused for the size
    and not for the depth, which comes after it; nothing is made of the trace in it, nor of the depth in the last. -/
theorem override_layers_between :
    let refused := Environment.ofList [(depthVariable.toList, "257".toList), (sizeVariable.toList, "-1".toList),
      (traceVariable.toList, " YES".toList)]
    let good := Environment.ofList [(depthVariable.toList, "+07 ".toList), (enableVariable.toList, "On".toList)]
    let spoiled := Environment.ofList [(depthVariable.toList, "9".toList), (traceVariable.toList, "maybe".toList)]
    let s := default.lastGood [refused, good, spoiled]
    s.maxDepth = 7 ∧ s.plugin.enable = true ∧ s.plugin.traceSqlBindValue = default.plugin.traceSqlBindValue ∧
      s.profile = default.profile ∧
      (default.layers [refused, good, spoiled])[0]? =
        some (.error (.invalidVariable sizeVariable.toList "expected a non-negative integer, got '-1'".toList)) := by
  intro refused good spoiled s
  obtain ⟨hlayer, husable, -, -, hgiven, hkept, hprofile, -, -⟩ := override_layers default
  have hgood : Usable good :=
    (husable good).mp ⟨{ default with plugin.enable := true, maxDepth := 7 }, by decide +kernel⟩
  have hunusable : ∀ env ∈ [refused, spoiled], ¬Usable env := by
    intro env henv husable'
    obtain ⟨s', hs'⟩ := (husable env).mpr husable'
    have herror : ([refused, spoiled].all fun env => (default.override env).toOption.isNone) = true := by decide +kernel
    have hnone := List.all_eq_true.mp herror env henv
    rw [hs'] at hnone
    cases hnone
  have hdepth : Gives good .depth (7 : Nat) :=
    ⟨"+07 ".toList, by decide +kernel, (natural?_eq_some_iff 7).mp (by decide +kernel), by decide⟩
  have henable : Gives good .enable true :=
    ⟨"On".toList, by decide +kernel, (boolean?_eq_some_iff true).mp (by decide +kernel)⟩
  have hlater : ∀ (k : Setting), ∀ env ∈ [spoiled], Usable env → env.get? k.name = none := fun k env henv h =>
    absurd h (hunusable env (List.mem_cons_of_mem _ henv))
  have htrace : ∀ env ∈ [refused, good, spoiled], Usable env → env.get? Setting.trace.name = none := by
    rw [List.forall_mem_cons, List.forall_mem_cons]
    exact ⟨fun h => absurd h (hunusable _ List.mem_cons_self), fun _ => by decide +kernel, hlater .trace⟩
  refine ⟨hgiven .depth (7 : Nat) [refused] good [spoiled] hgood hdepth (hlater .depth),
    hgiven .enable true [refused] good [spoiled] hgood henable (hlater .enable), hkept .trace _ htrace, hprofile _, ?_⟩
  rw [hlayer]
  decide +kernel

end Settings

end ConnectString
