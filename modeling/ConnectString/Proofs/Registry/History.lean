/-
  ConnectString.Proofs.Registry.History — what becomes of registries in the course of a history.

  A history is a list of actions, each in the slot of one registry. A registry has the dialects that it was added
  (`addedTo`), behind those that it had at first or, if it was overwritten, behind those that its original had at that
  moment. So one step adds at most one dialect, and to its own slot (`grown_act`, `registry_step_ne`), and a history
  that does not overwrite a slot adds to it just what is added there (`dialects_after`).

  A registry asks its dialects in turn (`says_parse`). What is added to it is asked last, so whatever it resolves, it
  goes on to resolve in the same way (`parse_of_append`).

  Main statement: every shelf of registries is accounted for, whatever its history (`accountable`).
-/

import ConnectString.Proofs.Registry.Limits
import ConnectString.Registry.Shelf
import ConnectString.Toml.Standard

namespace ConnectString

namespace Registry

/-- What dialects have to say about a url when they are asked in this order. The first one that resolves it has the
    word, and where none does the first one of all. Where there is none, the url belongs to an unknown database. -/
inductive Says (url : Option Text) : List Dialect → Outcome → Prop where
  | resolved {before after : List Dialect} {d : Dialect}
      (hbefore : ∀ b ∈ before, (b.resolve url).value.isComplete = false)
      (hresolved : (d.resolve url).value.isComplete = true) : Says url (before ++ d :: after) (d.resolve url).value
  | unresolved {d : Dialect} {ds : List Dialect} (hnone : ∀ b ∈ d :: ds, (b.resolve url).value.isComplete = false) :
      Says url (d :: ds) (d.resolve url).value
  | missing (hurl : url = none) : Says url [] (.unresolved [] .missingInput)
  | unclaimed {text : Text} (hurl : url = some text) : Says url [] (.unresolved text (.schemeMismatch scheme))

/-! ## The word of a registry -/

theorem says_parse (r : Registry) (url : Option Text) : Says url r.dialects (r.parse url).value := by
  rw [value_parse]
  generalize r.dialects = ds
  have hmap : (outcomes ds url).find? Outcome.isComplete =
      (ds.find? fun d => (d.resolve url).value.isComplete).map fun d => (d.resolve url).value := List.find?_map
  rw [hmap]
  rcases hfind : ds.find? fun d => (d.resolve url).value.isComplete with _ | d <;> rw [hfind]
  · have hnone : ∀ b ∈ ds, (b.resolve url).value.isComplete = false := by
      intro b hb
      simpa using List.find?_eq_none.mp hfind b hb
    cases ds with
    | nil =>
      cases url with
      | none => exact .missing rfl
      | some text => exact .unclaimed rfl
    | cons d ds => exact .unresolved hnone
  · obtain ⟨hresolved, before, after, rfl, hbefore⟩ := List.find?_eq_some_iff_append.mp hfind
    refine .resolved ?_ hresolved
    intro b hb
    simpa using hbefore b hb

/-- A registry resolves what one of its dialects resolves. -/
theorem exists_resolving {r : Registry} {url : Option Text} (h : (r.parse url).value.isComplete = true) :
    ∃ d ∈ r.dialects, (d.resolve url).value.isComplete = true := by
  have hsays := says_parse r url
  generalize r.dialects = ds at hsays ⊢
  generalize (r.parse url).value = o at hsays h
  cases hsays with
  | @resolved before after d _ hresolved => exact ⟨d, by simp, hresolved⟩
  | @unresolved d ds hnone =>
    rw [hnone d List.mem_cons_self] at h
    cases h
  | missing => cases h
  | unclaimed => cases h

/-- Dialects behind one that resolves the url are never asked. -/
theorem tryAll_append {url : Option Text} {ds : List Dialect}
    (h : ∃ d ∈ ds, (d.resolve url).value.isComplete = true) (first : Option Outcome) (more : List Dialect) :
    tryAll url first (ds ++ more) = tryAll url first ds := by
  induction ds generalizing first with
  | nil =>
    obtain ⟨d, hd, -⟩ := h
    cases hd
  | cons d ds ih =>
    rw [List.cons_append]
    rcases hd : (d.resolve url).value.isComplete with _ | _
    · have hrest : ∃ b ∈ ds, (b.resolve url).value.isComplete = true := by
        obtain ⟨b, hb, hresolved⟩ := h
        rcases List.mem_cons.mp hb with rfl | hb
        · rw [hd] at hresolved
          cases hresolved
        · exact ⟨b, hb, hresolved⟩
      rw [tryAll_cons_of_incomplete hd, tryAll_cons_of_incomplete hd, ih hrest]
    · rw [tryAll_cons_of_complete hd, tryAll_cons_of_complete hd]

/-- What a registry resolves, it resolves to the same, and with the same events, when it has more dialects. -/
theorem parse_of_append {r r' : Registry} {url : Option Text} {more : List Dialect}
    (h : (r.parse url).value.isComplete = true) (hmore : r'.dialects = r.dialects ++ more) :
    r'.parse url = r.parse url := by
  rw [parse, hmore, tryAll_append (exists_resolving h)]
  rfl

end Registry

namespace Shelf

variable (codec : Toml.Codec)

/-- The dialect that an action adds to the registry of its slot, if it adds one: a setup adds none where the plug-in
    is disabled or its settings are refused. -/
def Action.added? : Action → Option Dialect
  | .add d => some d
  | .setup p limit => if p.enable then some (.tibero limit) else none
  | .setupFrom toml env =>
    match settingsFrom codec toml env with
    | .ok s => if s.plugin.enable then some (.tibero s.maxDepth) else none
    | .error _ => none
  | .parse _ | .copy _ => none

def addedTo (slot : Nat) (history : List (Nat × Action)) : List Dialect :=
  history.filterMap fun x => if x.1 = slot then x.2.added? codec else none

def after (s : Shelf) (history : List (Nat × Action)) : Shelf := (s.run codec history).value.2

structure Accountable (s : Shelf) : Prop where
  /-- An action is answered as on the shelf that the actions before it leave. -/
  answered : ∀ earlier slot a later, (s.run codec (earlier ++ (slot, a) :: later)).value.1[earlier.length]? =
    some (((s.after codec earlier).step codec slot a).value.1, (s.after codec (earlier ++ [(slot, a)])).registry slot)
  /-- A registry that is not overwritten has what it had, and behind it what it was added. -/
  kept : ∀ slot history, (∀ source, (slot, .copy source) ∉ history) →
    ((s.after codec history).registry slot).dialects = (s.registry slot).dialects ++ addedTo codec slot history
  /-- A registry that is overwritten has what the last original had at that moment, and behind it what it was added
      since. -/
  overwritten : ∀ slot source earlier later, (∀ other, (slot, .copy other) ∉ later) →
    ((s.after codec (earlier ++ (slot, .copy source) :: later)).registry slot).dialects =
      ((s.after codec earlier).registry source).dialects ++ addedTo codec slot later
  /-- Whoever adds a dialect is told so. -/
  confirmed : ∀ slot a d, a.added? codec = some d →
    (s.step codec slot a).value.1 = .done ∨ (s.step codec slot a).value.1 = .registered true
  /-- A setup of a plug-in that is disabled leaves every registry as it was. -/
  disabled : ∀ slot p limit, p.enable = false → (s.step codec slot (.setup p limit)).value = (.registered false, s)
  /-- So does a setup from settings that are refused, -/
  refused : ∀ slot toml env e, settingsFrom codec toml env = .error e →
    (s.step codec slot (.setupFrom toml env)).value = (.refused e, s)
  /-- and one from settings that disable the plug-in. -/
  disabledFrom : ∀ slot toml env settings, settingsFrom codec toml env = .ok settings →
    settings.plugin.enable = false →
    (s.step codec slot (.setupFrom toml env)).value = (.registered false, s)
  /-- A copy and its original have the same dialects, and then go separate ways: whatever is done in the slot of one
      of them makes no difference to the other. -/
  separate : ∀ slot source history, slot ≠ source →
    (s.after codec [(slot, .copy source)]).registry slot = s.registry source ∧
      (s.after codec [(slot, .copy source)]).registry source = s.registry source ∧
      ((∀ x ∈ history, x.1 = slot) →
        (s.after codec ((slot, .copy source) :: history)).registry source = s.registry source) ∧
      ((∀ x ∈ history, x.1 = source) →
        (s.after codec ((slot, .copy source) :: history)).registry slot = s.registry source)
  /-- A url is resolved by the dialects in turn, and that changes nothing. -/
  asked : ∀ slot url, ∃ o, (s.step codec slot (.parse url)).value = (.outcome o, s) ∧
    Registry.Says url (s.registry slot).dialects o
  /-- What a registry resolves, it goes on to resolve in the same way unless it is overwritten. -/
  settled : ∀ slot url history, ((s.registry slot).parse url).value.isComplete = true →
    (∀ source, (slot, .copy source) ∉ history) →
    ((s.after codec history).registry slot).parse url = (s.registry slot).parse url

/-! ## One action -/

variable {codec}

theorem put_registry (s : Shelf) (slot : Nat) : s.put slot (s.registry slot) = s := by
  unfold put
  congr
  funext i
  by_cases h : i = slot
  · rw [if_pos h, h]
  · rw [if_neg h]

theorem registry_step_same (s : Shelf) (slot : Nat) (a : Action) :
    (s.step codec slot a).value.2.registry slot = (act codec s.registry (s.registry slot) a).value.2 := by
  show (if slot = slot then _ else _) = _
  rw [if_pos rfl]

theorem registry_step_ne (s : Shelf) {i slot : Nat} (h : i ≠ slot) (a : Action) :
    (s.step codec i a).value.2.registry slot = s.registry slot := by
  show (if slot = i then _ else _) = _
  rw [if_neg (Ne.symm h)]

/-- An action that leaves its registry alone leaves the whole shelf alone. -/
theorem value_step_of_act {s : Shelf} {slot : Nat} {a : Action} {answer : Answer}
    (h : (act codec s.registry (s.registry slot) a).value = (answer, s.registry slot)) :
    (s.step codec slot a).value = (answer, s) := by
  show ((act codec s.registry _ a).value.1, s.put slot (act codec s.registry _ a).value.2) = _
  rw [h, put_registry]

/-- The plug-in adds its dialect exactly if it is enabled. -/
theorem value_setup (r : Registry) (p : PluginSettings) (limit : Nat) :
    (r.setup p limit).value = if p.enable then (true, r.add (.tibero limit)) else (false, r) := by
  unfold Registry.setup
  cases p.enable <;> rfl

theorem value_act_setup (others : Nat → Registry) (r : Registry) (p : PluginSettings) (limit : Nat) :
    (act codec others r (.setup p limit)).value =
      if p.enable then (.registered true, r.add (.tibero limit)) else (.registered false, r) := by
  show ((Answer.registered (r.setup p limit).value.1), (r.setup p limit).value.2) = _
  rw [value_setup]
  cases p.enable <;> rfl

/-- A setup from a text is refused, or goes on as a setup with the settings in it. -/
theorem value_act_setupFrom (others : Nat → Registry) (r : Registry) (toml : Text) (env : Environment) :
    (act codec others r (.setupFrom toml env)).value =
      match settingsFrom codec toml env with
      | .error e => (.refused e, r)
      | .ok s => (act codec others r (.setup s.plugin s.maxDepth)).value := by
  rcases hsettings : settingsFrom codec toml env with e | settings
  · simp only [act, hsettings]
    rfl
  · simp only [act, hsettings]

/-- What comes of a registry to which this dialect is added, or none: with a dialect, whoever added it is told so. -/
def Grown (r : Registry) : Option Dialect → Answer × Registry → Prop
  | some d, (answer, r') => r' = r.add d ∧ (answer = .done ∨ answer = .registered true)
  | none, (_, r') => r' = r

theorem grown_setup (others : Nat → Registry) (r : Registry) (p : PluginSettings) (limit : Nat) :
    Grown r ((Action.setup p limit).added? codec) (act codec others r (.setup p limit)).value := by
  rw [value_act_setup, Action.added?]
  by_cases hp : p.enable = true
  · rw [if_pos hp, if_pos hp]
    exact ⟨rfl, .inr rfl⟩
  · rw [if_neg hp, if_neg hp]
    rfl

/-- All that an action does that does not overwrite its registry: it adds its dialect, if it has one. -/
theorem grown_act (others : Nat → Registry) (r : Registry) {a : Action} (h : ∀ source, a ≠ .copy source) :
    Grown r (a.added? codec) (act codec others r a).value := by
  cases a with
  | parse url => exact rfl
  | add d => exact ⟨rfl, .inl rfl⟩
  | setup p limit => exact grown_setup others r p limit
  | setupFrom toml env =>
    -- a setup from a text is the setup with its settings, and adds what that adds
    rw [value_act_setupFrom, Action.added?]
    rcases settingsFrom codec toml env with e | settings
    · exact rfl
    · exact grown_setup others r settings.plugin settings.maxDepth
  | copy source => exact absurd rfl (h source)

/-- An action that adds a dialect says that it is done, or that the plug-in is registered. -/
theorem answer_of_added {others : Nat → Registry} {r : Registry} {a : Action} {d : Dialect}
    (h : a.added? codec = some d) :
    (act codec others r a).value.1 = .done ∨ (act codec others r a).value.1 = .registered true := by
  have ha : ∀ source, a ≠ .copy source := by
    rintro source rfl
    cases h
  have hgrown : Grown r (a.added? codec) _ := grown_act others r ha
  rw [h] at hgrown
  exact hgrown.2

/-- An action adds its dialect behind the others, unless it overwrites them. -/
theorem dialects_act (others : Nat → Registry) (r : Registry) {a : Action} (h : ∀ source, a ≠ .copy source) :
    (act codec others r a).value.2.dialects = r.dialects ++ (a.added? codec).toList := by
  have hgrown : Grown r (a.added? codec) _ := grown_act others r h
  generalize a.added? codec = added at hgrown ⊢
  cases added with
  | none =>
    have hsame : (act codec others r a).value.2 = r := hgrown
    rw [hsame]
    exact (List.append_nil _).symm
  | some d =>
    have hadd : (act codec others r a).value.2 = r.add d := hgrown.1
    rw [hadd]
    rfl

/-! ## Histories -/

variable {s : Shelf} {slot : Nat} {history : List (Nat × Action)}

@[simp] theorem after_nil (s : Shelf) : s.after codec [] = s := rfl

@[simp] theorem after_cons (s : Shelf) (i : Nat) (a : Action) (history : List (Nat × Action)) :
    s.after codec ((i, a) :: history) = (s.step codec i a).value.2.after codec history := rfl

theorem after_append (s : Shelf) (earlier later : List (Nat × Action)) :
    s.after codec (earlier ++ later) = (s.after codec earlier).after codec later := by
  induction earlier generalizing s with
  | nil => rfl
  | cons x earlier ih => exact ih _

theorem getElem?_run (s : Shelf) (earlier : List (Nat × Action)) (slot : Nat) (a : Action)
    (later : List (Nat × Action)) :
    (s.run codec (earlier ++ (slot, a) :: later)).value.1[earlier.length]? =
      some (((s.after codec earlier).step codec slot a).value.1,
        (s.after codec (earlier ++ [(slot, a)])).registry slot) := by
  induction earlier generalizing s with
  | nil => rfl
  | cons x earlier ih => exact ih _

theorem addedTo_cons_same (a : Action) (history : List (Nat × Action)) :
    addedTo codec slot ((slot, a) :: history) = (a.added? codec).toList ++ addedTo codec slot history := by
  unfold addedTo
  rw [List.filterMap_cons, if_pos rfl]
  cases a.added? codec <;> rfl

theorem addedTo_cons_ne {i : Nat} (h : i ≠ slot) (a : Action) (history : List (Nat × Action)) :
    addedTo codec slot ((i, a) :: history) = addedTo codec slot history := by
  unfold addedTo
  rw [List.filterMap_cons, if_neg h]

/-- What is done in other slots makes no difference. -/
theorem registry_after_of_ne (h : ∀ x ∈ history, x.1 ≠ slot) :
    (s.after codec history).registry slot = s.registry slot := by
  induction history generalizing s with
  | nil => rfl
  | cons x history ih =>
    obtain ⟨i, a⟩ := x
    have hi : i ≠ slot := h (i, a) List.mem_cons_self
    rw [after_cons, ih fun y hy => h y (List.mem_cons_of_mem _ hy), registry_step_ne s hi]

/-- A registry that is not overwritten has what it had, and behind it what it was added. -/
theorem dialects_after (h : ∀ source, (slot, Action.copy source) ∉ history) :
    ((s.after codec history).registry slot).dialects = (s.registry slot).dialects ++ addedTo codec slot history := by
  induction history generalizing s with
  | nil => exact (List.append_nil _).symm
  | cons x history ih =>
    obtain ⟨i, a⟩ := x
    have hlater : ∀ source, (slot, Action.copy source) ∉ history :=
      fun source hmem => h source (List.mem_cons_of_mem _ hmem)
    rw [after_cons, ih hlater]
    by_cases hi : i = slot
    · subst hi
      have ha : ∀ source, a ≠ .copy source := by
        rintro source rfl
        exact h source List.mem_cons_self
      rw [registry_step_same, dialects_act _ _ ha, addedTo_cons_same, List.append_assoc]
    · rw [registry_step_ne s hi, addedTo_cons_ne hi]

theorem registry_step_copy (s : Shelf) (slot source : Nat) :
    (s.step codec slot (.copy source)).value.2.registry slot = s.registry source := by
  rw [registry_step_same]
  rfl

/-! ## Shelves -/

/-- A copy and its original go separate ways. -/
theorem separate_of_copy (s : Shelf) {slot source : Nat} (history : List (Nat × Action)) (hne : slot ≠ source) :
    (s.after codec [(slot, .copy source)]).registry slot = s.registry source ∧
      (s.after codec [(slot, .copy source)]).registry source = s.registry source ∧
      ((∀ x ∈ history, x.1 = slot) →
        (s.after codec ((slot, .copy source) :: history)).registry source = s.registry source) ∧
      ((∀ x ∈ history, x.1 = source) →
        (s.after codec ((slot, .copy source) :: history)).registry slot = s.registry source) := by
  have hcopy : (s.step codec slot (.copy source)).value.2.registry slot = s.registry source :=
    registry_step_copy s slot source
  have horiginal : (s.step codec slot (.copy source)).value.2.registry source = s.registry source :=
    registry_step_ne s hne (.copy source)
  refine ⟨hcopy, horiginal, ?copyChanges, ?originalChanges⟩
  case copyChanges =>
    intro hslots
    have hother : ∀ x ∈ history, x.1 ≠ source := fun x hx heq => hne ((hslots x hx).symm.trans heq)
    rw [after_cons, registry_after_of_ne hother, horiginal]
  case originalChanges =>
    intro hslots
    have hother : ∀ x ∈ history, x.1 ≠ slot := fun x hx heq => hne (heq.symm.trans (hslots x hx))
    rw [after_cons, registry_after_of_ne hother, hcopy]

/-- Every shelf is accounted for, whatever was done with it before. Each registry has exactly the dialects that were
    added to it, in order, behind those that it had when it was last overwritten. A setup that is disabled or refused
    changes nothing, and neither does resolving a url; a copy and its original have nothing to do with each other any
    more. What a registry has resolved once, no later addition makes it resolve in another way. -/
theorem accountable (codec : Toml.Codec) (s : Shelf) : Accountable codec s := by
  refine ⟨?answered, ?kept, ?overwritten, ?confirmed, ?disabled, ?refused, ?disabledFrom, ?separate, ?asked, ?settled⟩
  case answered =>
    intro earlier slot a later
    exact getElem?_run s earlier slot a later
  case kept =>
    intro slot history h
    exact dialects_after h
  case overwritten =>
    intro slot source earlier later h
    rw [after_append, after_cons, dialects_after h, registry_step_copy]
  case confirmed =>
    intro slot a d h
    exact answer_of_added h
  case disabled =>
    intro slot p limit hp
    apply value_step_of_act
    rw [value_act_setup, hp]
    rfl
  case refused =>
    intro slot toml env e he
    apply value_step_of_act
    rw [value_act_setupFrom, he]
  case disabledFrom =>
    intro slot toml env settings hsettings hp
    apply value_step_of_act
    rw [value_act_setupFrom, hsettings]
    show (act codec _ _ (.setup settings.plugin settings.maxDepth)).value = _
    rw [value_act_setup, hp]
    rfl
  case separate =>
    intro slot source history hne
    exact separate_of_copy s history hne
  case asked =>
    intro slot url
    exact ⟨_, value_step_of_act rfl, Registry.says_parse _ url⟩
  case settled =>
    intro slot url history hresolved h
    exact Registry.parse_of_append hresolved (dialects_after h)

/-- A copy, taken of a registry with one dialect, to which each of the two then adds one of its own. A setup that is
    disabled and one whose settings are refused stand between them. -/
theorem accountable_copied :
    let enabled : PluginSettings := { PluginSettings.default with enable := true }
    let unset := Environment.ofList []
    let earlier : List (Nat × Action) := [(0, .setup enabled 3)]
    let later : List (Nat × Action) :=
      [(0, .add (.accepting "any" ['x'])), (1, .setup .default 5), (1, .setupFrom "$UNSET".toList unset),
        (1, .setup enabled 7)]
    ((Shelf.empty.after Toml.standard (earlier ++ (1, .copy 0) :: later)).registry 1).dialects = [.tibero 3, .tibero 7] ∧
      ((Shelf.empty.after Toml.standard (earlier ++ (1, .copy 0) :: later)).registry 0).dialects =
        [.tibero 3, .accepting "any" ['x']] := by
  intro enabled unset earlier later
  have hrefused : settingsFrom Toml.standard "$UNSET".toList unset = .error (.variableNotFound "UNSET".toList) := by
    decide +kernel
  have hnothing : (Action.setupFrom "$UNSET".toList unset).added? Toml.standard = none := by
    rw [Action.added?, hrefused]
  have hadded : addedTo Toml.standard 1 later = [.tibero 7] := by
    rw [addedTo_cons_ne (by decide), addedTo_cons_same, addedTo_cons_same, hnothing]
    rfl
  have haddedThere : addedTo Toml.standard 0 (earlier ++ (1, .copy 0) :: later) =
      [.tibero 3, .accepting "any" ['x']] := rfl
  constructor
  · rw [(accountable Toml.standard Shelf.empty).overwritten 1 0 earlier later (by simp [later]), hadded,
      (accountable Toml.standard Shelf.empty).kept 0 earlier (by simp [earlier])]
    rfl
  · rw [(accountable Toml.standard Shelf.empty).kept 0 _ (by simp [earlier, later]), haddedThere]
    rfl

end Shelf

end ConnectString
