/-
  ConnectString.Proofs.Resolve.Report — what a resolution reports along the way, and what comes of it.

  A resolution opens with an event, and goes on with those of reading the url (`events_resolve`). These are none at
  all, or the choice of a dialect and what is reported of it: the split of a flat url, or the tree of a descriptor and
  one event for each description in it (`between_read`). None of them is an INFO event (`level_of_between`). The
  last event of all tells how it ended.

  Main statement: the events of every resolution follow its outcome (`reported_resolve`).
-/

import ConnectString.Proofs.Resolve.Coherence

namespace ConnectString

namespace Event

/-- The number in a field of this name, if it holds one. -/
def number? (e : Event) (name : String) : Option Nat :=
  e.fields.findSome? fun field =>
    match field.2 with
    | .number n => if field.1 = name then some n else none
    | _ => none

/-- The text in a field of this name that may be without one. -/
def optional? (e : Event) (name : String) : Option Text :=
  e.fields.findSome? fun field =>
    match field.2 with
    | .optional t => if field.1 = name then t else none
    | _ => none

def isInfo (e : Event) : Bool := e.level == .info

def isChoice (e : Event) : Bool := e.level == .debug && (e.message == "flat url" || e.message == "descriptor url")

def isExtraction (e : Event) : Bool := e.level == .trace && e.message == "description extracted"

end Event

/-- The descriptions in the tree of a descriptor, each of which is extracted once. -/
def Descriptor.Tree.entries (root : Tree) : List Description :=
  match root.kind with
  | .description => [Description.ofTree root]
  | .descriptionList => (DescriptionList.ofTree root).descriptions
  | _ => []

namespace Resolve

open Descriptor

def opening (url : Text) : Event := event .debug "Resolver::resolve()" [("url_len", .number (Text.byteLength url))]

def success (endpoints : List Endpoint) (databaseId : Text) : Event :=
  event .debug "jdbc url resolved" [("endpoints", .number endpoints.length), ("database_id", .text databaseId)]

def complaint : Option Text → Failure → Event
  | none, _ => event .info "jdbc url must not be null" []
  | some url, failure =>
    event .info "jdbc url could not be resolved" [("url", .text url), ("error", .text failure.message.toList)]

structure Reported (limit : Nat) (input : Option Text) (run : Logged Outcome) : Prop where
  /-- An INFO event is reported exactly if the outcome is incomplete. -/
  informed : (∃ e ∈ run.events, e.isInfo = true) ↔ run.value.isComplete = false
  /-- It is then the only one, and the last event of all; it says what failed. -/
  complained : run.value.isComplete = false → ∃ failure before, run.value.failure? = some failure ∧
    run.events = before ++ [complaint input failure] ∧ ∀ e ∈ before, e.isInfo = false
  /-- Where there was no input, it is the only event. -/
  silent : input = none → run.events = [event .info "jdbc url must not be null" []]
  /-- The last event reports that the url was resolved exactly if the outcome is complete, -/
  closed : (∃ e, run.events.getLast? = some e ∧ e.level = .debug ∧ e.message = "jdbc url resolved") ↔
    run.value.isComplete = true
  /-- and to what. -/
  succeeded : run.value.isComplete = true →
    run.events.getLast? = some (success run.value.endpoints run.value.databaseId)
  /-- A dialect is chosen at most once. -/
  chosen : run.events.countP Event.isChoice ≤ 1
  /-- The descriptions that are extracted on the way to a complete outcome are those of the descriptor. Their
      endpoints add up to those of the outcome, and the first id among them is the outcome's. -/
  extracted : ∀ url t, input = some url → HoldsDescriptor url t → run.value.isComplete = true →
    let extractions := run.events.filter Event.isExtraction
    (∃ root, parse limit t = .ok root ∧ extractions = root.entries.map Description.event) ∧
      (extractions.filterMap fun e => e.number? "endpoints").foldr (· + ·) 0 = run.value.endpoints.length ∧
      (extractions.findSome? fun e => e.optional? "database_id").getD [] = run.value.databaseId

/-! ## Descriptions -/

theorem events_classify (root : Tree) : (Spec.classify root).events = root.entries.map Description.event := by
  unfold Spec.classify Tree.entries
  cases root.kind with
  | descriptionList => simp [DescriptionList.extract]
  | _ => rfl

theorem entries_of_description {root : Tree} (h : root.kind = .description) :
    root.entries = [Description.ofTree root] := by
  rw [Tree.entries, h]

theorem entries_of_descriptionList {root : Tree} (h : root.kind = .descriptionList) :
    root.entries = (DescriptionList.ofTree root).descriptions := by
  rw [Tree.entries, h]

/-- What a descriptor describes is what its descriptions have, one behind the other. -/
theorem spec_of_entries {root : Tree} {spec : Spec} (h : (Spec.classify root).value = .ok spec) :
    spec.endpoints = root.entries.flatMap (·.endpoints) ∧
      spec.databaseId = root.entries.findSome? (·.databaseId) := by
  rw [Description.value_classify] at h
  split at h
  · rename_i hkind
    cases h
    rw [entries_of_description hkind]
    refine ⟨by simp [Spec.endpoints], ?_⟩
    show (Description.ofTree root).databaseId = _
    cases hid : (Description.ofTree root).databaseId <;> simp [hid]
  · rename_i hkind
    cases h
    rw [entries_of_descriptionList hkind]
    exact ⟨rfl, rfl⟩
  · cases h

@[simp] theorem number?_event (d : Description) : d.event.number? "endpoints" = some d.endpoints.length := rfl

@[simp] theorem optional?_event (d : Description) : d.event.optional? "database_id" = d.databaseId := by
  cases hid : d.databaseId <;> simp [Event.optional?, Description.event, hid]

/-- The numbers of endpoints that descriptions are reported to have add up to that of all their endpoints. -/
theorem total_of_events (ds : List Description) :
    ((ds.map Description.event).filterMap fun e => e.number? "endpoints").foldr (· + ·) 0 =
      (ds.flatMap (·.endpoints)).length := by
  induction ds with
  | nil => rfl
  | cons d ds ih =>
    rw [List.map_cons, List.filterMap_cons, number?_event, List.foldr_cons, ih, List.flatMap_cons, List.length_append]

/-! ## Events of reading -/

inductive Between (limit : Nat) (url : Text) : List Event → Prop where
  | foreign (hurl : ∀ t, ¬HoldsDescriptor url t) : Between limit url []
  | flat (fields : List (String × FieldValue)) (hurl : ∀ t, ¬HoldsDescriptor url t) :
      Between limit url [event .debug "flat url" [], event .trace "flat url split" fields]
  | unread {t : Text} {e : Failure} (hurl : HoldsDescriptor url t) (hread : parse limit t = .error e) :
      Between limit url [event .debug "descriptor url" []]
  | descriptor {t : Text} {root : Tree} (hurl : HoldsDescriptor url t) (hread : parse limit t = .ok root) :
      Between limit url
        (event .debug "descriptor url" [] :: readEvent root :: root.entries.map Description.event)

variable {limit : Nat} {url : Text} {es : List Event}

theorem events_flat (host port id : Text) :
    ∃ fields, (flat host port id).events = [event .trace "flat url split" fields] := by
  refine ⟨[("host", .text host), ("port", .text port), ("database_id", .text id)], ?_⟩
  cases id <;> rfl

theorem events_descriptor_ok (root : Tree) :
    (descriptor (.ok root)).events = readEvent root :: root.entries.map Description.event := by
  unfold descriptor report
  rw [← events_classify]
  simp only [Logged.events_bind, Logged.value_bind, Logged.events_emit, Logged.value_pure, Logged.events_pure]
  rcases (Spec.classify root).value with e | spec
  · simp
  · cases hcomplete : spec.isComplete <;> simp [hcomplete]

theorem between_read (limit : Nat) (url : Text) : Between limit url (read limit url).events := by
  by_cases hscheme : scheme.toList <+: url
  · obtain ⟨w, rfl⟩ := hscheme
    rw [read_scheme, readAddress]
    split
    · rename_i hhead
      have hurl := holdsDescriptor_scheme_iff.mpr ⟨rfl, hhead⟩
      rcases hread : parse limit (Text.trim (address w)) with e | root
      · exact .unread hurl hread
      · rw [Logged.events_bind, events_descriptor_ok]
        exact .descriptor hurl hread
    · rename_i hhead
      obtain ⟨fields, hfields⟩ :=
        events_flat (flatFields (address w)).1 (flatFields (address w)).2.1 (flatFields (address w)).2.2
      rw [Logged.events_bind, hfields]
      refine .flat fields fun t hurl => ?_
      obtain ⟨rfl, hparen⟩ := holdsDescriptor_scheme_iff.mp hurl
      exact hhead hparen
  · have hforeign : scheme.toList.isPrefixOf url = false := by
      rw [← Bool.not_eq_true]
      exact mt List.isPrefixOf_iff_prefix.mp hscheme
    unfold read attempt
    rw [hforeign]
    cases url.isEmpty <;> exact .foreign fun _ h => hscheme h.scheme

theorem level_of_between (h : Between limit url es) : ∀ e ∈ es, e.isInfo = false := by
  intro e he
  cases h with
  | foreign hurl => cases he
  | flat fields hurl =>
    rcases List.mem_pair.mp he with rfl | rfl <;> rfl
  | unread hurl hread =>
    rw [List.mem_singleton.mp he]
    rfl
  | @descriptor t root hurl hread =>
    rcases List.mem_cons.mp he with rfl | he
    · rfl
    rcases List.mem_cons.mp he with rfl | he
    · rfl
    obtain ⟨d, -, rfl⟩ := List.mem_map.mp he
    rfl

theorem choice_of_between (h : Between limit url es) : es.countP Event.isChoice ≤ 1 := by
  cases h with
  | foreign hurl => decide
  | flat fields hurl => exact Nat.le_refl 1
  | unread hurl hread => exact Nat.le_refl 1
  | @descriptor t root hurl hread =>
    have hentries : (root.entries.map Description.event).countP Event.isChoice = 0 := by
      rw [List.countP_eq_zero]
      intro e he
      obtain ⟨d, -, rfl⟩ := List.mem_map.mp he
      exact Bool.false_ne_true
    rw [List.countP_cons_of_pos rfl, List.countP_cons_of_neg Bool.false_ne_true, hentries]

theorem extractions_of_between {t : Text} {root : Tree} (h : Between limit url es) (hurl : HoldsDescriptor url t)
    (hread : parse limit t = .ok root) : es.filter Event.isExtraction = root.entries.map Description.event := by
  cases h with
  | foreign hother => exact absurd hurl (hother t)
  | flat fields hother => exact absurd hurl (hother t)
  | unread hurl' hfailed =>
    rw [hurl.unique hurl', hfailed] at hread
    cases hread
  | descriptor hurl' hread' =>
    rw [hurl.unique hurl', hread'] at hread
    cases hread
    rw [List.filter_cons_of_neg Bool.false_ne_true, List.filter_cons_of_neg Bool.false_ne_true,
      List.filter_eq_self]
    intro e he
    obtain ⟨d, -, rfl⟩ := List.mem_map.mp he
    rfl

/-! ## Whole runs -/

def closing (url : Text) : Except Failure Found → Event
  | .ok found => success found.endpoints found.databaseId
  | .error failure => complaint (some url) failure

theorem events_resolve (limit : Nat) (url : Text) :
    (resolve limit (some url)).events =
      opening url :: (read limit url).events ++ [closing url (read limit url).value] := by
  rw [resolve_some]
  obtain ⟨found, middle⟩ := read limit url
  cases found <;> rfl

theorem not_isInfo_before_closing (limit : Nat) (url : Text) :
    ∀ e ∈ opening url :: (read limit url).events, e.isInfo = false := by
  intro e he
  rcases List.mem_cons.mp he with rfl | he
  · rfl
  · exact level_of_between (between_read limit url) e he

theorem countP_isChoice_resolve (limit : Nat) (url : Text) :
    (resolve limit (some url)).events.countP Event.isChoice ≤ 1 := by
  have hclosing : (closing url (read limit url).value).isChoice = false := by
    cases (read limit url).value <;> rfl
  have hlast : [closing url (read limit url).value].countP Event.isChoice = 0 := by
    rw [List.countP_singleton, hclosing]
    rfl
  rw [events_resolve, List.countP_append, hlast, List.countP_cons_of_neg Bool.false_ne_true]
  exact choice_of_between (between_read limit url)

theorem filter_isExtraction_resolve {t : Text} {root : Tree} (hurl : HoldsDescriptor url t)
    (hread : parse limit t = .ok root) :
    (resolve limit (some url)).events.filter Event.isExtraction = root.entries.map Description.event := by
  have hclosing : (closing url (read limit url).value).isExtraction = false := by
    cases (read limit url).value <;> rfl
  have hlast : [closing url (read limit url).value].filter Event.isExtraction = [] := by
    rw [List.filter_singleton, hclosing]
    rfl
  rw [events_resolve, List.filter_append, hlast, List.append_nil, List.filter_cons_of_neg Bool.false_ne_true]
  exact extractions_of_between (between_read limit url) hurl hread

/-- What is found at a descriptor adds up to what its descriptions are reported to have. -/
theorem extractions_of_read {t : Text} {found : Found} (hurl : HoldsDescriptor url t)
    (hfound : (read limit url).value = .ok found) :
    let extractions := (resolve limit (some url)).events.filter Event.isExtraction
    (∃ root, parse limit t = .ok root ∧ extractions = root.entries.map Description.event) ∧
      (extractions.filterMap fun e => e.number? "endpoints").foldr (· + ·) 0 = found.endpoints.length ∧
      (extractions.findSome? fun e => e.optional? "database_id").getD [] = found.databaseId := by
  intro extractions
  obtain ⟨w, rfl⟩ := hurl.scheme
  obtain ⟨rfl, hhead⟩ := holdsDescriptor_scheme_iff.mp hurl
  rw [read_scheme, value_readAddress] at hfound
  obtain ⟨root, hparse, hroot⟩ := exists_root_of_foundAt hhead hfound
  have hextractions : extractions = root.entries.map Description.event := filter_isExtraction_resolve hurl hparse
  obtain ⟨spec, hclass, -, rfl⟩ := foundIn_eq_ok_iff.mp hroot
  obtain ⟨hendpoints, hid⟩ := spec_of_entries hclass
  refine ⟨⟨root, hparse, hextractions⟩, ?total, ?first⟩
  case total =>
    rw [hextractions, hendpoints]
    exact total_of_events root.entries
  case first =>
    rw [hextractions, hid, List.findSome?_map]
    simp [Function.comp_def]

theorem reported_missing (limit : Nat) : Reported limit none (resolve limit none) where
  informed := iff_of_true ⟨_, List.mem_singleton_self _, rfl⟩ rfl
  complained _ := ⟨.missingInput, [], rfl, rfl, fun _ he => absurd he List.not_mem_nil⟩
  silent _ := rfl
  closed := by
    refine iff_of_false ?_ Bool.false_ne_true
    rintro ⟨e, he, hlevel, -⟩
    cases he
    cases hlevel
  succeeded h := absurd h Bool.false_ne_true
  chosen := Nat.zero_le 1
  extracted _ _ h := by cases h

theorem reported_of_error {failure : Failure} (hread : (read limit url).value = .error failure) :
    Reported limit (some url) (resolve limit (some url)) := by
  have hvalue : (resolve limit (some url)).value = .unresolved url failure := by
    rw [value_resolve, hread]
    rfl
  have hevents : (resolve limit (some url)).events =
      opening url :: (read limit url).events ++ [complaint (some url) failure] := by
    rw [events_resolve, hread]
    rfl
  refine ⟨?informed, ?complained, nofun, ?closed, ?succeeded, countP_isChoice_resolve limit url, ?extracted⟩
  case informed =>
    rw [hevents, hvalue]
    exact iff_of_true ⟨_, List.mem_concat_self, rfl⟩ rfl
  case complained =>
    intro _
    rw [hvalue]
    exact ⟨failure, _, rfl, hevents, not_isInfo_before_closing limit url⟩
  case closed =>
    rw [hevents, hvalue, List.getLast?_concat]
    refine iff_of_false ?_ Bool.false_ne_true
    rintro ⟨e, he, hlevel, -⟩
    cases he
    cases hlevel
  case succeeded =>
    intro hcomplete
    rw [hvalue] at hcomplete
    cases hcomplete
  case extracted =>
    intro _ _ _ _ hcomplete
    rw [hvalue] at hcomplete
    cases hcomplete

theorem reported_of_ok {found : Found} (hread : (read limit url).value = .ok found) :
    Reported limit (some url) (resolve limit (some url)) := by
  have hvalue : (resolve limit (some url)).value = .resolved url found.endpoints found.databaseId := by
    rw [value_resolve, hread]
    rfl
  have hevents : (resolve limit (some url)).events =
      opening url :: (read limit url).events ++ [success found.endpoints found.databaseId] := by
    rw [events_resolve, hread]
    rfl
  refine ⟨?informed, ?complained, nofun, ?closed, ?succeeded, countP_isChoice_resolve limit url, ?extracted⟩
  case informed =>
    rw [hevents, hvalue]
    refine iff_of_false ?_ nofun
    rintro ⟨e, he, hinfo⟩
    rcases List.mem_append.mp he with he | he
    · rw [not_isInfo_before_closing limit url e he] at hinfo
      cases hinfo
    · rw [List.mem_singleton.mp he] at hinfo
      cases hinfo
  case complained =>
    intro hincomplete
    rw [hvalue] at hincomplete
    cases hincomplete
  case closed =>
    rw [hevents, hvalue, List.getLast?_concat]
    exact iff_of_true ⟨_, rfl, rfl, rfl⟩ rfl
  case succeeded =>
    intro _
    rw [hevents, hvalue, List.getLast?_concat]
    rfl
  case extracted =>
    intro text t htext hurl _
    cases htext
    rw [hvalue]
    exact extractions_of_read hurl hread

/-- The events of a resolution follow its outcome, whatever the input and the limit. -/
theorem reported_resolve (limit : Nat) (input : Option Text) : Reported limit input (resolve limit input) := by
  rcases input with _ | url
  · exact reported_missing limit
  rcases hread : (read limit url).value with failure | found
  · exact reported_of_error hread
  · exact reported_of_ok hread

/-- A resolution reports one INFO event if it fails, and none if it does not. -/
theorem countP_isInfo_resolve (limit : Nat) (input : Option Text) :
    (resolve limit input).events.countP Event.isInfo = if (resolve limit input).value.isComplete then 0 else 1 := by
  have hreported := reported_resolve limit input
  rcases hcomplete : (resolve limit input).value.isComplete with _ | _
  · obtain ⟨failure, before, -, hevents, hbefore⟩ := hreported.complained hcomplete
    have hnone : before.countP Event.isInfo = 0 := by
      rw [List.countP_eq_zero]
      intro e he
      rw [hbefore e he]
      exact Bool.false_ne_true
    have hlast : (complaint input failure).isInfo = true := by cases input <;> rfl
    rw [hevents, List.countP_append, hnone, List.countP_singleton, hlast]
    rfl
  · have hnone : ¬∃ e ∈ (resolve limit input).events, e.isInfo = true := by
      rw [hreported.informed, hcomplete]
      exact nofun
    rw [if_pos rfl, List.countP_eq_zero]
    intro e he hinfo
    exact hnone ⟨e, he, hinfo⟩

end Resolve

end ConnectString
