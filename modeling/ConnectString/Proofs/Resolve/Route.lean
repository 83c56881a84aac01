/-
  ConnectString.Proofs.Resolve.Route — routes written as a url, and what the url resolves to.

  The written form of a tree that is read back resolves to what the tree gives away (`value_resolve_render`). With
  the trees of routes this is what the routes were made of: of a DESCRIPTION_LIST all endpoints in order and the first
  id, of a single DESCRIPTION its own.

  Main statement: routes are resolved to as they were written, and one endpoint with an id is resolved to alike in
  either dialect (`resolve_routes`).
-/

import ConnectString.Proofs.Descriptor.Route
import ConnectString.Proofs.Resolve.Flat

namespace ConnectString

def Outcome.withSource (source : Text) : Outcome → Outcome
  | resolved _ endpoints id => resolved source endpoints id
  | unresolved _ failure => unresolved source failure

namespace Resolve

open Descriptor

variable {limit : Nat} {driver credentials : Text}

/-! ## Written trees -/

theorem foundAt_render {t : Tree} (h : Printable (effectiveLimit limit) 1 t) : foundAt limit t.render = foundIn t := by
  obtain ⟨m, hm⟩ := (node_render t h).exists_between
  have htrim : Text.trim t.render = t.render := by
    rw [hm]
    exact Text.trim_between (by decide) (by decide) m
  have hhead : t.render.head? = some '(' := by
    rw [hm]
    rfl
  rw [foundAt, htrim, if_pos hhead, parse_render_of_printable h]
  rfl

/-- A tree that is read back from its written form is what the url resolves by. -/
theorem value_resolve_render (hdriver : ':' ∉ driver) (hcredentials : '(' ∉ credentials) {t : Tree}
    (h : Printable (effectiveLimit limit) 1 t) :
    (resolve limit (some (urlOf driver credentials t.render))).value =
      .ofFound (urlOf driver credentials t.render) (foundIn t) := by
  have hwhole : behindCredentials t.render = t.render := by
    obtain ⟨m, hm⟩ := (node_render t h).exists_between
    rw [hm]
    rfl
  rw [value_resolve_urlOf limit hdriver, behindCredentials_append hcredentials, hwhole, foundAt_render h]

/-! ## What the trees of routes give away -/

theorem foundIn_tree (r : Route) :
    foundIn r.tree = r.databaseId.elim (.error .missingDatabaseId) fun id => .ok ⟨r.endpoints, id⟩ := by
  have hkind : r.tree.kind = .description := Kind.ofKey_spelling (by decide)
  rw [foundIn, Description.value_classify, hkind]
  simp only [ofTree_tree]
  rcases hid : r.databaseId with _ | id <;>
    simp [Spec.isComplete, Spec.endpoints, Spec.databaseId, Route.description, hid]

theorem foundIn_listTree (routes : List Route) :
    foundIn (listTree routes) =
      if ∃ r ∈ routes, r.endpoints ≠ [] ∨ r.databaseId ≠ none then
        .ok ⟨routes.flatMap Route.endpoints, (routes.findSome? Route.databaseId).getD []⟩
      else .error .missingDatabaseId := by
  have hkind : (listTree routes).kind = .descriptionList := Kind.ofKey_spelling (by decide)
  have hendpoints : (DescriptionList.ofTree (listTree routes)).endpoints = routes.flatMap Route.endpoints := by
    rw [DescriptionList.endpoints, ofTree_listTree, List.flatMap_map]
    rfl
  have hid : (DescriptionList.ofTree (listTree routes)).databaseId = routes.findSome? Route.databaseId := by
    rw [DescriptionList.databaseId, ofTree_listTree, List.findSome?_map]
    rfl
  have hcomplete : (Spec.list (DescriptionList.ofTree (listTree routes))).isComplete = true ↔
      ∃ r ∈ routes, r.endpoints ≠ [] ∨ r.databaseId ≠ none := by
    rw [isComplete_list_iff, ofTree_listTree]
    simp [Route.description]
  rw [foundIn, Description.value_classify, hkind]
  simp only [hcomplete, Spec.endpoints, Spec.databaseId, hendpoints, hid]

/-! ## Urls of routes -/

def answerTo (limit : Nat) (driver credentials rest : Text) : Outcome :=
  (resolve limit (some (urlOf driver credentials rest))).value

section

variable {routes : List Route} (hdriver : ':' ∉ driver) (hcredentials : '(' ∉ credentials)
  (hclean : ∀ r ∈ routes, ∀ v ∈ r.values, PrintableText v)
  (hroom : 5 + deepest (routes.flatMap Route.values) ≤ effectiveLimit limit)

include hclean hroom

/-- The deepest values are those under an ADDRESS_LIST in a DESCRIPTION_LIST. -/
theorem fits_of_room : ∀ r ∈ routes, ∀ v ∈ r.values, Fits (effectiveLimit limit) 5 v := by
  intro r hr v hv
  have hdeepest := nesting_le_deepest (List.mem_flatMap.mpr ⟨r, hr, hv⟩)
  exact ⟨hclean r hr v hv, by omega⟩

include hdriver hcredentials

theorem answer_listTree :
    answerTo limit driver credentials (listTree routes).render =
      .ofFound (urlOf driver credentials (listTree routes).render) (foundIn (listTree routes)) :=
  value_resolve_render hdriver hcredentials (printable_listTree (by omega) (fits_of_room hclean hroom))

theorem isComplete_answer_listTree :
    (answerTo limit driver credentials (listTree routes).render).isComplete = true ↔
      ∃ r ∈ routes, r.endpoints ≠ [] ∨ r.databaseId ≠ none := by
  rw [answer_listTree hdriver hcredentials hclean hroom, foundIn_listTree]
  split
  · exact iff_of_true rfl ‹_›
  · exact iff_of_false Bool.false_ne_true ‹_›

theorem answer_listTree_of_any (hany : ∃ r ∈ routes, r.endpoints ≠ [] ∨ r.databaseId ≠ none) :
    answerTo limit driver credentials (listTree routes).render =
      .resolved (urlOf driver credentials (listTree routes).render) (routes.flatMap Route.endpoints)
        ((routes.findSome? Route.databaseId).getD []) := by
  rw [answer_listTree hdriver hcredentials hclean hroom, foundIn_listTree, if_pos hany]
  rfl

variable {r : Route}

theorem answer_tree (hr : r ∈ routes) :
    answerTo limit driver credentials r.tree.render =
      .ofFound (urlOf driver credentials r.tree.render) (foundIn r.tree) :=
  value_resolve_render hdriver hcredentials
    (printable_tree (by omega) fun v hv => (fits_of_room hclean hroom r hr v hv).outward (by omega))

theorem isComplete_answer_tree (hr : r ∈ routes) :
    (answerTo limit driver credentials r.tree.render).isComplete = true ↔ r.databaseId ≠ none := by
  rw [answer_tree hdriver hcredentials hclean hroom hr, foundIn_tree]
  rcases r.databaseId with _ | id
  · exact iff_of_false Bool.false_ne_true fun h => h rfl
  · exact iff_of_true rfl (Option.some_ne_none id)

theorem answer_tree_of_id (hr : r ∈ routes) {id : Text} (hid : r.databaseId = some id) :
    answerTo limit driver credentials r.tree.render =
      .resolved (urlOf driver credentials r.tree.render) r.endpoints id := by
  rw [answer_tree hdriver hcredentials hclean hroom hr, foundIn_tree, hid]
  rfl

end

/-- A flat address that starts with a printable text is no descriptor. -/
theorem bare_flatAddress {e : Endpoint} (separator : Char) (id : Text) (h : PrintableText e.host) :
    (Text.trim (flatAddress e separator id)).head? ≠ some '(' := by
  obtain ⟨c, r, hhost⟩ := List.exists_cons_of_ne_nil h.nonempty
  have hblank : isBlank c = false := Text.not_isBlank_head_trim (h.trimmed.trans hhost)
  have haddress : flatAddress e separator id = c :: (r ++ ':' :: e.port ++ separator :: id) := by
    simp [flatAddress, hhost]
  have hc : c ≠ '(' := fun he => h.bare (by rw [hhost, he]; rfl)
  rw [haddress, Text.head?_trim_cons hblank]
  exact fun he => hc (Option.some.inj he)

theorem answer_flat (hdriver : ':' ∉ driver) (hcredentials : '(' ∉ credentials) {e : Endpoint} {separator : Char}
    {id : Text} (hparts : FlatParts e separator id) (hat : '@' ∉ flatAddress e separator id)
    (hhost : PrintableText e.host) :
    answerTo limit driver credentials (flatAddress e separator id) =
      .resolved (urlOf driver credentials (flatAddress e separator id)) [e] id :=
  value_resolve_flat limit hdriver hcredentials hparts hat (bare_flatAddress separator id hhost)

/-- The url of a DESCRIPTION_LIST resolves to all endpoints of its routes and to their first id, unless none of them has
    anything; that of a single DESCRIPTION to its endpoints, once it has an id. Where this is one endpoint with an id,
    it is what the flat url of the same parts resolves to. -/
theorem resolve_routes (limit : Nat) {driver credentials : Text} {routes : List Route} (hdriver : ':' ∉ driver)
    (hcredentials : '(' ∉ credentials) (hclean : ∀ r ∈ routes, ∀ v ∈ r.values, PrintableText v)
    (hroom : 5 + deepest (routes.flatMap Route.values) ≤ effectiveLimit limit) :
    let url := urlOf driver credentials
    let answer := answerTo limit driver credentials
    let list := (listTree routes).render
    ((answer list).isComplete = true ↔ ∃ r ∈ routes, r.endpoints ≠ [] ∨ r.databaseId ≠ none) ∧
      ((answer list).isComplete = true →
        answer list =
          .resolved (url list) (routes.flatMap Route.endpoints) ((routes.findSome? Route.databaseId).getD [])) ∧
      (∀ r ∈ routes,
        ((answer r.tree.render).isComplete = true ↔ r.databaseId ≠ none) ∧
          ∀ id, r.databaseId = some id → answer r.tree.render = .resolved (url r.tree.render) r.endpoints id) ∧
      ∀ e separator id, FlatParts e separator id → '@' ∉ flatAddress e separator id →
        let flat := flatAddress e separator id
        (routes.flatMap Route.endpoints = [e] → routes.findSome? Route.databaseId = some id →
          answer flat = (answer list).withSource (url flat)) ∧
        ∀ r ∈ routes, r.endpoints = [e] → r.databaseId = some id →
          answer flat = (answer r.tree.render).withSource (url flat) := by
  intro url answer list
  refine ⟨?complete, ?list, ?single, ?flat⟩
  case complete => exact isComplete_answer_listTree hdriver hcredentials hclean hroom
  case list =>
    intro hcomplete
    exact answer_listTree_of_any hdriver hcredentials hclean hroom
      ((isComplete_answer_listTree hdriver hcredentials hclean hroom).mp hcomplete)
  case single =>
    intro r hr
    exact ⟨isComplete_answer_tree hdriver hcredentials hclean hroom hr,
      fun id hid => answer_tree_of_id hdriver hcredentials hclean hroom hr hid⟩
  case flat =>
    intro e separator id hparts hat flat
    have hflat : ∀ r ∈ routes, e ∈ r.endpoints → answer flat = .resolved (url flat) [e] id := fun r hr he =>
      answer_flat hdriver hcredentials hparts hat (hclean r hr _ (r.mem_values_of_endpoint he).1)
    constructor
    · intro hendpoints hid
      obtain ⟨r, hr, he⟩ := List.mem_flatMap.mp (hendpoints ▸ List.mem_singleton.mpr rfl)
      have hlist : answer list = .resolved (url list) _ _ :=
        answer_listTree_of_any hdriver hcredentials hclean hroom ⟨r, hr, .inl (List.ne_nil_of_mem he)⟩
      rw [hflat r hr he, hlist, hendpoints, hid]
      rfl
    · intro r hr hendpoints hid
      have htree : answer r.tree.render = .resolved (url r.tree.render) _ id :=
        answer_tree_of_id hdriver hcredentials hclean hroom hr hid
      rw [hflat r hr (hendpoints ▸ List.mem_singleton.mpr rfl), htree, hendpoints]
      rfl

/-- An endpoint under an ADDRESS_LIST of one route and the id of another; the parentheses of the host take up all the
    room that there is. -/
theorem resolve_routes_two :
    let list := "jdbc:tibero:thin:scott/p@s:s@".toList ++ ("(DESCRIPTION_LIST=(DESCRIPTION=(ADDRESS_LIST=".toList ++
      ("(ADDRESS=(HOST=db(1))(PORT=1521))))".toList ++ "(DESCRIPTION=(CONNECT_DATA=(SID=X=E))))".toList))
    let flat := "jdbc:tibero:thin:scott/p@s:s@db(1):1521/X=E".toList
    (resolve 6 (some list)).value = .resolved list [⟨"db(1)".toList, "1521".toList⟩] "X=E".toList ∧
      (resolve 6 (some flat)).value = .resolved flat [⟨"db(1)".toList, "1521".toList⟩] "X=E".toList := by
  let e : Endpoint := ⟨"db(1)".toList, "1521".toList⟩
  let routes : List Route := [⟨[.list [e]], none, []⟩, ⟨[], some (.sid, "X=E".toList), []⟩]
  intro list flat
  have hclean : ∀ r ∈ routes, ∀ v ∈ r.values, PrintableText v := by decide
  have hparts : FlatParts e '/' "X=E".toList :=
    ⟨by decide, List.all_eq_true.mp (by decide), by decide, by decide, List.all_eq_true.mp (by decide)⟩
  have hlisturl : urlOf "thin".toList "scott/p@s:s".toList (listTree routes).render = list := by rfl
  have hflaturl : urlOf "thin".toList "scott/p@s:s".toList (flatAddress e '/' "X=E".toList) = flat := by rfl
  obtain ⟨hcomplete, hlist, -, hflat⟩ := resolve_routes 6 (by decide : ':' ∉ "thin".toList)
    (by decide : '(' ∉ "scott/p@s:s".toList) hclean (by decide)
  have hlist := hlist (hcomplete.mpr (by decide))
  have hflat := (hflat e '/' "X=E".toList hparts (by decide)).1 rfl rfl
  rw [hlist] at hflat
  unfold answerTo at hlist hflat
  rw [hlisturl] at hlist
  rw [hflaturl] at hflat
  exact ⟨hlist, hflat⟩

end Resolve

end ConnectString
