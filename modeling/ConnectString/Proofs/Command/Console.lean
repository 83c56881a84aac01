/-
  ConnectString.Proofs.Command.Console — what is written of a result, letter by letter.

  The texts here are written out with their control sequences, blanks and line ends, so that they say what a reader or
  another program gets to see without the functions that put them together. A result that found something shows every
  endpoint and the database; one that did not shows its failure; both show the service. The same holds of the JSON
  form, which has the same six entries for either kind of result.
-/

import ConnectString.Command.Console

namespace ConnectString

/-! ## Text -/

namespace Command.Console

/-- A row of a result: a label of 28 places, dimmed, and a value. -/
def row (label value : String) : String := "  \x1b[2m" ++ label ++ "\x1b[0m " ++ value ++ "\n"

def resultText : Outcome → String
  | .resolved source endpoints databaseId =>
    "\n\x1b[1m\x1b[32mok\x1b[39m\x1b[0m " ++ String.ofList source ++ "\n" ++
      String.join (endpoints.map fun e =>
        row "Endpoint                    " (String.ofList (e.host ++ ':' :: e.port))) ++
      row "Database                    " (String.ofList databaseId) ++
      row "Service type                " "TIBERO(2420)"
  | .unresolved source failure =>
    "\n\x1b[1m\x1b[33m??\x1b[39m\x1b[0m \x1b[33m" ++ String.ofList source ++ "\x1b[39m\n" ++
      row "Error                       " failure.message ++
      row "Service type                " (if failure.isForeign then "UNKNOWN_DB(2050)" else "TIBERO(2420)")

theorem field_eq_row (label value : String) : field label value = row (padded labelWidth label) value := by
  apply String.toList_injective
  simp [field, row, dim, styled]

theorem padded_endpoint : padded labelWidth "Endpoint" = "Endpoint                    " := by rfl

theorem padded_database : padded labelWidth "Database" = "Database                    " := by rfl

theorem padded_error : padded labelWidth "Error" = "Error                       " := by rfl

theorem padded_serviceType : padded labelWidth "Service type" = "Service type                " := by rfl

theorem title_resolve : title "Resolve" = "\x1b[36m\x1b[1mResolve\x1b[0m\x1b[39m\n\x1b[2m=======\x1b[0m\n" := by
  decide

theorem render_tibero : ServiceType.tibero.render = "TIBERO(2420)" := by decide

theorem render_unknown : ServiceType.unknown.render = "UNKNOWN_DB(2050)" := by decide

theorem render_serviceType_unresolved (source : Text) (f : Failure) :
    (Outcome.unresolved source f).serviceType.render =
      if f.isForeign then "UNKNOWN_DB(2050)" else "TIBERO(2420)" := by
  rw [Outcome.serviceType, apply_ite ServiceType.render, render_tibero, render_unknown]

theorem outcome_eq_resultText (r : Outcome) : outcome r = resultText r := by
  cases r with
  | resolved source endpoints databaseId =>
    unfold outcome resultText
    simp only [field_eq_row, padded_endpoint, padded_database, padded_serviceType, Outcome.serviceType, render_tibero,
      Outcome.source, Endpoint.render]
    apply String.toList_injective
    simp [bold, green, styled]
  | unresolved source failure =>
    unfold outcome resultText
    simp only [field_eq_row, padded_error, padded_serviceType, render_serviceType_unresolved, Outcome.source]
    apply String.toList_injective
    simp [bold, yellow, styled]

theorem totals_eq (resolved unresolved : Nat) :
    totals resolved unresolved =
      "\n\x1b[1m\x1b[32m" ++ toString resolved ++ "\x1b[39m\x1b[0m resolved, \x1b[1m\x1b[31m" ++ toString unresolved ++
        "\x1b[39m\x1b[0m unresolved\n" := by
  apply String.toList_injective
  simp [totals, bold, green, red, styled]

end Command.Console

/-! ## JSON -/

namespace Json

theorem append_prettyItems (depth : Nat) (first : String) (js : List Json) :
    first ++ prettyItems depth js =
      ",".intercalate (first :: js.map fun j => newLine depth ++ prettyAt depth j) := by
  induction js generalizing first with
  | nil => rw [prettyItems, String.append_empty, List.map_nil, String.intercalate_singleton]
  | cons j js ih =>
    rw [prettyItems, List.map_cons, String.intercalate_cons_cons, ← ih]
    simp only [String.append_assoc]

/-- The items of a list stand on lines of their own, with commas between them. -/
theorem prettyAt_array (depth : Nat) {js : List Json} (h : js ≠ []) :
    prettyAt depth (array js) =
      "[" ++ ",".intercalate (js.map fun j => newLine (depth + 1) ++ prettyAt (depth + 1) j) ++
        newLine depth ++ "]" := by
  obtain ⟨j, js, rfl⟩ := List.exists_cons_of_ne_nil h
  rw [prettyAt, List.map_cons, ← append_prettyItems]
  simp only [String.append_assoc]

/-- Neither a quote nor a backslash nor a control character. -/
def isVerbatim (c : Char) : Bool := c != '"' && c != '\\' && 0x20 ≤ c.toNat

theorem escapeChar_of_isVerbatim {c : Char} (h : isVerbatim c = true) : escapeChar c = c.toString := by
  simp only [isVerbatim, Bool.and_eq_true, bne_iff_ne, decide_eq_true_eq] at h
  obtain ⟨⟨hquote, hbackslash⟩, hprinted⟩ := h
  have hcontrol : ∀ d : Char, d.toNat < 0x20 → ¬c = d := by
    rintro d hd rfl
    exact absurd hd (Nat.not_lt.mpr hprinted)
  simp [escapeChar, hquote, hbackslash, hcontrol, Nat.not_lt.mpr hprinted]

theorem quote_of_isVerbatim {s : String} (h : s.toList.all isVerbatim = true) : quote s = "\"" ++ s ++ "\"" := by
  have hchars : s.toList.map escapeChar = s.toList.map Char.toString :=
    List.map_congr_left fun c hc => escapeChar_of_isVerbatim (List.all_eq_true.mp h c hc)
  apply String.toList_injective
  simp [quote, hchars, List.flatMap_map, Char.toString]

end Json

namespace Command.Console

open Json (quote)

def endpointJson (e : Endpoint) : String :=
  "\n      \x7b\n        \"host\": " ++ quote (String.ofList e.host) ++
    ",\n        \"port\": " ++ quote (String.ofList e.port) ++ "\n      \x7d"

/-- The six entries of a result; only the texts among them are put between quotes here. -/
def entriesJson (source : Text) (endpoints : String) (databaseId : Text) (complete code name error : String) : String :=
  "\n  \x7b\n    \"source_text\": " ++ quote (String.ofList source) ++
    ",\n    \"endpoints\": " ++ endpoints ++
    ",\n    \"database_id\": " ++ quote (String.ofList databaseId) ++
    ",\n    \"complete\": " ++ complete ++
    ",\n    \"service_type\": \x7b\n      \"code\": " ++ code ++
    ",\n      \"name\": " ++ quote name ++ "\n    \x7d" ++
    ",\n    \"error\": " ++ error ++ "\n  \x7d"

def resultJson : Outcome → String
  | .resolved source endpoints databaseId =>
    entriesJson source
      (if endpoints = [] then "[]" else "[" ++ ",".intercalate (endpoints.map endpointJson) ++ "\n    ]")
      databaseId "true" "2420" "TIBERO" "null"
  | .unresolved source failure =>
    entriesJson source "[]" [] "false" (if failure.isForeign then "2050" else "2420")
      (if failure.isForeign then "UNKNOWN_DB" else "TIBERO") (quote failure.message)

theorem pretty_endpoint (e : Endpoint) :
    Json.newLine 3 ++ Json.prettyAt 3
        (.object [("host", .string (String.ofList e.host)), ("port", .string (String.ofList e.port))]) =
      endpointJson e := by
  unfold endpointJson
  simp (disch := decide) only [Json.prettyAt, Json.prettyEntries, Json.quote_of_isVerbatim]
  apply String.toList_injective
  simp [Json.newLine, List.replicate]

theorem pretty_endpoints (endpoints : List Endpoint) :
    Json.prettyAt 2 (.array (endpoints.map fun e =>
        .object [("host", .string (String.ofList e.host)), ("port", .string (String.ofList e.port))])) =
      if endpoints = [] then "[]" else "[" ++ ",".intercalate (endpoints.map endpointJson) ++ "\n    ]" := by
  split
  · rename_i hempty
    rw [hempty, List.map_nil, Json.prettyAt]
  · rename_i hsome
    rw [Json.prettyAt_array 2 (by simpa using hsome), List.map_map]
    simp only [Nat.reduceAdd, Function.comp_def, pretty_endpoint]
    apply String.toList_injective
    simp [Json.newLine, List.replicate]

/-- The JSON object of a result, its entries in their order. -/
theorem pretty_entries (source : Text) (endpoints : Json) (databaseId : Text) (complete : Bool) (code : Nat)
    (name : String) (error : Json) :
    Json.newLine 1 ++ Json.prettyAt 1 (.object [
        ("source_text", .string (String.ofList source)), ("endpoints", endpoints),
        ("database_id", .string (String.ofList databaseId)), ("complete", .boolean complete),
        ("service_type", .object [("code", .number code), ("name", .string name)]), ("error", error)]) =
      entriesJson source (Json.prettyAt 2 endpoints) databaseId (if complete then "true" else "false") (toString code)
        name (Json.prettyAt 2 error) := by
  unfold entriesJson
  -- the names of the entries stand between quotes as they are; the other texts may hold anything
  simp (disch := decide) only [Json.prettyAt, Json.prettyEntries, Json.quote_of_isVerbatim]
  apply String.toList_injective
  simp [Json.newLine, List.replicate]

theorem pretty_toJson (r : Outcome) : Json.newLine 1 ++ Json.prettyAt 1 r.toJson = resultJson r := by
  have htibero : toString ServiceType.tibero.code = "2420" := by decide
  have hunknown : toString ServiceType.unknown.code = "2050" := by decide
  rw [Outcome.toJson, pretty_entries]
  unfold resultJson
  cases r with
  | resolved source endpoints databaseId =>
    simp only [Outcome.source, Outcome.endpoints, Outcome.databaseId, Outcome.isComplete, Outcome.serviceType,
      Outcome.failure?, pretty_endpoints, htibero]
    rfl
  | unresolved source failure =>
    simp only [Outcome.source, Outcome.endpoints, Outcome.databaseId, Outcome.isComplete, Outcome.serviceType,
      Outcome.failure?, Option.map_some, Option.getD_some, List.map_nil, Json.prettyAt]
    cases failure.isForeign
    · simp only [Bool.false_eq_true, if_false, htibero]
      rfl
    · simp only [if_true, hunknown]
      rfl

theorem pretty_results {rs : List Outcome} (h : rs ≠ []) :
    (Json.array (rs.map Outcome.toJson)).pretty = "[" ++ ",".intercalate (rs.map resultJson) ++ "\n]" := by
  have hbreak : Json.newLine 0 = "\n" := by rfl
  rw [Json.pretty, Json.prettyAt_array 0 (by simpa using h), List.map_map, hbreak, String.append_assoc]
  simp only [Nat.reduceAdd, Function.comp_def, pretty_toJson]
  rfl

end Command.Console

end ConnectString
