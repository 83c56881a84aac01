/-
  ConnectString.Proofs.Settings.Print — settings that are printed are read back as they were.

  The codec is any that keeps to what TOML promises of plain documents (`Toml.Codec.Lawful`); what it does beyond them
  is left open. The document of settings is plain (`plain_document`), and it fits exactly if its two numbers do
  (`fits_document_iff`). Its text holds no character that means anything to the expansion of references, so what is
  read is the text that was printed, and a table that holds the document fills every field of the settings with what
  it was, whatever they were before (`fillByName_of_holds`).

  Main statement: settings whose depth is allowed can be printed exactly if the size in them has 63 bits, and what is
  printed is read back as the same settings in every environment (`parse_print`).
-/

import ConnectString.Command.Run
import ConnectString.Proofs.Environment.Substitution
import ConnectString.Proofs.Settings.Depth
import ConnectString.Proofs.Toml.Codec
import Mathlib.Data.List.Forall2

namespace ConnectString.Settings

open Toml

variable {codec : Codec} {s : Settings} {t : Text}

/-! ## The document -/

/-- The names in the document are those of the fields that the reader of settings knows. -/
theorem names_document (s : Settings) :
    s.document.map (fun table => (table.path, table.rows.map Prod.fst)) =
      [(["jdbc".toList, "tibero".toList], pluginFields.map fun f => f.name.toList),
        (["resolver".toList], resolverFields.map fun f => f.name.toList)] := rfl

theorem plain_document (s : Settings) : s.document.Plain where
  sections table htable := by
    have hnames := List.mem_map_of_mem (f := fun table => (table.path, table.rows.map Prod.fst)) htable
    rw [names_document, List.mem_pair, Prod.mk.injEq, Prod.mk.injEq] at hnames
    rcases hnames with ⟨hpath, hrows⟩ | ⟨hpath, hrows⟩
    · exact Section.plain_of_names hrows (by rw [hpath]; decide)
    · exact Section.plain_of_names hrows (by rw [hpath]; decide)
  distinct := by
    have hfirst : (s.document.map fun table => table.path.head?) = [some "jdbc".toList, some "resolver".toList] := rfl
    rw [hfirst]
    decide

theorem fits_document_iff (s : Settings) :
    s.document.fits = true ↔ s.plugin.maxSqlBindValueSize < integerBound ∧ s.maxDepth < integerBound := by
  simp [document, Document.fits, Item.fits]

/-- Every field of the settings is filled, so nothing is left of the settings to start from. -/
theorem fillByName_of_holds {es : Entries} (h : es.Holds s.document) (base : Settings) :
    Record.fillByName documentFields es base = .ok s := by
  obtain _ | @⟨⟨jdbc, _⟩, _, _, _, ⟨path, hjdbc, hplugin⟩, hrest⟩ := h
  obtain _ | @⟨⟨resolver, _⟩, _, _, _, ⟨path', hresolver, hdepth⟩, hend⟩ := hrest
  obtain rfl := List.forall₂_nil_right_iff.mp hend
  obtain ⟨rfl, rfl⟩ := List.cons.inj hjdbc
  obtain ⟨rfl, rfl⟩ := List.cons.inj hresolver
  obtain _ | ⟨_, _ | _⟩ := hplugin
  obtain _ | _ := hdepth
  rfl

/-! ## What is read back -/

theorem no_dollar_of_print (hcodec : codec.Lawful) (h : s.print? codec = some t) : '$' ∉ t := by
  have hplain := plain_document s
  rw [hcodec.text_of_write _ _ hplain h]
  exact fun hmem => absurd (isPlainChar_of_mem_text hplain _ hmem) (by decide)

theorem decode_print (hcodec : codec.Lawful) (h : s.print? codec = some t) : decode codec t = .ok s := by
  have hplain := plain_document s
  obtain ⟨es, hread, hholds⟩ := hcodec.reads _ hplain ((hcodec.writes_iff _ hplain).mp ⟨t, h⟩)
  rw [decode, hcodec.text_of_write _ _ hplain h, hread]
  simp only [fillByName_of_holds hholds]

theorem parse_of_print (hcodec : codec.Lawful) (hdepth : s.maxDepth ≤ Descriptor.depthCeiling)
    (h : s.print? codec = some t) (env : Environment) : parse codec env t = .ok s := by
  have hfault := (depthFault?_eq_none_iff _).mpr hdepth
  simp only [parse, Expansion.expand_of_no_dollar (no_dollar_of_print hcodec h), decode_print hcodec h, hfault]

/-- Settings whose depth is allowed have a TOML text exactly if the size in them fits a whole number with a sign. In
    every environment, this text is read as the same settings. It is what the command writes, which fails where there
    is no such text. -/
theorem parse_print (hcodec : codec.Lawful) (hdepth : s.maxDepth ≤ 256) :
    ((∃ t, s.print? codec = some t) ↔ s.plugin.maxSqlBindValueSize ≤ Nat.pow 2 63 - 1) ∧
      (∀ t, s.print? codec = some t → ∀ env, parse codec env t = .ok s) ∧
      ∀ dir env (o : Command.ConfigOptions), o.toml = true →
        (Command.loadSettings codec dir env env o.config).value = .ok s →
        (Command.runConfig codec dir env o).value =
          match s.print? codec with
          | some t => ⟨String.ofList t, none⟩
          | none => .failed .unwritable := by
  refine ⟨?exist, fun t h env => parse_of_print hcodec hdepth h env, ?command⟩
  case exist =>
    have hpos : 0 < Nat.pow 2 63 := by decide
    have hfits : s.maxDepth < integerBound := Nat.lt_of_le_of_lt hdepth (by decide)
    rw [Nat.le_sub_one_iff_lt hpos, print?, hcodec.writes_iff _ (plain_document s), fits_document_iff]
    exact ⟨And.left, fun hsize => ⟨hsize, hfits⟩⟩
  case command =>
    intro dir env o htoml hload
    rw [Command.runConfig, Logged.value_bind, hload]
    simp only [htoml, if_true]
    cases s.print? codec with
    | some t => rfl
    | none => rfl

/-- The greatest size that is written, with the greatest depth, and the least that is not. -/
theorem parse_print_greatest :
    let sized : Nat → Settings := fun size =>
      ⟨{ PluginSettings.default with enable := true, maxSqlBindValueSize := size }, 256⟩
    standard.Lawful ∧
      (∃ t, (sized 9223372036854775807).print? standard = some t ∧
        ∀ env, parse standard env t = .ok (sized 9223372036854775807)) ∧
      ¬∃ t, (sized 9223372036854775808).print? standard = some t := by
  intro sized
  have hgreatest := parse_print lawful_standard (s := sized 9223372036854775807) (Nat.le_refl 256)
  have hbeyond := parse_print lawful_standard (s := sized 9223372036854775808) (Nat.le_refl 256)
  refine ⟨lawful_standard, ?_, ?_⟩
  · have hsize : 9223372036854775807 ≤ Nat.pow 2 63 - 1 := by decide
    obtain ⟨t, ht⟩ := hgreatest.1.mpr hsize
    exact ⟨t, ht, hgreatest.2.1 t ht⟩
  · intro h
    have hsize : 9223372036854775808 ≤ Nat.pow 2 63 - 1 := hbeyond.1.mp h
    exact absurd hsize (by decide)

end ConnectString.Settings
