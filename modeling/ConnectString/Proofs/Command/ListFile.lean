/-
  ConnectString.Proofs.Command.ListFile — urls that are written into a list file come back out of it.

  `Lists` says which texts hold a row of urls: line by line, with blanks around a url, with empty lines and comments
  anywhere between, and with either kind of line end. The urls that are collected from a text are the ones that it
  lists, and it lists no others (`urlsOfFile_eq_iff`).

  Main statement: a batch has the urls of its arguments and then the ones that its list file lists, each of which a
  line of a file can hold; and a file in two parts lists what its parts list (`collectUrls_listFile`).
-/

import ConnectString.Command.Batch
import ConnectString.Proofs.Text.Trim

namespace ConnectString.Command

structure Listable (url : Text) : Prop where
  ne_nil : url ≠ []
  noBlankBefore : ∀ c ∈ url.head?, isBlank c = false
  noBlankBehind : ∀ c ∈ url.getLast?, isBlank c = false
  noComment : url.head? ≠ some '#'
  oneLine : '\n' ∉ url

/-- A line, without its end, and the urls that it holds. -/
inductive Line : Text → List Text → Prop
  | url {before url after : Text} (hbefore : Blanks before) (hurl : Listable url) (hafter : Blanks after) :
      Line (before ++ url ++ after) [url]
  | blank {t : Text} (h : Blanks t) : Line t []
  | comment {before : Text} (hbefore : Blanks before) (t : Text) : Line (before ++ '#' :: t) []

inductive LineEnd : Text → Prop
  | lf : LineEnd ['\n']
  | crlf : LineEnd ['\r', '\n']

/-- The text of a list file, and the urls that it lists, in order. -/
inductive Lists : Text → List Text → Prop
  /-- The last line needs no end. -/
  | last {line : Text} {us : List Text} (h : Line line us) (hopen : '\n' ∉ line) : Lists line us
  | line {line ending rest : Text} {us vs : List Text} (h : Line line us) (hopen : '\n' ∉ line)
      (hending : LineEnd ending) (hrest : Lists rest vs) : Lists (line ++ ending ++ rest) (us ++ vs)

/-! ## One line -/

variable {t : Text} {us : List Text}

theorem isUrlLine_iff : isUrlLine t = true ↔ t ≠ [] ∧ t.head? ≠ some '#' := by
  cases t <;> simp [isUrlLine]

theorem urlsOfFile_of_open (h : '\n' ∉ t) : urlsOfFile t = [Text.trim t].filter isUrlLine := by
  rw [urlsOfFile, List.splitOn_eq_singleton h, List.map_singleton]

/-- From a line that holds a url or none, that url is collected or none. -/
theorem filter_trim_of_line (h : Line t us) : [Text.trim t].filter isUrlLine = us := by
  cases h with
  | url hbefore hurl hafter =>
    rw [Text.trim_between_blanks hbefore hafter hurl.noBlankBefore hurl.noBlankBehind]
    exact List.filter_cons_of_pos (isUrlLine_iff.mpr ⟨hurl.ne_nil, hurl.noComment⟩)
  | blank h =>
    rw [Text.trim_of_blanks h]
    rfl
  | @comment before hbefore t =>
    have hplain : isBlank '#' = false := by decide
    have hhead : (Text.trim (before ++ '#' :: t)).head? = some '#' := by
      rw [Text.trim_append hbefore (by simp [hplain]), Text.head?_trim_cons hplain]
    apply List.filter_cons_of_neg
    rw [isUrlLine_iff]
    exact fun h => h.2 hhead

/-- Every text without a line end is a line. -/
theorem line_of_open (h : '\n' ∉ t) : Line t ([Text.trim t].filter isUrlLine) := by
  obtain ⟨before, after, hbefore, hafter, ht⟩ := Text.exists_trim_between t
  by_cases hurl : isUrlLine (Text.trim t) = true
  · obtain ⟨hne, hcomment⟩ := isUrlLine_iff.mp hurl
    have hlistable : Listable (Text.trim t) := by
      refine ⟨hne, ?_, Text.not_isBlank_getLast_trim t, hcomment, fun hmem => h (Text.mem_of_mem_trim hmem)⟩
      intro c hc
      obtain ⟨r, hr⟩ := List.head?_eq_some_iff.mp hc
      exact Text.not_isBlank_head_trim hr
    have hline := Line.url hbefore hlistable hafter
    rw [← ht] at hline
    rwa [List.filter_cons_of_pos hurl]
  · rw [List.filter_cons_of_neg hurl, List.filter_nil]
    rcases htrim : Text.trim t with _ | ⟨c, r⟩
    · rw [htrim, List.append_nil] at ht
      exact .blank (ht ▸ blanks_append hbefore hafter)
    · have hc : c = '#' := by simpa [isUrlLine, htrim] using hurl
      have hline := Line.comment hbefore (r ++ after)
      rwa [← hc, ← List.cons_append, ← htrim, ← List.append_assoc, ← ht] at hline

/-- A carriage return at its end does not change what a line holds. -/
theorem line_concat_return (h : Line t us) : Line (t ++ ['\r']) us := by
  have hreturn : Blanks ['\r'] := by simpa [Blanks] using (by decide : isBlank '\r' = true)
  cases h with
  | url hbefore hurl hafter =>
    rw [List.append_assoc]
    exact .url hbefore hurl (blanks_append hafter hreturn)
  | blank h => exact .blank (blanks_append h hreturn)
  | comment hbefore t =>
    rw [List.append_assoc]
    exact .comment hbefore (t ++ ['\r'])

/-! ## Files -/

/-- A line end separates what is collected before it from what is collected behind it. -/
theorem urlsOfFile_append_cons (a b : Text) : urlsOfFile (a ++ '\n' :: b) = urlsOfFile a ++ urlsOfFile b := by
  rw [urlsOfFile, List.splitOn_append_cons_self, List.map_append, List.filter_append]
  rfl

theorem urlsOfFile_of_lists (h : Lists t us) : urlsOfFile t = us := by
  induction h with
  | last h hopen => rw [urlsOfFile_of_open hopen, filter_trim_of_line h]
  | @line line ending rest us vs h hopen hending _ ih =>
    cases hending with
    | lf => rw [← List.append_cons, urlsOfFile_append_cons, urlsOfFile_of_open hopen, filter_trim_of_line h, ih]
    | crlf =>
      have hopen' : '\n' ∉ line ++ ['\r'] := by simp [hopen]
      have hcut : line ++ ['\r', '\n'] ++ rest = line ++ ['\r'] ++ '\n' :: rest := by simp
      rw [hcut, urlsOfFile_append_cons, urlsOfFile_of_open hopen', filter_trim_of_line (line_concat_return h), ih]

/-- Every text is a list file. -/
theorem lists_urlsOfFile (t : Text) : Lists t (urlsOfFile t) := by
  generalize hn : t.length = n
  induction n using Nat.strongRecOn generalizing t with
  | ind n ih =>
    by_cases hmem : '\n' ∈ t
    · obtain ⟨line, rest, rfl, hopen⟩ := List.eq_append_cons_of_mem hmem
      have hshort : rest.length < n := by
        rw [List.length_append, List.length_cons] at hn
        omega
      rw [urlsOfFile_append_cons, urlsOfFile_of_open hopen, List.append_cons]
      exact .line (line_of_open hopen) hopen .lf (ih rest.length hshort rest rfl)
    · rw [urlsOfFile_of_open hmem]
      exact .last (line_of_open hmem) hmem

theorem urlsOfFile_eq_iff : urlsOfFile t = us ↔ Lists t us := by
  constructor
  · intro h
    rw [← h]
    exact lists_urlsOfFile t
  · exact urlsOfFile_of_lists

theorem listable_of_line (h : Line t us) : ∀ url ∈ us, Listable url := by
  cases h with
  | url _ hurl _ => simpa using hurl
  | blank => simp
  | comment => simp

theorem listable_of_lists (h : Lists t us) : ∀ url ∈ us, Listable url := by
  induction h with
  | last h _ => exact listable_of_line h
  | line h _ _ _ ih =>
    intro url hurl
    rcases List.mem_append.mp hurl with hmem | hmem
    · exact listable_of_line h url hmem
    · exact ih url hmem

/-- The urls of a batch are its arguments and behind them, in their order, just the urls that its list file lists.
    Every text of a list file lists something in this sense, if only nothing, and all that it lists are urls that a
    line can hold. A file that falls into two at a line end lists what its two parts list. -/
theorem collectUrls_listFile (args : List Text) :
    (∀ t us, collectUrls args (some t) = args ++ us ↔ Lists t us) ∧
      (∀ t, ∃ us, collectUrls args (some t) = args ++ us ∧ ∀ url ∈ us, Listable url) ∧
      ∀ a b, collectUrls args (some (a ++ '\n' :: b)) = collectUrls args (some a) ++ collectUrls [] (some b) := by
  refine ⟨?listed, ?collected, ?parts⟩
  case listed =>
    intro t us
    show args ++ urlsOfFile t = args ++ us ↔ Lists t us
    rw [List.append_cancel_left_eq, urlsOfFile_eq_iff]
  case collected =>
    intro t
    exact ⟨urlsOfFile t, rfl, listable_of_lists (lists_urlsOfFile t)⟩
  case parts =>
    intro a b
    show args ++ urlsOfFile (a ++ '\n' :: b) = args ++ urlsOfFile a ++ urlsOfFile b
    rw [urlsOfFile_append_cons, List.append_assoc]

end ConnectString.Command
