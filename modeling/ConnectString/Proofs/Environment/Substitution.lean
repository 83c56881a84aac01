/-
  ConnectString.Proofs.Environment.Substitution — references are replaced in one pass over a text.

  The pieces of a text are there before any variable is looked up (`Pieces`). `Gives` says what one piece comes to in
  an environment, and `Results` what a row of them does: their texts one behind the other, or the failure of the first
  that has none. A value that is put in is no part of the text, so nothing in it is ever taken for a reference.

  `Pass` is the same as one pass: it takes the characters of a text one at a time, looks a variable up where its
  reference ends, and never goes back to what was put out (`run_pieces`).

  Main statement: expansion comes to the result of the pieces of a text, and so does the pass (`expand_substitutes`).
-/

import ConnectString.Proofs.Environment.Pieces

namespace ConnectString.Expansion

/-- A variable that is not set, or set to nothing. -/
def Lacks (env : Environment) (name : Text) : Prop := ∀ v, env.get? name = some v → v = []

inductive Gives (env : Environment) : Piece → Except Failure Text → Prop
  | literal (c : Char) : Gives env (.literal c) (.ok [c])
  /-- A bare name may stand for nothing. -/
  | bare {name v : Text} (h : env.get? name = some v) : Gives env (.bare name) (.ok v)
  | bareMissing {name : Text} (h : env.get? name = none) : Gives env (.bare name) (.error (.notFound name))
  | nameless (modifier : Option Modifier) :
      Gives env (.braced [] modifier) (.error (.invalid [] "empty variable name".toList))
  | braced {name v : Text} (modifier : Option Modifier) (hname : name ≠ []) (h : env.get? name = some v)
      (hv : v ≠ []) : Gives env (.braced name modifier) (.ok v)
  | fallback {name : Text} (hname : name ≠ []) (h : Lacks env name) (text : Text) :
      Gives env (.braced name (some ⟨'-', text⟩)) (.ok text)
  | required {name : Text} (hname : name ≠ []) (h : Lacks env name) (text : Text) :
      Gives env (.braced name (some ⟨'?', text⟩))
        (.error (.invalid name
          (if text.isEmpty then s!"required variable '{String.ofList name}' is not set".toList else text)))
  | missing {name : Text} {modifier : Option Modifier} (hname : name ≠ []) (h : Lacks env name)
      (hsign : ∀ m ∈ modifier, m.sign ≠ '-' ∧ m.sign ≠ '?') :
      Gives env (.braced name modifier) (.error (.notFound name))

inductive Results (env : Environment) : List Piece → Except Failure Text → Prop
  /-- Every piece has a text. -/
  | joined {ps : List Piece} {texts : List Text} (h : List.Forall₂ (fun p text => Gives env p (.ok text)) ps texts) :
      Results env ps (.ok texts.flatten)
  /-- The pieces up to one have texts, and that one has none. -/
  | failed {before after : List Piece} {p : Piece} {texts : List Text} {e : Failure}
      (hbefore : List.Forall₂ (fun p text => Gives env p (.ok text)) before texts) (h : Gives env p (.error e)) :
      Results env (before ++ p :: after) (.error e)

/-! ## Values -/

variable {env : Environment}

theorem nonEmpty?_of_set {name v : Text} (h : env.get? name = some v) (hv : v ≠ []) :
    Piece.nonEmpty? env name = some v := by
  simp [Piece.nonEmpty?, h, hv]

theorem nonEmpty?_of_lacks {name : Text} (h : Lacks env name) : Piece.nonEmpty? env name = none := by
  rw [Piece.nonEmpty?, Option.filter_eq_none_iff]
  intro v hv
  simp [h v hv]

theorem value_of_gives {p : Piece} {r : Except Failure Text} (h : Gives env p r) : p.value env = r := by
  cases h with
  | literal c => rfl
  | bare h => rw [Piece.value, h]
  | bareMissing h => rw [Piece.value, h]
  | nameless modifier => rfl
  | braced modifier hname h hv => simp [Piece.value, hname, nonEmpty?_of_set h hv]
  | fallback hname h text => simp [Piece.value, hname, nonEmpty?_of_lacks h]
  | required hname h text => simp [Piece.value, hname, nonEmpty?_of_lacks h]
  | @missing name modifier hname h hsign =>
    rcases modifier with _ | ⟨sign, text⟩
    · simp [Piece.value, hname, nonEmpty?_of_lacks h]
    · obtain ⟨hminus, hquestion⟩ := hsign _ rfl
      simp only at hminus hquestion
      simp [Piece.value, hname, nonEmpty?_of_lacks h, hminus, hquestion]

theorem exists_gives (env : Environment) (p : Piece) : ∃ r, Gives env p r := by
  cases p with
  | literal c => exact ⟨_, .literal c⟩
  | bare name =>
    rcases h : env.get? name with _ | v
    · exact ⟨_, .bareMissing h⟩
    · exact ⟨_, .bare h⟩
  | braced name modifier =>
    by_cases hname : name = []
    · subst hname
      exact ⟨_, .nameless modifier⟩
    by_cases hlacks : Lacks env name
    · rcases modifier with _ | ⟨sign, text⟩
      · exact ⟨_, .missing hname hlacks (by simp)⟩
      by_cases hminus : sign = '-'
      · subst hminus
        exact ⟨_, .fallback hname hlacks text⟩
      by_cases hquestion : sign = '?'
      · subst hquestion
        exact ⟨_, .required hname hlacks text⟩
      · exact ⟨_, .missing hname hlacks (by simp [hminus, hquestion])⟩
    · obtain ⟨v, h, hv⟩ : ∃ v, env.get? name = some v ∧ v ≠ [] := by simpa [Lacks] using hlacks
      exact ⟨_, .braced modifier hname h hv⟩

/-! ## Rows of pieces -/

theorem join_of_gives {ps : List Piece} {texts : List Text}
    (h : List.Forall₂ (fun p text => Gives env p (.ok text)) ps texts) (qs : List Piece) :
    join env (ps ++ qs) = (join env qs).map (texts.flatten ++ ·) := by
  induction h with
  | nil =>
    rw [List.nil_append]
    cases join env qs <;> rfl
  | @cons p text ps texts hp _ ih =>
    rw [List.cons_append, join, value_of_gives hp, ih]
    cases join env qs <;> simp [Except.map]

theorem join_of_results {ps : List Piece} {r : Except Failure Text} (h : Results env ps r) : join env ps = r := by
  cases h with
  | joined h =>
    have hjoin := join_of_gives h []
    rw [List.append_nil] at hjoin
    rw [hjoin]
    simp [join, Except.map]
  | failed hbefore h =>
    rw [join_of_gives hbefore, join, value_of_gives h]
    rfl

theorem exists_results (env : Environment) (ps : List Piece) : ∃ r, Results env ps r := by
  induction ps with
  | nil => exact ⟨_, .joined .nil⟩
  | cons p ps ih =>
    obtain ⟨first, hfirst⟩ := exists_gives env p
    rcases first with e | text
    · have hfailed : Results env ([] ++ p :: ps) (.error e) := .failed .nil hfirst
      exact ⟨_, hfailed⟩
    obtain ⟨r, hrest⟩ := ih
    cases hrest with
    | joined h => exact ⟨_, .joined (.cons hfirst h)⟩
    | failed hbefore h => exact ⟨_, .failed (.cons hfirst hbefore) h⟩

theorem results_iff {ps : List Piece} {r : Except Failure Text} : Results env ps r ↔ join env ps = r := by
  constructor
  · exact join_of_results
  · rintro rfl
    obtain ⟨r, h⟩ := exists_results env ps
    rwa [join_of_results h]

/-- No reference by a bare name is nameless. -/
theorem bare_nil_not_mem {t : Text} {ps : List Piece} (h : Pieces t ps) : .bare [] ∉ ps := by
  have hinside : ∀ {inside : Text} {p : Piece}, Inside inside p → .bare [] ≠ p := by
    rintro inside p h rfl
    cases h
  induction h with
  | nil => exact List.not_mem_nil
  | braced _ h _ ih => exact List.not_mem_cons_of_ne_of_not_mem (hinside h) ih
  | unclosed _ h => exact List.not_mem_cons_of_ne_of_not_mem (hinside h) List.not_mem_nil
  | bare _ _ _ _ ih => exact List.not_mem_cons_of_ne_of_not_mem (by simp) ih
  | dollar _ _ ih => exact List.not_mem_cons_of_ne_of_not_mem (by simp) ih
  | plain _ _ ih => exact List.not_mem_cons_of_ne_of_not_mem (by simp) ih

/-- Environments that agree on the variables of a row of pieces make the same of it. -/
theorem join_congr {env env' : Environment} {ps : List Piece} (hbare : .bare [] ∉ ps)
    (h : ∀ name ∈ ps.filterMap Piece.name?, name ≠ [] → env.get? name = env'.get? name) :
    join env ps = join env' ps := by
  induction ps with
  | nil => rfl
  | cons p ps ih =>
    rw [List.mem_cons, not_or] at hbare
    have hrest : ∀ name ∈ ps.filterMap Piece.name?, name ≠ [] → env.get? name = env'.get? name := by
      intro name hname
      obtain ⟨q, hq, hqname⟩ := List.mem_filterMap.mp hname
      exact h name (List.mem_filterMap.mpr ⟨q, List.mem_cons_of_mem _ hq, hqname⟩)
    have hfirst : ∀ name, p.name? = some name → name ≠ [] → env.get? name = env'.get? name := fun name hname =>
      h name (List.mem_filterMap.mpr ⟨p, List.mem_cons_self, hname⟩)
    have hvalue : p.value env = p.value env' := by
      cases p with
      | literal c => rfl
      | bare name =>
        have hname : name ≠ [] := fun hnil => hbare.1 (by rw [hnil])
        rw [Piece.value, Piece.value, hfirst name rfl hname]
      | braced name modifier =>
        by_cases hname : name = []
        · rw [hname]
          rfl
        · have hset : Piece.nonEmpty? env name = Piece.nonEmpty? env' name :=
            congrArg (Option.filter _) (hfirst name rfl hname)
          simp only [Piece.value, hset]
    rw [join, join, hvalue, ih hbare.2 hrest]

/-! ## One pass -/

inductive Braces where
  | name (name : Text)
  /-- Behind the first colon. -/
  | colon (name : Text)
  | modified (name : Text) (sign : Char) (text : Text)

namespace Braces

def read : Braces → Char → Braces
  | name n, c => if c = ':' then colon n else name (n ++ [c])
  | colon n, c => modified n c []
  | modified n sign text, c => modified n sign (text ++ [c])

/-- The reference that the braces make if they end here. -/
def piece : Braces → Piece
  | name n | colon n => .braced n none
  | modified n sign text => .braced n (some ⟨sign, text⟩)

end Braces

inductive Mode where
  | plain
  /-- Behind a dollar sign. -/
  | dollar
  | braces (read : Braces)
  | bare (name : Text)

structure Pass where
  mode : Mode
  out : Text

namespace Pass

def start : Pass := ⟨.plain, []⟩

def takePlain (out : Text) (c : Char) : Pass := if c = '$' then ⟨.dollar, out⟩ else ⟨.plain, out ++ [c]⟩

def step (env : Environment) (c : Char) : Pass → Except Failure Pass
  | ⟨.plain, out⟩ => .ok (takePlain out c)
  | ⟨.dollar, out⟩ =>
    if c = '\x7b' then .ok ⟨.braces (.name []), out⟩
    else if isNameStart c then .ok ⟨.bare [c], out⟩
    else .ok (takePlain (out ++ ['$']) c)
  | ⟨.braces b, out⟩ =>
    if c = '\x7d' then (b.piece.value env).map fun v => ⟨.plain, out ++ v⟩ else .ok ⟨.braces (b.read c), out⟩
  | ⟨.bare name, out⟩ =>
    if isNamePart c then .ok ⟨.bare (name ++ [c]), out⟩
    else ((Piece.bare name).value env).map fun v => takePlain (out ++ v) c

def finish (env : Environment) : Pass → Except Failure Text
  | ⟨.plain, out⟩ => .ok out
  | ⟨.dollar, out⟩ => .ok (out ++ ['$'])
  | ⟨.braces b, out⟩ => (b.piece.value env).map (out ++ ·)
  | ⟨.bare name, out⟩ => ((Piece.bare name).value env).map (out ++ ·)

/-- Take the rest of the text; the first failure ends the pass. -/
def run (env : Environment) : Pass → Text → Except Failure Text
  | p, [] => p.finish env
  | p, c :: t =>
    match p.step env c with
    | .ok p' => run env p' t
    | .error e => .error e

end Pass

open Pass

theorem run_braces {inside : Text} (hopen : '\x7d' ∉ inside) (b : Braces) (out rest : Text) :
    run env ⟨.braces b, out⟩ (inside ++ rest) = run env ⟨.braces (inside.foldl Braces.read b), out⟩ rest := by
  induction inside generalizing b with
  | nil => rfl
  | cons c inside ih =>
    rw [List.mem_cons, not_or] at hopen
    rw [List.cons_append, run, step, if_neg (Ne.symm hopen.1)]
    exact ih hopen.2 _

theorem run_bare {more : Text} (hmore : ∀ d ∈ more, isNamePart d = true) (name out rest : Text) :
    run env ⟨.bare name, out⟩ (more ++ rest) = run env ⟨.bare (name ++ more), out⟩ rest := by
  induction more generalizing name with
  | nil => rw [List.nil_append, List.append_nil]
  | cons c more ih =>
    rw [List.forall_mem_cons] at hmore
    rw [List.cons_append, run, step, if_pos hmore.1, List.append_cons name c more]
    exact ih hmore.2 _

theorem foldl_read_name {name : Text} (h : ':' ∉ name) (n : Text) :
    name.foldl Braces.read (.name n) = .name (n ++ name) := by
  induction name generalizing n with
  | nil => rw [List.append_nil]; rfl
  | cons c name ih =>
    rw [List.mem_cons, not_or] at h
    rw [List.foldl_cons, Braces.read, if_neg (Ne.symm h.1), ih h.2, ← List.append_cons]

theorem foldl_read_text (n : Text) (sign : Char) (text more : Text) :
    more.foldl Braces.read (.modified n sign text) = .modified n sign (text ++ more) := by
  induction more generalizing text with
  | nil => rw [List.append_nil]; rfl
  | cons c more ih => rw [List.foldl_cons, Braces.read, ih, ← List.append_cons]

/-- What is read between braces makes the reference that stands there. -/
theorem piece_of_inside {inside : Text} {p : Piece} (h : Inside inside p) :
    (inside.foldl Braces.read (.name [])).piece = p := by
  cases h with
  | name h => rw [foldl_read_name h]; rfl
  | colon h =>
    rw [List.foldl_append, foldl_read_name h]
    rfl
  | modified h sign text =>
    rw [List.foldl_append, foldl_read_name h, List.foldl_cons, List.foldl_cons]
    show Braces.piece (text.foldl Braces.read (.modified _ sign [])) = _
    rw [foldl_read_text]
    rfl

/-- Where a bare name ends, its value is put out and the pass goes on. -/
theorem run_bare_end {rest : Text} (hend : ∀ d ∈ rest.head?, isNamePart d = false) (name out : Text) :
    run env ⟨.bare name, out⟩ rest =
      ((Piece.bare name).value env).bind fun v => run env ⟨.plain, out ++ v⟩ rest := by
  cases rest with
  | nil => rfl
  | cons d rest =>
    rw [run, step, if_neg (by simp [hend d rfl])]
    cases (Piece.bare name).value env <;> rfl

/-- A dollar sign at which no reference begins is put out. -/
theorem run_dollar_end {rest : Text} (hend : ∀ d ∈ rest.head?, d ≠ '\x7b' ∧ isNameStart d = false) (out : Text) :
    run env ⟨.dollar, out⟩ rest = run env ⟨.plain, out ++ ['$']⟩ rest := by
  cases rest with
  | nil => rfl
  | cons d rest =>
    obtain ⟨hbrace, hstart⟩ := hend d rfl
    rw [run, step, if_neg hbrace, if_neg (by simp [hstart])]
    rfl

/-- From any place between two pieces, the pass puts out what the pieces to come are joined to. -/
theorem run_pieces {t : Text} {ps : List Piece} (h : Pieces t ps) (out : Text) :
    run env ⟨.plain, out⟩ t = (join env ps).map (out ++ ·) := by
  -- A pass that has read one piece puts its value out, and goes on as it does behind that.
  have hcons : ∀ {p : Piece} {ps : List Piece} {rest : Text},
      (∀ out, run env ⟨.plain, out⟩ rest = (join env ps).map (out ++ ·)) → ∀ out,
        (p.value env).bind (fun v => run env ⟨.plain, out ++ v⟩ rest) = (join env (p :: ps)).map (out ++ ·) := by
    intro p ps rest ih out
    rw [join]
    cases p.value env with
    | error e => rfl
    | ok v =>
      show run env ⟨.plain, out ++ v⟩ rest = _
      rw [ih]
      cases join env ps <;> simp [Except.map]
  induction h generalizing out with
  | nil => simp [run, finish, join, Except.map]
  | @braced inside rest p ps hopen h _ ih =>
    rw [← hcons ih]
    show run env ⟨.braces (.name []), out⟩ (inside ++ '\x7d' :: rest) = _
    rw [run_braces hopen, run, step, if_pos rfl, piece_of_inside h]
    cases p.value env <;> rfl
  | @unclosed inside p hopen h =>
    have hrun := @run_braces env inside hopen (.name []) out []
    rw [List.append_nil] at hrun
    show run env ⟨.braces (.name []), out⟩ inside = _
    rw [hrun, run, finish, piece_of_inside h, join]
    cases p.value env <;> simp [join, Except.map]
  | @bare c more rest ps hc hmore hend _ ih =>
    have hbrace : c ≠ '\x7b' := by
      rintro rfl
      rw [isNameStart_brace] at hc
      cases hc
    show run env ⟨.dollar, out⟩ (c :: (more ++ rest)) = _
    rw [run, step, if_neg hbrace, if_pos hc]
    show run env ⟨.bare [c], out⟩ (more ++ rest) = _
    rw [run_bare hmore, run_bare_end hend, hcons ih]
    rfl
  | @dollar rest ps hend _ ih =>
    show run env ⟨.dollar, out⟩ rest = _
    rw [run_dollar_end hend, ← hcons ih]
    rfl
  | @plain c rest ps hc _ ih =>
    show run env (takePlain out c) rest = _
    rw [takePlain, if_neg hc, ← hcons ih]
    rfl

/-! ## Expansion -/

theorem pieces_of_no_dollar {t : Text} (h : '$' ∉ t) : Pieces t (t.map .literal) := by
  induction t with
  | nil => exact .nil
  | cons c t ih =>
    rw [List.mem_cons, not_or] at h
    exact .plain (Ne.symm h.1) (ih h.2)

theorem join_literals (env : Environment) (t : Text) : join env (t.map .literal) = .ok t := by
  induction t with
  | nil => rfl
  | cons c t ih => rw [List.map_cons, join, Piece.value, ih]; rfl

/-- Where there is no dollar sign nothing is replaced. -/
theorem expand_of_no_dollar {t : Text} (h : '$' ∉ t) (env : Environment) : expand env t = .ok t := by
  rw [expand, split_of_pieces (pieces_of_no_dollar h), join_literals]

/-- A text falls into pieces in one way, whatever the environment, and its expansion is the result of these pieces:
    their texts one behind the other, or the failure of the first that has none. One pass over the text comes to the
    same. So it depends on nothing but the variables that the text names, and where there is no dollar sign nothing
    is replaced. -/
theorem expand_substitutes (t : Text) :
    ∃ ps, Pieces t ps ∧ (∀ qs, Pieces t qs → qs = ps) ∧
      (∀ env r, Results env ps r ↔ expand env t = r) ∧
      (∀ env, run env start t = expand env t) ∧
      (∀ env env' : Environment, (∀ name ∈ names t, name ≠ [] → env.get? name = env'.get? name) →
        expand env t = expand env' t) ∧
      ('$' ∉ t → ∀ env, expand env t = .ok t) := by
  have hpieces := pieces_split t
  refine ⟨split t, hpieces, ?unique, fun env r => results_iff, ?pass, ?names, expand_of_no_dollar⟩
  case unique => exact fun qs hqs => (pieces_iff.mp hqs).symm
  case pass =>
    intro env
    rw [start, run_pieces hpieces, expand]
    cases join env (split t) <;> rfl
  case names => exact fun env env' h => join_congr (bare_nil_not_mem hpieces) h

end ConnectString.Expansion
