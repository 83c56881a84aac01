/-
  ConnectString.Proofs.Resolve.Address — what a url says behind its driver and credentials.

  The address of a url is what its `body` shows, as a function of the characters behind the scheme (`body_scheme`).
  Everything that is read off a url with the scheme is read off its address alone (`read_scheme`): the three fields of
  a flat url are `flatFields` of it, wherever in the url it stands (`splitFlat_window`). Nothing breaks off on the way,
  so what is caught by the guard is nothing but what was there without it (`guard_lift`).
-/

import ConnectString.Proofs.Window.Split
import ConnectString.Resolve

namespace ConnectString.Resolve

/-- The split that is left when scheme, driver and credentials are behind; `w` is what follows the scheme. -/
def bodySplit (w : Text) : Split := ((Split.mk scheme.toList w []).pastFirst ':').pastLastBefore '@' '('

/-- What follows driver and credentials; `w` is what follows the scheme. -/
def address (w : Text) : Text := (bodySplit w).value

/-- What is left of a text behind its last '@' that comes before its first '('. -/
def behindCredentials (w : Text) : Text :=
  (w.takeWhile (· != '(')).rtakeWhile (· != '@') ++ w.dropWhile (· != '(')

/-- Neither of the characters that end a flat url's port. -/
def notSeparator (c : Char) : Bool := !([':', '/'].contains c)

def flatFields (v : Text) : Text × Text × Text :=
  let behindHost := (v.dropWhile (· != ':')).tail
  let behindPort := behindHost.dropWhile notSeparator
  (v.takeWhile (· != ':'), behindHost.takeWhile notSeparator, behindPort.rtakeWhile notSeparator)

def readAddress (limit : Nat) (v : Text) : Logged (Except Failure Found) :=
  if (Text.trim v).head? = some '(' then do
    Logged.emit (event .debug "descriptor url" [])
    descriptor (Descriptor.parse limit (Text.trim v))
  else do
    Logged.emit (event .debug "flat url" [])
    flat (flatFields v).1 (flatFields v).2.1 (flatFields v).2.2

/-- Read a url, with a guard against what breaks off. -/
def read (limit : Nat) (url : Text) : Logged (Except Failure Found) := guard (attempt Descriptor.reader limit url)

/-! ## What breaks off -/

section Guard

variable {α β : Type}

/-- What does not break off goes on. -/
theorem lift_ok_bind (a : α) (f : α → ExceptT Fault Logged β) :
    (liftM (Except.ok a : Except Fault α) >>= f : ExceptT Fault Logged β) = f a := rfl

theorem guard_lift (x : Logged (Except Failure α)) : guard (liftM x) = x := by
  apply Logged.ext
  · rfl
  · show (x.events ++ []) ++ [] = _
    rw [List.append_nil, List.append_nil]

theorem guard_lift_bind (x : Logged α) (f : α → ExceptT Fault Logged (Except Failure β)) :
    guard (liftM x >>= f) = x >>= fun a => guard (f a) := by
  apply Logged.ext
  · rfl
  · show (x.events ++ [] ++ _) ++ _ = x.events ++ (_ ++ _)
    rw [List.append_nil, List.append_assoc]
    rfl

end Guard

/-! ## The body of a url -/

theorem body_scheme (w : Text) : body (scheme.toList ++ w) = .ok (bodySplit w).window := by
  have hscheme : (Split.whole (scheme.toList ++ w)).pastLiteral scheme.toList = ⟨scheme.toList, w, []⟩ := by
    simp [Split.pastLiteral, Split.whole, Text.cutBehind?_of_prefix]
  unfold body bodySplit
  simp only [← Split.window_whole, Split.window_pastLiteral, hscheme, Split.window_pastFirst,
    Split.window_pastLastBefore, Split.ok_bind]

@[simp] theorem rest_bodySplit (w : Text) : (bodySplit w).rest = [] :=
  Split.rest_pastFirst _ ':'

/-! ## Driver and credentials -/

/-- The address is what is left behind the credentials, which start where the driver ends. -/
theorem address_driver {driver : Text} (hdriver : ':' ∉ driver) (w : Text) :
    address (driver ++ ':' :: w) = behindCredentials w := by
  have hfirst : (Split.mk scheme.toList (driver ++ ':' :: w) []).pastFirst ':' =
      ⟨scheme.toList ++ (driver ++ [':']), w, []⟩ := by
    unfold Split.pastFirst Split.pastLiteral
    rw [Text.cutBehind?_singleton hdriver]
  unfold address bodySplit
  rw [hfirst]
  rfl

/-- No '(' stands before the '@' that ends the credentials, so what is left behind goes up to that '@' or to a later
    one. -/
theorem behindCredentials_append {credentials : Text} (hcredentials : '(' ∉ credentials) (rest : Text) :
    behindCredentials (credentials ++ '@' :: rest) = behindCredentials rest := by
  have hfree := Text.bne_of_not_mem hcredentials
  have hbefore :
      (credentials ++ '@' :: rest).takeWhile (· != '(') = credentials ++ '@' :: rest.takeWhile (· != '(') := by
    rw [List.takeWhile_append_of_pos hfree, List.takeWhile_cons_of_pos (by decide)]
  have hbehind : (credentials ++ '@' :: rest).dropWhile (· != '(') = rest.dropWhile (· != '(') := by
    rw [List.dropWhile_append_of_pos hfree, List.dropWhile_cons_of_pos (by decide)]
  unfold behindCredentials
  rw [hbefore, hbehind, Text.rtakeWhile_append_cons _ _ (by decide)]

theorem behindCredentials_of_no_at {rest : Text} (h : '@' ∉ rest) : behindCredentials rest = rest := by
  have hfree : ∀ c ∈ rest.takeWhile (· != '('), (c != '@') = true := fun c hc =>
    Text.bne_of_not_mem h c ((List.takeWhile_prefix _).subset hc)
  unfold behindCredentials
  rw [List.rtakeWhile_eq_self_iff.mpr hfree, List.takeWhile_append_dropWhile]

/-! ## Flat urls -/

/-- What is left from the first `delimiter` on starts with it, or is empty. -/
theorem value_pastFirst_dropWhile (c t r : Text) (delimiter : Char) :
    ((Split.mk c (t.dropWhile (· != delimiter)) r).pastFirst delimiter).value =
      (t.dropWhile (· != delimiter)).tail := by
  rcases hdrop : t.dropWhile (· != delimiter) with _ | ⟨d, u⟩
  · rfl
  · have hhead := List.head?_dropWhile_not (· != delimiter) t
    rw [hdrop] at hhead
    obtain rfl : d = delimiter := by simpa using hhead
    unfold Split.pastFirst Split.pastLiteral
    rw [← List.nil_append (d :: u), Text.cutBehind?_singleton List.not_mem_nil]
    rfl

theorem splitFlat_window {s : Split} (h : s.rest = []) : splitFlat s.window = .ok (flatFields s.value) := by
  have hcolon : (fun d : Char => !([':'].contains d)) = (· != ':') := by
    funext d
    simp [bne, beq_eq_decide]
  simp only [splitFlat, Split.window_upToAny, Split.window_onward, Split.window_pastFirst, Split.window_pastLastAny,
    Split.value_window, Split.ok_bind, Split.upToAny, Split.pastLastAny, Split.onward, Split.rest_pastFirst, hcolon, h,
    List.append_nil, value_pastFirst_dropWhile]
  rfl

/-! ## Either dialect -/

theorem read_scheme (limit : Nat) (w : Text) : read limit (scheme.toList ++ w) = readAddress limit (address w) := by
  have hne : (scheme.toList ++ w).isEmpty = false := rfl
  have hscheme : scheme.toList.isPrefixOf (scheme.toList ++ w) = true :=
    List.isPrefixOf_iff_prefix.mpr (List.prefix_append _ _)
  unfold read attempt
  rw [hne, hscheme, body_scheme]
  simp only [lift_ok_bind, Split.value_window, splitFlat_window (rest_bodySplit w), Bool.not_true, Bool.false_eq_true,
    if_false]
  unfold readAddress address Descriptor.reader
  split
  · simp only [lift_ok_bind, guard_lift_bind, guard_lift]
  · simp only [guard_lift_bind, guard_lift]

/-! ## The limit -/

theorem attempt_effectiveLimit (limit : Nat) (url : Text) :
    attempt Descriptor.reader (Descriptor.effectiveLimit limit) url = attempt Descriptor.reader limit url := by
  have hreader : Descriptor.reader (Descriptor.effectiveLimit limit) = Descriptor.reader limit :=
    funext fun t => congrArg Except.ok (Descriptor.parse_effectiveLimit limit t)
  unfold attempt
  rw [hreader]

/-- The resolver cuts the limit at the ceiling, and so does the reader; it comes to the same as doing it once. -/
theorem resolve_some (limit : Nat) (url : Text) :
    resolve limit (some url) =
      (do
        Logged.emit (event .debug "Resolver::resolve()" [("url_len", .number (Text.byteLength url))])
        conclude url (← read limit url)) := by
  rw [resolve, resolveWith, attempt_effectiveLimit]
  rfl

end ConnectString.Resolve
