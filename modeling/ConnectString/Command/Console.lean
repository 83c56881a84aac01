/-
  ConnectString.Command.Console — what commands write to a terminal.
-/

import ConnectString.Outcome

namespace ConnectString.Command.Console

/-! ## Styles -/

def styled (begin finish : String) (s : String) : String :=
  "\x1b[" ++ begin ++ "m" ++ s ++ "\x1b[" ++ finish ++ "m"

def bold : String → String := styled "1" "0"
def dim : String → String := styled "2" "0"
def italic : String → String := styled "3" "0"
def red : String → String := styled "31" "39"
def green : String → String := styled "32" "39"
def yellow : String → String := styled "33" "39"
def cyan : String → String := styled "36" "39"

/-! ## Lines -/

/-- Labels are filled up to this width, so that values line up. -/
def labelWidth : Nat := 28

def padded (width : Nat) (s : String) : String := s ++ String.ofList (List.replicate (width - s.length) ' ')

def title (s : String) : String :=
  cyan (bold s) ++ "\n" ++ dim (String.ofList (List.replicate s.length '=')) ++ "\n"

def table (name : String) : String := "\n[" ++ bold name ++ "]\n"

def field (label value : String) : String := "  " ++ dim (padded labelWidth label) ++ " " ++ value ++ "\n"

def note (s : String) : String := "  " ++ italic (dim s) ++ "\n"

def failure (s : String) : String := bold (red "error:") ++ " " ++ s ++ "\n"

/-! ## Outcomes -/

def outcome (o : Outcome) : String :=
  let source := String.ofList o.source
  let lines :=
    match o with
    | .resolved _ endpoints id =>
      bold (green "ok") ++ " " ++ source ++ "\n" ++
        String.join (endpoints.map fun e => field "Endpoint" (String.ofList e.render)) ++
        field "Database" (String.ofList id)
    | .unresolved _ f => bold (yellow "??") ++ " " ++ yellow source ++ "\n" ++ field "Error" f.message
  "\n" ++ lines ++ field "Service type" o.serviceType.render

def totals (resolved unresolved : Nat) : String :=
  "\n" ++ bold (green (toString resolved)) ++ " resolved, " ++ bold (red (toString unresolved)) ++ " unresolved\n"

end ConnectString.Command.Console
