import Formulae.Literal
import Formulae.Logging.Journal

/-! Reports: a title between two rules, then a line for every entry, its key filled up with dots. -/
namespace Formulae

/-- What stands behind a key: a number, written to six places, or a text. -/
inductive Entry where
  | number (x : Float)
  | text (s : String)

def Entry.label : Entry → String
  | .number x => Number.fixedPlaces 6 x
  | .text s => s

def Entry.ofLiteral : Literal → Except ValueFault Entry
  | .float x => .ok (.number x)
  | v => v.label.map .text

namespace Report

def rule : String := String.ofList (List.replicate 60 '=')

def keyWidth : Nat := 30

def fill (key : String) : String :=
  key ++ String.ofList (List.replicate (keyWidth - key.length) '.')

/-- The values with each key once: where it comes first, with the value it has last. -/
def collect (values : List (String × Literal)) : List (String × Literal) :=
  values.foldl put []
where
  put : List (String × Literal) → String × Literal → List (String × Literal)
    | [], e => [e]
    | d :: ds, e => if d.1 = e.1 then (d.1, e.2) :: ds else d :: put ds e

/-- The entries up to the first value without a text, and what that one lacks. -/
def entries : List (String × Literal) → List (String × Entry) × Option ValueFault
  | [] => ([], none)
  | (key, v) :: values =>
    match Entry.ofLiteral v with
    | .ok entry => ((key, entry) :: (entries values).1, (entries values).2)
    | .error why => ([], some why)

def lines (title : String) (entries : List (String × Entry)) : List String :=
  [rule, title, rule] ++ entries.map fun e => fill e.1 ++ " " ++ e.2.label

end Report

def Journal.summary (title : String) (entries : List (String × Entry)) (j : Journal) : Journal :=
  (Report.lines title entries).foldl (fun j line => j.report .moderate ⟨.info, line⟩) j

/-- Delivers a report on values, which ends where one has no text. Nothing is written unless the
verbosity asks for the report. -/
def Logged.summary (title : String) (values : List (String × Literal)) :
    Logged ValueFault Unit := do
  modify (Journal.summary title (Report.entries values).1)
  if (← get).verbosity.admits .moderate then
    if let some why := (Report.entries values).2 then throw why

end Formulae
