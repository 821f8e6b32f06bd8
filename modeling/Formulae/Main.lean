import Formulae.Demo
import Std.Time.Zoned

/-! The command: the tour, as the console shows it. -/
namespace Formulae

def twoDigits (n : Nat) : String := String.ofList (Number.Format.padded 2 n)

def clockText (t : Std.Time.PlainTime) : String :=
  ":".intercalate [twoDigits t.hour.val.toNat, twoDigits t.minute.val.toNat,
    twoDigits t.second.val.toNat]

def consoleRecords (j : Journal) : List Record := j.recordsAt .console

def tourJournal : Journal := (Demo.tour.runIn .initial).2

end Formulae

def main : IO Unit := do
  for r in Formulae.consoleRecords Formulae.tourJournal do
    let now ← Std.Time.PlainTime.now
    IO.print (Formulae.clockText now ++ " - " ++ r.line)
