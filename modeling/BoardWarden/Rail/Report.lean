import BoardWarden.Rail.Supervision

set_option autoImplicit false

namespace BoardWarden.Rig

variable {σ : Type} [Board σ]

def reportHeader : String :=
  Text.alignLeft 20 "supply" ++ Text.alignLeft 16 "state" ++ "voltage\n"

def reportName (row : Rail) (depth : Nat) : String :=
  Text.blanks (depth * 2) ++ row.name ++ Text.blanks (20 - (depth * 2 + row.name.utf8ByteSize))

/-- A voltage is shown only of a rail whose enable line is up. -/
def reportVoltage (r : Rig σ) (rail : RailId) (row : Rail) : String × Rig σ :=
  let sample := r.voltage rail
  match sample.1 with
  | none => ("", sample.2)
  | some millivolts =>
    let enable := RailBank.enabled row sample.2.plant
    (if enable.1 then Text.alignRight 6 ' ' (toString millivolts) ++ " mV" else "",
      { sample.2 with plant := enable.2 })

def reportRows : List (RailId × Nat) → Rig σ → String × Rig σ
  | [], r => ("", r)
  | (rail, depth) :: rest, r =>
    match r.rails.row? rail with
    | none => reportRows rest r
    | some row =>
      let state := (r.rails.state? rail).getD .off
      let voltage := r.reportVoltage rail row
      let others := reportRows rest voltage.2
      (reportName row depth ++ Text.alignLeft 16 state.text ++ voltage.1 ++ "\n" ++ others.1, others.2)

def report (r : Rig σ) : String × Rig σ :=
  let rows := reportRows (Rail.dependencyOrder r.rails.table) r
  (reportHeader ++ rows.1, rows.2)

end BoardWarden.Rig
