import BoardWarden.Settings.Record

set_option autoImplicit false

namespace BoardWarden.Settings.PowerRows

def railCount : Nat := 6

/-- The first mask among `rows` that names a rail no slot has; `step` numbers the first row. -/
def checkMasks (step : Nat) : List PowerRow → Except Defect Unit
  | [] => .ok ()
  | row :: rest =>
    if row.mask < 2 ^ railCount then checkMasks (step + 1) rest
    else .error (.invalidSupplyMask step row.mask)

def validate (r : PowerRows) : Except Defect (List PowerRow) :=
  if r.rows.size < r.count then .error (.tooManySteps r.count)
  else
    let used := r.rows.toList.take r.count
    (checkMasks 0 used).map fun _ => used

/-- Rails of the set bits, lowest bit first. -/
def masked (rails : Vector RailId 6) (mask : Nat) : List RailId :=
  (rails.toList.zipIdx.filter fun (_, bit) => mask.testBit bit).map (·.1)

def push (sequence : List Step) : List RailId → Except Defect (List Step)
  | [] => .ok sequence
  | rail :: rest =>
    if sequence.length < Step.sequenceLimit then push (sequence ++ [⟨rail, Span.zero⟩]) rest
    else .error .sequenceOverflow

def settleLast (sequence : List Step) (settle : Span) : List Step :=
  match sequence.getLast? with
  | none => sequence
  | some step => sequence.dropLast ++ [{ step with settle }]

/-- The rails of a row rise together, so only the last of them waits. -/
def pushRow (rails : Vector RailId 6) (sequence : List Step) (row : PowerRow) :
    Except Defect (List Step) :=
  match masked rails row.mask with
  | [] => .ok sequence
  | rail :: rest => (push sequence (rail :: rest)).map (settleLast · (Span.ofMillis row.delayMillis))

def sequence (r : PowerRows) (rails : Vector RailId 6) : Except Defect (List Step) :=
  match r.validate with
  | .error defect => .error defect
  | .ok rows => rows.foldlM (pushRow rails) []

end BoardWarden.Settings.PowerRows
