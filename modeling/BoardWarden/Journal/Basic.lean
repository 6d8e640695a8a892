import BoardWarden.Journal.Event

set_option autoImplicit false

namespace BoardWarden

structure Entry where
  id : Nat
  time : Instant
  event : Event
  reading : Reading
  deriving DecidableEq

def Entry.text (e : Entry) : String :=
  "[" ++ e.time.text ++ "] #" ++ toString e.id ++ " " ++ e.event.text

def Entry.fullText (e : Entry) : String :=
  e.text ++ " | " ++ e.event.severity.text ++ " | " ++ e.reading.text

structure Journal where
  capacity : Nat
  /-- Oldest first. -/
  entries : List Entry
  nextId : Nat
  deriving DecidableEq

namespace Journal

def ofCapacity (capacity : Nat) : Journal := ⟨capacity, [], 0⟩

def fresh : Journal := ofCapacity 64

def idLimit : Nat := 4294967296

/-- The last `capacity` entries of a run. -/
def newest (capacity : Nat) (entries : List Entry) : List Entry :=
  entries.drop (entries.length - capacity)

def record (j : Journal) (event : Event) (reading : Reading) (time : Instant) : Journal :=
  { j with
    entries := newest j.capacity (j.entries ++ [⟨j.nextId, time, event, reading⟩])
    nextId := (j.nextId + 1) % idLimit }

def note (j : Journal) (event : Event) (time : Instant) : Journal :=
  j.record event .none time

def recordTransition (j : Journal) (origin goal : PowerState) (time : Instant) : Journal :=
  j.record (.powerTransition goal) (.transition origin goal) time

def latest? (j : Journal) : Option Entry := j.entries.getLast?

def contains (j : Journal) (event : Event) : Bool :=
  j.entries.any fun entry => entry.event = event

end Journal

end BoardWarden
